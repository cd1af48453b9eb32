/-
# What a reliable send comes to

rflink specification, §4.4: `send_reliable`; §11: retry exhaustion.

Which transmissions arrive decides everything about a reliable send between
two nodes that are by themselves.  Copies and acknowledgments are counted
together, so the number of a copy depends on which of the earlier copies were
acknowledged (`Medium.copyNumber`).

| copies and acknowledgments | outcome |
| --- | --- |
| copy `k` is the first to arrive with its acknowledgment | acknowledged after `k` timeouts |
| there is none among those allowed | failed after all timeouts |

The first copy that arrives is delivered, and no other one.

Main statement: `Facing.sendReliable`.
-/

import PacketRadio.Proofs.Scenario.Attempts

namespace PacketRadio

namespace Medium

/-- The number of copy `k` among the transmissions from now on.  Each copy that arrives is
followed by an acknowledgment. -/
def copyNumber (m : Medium) : Nat → Nat
  | 0 => 0
  | k + 1 => m.copyNumber k + if m.arrives (m.copyNumber k) then 2 else 1

/-- Copy `k` arrives. -/
def copyArrives (m : Medium) (k : Nat) : Bool :=
  m.arrives (m.copyNumber k)

/-- Copy `k` arrives, and its acknowledgment does. -/
def copyAnswered (m : Medium) (k : Nat) : Bool :=
  m.copyArrives k && m.arrives (m.copyNumber k + 1)

/-- The first of some copies that is answered. -/
def winner (m : Medium) (attempts : Nat) : Option Nat :=
  (List.range attempts).find? m.copyAnswered

/-- The copies that are sent: none after the first that is answered. -/
def copiesSent (m : Medium) (attempts : Nat) : Nat :=
  (m.winner attempts).elim attempts (· + 1)

/-- The first of the copies sent that arrives. -/
def firstHeard (m : Medium) (attempts : Nat) : Option Nat :=
  (List.range (m.copiesSent attempts)).find? m.copyArrives

/-- The outcome of a reliable send. -/
def outcome (m : Medium) (id : UInt8) (attempts timeout : Nat) : Link.SendOutcome :=
  match m.winner attempts with
  | some k => .acked id (k + 1) (k * timeout)
  | none => .failed id attempts (attempts * timeout)

variable {m : Medium} {attempts k : Nat}

theorem copyNumber_succ (h : m.copyArrives k = true) :
    m.copyNumber (k + 1) = m.copyNumber k + 2 := by
  have harrives : m.arrives (m.copyNumber k) = true := h
  rw [copyNumber, if_pos harrives]

theorem copyNumber_succ_of_not (h : m.copyArrives k = false) :
    m.copyNumber (k + 1) = m.copyNumber k + 1 := by
  have harrives : ¬m.arrives (m.copyNumber k) = true := Bool.eq_false_iff.1 h
  rw [copyNumber, if_neg harrives]

/-- An answered copy is the one that decides if no earlier one is answered. -/
theorem winner_eq_some (hk : k < attempts) (hbefore : ∀ j < k, m.copyAnswered j = false)
    (hanswered : m.copyAnswered k = true) : m.winner attempts = some k := by
  rw [winner, List.find?_range_eq_some]
  exact ⟨hanswered, List.mem_range.2 hk, fun j hj => by rw [hbefore j hj]; rfl⟩

theorem winner_eq_none (hbefore : ∀ j < attempts, m.copyAnswered j = false) :
    m.winner attempts = none := by
  rw [winner, List.find?_range_eq_none]
  exact fun j hj => by rw [hbefore j hj]; rfl

end Medium

namespace Scenario

open Link (Activity Delivery Node Operation Reply Send SendOutcome)
open Link.Action

namespace Duel

variable (D : Duel)

/-- What the other node has taken when `k` copies have been sent. -/
def takenOf (k : Nat) : Option Delivery :=
  ((List.range k).find? D.medium.copyArrives).map D.delivery

variable {D} {b : Bench} {n : Node} {mode : Radio.Mode} {k attempts timeout started patience : Nat}

theorem takenOf_succ (h : D.medium.copyArrives k = true) :
    D.takenOf (k + 1) = (D.takenOf k).or (some (D.delivery k)) := by
  rw [takenOf, List.range_succ, List.find?_append, takenOf]
  cases (List.range k).find? D.medium.copyArrives <;> simp [h]

theorem takenOf_succ_of_not (h : D.medium.copyArrives k = false) :
    D.takenOf (k + 1) = D.takenOf k := by
  rw [takenOf, List.range_succ, List.find?_append, takenOf]
  cases (List.range k).find? D.medium.copyArrives <;> simp [h]

/-- How the send ends. -/
def Ends (D : Duel) (attempts timeout : Nat) (b : Bench) (result : Except Link.Error Reply) :
    Prop :=
  result = .ok (.outcome (D.medium.outcome D.id attempts timeout)) ∧
    ∃ x mode now, D.Stands x [] [] mode now (D.takenOf (D.medium.copiesSent attempts)) b

theorem ends_acked (hk : k < attempts) (hbefore : ∀ j < k, D.medium.copyAnswered j = false)
    (hanswered : D.medium.copyAnswered k = true) {x now : Nat}
    (h : D.Stands x [] [] mode now (D.takenOf (k + 1)) b) {elapsed : Nat}
    (helapsed : elapsed = k * timeout) :
    D.Ends attempts timeout b (.ok (.outcome (.acked D.id (k + 1) elapsed))) := by
  have hwinner := Medium.winner_eq_some hk hbefore hanswered
  refine ⟨?_, x, mode, now, ?_⟩
  · rw [Medium.outcome, hwinner, helapsed]
  · rw [Medium.copiesSent, hwinner]
    exact h

theorem ends_failed (hbefore : ∀ j < attempts, D.medium.copyAnswered j = false) {x now : Nat}
    (h : D.Stands x [] [] mode now (D.takenOf attempts) b) {elapsed : Nat}
    (helapsed : elapsed = attempts * timeout) :
    D.Ends attempts timeout b (.ok (.outcome (.failed D.id attempts elapsed))) := by
  have hwinner := Medium.winner_eq_none hbefore
  refine ⟨?_, x, mode, now, ?_⟩
  · rw [Medium.outcome, hwinner, helapsed]
  · rw [Medium.copiesSent, hwinner]
    exact h

/-- **From every copy on, the send ends as the medium decides**, if no earlier copy was
answered. -/
theorem Stands.ends (hpolls : 0 < D.config.pollInterval) (htimeout : 0 < timeout)
    (hclock : started + attempts * timeout < Deadline.beyond) (hk : k < attempts)
    (hbefore : ∀ j < k, D.medium.copyAnswered j = false)
    (h : D.Stands (D.medium.copyNumber k) [] [] mode (started + k * timeout) (D.takenOf k) b)
    (hn : D.Sender false n) :
    (Activity.sending (D.sending attempts timeout started k .transmitting)).Comes
      (Bench.lively patience D.near) b n (D.Ends attempts timeout) := by
  induction hleft : attempts - k generalizing k b n mode with
  | zero => omega
  | succ left ih =>
    have hnext : started + k * timeout + timeout = started + (k + 1) * timeout := by
      rw [Nat.succ_mul, Nat.add_assoc]
    have hreach : (k + 1) * timeout ≤ attempts * timeout := Nat.mul_le_mul_right timeout hk
    have hcome : started + k * timeout + timeout < Deadline.beyond := by omega
    -- the time of a copy that is not answered runs out, and the next copy is due or none is left
    have again : D.medium.copyAnswered k = false → ∀ b' n' mode', D.Sender false n' →
        D.Stands (D.medium.copyNumber (k + 1)) [] [] mode' (started + k * timeout + timeout)
          (D.takenOf (k + 1)) b' →
        (Activity.sending (D.sending attempts timeout started k
          (.waiting (some (started + k * timeout + timeout))))).Comes
            (Bench.lively patience D.near) b' n' (D.Ends attempts timeout) := by
      intro hk' b' n' mode' hn' h'
      have hbefore' : ∀ j < k + 1, D.medium.copyAnswered j = false := by
        intro j hj
        rcases Nat.lt_succ_iff_lt_or_eq.1 hj with hlt | rfl
        · exact hbefore j hlt
        · exact hk'
      refine h'.expire hn' (fun hlt => ?_) (fun hlast => ?_)
      · rw [hnext] at h'
        exact ih hlt hbefore' h' hn' (by omega)
      · obtain rfl : k + 1 = attempts := by omega
        exact ends_failed hbefore' h' (by omega)
    cases hdata : D.medium.copyArrives k with
    | false =>
      have hnot : D.medium.copyAnswered k = false := by rw [Medium.copyAnswered, hdata]; rfl
      refine h.unheard hpolls hn htimeout hcome hdata fun b' n' mode' hn' h' => ?_
      rw [← Medium.copyNumber_succ_of_not hdata, ← takenOf_succ_of_not hdata] at h'
      exact again hnot b' n' mode' hn' h'
    | true =>
      cases hack : D.medium.arrives (D.medium.copyNumber k + 1) with
      | false =>
        have hnot : D.medium.copyAnswered k = false := by rw [Medium.copyAnswered, hdata, hack]; rfl
        refine h.unanswered hpolls hn htimeout hcome hdata hack fun b' n' mode' hn' h' => ?_
        rw [← Medium.copyNumber_succ hdata, ← takenOf_succ hdata] at h'
        exact again hnot b' n' mode' hn' h'
      | true =>
        have hanswered : D.medium.copyAnswered k = true := by
          rw [Medium.copyAnswered, hdata, hack]
          rfl
        refine h.answered hn htimeout hcome hdata hack fun b' h' => ?_
        rw [← takenOf_succ hdata] at h'
        exact ends_acked hk hbefore hanswered h' (by omega)

end Duel

/-! ## Two nodes on a bench -/

/-- Two nodes have a bench to themselves, nothing is under way, and one of them is automatic. -/
structure Facing (b : Bench) (i : Nat) (sender receiver : Node) : Prop where
  /-- The sender has one of the two places. -/
  place : i < 2
  /-- There is no other. -/
  places : b.posts.length = 2
  /-- Nothing has been put off. -/
  agenda : b.agenda = []
  /-- The radios work, and are the first two stations. -/
  post : ∀ s < 2, ∃ post, b.posts[s]? = some post ∧ post.station = s ∧ post.faults = []
  /-- The other place is the receiver's, which is automatic. -/
  opposite : ∃ post, b.posts[1 - i]? = some post ∧ post.automatic = true ∧
    post.node = some receiver
  /-- Nothing waits at the stations. -/
  station : ∀ s < 2, ∃ st, b.network.medium.stations[s]? = some st ∧ st.attached = true ∧
    st.fifo = []
  /-- There is room for a frame. -/
  roomy : 0 < b.network.medium.capacity
  /-- The receiver's configuration is accepted. -/
  valid : receiver.config.Valid
  /-- The nodes write and read frames in one way. -/
  shared : receiver.config.frame = sender.config.frame

namespace Facing

variable {b : Bench} {i : Nat} {sender receiver : Node} {capacity : Nat} {waiting : List Delivery}
  {payload : Bytes}

/-- What the application gets of copy `k`. -/
def delivery (b : Bench) (i : Nat) (sender receiver : Node) (payload : Bytes) (k : Nat) :
    Delivery where
  dst := receiver.config.address
  src := sender.config.address
  id := sender.nextId
  flags := Duel.flags k
  payload
  rssi := b.network.medium.rssiFrom i

/-- The duel that a send begins. -/
def duel (h : Facing b i sender receiver) (hroom : waiting.length < capacity)
    (hpayload : payload.length ≤ sender.config.frame.maxPayload) : Duel where
  near := i
  near_lt := h.place
  medium := b.network.medium
  config := sender.config
  peer := receiver.config
  valid := h.shared ▸ h.valid.frame
  shared := h.shared
  addressed := h.valid.address
  id := sender.nextId
  payload
  fits := by
    have hvalid : sender.config.frame.Valid := h.shared ▸ h.valid.frame
    rwa [hvalid.payloadLimit_eq]
  capacity
  waiting
  room := hroom
  roomy := h.roomy

section

variable (h : Facing b i sender receiver) (hroom : waiting.length < capacity)
  (hpayload : payload.length ≤ sender.config.frame.maxPayload)

/-- When the send begins, nothing has been sent and nothing has been taken. -/
theorem stands (hsink : receiver.sink = .queue capacity waiting)
    (hnew : receiver.lastAccepted.get? sender.config.address ≠ some sender.nextId) :
    (h.duel hroom hpayload).Stands 0 [] [] (b.network.medium.mode i) b.network.now none b := by
  obtain ⟨post, hpost, hautomatic, hnode⟩ := h.opposite
  have hpeer : (h.duel hroom hpayload).Peer none receiver :=
    ⟨rfl, by simpa [duel] using hnew, by simpa [duel] using hsink⟩
  refine ⟨⟨0, fun _ => [], b.network.medium.mode⟩, ⟨h.agenda, h.places, h.post,
    ⟨post, receiver, hpost, hautomatic, hnode, hpeer⟩, rfl, ?_⟩, rfl, rfl, rfl, rfl⟩
  refine ⟨⟨fun s hs => ?_, rfl, fun _ _ => rfl, rfl, fun _ _ => rfl⟩, rfl, rfl⟩
  obtain ⟨st, hst, hattached, hfifo⟩ := h.station s hs
  refine ⟨st, hst, hattached, ?_, hfifo, ?_⟩
  · simp [duel, Medium.address, hst]
  · simp [Medium.mode, hst]

/-- The sender takes the next number and is ready to send the first copy. -/
theorem start (hsink : receiver.sink = .queue capacity waiting)
    (hnew : receiver.lastAccepted.get? sender.config.address ≠ some sender.nextId)
    (hpolls : 0 < sender.config.pollInterval) (maxRetries : Nat) {timeout : Nat}
    (htimeout : 0 < timeout)
    (hclock : b.network.now + max maxRetries 1 * timeout < Deadline.beyond) (meanwhile : Nat) :
    (Operation.sendReliableWith receiver.config.address payload maxRetries timeout).start.Yields
      (Bench.lively meanwhile i) b sender (Activity.Resumes (Bench.lively meanwhile i)
        ((h.duel hroom hpayload).Ends (max maxRetries 1) timeout)) := by
  have hstands := h.stands hroom hpayload hsink hnew
  have hsmall : ¬sender.config.frame.maxPayload < payload.length := by omega
  simp only [Operation.start, startSend, checkPayload, allocateId, yields_bind, yields_node,
    continues_ok, if_neg hsmall, yields_pure, yields_modify, if_neg h.valid.address]
  refine hstands.yields_now ?_
  simp only [continues_ok, yields_pure, Link.Turn.map]
  have hbegin : (h.duel hroom hpayload).Stands ((h.duel hroom hpayload).medium.copyNumber 0) [] []
      (b.network.medium.mode i) (b.network.now + 0 * timeout)
      ((h.duel hroom hpayload).takenOf 0) b := by
    rw [Nat.zero_mul]
    exact hstands
  exact hbegin.ends hpolls htimeout hclock (by omega) (fun j hj => absurd hj (by omega)) ⟨rfl, rfl⟩

end

/-- **What becomes of a reliable send is decided by which transmissions arrive.**  It ends as
`Medium.outcome` says, and the receiver has delivered the first copy that arrived if one did, and
no other. -/
theorem sendReliable (h : Facing b i sender receiver)
    (hsink : receiver.sink = .queue capacity waiting) (hroom : waiting.length < capacity)
    (hnew : receiver.lastAccepted.get? sender.config.address ≠ some sender.nextId)
    (hpayload : payload.length ≤ sender.config.frame.maxPayload)
    (hpolls : 0 < sender.config.pollInterval) (maxRetries : Nat) {timeout : Nat}
    (htimeout : 0 < timeout)
    (hclock : b.network.now + max maxRetries 1 * timeout < Deadline.beyond) (meanwhile : Nat) :
    ∃ enough, ∀ patience, enough ≤ patience → ∃ sender' b',
      Bench.operate (Bench.lively meanwhile) patience i
          (.sendReliableWith receiver.config.address payload maxRetries timeout) sender b =
        (some (.ok (.outcome
          (b.network.medium.outcome sender.nextId (max maxRetries 1) timeout))), sender', b') ∧
      ∃ post receiver', b'.posts[1 - i]? = some post ∧ post.node = some receiver' ∧
        receiver'.sink = .queue capacity (waiting ++
          ((b.network.medium.firstHeard (max maxRetries 1)).map
            (delivery b i sender receiver payload)).toList) := by
  obtain ⟨enough, hends⟩ := Operation.enough_patience
    (h.start hroom hpayload hsink hnew hpolls maxRetries htimeout hclock meanwhile)
  refine ⟨enough, fun patience hle => ?_⟩
  obtain ⟨_, sender', b', hrun, rfl, x, mode, now, v, hv, -⟩ := hends patience hle
  obtain ⟨post, receiver', hpost, -, hnode, hpeer⟩ := hv.peer
  exact ⟨sender', b', hrun, post, receiver', hpost, hnode, hpeer.sink⟩

end Facing

/-- Two nodes under the default configuration, on a medium that loses its next transmission. -/
def lossyBench : Bench where
  network := { medium := {
    stations := [{ address := 1, mode := .receive }, { address := 2, mode := .receive }]
    dropCredit := 1 } }
  posts := [⟨0, [], false, none, some (Node.fresh { address := 1 })⟩,
    ⟨1, [], true, none, some (Node.fresh { address := 2 })⟩]

theorem facing_lossyBench :
    Facing lossyBench 0 (Node.fresh { address := 1 }) (Node.fresh { address := 2 }) where
  place := by decide
  places := rfl
  agenda := rfl
  post s hs := by
    match s with
    | 0 => exact ⟨_, rfl, rfl, rfl⟩
    | 1 => exact ⟨_, rfl, rfl, rfl⟩
  opposite := ⟨_, rfl, rfl, rfl⟩
  station s hs := by
    match s with
    | 0 => exact ⟨_, rfl, rfl, rfl⟩
    | 1 => exact ⟨_, rfl, rfl, rfl⟩
  roomy := by decide
  valid := (Link.Config.validate_eq_ok_iff _).1 rfl
  shared := rfl

/-- The first copy is lost, and the second one is delivered and acknowledged. -/
theorem lossyBench_sendReliable :
    ∃ enough, ∀ patience, enough ≤ patience → ∃ sender' b',
      Bench.operate (Bench.lively 0) patience 0 (.sendReliableWith 2 [7] 3 50)
          (Node.fresh { address := 1 }) lossyBench =
        (some (.ok (.outcome (.acked 0 2 50))), sender', b') ∧
      ∃ post receiver', b'.posts[1]? = some post ∧ post.node = some receiver' ∧
        receiver'.sink = .queue 10 [⟨2, 1, 0, Flag.retry, [7], -40⟩] := by
  have hsink : (Node.fresh { address := 2 }).sink = .queue 10 [] := rfl
  have hpayload : ([7] : Bytes).length ≤ (Node.fresh { address := 1 }).config.frame.maxPayload := by
    decide
  have htimeout : 0 < 50 := by decide
  exact facing_lossyBench.sendReliable hsink (by decide) (by decide) hpayload (by decide) 3
    htimeout (by decide) 0

/-- Every acknowledgment is lost: the datagram is delivered, but the send fails. -/
example :
    let m : Medium := { faults := { dropEvery := some 2 } }
    m.outcome 0 3 30 = .failed 0 3 90 ∧ m.firstHeard 3 = some 0 := by decide

end Scenario
end PacketRadio
