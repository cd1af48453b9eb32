/-
# What a send with acknowledgment puts on the air

rflink specification, §4.4: a timeout with attempts remaining retransmits the
same frame and id, with `RETRY` set.

A send to one peer gives the radio copies of one datagram and nothing else of
its own; whatever else goes out meanwhile acknowledges what came in.

| copy | flags | counted |
| --- | --- | --- |
| the first | none | as sent |
| every other | `RETRY` | as sent, and as repeated |

The copies are as many as the outcome says.  If the send goes wrong they are
at most as many as were allowed, and the send is not counted as given up.

Main statements: `Pursuing.follows`, by which a turn adds one copy or none,
and `Operation.Reaches.sends_copies`.
-/

import PacketRadio.Proofs.Link.Accounting
import PacketRadio.Proofs.Link.Answering
import Mathlib.Data.List.Basic

namespace PacketRadio
namespace Link

open PacketRadio.Link.Action

/-! ## Datagrams among what is sent -/

/-- The bytes are those of a frame that is no acknowledgment. -/
def isDatagram (c : Frame.Config) (wire : Bytes) : Bool :=
  match Frame.decode c wire with
  | .ok f => !f.header.isAck
  | .error _ => false

/-- The bytes of datagrams that were given to the radio, in this order. -/
def Exchange.datagrams (c : Frame.Config) (es : List Exchange) : List Bytes :=
  (es.filterMap sent).filter (isDatagram c)

@[simp] theorem Exchange.datagrams_append (c : Frame.Config) (es es' : List Exchange) :
    datagrams c (es ++ es') = datagrams c es ++ datagrams c es' := by
  simp [datagrams]

/-- An acknowledgment is none. -/
theorem isDatagram_of_isAck {c : Config} (hc : c.frame.Valid) {wire : Bytes}
    (h : Traffic.IsAck c wire) : isDatagram c.frame wire = false := by
  obtain ⟨header, rfl⟩ := h
  have hread := Frame.decode_wire (f := Frame.ackFor header c.address) hc (Nat.zero_le _)
  have hack : (Frame.ackFor header c.address).header.isAck = true := by
    simp only [Frame.ackFor, Header.ackFor, Header.isAck]
    decide
  simp only [isDatagram, hread, hack, Bool.not_true]

/-- **What is written of a datagram is one.** -/
theorem isDatagram_of_encode {c : Frame.Config} (hc : c.Valid) {f : Frame} {wire : Bytes}
    (hw : f.encode c = .ok wire) (hf : f.header.isAck = false) : isDatagram c wire = true := by
  rw [isDatagram, Frame.decode_of_encode hc hw]
  simp [hf]

/-! ## What is sent between the copies -/

/-- From one node to the other only acknowledgments were sent, and nothing that is counted of the
node's own sends has changed.  The radio may have failed. -/
structure Tending (n : Node) (es : List Exchange) (n' : Node) : Prop where
  /-- The configuration is the same. -/
  config : n'.config = n.config
  /-- As many copies of datagrams are counted. -/
  data : n'.telemetry.dataSent = n.telemetry.dataSent
  /-- As many of them as repeated. -/
  retries : n'.telemetry.retries = n.telemetry.retries
  /-- As many sends as given up. -/
  failed : n'.telemetry.failed = n.telemetry.failed
  /-- What was sent are acknowledgments. -/
  acks : ∀ wire ∈ es.filterMap Exchange.sent, Traffic.IsAck n.config wire

section

variable {n n' n'' : Node} {es es' : List Exchange}

theorem Tending.trans (h : Tending n es n') (h' : Tending n' es' n'') :
    Tending n (es ++ es') n'' where
  config := h'.config.trans h.config
  data := h'.data.trans h.data
  retries := h'.retries.trans h.retries
  failed := h'.failed.trans h.failed
  acks wire hwire := by
    rw [List.filterMap_append] at hwire
    rcases List.mem_append.1 hwire with hwire | hwire
    · exact h.acks wire hwire
    · exact h.config ▸ h'.acks wire hwire

/-- Nothing is sent. -/
theorem Tending.silent (n : Node) (h : es.filterMap Exchange.sent = []) : Tending n es n :=
  ⟨rfl, rfl, rfl, rfl, by simp [h]⟩

theorem Acknowledging.tending {h : Header} {result : Except Error Unit}
    (hk : Acknowledging n h es n' result) : Tending n es n' := by
  have hacks : ∀ wire ∈ es.filterMap Exchange.sent, Traffic.IsAck n.config wire := by
    intro wire hwire
    rcases hk.sent_eq with hnone | ⟨-, hone⟩
    · rw [hnone] at hwire
      cases hwire
    · rw [hone, List.mem_singleton] at hwire
      exact ⟨h, hwire⟩
  cases hk <;> exact ⟨rfl, rfl, rfl, rfl, hacks⟩

theorem Delivering.tending {d : Delivery} {taken : Bool} (hs : Delivering n d es n' taken) :
    Tending n es n' := by
  have hsent := hs.sent_eq
  cases hs <;> exact ⟨rfl, rfl, rfl, rfl, by simp [hsent]⟩

/-- **A reception is acknowledged at most.** -/
theorem Handling.tending {r : Radio.Reception} {event : Except Error PollEvent}
    (hh : Handling n r es n' event) : Tending n es n' := by
  have hheard : ∀ f, Tending n [] (n.hearing f r.rssi) := fun f => ⟨rfl, rfl, rfl, rfl, by simp⟩
  cases hh with
  | @duplicate f es n' acked ht hack hd hk =>
    have hcounted : Tending n []
        ((n.hearing f r.rssi).count fun t => { t with duplicates := t.duplicates + 1 }) :=
      ⟨rfl, rfl, rfl, rfl, by simp⟩
    exact hcounted.trans hk.tending
  | @overflowed f es n' ht hack hd hs =>
    have hoffered := (hheard f).trans hs.tending
    exact ⟨hoffered.config, hoffered.data, hoffered.retries, hoffered.failed, hoffered.acks⟩
  | @delivered f es es' n₁ n' acked ht hack hd hs hk =>
    have hoffered := (hheard f).trans hs.tending
    have haccepted : Tending n es (n₁.accept f.header) :=
      ⟨hoffered.config, hoffered.data, hoffered.retries, hoffered.failed, hoffered.acks⟩
    exact haccepted.trans hk.tending
  | _ => exact ⟨rfl, rfl, rfl, rfl, by simp⟩

/-- **A look at the radio sends acknowledgments only**, on any radio. -/
theorem Polling.tending {event : Except Error PollEvent} (hp : Polling n es n' event) :
    Tending n es n' := by
  rcases hp.taking with ⟨hnone, rfl, -⟩ | ⟨r, hh, -, -, -, hsent, -⟩
  · exact .silent _ hnone.sent
  · have htending := hh.tending
    exact ⟨htending.config, htending.data, htending.retries, htending.failed,
      fun wire hwire => htending.acks wire (hsent ▸ hwire)⟩

/-- So does one with a pause. -/
theorem Watching.tending {length : Nat} {r : Except Error Unit} (hw : Watching n length es n' r) :
    Tending n es n' := by
  cases hw with
  | failed hp => exact hp.tending
  | taken hp he => exact hp.tending
  | paused hp => exact hp.tending.trans (.silent _ rfl)

theorem Timing.sent_eq {deadline : Deadline} {rest : Option Nat} (ht : Timing deadline es rest) :
    es.filterMap Exchange.sent = [] := by
  cases ht <;> rfl

/-- **What is given to the radio of a frame is its bytes or nothing**, and its bytes if all goes
well. -/
theorem Posting.sent_eq {f : Frame} {r : Except Error Unit} (hp : Posting n f es n' r) :
    (es.filterMap Exchange.sent = [] ∧ ∃ e, r = .error e) ∨
      ∃ wire, f.encode n.config.frame = .ok wire ∧ es.filterMap Exchange.sent = [wire] := by
  have hsending : ∀ {r}, Sending n.config.frame f es r →
      (es.filterMap Exchange.sent = [] ∧ ∃ e, r = .error e) ∨
        ∃ wire, f.encode n.config.frame = .ok wire ∧ es.filterMap Exchange.sent = [wire] := by
    rintro r (⟨hw⟩ | ⟨hw, failure⟩ | ⟨hw, sent, restored⟩)
    · exact .inl ⟨rfl, _, rfl⟩
    · exact .inl ⟨rfl, _, rfl⟩
    · exact .inr ⟨_, hw, rfl⟩
  cases hp with
  | failed hs => exact hsending hs
  | posted hs => exact hsending hs

end

/-! ## The copies of one send -/

namespace Node

/-- The copies of the datagram that a node sends next: the first has no flags, the others have been
sent before. -/
def copy (n : Node) (dst : Address) (payload : Bytes) (k : Nat) : Frame :=
  ⟨⟨dst, n.address, n.nextId, if k = 0 then 0 else Flag.retry⟩, payload⟩

/-- The first `k` copies, as they are sent. -/
def copies (n : Node) (dst : Address) (payload : Bytes) (k : Nat) : List Bytes :=
  (List.range k).map fun j => (n.copy dst payload j).wire n.config.frame

end Node

/-- Of its own datagrams the node `n₀` has sent the first `k` copies of one, and beside them nothing
but acknowledgments. -/
structure Copied (n₀ : Node) (dst : Address) (payload : Bytes) (es : List Exchange) (k : Nat) :
    Prop where
  /-- The datagrams are the copies, in order. -/
  datagrams : Exchange.datagrams n₀.config.frame es = n₀.copies dst payload k
  /-- Everything else acknowledges something. -/
  acks : ∀ wire ∈ es.filterMap Exchange.sent, isDatagram n₀.config.frame wire = false →
    Traffic.IsAck n₀.config wire

/-- So many copies are counted since `n₀`, all but the first as repeated, and so many sends as given
up. -/
structure Reckoned (n₀ : Node) (copies given : Nat) (n : Node) : Prop where
  /-- The copies. -/
  data : n.telemetry.dataSent = n₀.telemetry.dataSent + copies
  /-- All but the first. -/
  retries : n.telemetry.retries = n₀.telemetry.retries + (copies - 1)
  /-- The sends. -/
  failed : n.telemetry.failed = n₀.telemetry.failed + given

/-- What the node has done when a send ends that it began as `n₀` with so many attempts. -/
inductive Concluded (n₀ : Node) (dst : Address) (payload : Bytes) (attempts : Nat)
    (es : List Exchange) : Except Error Reply → Node → Prop where
  /-- The acknowledgment came after `k` copies. -/
  | acked {k elapsed : Nat} {n : Node} (first : 1 ≤ k) (last : k ≤ attempts)
      (copied : Copied n₀ dst payload es k) (reckoned : Reckoned n₀ k 0 n) :
      Concluded n₀ dst payload attempts es (.ok (.outcome (.acked n₀.nextId k elapsed))) n
  /-- All copies were sent in vain. -/
  | failed {elapsed : Nat} {n : Node} (copied : Copied n₀ dst payload es attempts)
      (reckoned : Reckoned n₀ attempts 1 n) :
      Concluded n₀ dst payload attempts es (.ok (.outcome (.failed n₀.nextId attempts elapsed))) n
  /-- Something went wrong after `k` copies; that is not counted as giving up. -/
  | error {k : Nat} {e : Error} {n : Node} (last : k ≤ attempts)
      (copied : Copied n₀ dst payload es k)
      (failed : n.telemetry.failed = n₀.telemetry.failed) :
      Concluded n₀ dst payload attempts es (.error e) n

/-- A send of `n₀` is under way at a node, after these exchanges. -/
structure Underway (n₀ : Node) (dst : Address) (payload : Bytes) (attempts : Nat)
    (es : List Exchange) (s : Send) (n : Node) : Prop where
  /-- The configuration is the same. -/
  config : n.config = n₀.config
  /-- It goes to the peer. -/
  peer : s.dst = dst
  /-- It has the number that was next. -/
  number : s.id = n₀.nextId
  /-- It carries the payload. -/
  carried : s.payload = payload
  /-- It has so many attempts. -/
  allowed : s.attempts = attempts
  /-- There is a copy at hand. -/
  first : 1 ≤ s.attempt
  /-- It is one of those. -/
  last : s.attempt ≤ s.attempts
  /-- The copies before it have been sent, and it too if its acknowledgment is waited for. -/
  copied : Copied n₀ dst payload es s.copies
  /-- So many are counted. -/
  reckoned : Reckoned n₀ s.copies 0 n

/-- How a turn of the send may end. -/
def Follows (n₀ : Node) (dst : Address) (payload : Bytes) (attempts : Nat) (es : List Exchange)
    (r : Except Error (Turn Activity Reply)) (n : Node) : Prop :=
  match r with
  | .ok (.again a) => ∃ s, a = .sending s ∧ Underway n₀ dst payload attempts es s n
  | .ok (.finish reply) => Concluded n₀ dst payload attempts es (.ok reply) n
  | .error e => Concluded n₀ dst payload attempts es (.error e) n

section

variable {n₀ n n' : Node} {dst : Address} {payload : Bytes} {attempts k : Nat}
  {es es' : List Exchange} {s : Send}

theorem Copied.nil (n₀ : Node) (dst : Address) (payload : Bytes) : Copied n₀ dst payload [] 0 :=
  ⟨rfl, by simp⟩

/-- The datagrams are as many as the copies. -/
theorem Copied.length (h : Copied n₀ dst payload es k) :
    (Exchange.datagrams n₀.config.frame es).length = k := by
  rw [h.datagrams, Node.copies, List.length_map, List.length_range]

/-- Acknowledgments are no datagrams. -/
theorem Tending.datagrams_eq_nil (ht : Tending n es n') (hc : n₀.config.frame.Valid)
    (hn : n.config = n₀.config) : Exchange.datagrams n₀.config.frame es = [] :=
  List.filter_eq_nil_iff.2 fun wire hwire => by
    simp [isDatagram_of_isAck hc (hn ▸ ht.acks wire hwire)]

/-- Acknowledgments in between do not matter. -/
theorem Copied.tending (h : Copied n₀ dst payload es k) (hc : n₀.config.frame.Valid)
    (ht : Tending n es' n') (hn : n.config = n₀.config) : Copied n₀ dst payload (es ++ es') k where
  datagrams := by
    rw [Exchange.datagrams_append, h.datagrams, ht.datagrams_eq_nil hc hn, List.append_nil]
  acks wire hwire hnot := by
    rw [List.filterMap_append] at hwire
    rcases List.mem_append.1 hwire with hwire | hwire
    · exact h.acks wire hwire hnot
    · exact hn ▸ ht.acks wire hwire

/-- **One more copy is sent.** -/
theorem Copied.next (h : Copied n₀ dst payload es k) (hc : n₀.config.frame.Valid) {wire : Bytes}
    (hw : (n₀.copy dst payload k).encode n₀.config.frame = .ok wire)
    (hsent : es'.filterMap Exchange.sent = [wire]) : Copied n₀ dst payload (es ++ es') (k + 1) := by
  have hnot : (n₀.copy dst payload k).header.isAck = false := by
    simp only [Node.copy, Header.isAck]
    split <;> decide
  have hdatagram := isDatagram_of_encode hc hw hnot
  obtain ⟨-, -, rfl⟩ := (Frame.encode_eq_ok_iff _ _ _).1 hw
  constructor
  · rw [Exchange.datagrams_append, h.datagrams, Exchange.datagrams, hsent,
      List.filter_cons_of_pos hdatagram, Node.copies, Node.copies, List.range_succ, List.map_append]
    rfl
  · intro wire hwire hack
    rw [List.filterMap_append, hsent] at hwire
    rcases List.mem_append.1 hwire with hwire | hwire
    · exact h.acks wire hwire hack
    · obtain rfl := List.mem_singleton.1 hwire
      rw [hdatagram] at hack
      cases hack

/-- **What was sent up to some time are copies too.** -/
theorem Copied.before (h : Copied n₀ dst payload (es ++ es') k) :
    ∃ j ≤ k, Copied n₀ dst payload es j := by
  have hprefix : Exchange.datagrams n₀.config.frame es <+: n₀.copies dst payload k := by
    rw [← h.datagrams, Exchange.datagrams_append]
    exact List.prefix_append _ _
  refine ⟨min (Exchange.datagrams n₀.config.frame es).length k, Nat.min_le_right _ _, ?_, ?_⟩
  · exact (List.prefix_iff_eq_take.1 hprefix).trans
      (by rw [Node.copies, Node.copies, ← List.map_take, List.take_range])
  · intro wire hwire
    refine h.acks wire ?_
    rw [List.filterMap_append]
    exact List.mem_append_left _ hwire

/-! ## Turns of the send -/

/-- What is counted stays so as long as only acknowledgments are sent. -/
theorem Reckoned.tending {given : Nat} (h : Reckoned n₀ k given n) (ht : Tending n es' n') :
    Reckoned n₀ k given n' :=
  ⟨ht.data.trans h.data, ht.retries.trans h.retries, ht.failed.trans h.failed⟩

namespace Underway

/-- The copy at hand is the next one. -/
theorem copy_eq (h : Underway n₀ dst payload attempts es s n) :
    (⟨⟨s.dst, n.address, s.id, s.flags⟩, s.payload⟩ : Frame) =
      n₀.copy dst payload (s.attempt - 1) := by
  have hflags : s.flags = if s.attempt - 1 = 0 then 0 else Flag.retry := by
    have hfirst := h.first
    unfold Send.flags
    by_cases hone : s.attempt = 1
    · simp [hone]
    · rw [if_neg hone, if_neg (by omega)]
  rw [Node.copy, h.peer, h.number, h.carried, hflags, Node.address, Node.address, h.config]

/-- **A copy is given to the radio, or not**, and counted if that went well. -/
theorem posting (h : Underway n₀ dst payload attempts es s n) (hc : n₀.config.frame.Valid)
    (hphase : s.phase = .transmitting) {r : Except Error Unit}
    (hp : Posting (n.repeating s) ⟨⟨s.dst, n.address, s.id, s.flags⟩, s.payload⟩ es' n' r) :
    (∃ j ≤ attempts, Copied n₀ dst payload (es ++ es') j) ∧
      n'.telemetry.failed = n₀.telemetry.failed ∧
      (r = .ok () → Copied n₀ dst payload (es ++ es') s.attempt ∧ Reckoned n₀ s.attempt 0 n') := by
  have hfirst := h.first
  have hcopies : s.copies = s.attempt - 1 := by rw [Send.copies, hphase]
  have hattempt : s.attempt - 1 + 1 = s.attempt := Nat.sub_add_cancel hfirst
  have hcopied := h.copied
  have hreckoned := h.reckoned
  rw [hcopies] at hcopied hreckoned
  have hfailed : n'.telemetry.failed = n₀.telemetry.failed := by
    have hbefore := hreckoned.failed
    rw [n.repeating_eq] at hp
    cases hp <;> exact hbefore
  have hsent := hp.sent_eq
  rw [h.copy_eq, n.repeating_config, h.config] at hsent
  rcases hsent with ⟨hnone, e, rfl⟩ | ⟨wire, hw, hone⟩
  · refine ⟨⟨s.attempt - 1, ?_, ?_⟩, hfailed, fun hr => by cases hr⟩
    · exact Nat.le_trans (Nat.sub_le _ _) (h.allowed ▸ h.last)
    · exact hcopied.tending hc (.silent n hnone) h.config
  · have hnext := hcopied.next hc hw hone
    rw [hattempt] at hnext
    refine ⟨⟨s.attempt, h.allowed ▸ h.last, hnext⟩, hfailed, ?_⟩
    rintro rfl
    refine ⟨hnext, ?_⟩
    have hdata := hreckoned.data
    have hretries := hreckoned.retries
    rw [n.repeating_eq] at hp
    cases hp with
    | posted hs =>
      refine ⟨?_, ?_, hreckoned.failed⟩
      · show n.telemetry.dataSent + 1 = _
        omega
      · show n.telemetry.retries + (if s.attempt = 1 then 0 else 1) = _
        split <;> omega

/-- **A look at the radio leaves the copies as they are.** -/
theorem tending (h : Underway n₀ dst payload attempts es s n) (hc : n₀.config.frame.Valid)
    (ht : Tending n es' n') : Underway n₀ dst payload attempts (es ++ es') s n' :=
  { h with
    config := ht.config.trans h.config
    copied := h.copied.tending hc ht h.config
    reckoned := h.reckoned.tending ht }

end Underway

/-- **A turn of a send adds one copy, or none.** -/
theorem Pursuing.follows {r : Except Error (Turn Send SendOutcome)} (hp : Pursuing n s es' n' r)
    (h : Underway n₀ dst payload attempts es s n) (hc : n₀.config.frame.Valid) :
    Follows n₀ dst payload attempts (es ++ es') (r.map (Turn.map .sending .outcome)) n' := by
  cases hp with
  | @copied es' n' hphase hp t =>
    obtain ⟨-, -, hok⟩ := h.posting hc hphase hp
    obtain ⟨hcopied, hreckoned⟩ := hok rfl
    have hconfig : n'.config = n₀.config :=
      (hp.config_eq.trans (n.repeating_config s)).trans h.config
    refine ⟨_, rfl, hconfig, h.peer, h.number, h.carried, h.allowed, h.first, h.last, ?_, ?_⟩
    · rw [← List.append_assoc]
      exact hcopied.tending hc (.silent n' rfl) hconfig
    · exact hreckoned
  | unsent hphase hp =>
    obtain ⟨⟨j, hj, hcopied⟩, hfailed, -⟩ := h.posting hc hphase hp
    exact .error hj hcopied hfailed
  | @acked deadline hphase ha t =>
    have hcopies : s.copies = s.attempt := by rw [Send.copies, hphase]
    have hsilent : Tending n [⟨.now, t⟩] n := .silent n rfl
    have hnow := h.tending hc hsilent
    have hcopied := hnow.copied
    have hreckoned := hnow.reckoned
    rw [hcopies] at hcopied hreckoned
    have hacked : Concluded n₀ dst payload attempts (es ++ [⟨.now, t⟩])
        (.ok (.outcome (.acked n₀.nextId s.attempt (t - s.started)))) n.settled :=
      .acked h.first (h.allowed ▸ h.last) hcopied
        ⟨hreckoned.data, hreckoned.retries, hreckoned.failed⟩
    rwa [← h.number] at hacked
  | @watched deadline rest es₁ es₂ n' hphase ha ht hw =>
    have htending := (Tending.silent n ht.sent_eq).trans hw.tending
    exact ⟨s, rfl, h.tending hc htending⟩
  | @unwatched deadline rest es₁ es₂ n' e hphase ha ht hw =>
    have hafter := h.tending hc ((Tending.silent n ht.sent_eq).trans hw.tending)
    have hcopies : s.copies ≤ attempts := by
      rw [Send.copies, hphase]
      exact h.allowed ▸ h.last
    exact .error hcopies hafter.copied hafter.reckoned.failed
  | @retried deadline es' hphase ha ht hmore =>
    have hafter := h.tending hc (.silent n ht.sent_eq)
    have hcopied := hafter.copied
    have hreckoned := hafter.reckoned
    rw [Send.copies, hphase] at hcopied hreckoned
    exact ⟨_, rfl, h.config, h.peer, h.number, h.carried, h.allowed, Nat.le_add_left 1 _, hmore,
      hcopied, hreckoned⟩
  | @exhausted deadline es' hphase ha ht hmore t =>
    have hlast : s.attempt = attempts := h.allowed ▸ Nat.le_antisymm h.last hmore
    have hcopies : s.copies = attempts := by rw [Send.copies, hphase, hlast]
    have hsilent : Tending n (es' ++ [⟨.now, t⟩]) n :=
      .silent n (by rw [List.filterMap_append, ht.sent_eq]; rfl)
    have hafter := h.tending hc hsilent
    have hcopied := hafter.copied
    have hreckoned := hafter.reckoned
    rw [hcopies] at hcopied hreckoned
    have hfailed : Concluded n₀ dst payload attempts (es ++ (es' ++ [⟨.now, t⟩]))
        (.ok (.outcome (.failed n₀.nextId attempts (t - s.started))))
        (n.settled.count fun c => { c with failed := c.failed + 1 }) :=
      .failed hcopied ⟨hreckoned.data, hreckoned.retries, congrArg (· + 1) hreckoned.failed⟩
    rw [← h.number] at hfailed
    simpa only [Follows, Except.map, Turn.map, h.allowed] using hfailed

/-- **A send begins without a copy.** -/
theorem Starting.follows {retries timeout : Nat} {r : Except Error (Turn Activity Reply)}
    (hs : Starting n (.sendReliableWith dst payload retries timeout) es n' r)
    (hdst : dst ≠ Address.broadcast) : Follows n dst payload (max retries 1) es r n' := by
  cases hs with
  | sending hop hd =>
    obtain rfl := Option.some.inj hop
    cases hd with
    | oversized hsize => exact .error (Nat.zero_le _) (.nil n dst payload) rfl
    | once hsize hsingle hp => simp [Errand.single, hdst] at hsingle
    | awaited hsize hd hdst t =>
      obtain ⟨rfl, rfl⟩ := Prod.mk.inj (Option.some.inj hd)
      exact ⟨_, rfl, rfl, rfl, rfl, rfl, rfl, Nat.le_refl 1, Nat.le_max_right _ _,
        ⟨rfl, by simp [Exchange.sent]⟩, ⟨rfl, rfl, rfl⟩⟩

theorem Follows.exists_copied {r : Except Error (Turn Activity Reply)}
    (h : Follows n₀ dst payload attempts es r n) : ∃ k ≤ attempts, Copied n₀ dst payload es k := by
  have hconcluded : ∀ {r}, Concluded n₀ dst payload attempts es r n →
      ∃ k ≤ attempts, Copied n₀ dst payload es k := by
    rintro r (⟨-, last, copied, -⟩ | ⟨copied, -⟩ | ⟨last, copied, -⟩)
    · exact ⟨_, last, copied⟩
    · exact ⟨_, Nat.le_refl _, copied⟩
    · exact ⟨_, last, copied⟩
  match r, h with
  | .ok (.again a), ⟨s, _, hs⟩ =>
    refine ⟨_, ?_, hs.copied⟩
    have hlast : s.attempt ≤ attempts := hs.allowed ▸ hs.last
    unfold Send.copies
    split <;> omega
  | .ok (.finish reply), h => exact hconcluded h
  | .error e, h => exact hconcluded h

/-- However far a send has come, its turn ends as it should. -/
theorem Operation.Reaches.follows {retries timeout : Nat} {rest}
    (hr : (Operation.sendReliableWith dst payload retries timeout).Reaches n es rest)
    (hdst : dst ≠ Address.broadcast) (hc : n.config.frame.Valid)
    {r : Except Error (Turn Activity Reply)} (hpath : Task.Path rest es' (.done (r, n'))) :
    Follows n dst payload (max retries 1) (es ++ es') r n' := by
  refine hr.upholds (fun es r n' hpath => ?_) (fun es a n₁ es' r n' h hpath => ?_) hpath
  · exact ((start_goes _ n).path hpath).follows hdst
  · obtain ⟨s, rfl, hs⟩ := h
    cases (turn_goes _ n₁).path hpath with
    | sending hp => exact hp.follows hs hc

end

/-- **A send gives the radio copies of one datagram, and beside them only acknowledgments**, on any
radio and whatever comes in.  At any time of it, also within a look at the radio or between the
steps of a transmission, it has sent the first `k` copies for some `k` that is allowed.  When it
ends, `k` is what its outcome says and what is counted. -/
theorem Operation.Reaches.sends_copies {n : Node} (hc : n.config.frame.Valid) {dst : Address}
    {payload : Bytes} {retries timeout : Nat} (hdst : dst ≠ Address.broadcast)
    {es : List Exchange} {rest}
    (hr : (Operation.sendReliableWith dst payload retries timeout).Reaches n es rest) :
    (∃ k ≤ max retries 1, Copied n dst payload es k) ∧
    (∀ reply n', rest = .done (.ok (.finish reply), n') →
      Concluded n dst payload (max retries 1) es (.ok reply) n') ∧
    ∀ e n', rest = .done (.error e, n') →
      Concluded n dst payload (max retries 1) es (.error e) n' := by
  refine ⟨?_, ?_, ?_⟩
  · obtain ⟨_, _, hcloses⟩ := Status.exists_closes (.busy rest)
    cases hcloses with
    | busy path hes =>
      obtain ⟨k, hk, hcopied⟩ := (hr.follows hdst hc path).exists_copied
      obtain ⟨j, hj, hbefore⟩ := hcopied.before
      exact ⟨j, Nat.le_trans hj hk, hbefore⟩
  · rintro reply n' rfl
    have hfollows := hr.follows hdst hc (.here _)
    rwa [List.append_nil] at hfollows
  · rintro e n' rfl
    have hfollows := hr.follows hdst hc (.here _)
    rwa [List.append_nil] at hfollows

set_option maxRecDepth 2000 in
/-- A fresh node sends to node 2 twice in vain, and acknowledges a datagram of node 3 in between. -/
theorem sends_copies_twice :
    ∃ (es : List Exchange) (n' : Node),
      (Operation.sendReliableWith 2 [7] 2 1).Reaches (Node.fresh {}) es
        (.done (.ok (.finish (.outcome (.failed 0 2 2))), n')) ∧
      es.filterMap Exchange.sent = [(⟨⟨2, 1, 0, 0⟩, [7]⟩ : Frame).wire {},
        (⟨⟨3, 1, 9, Flag.ack⟩, []⟩ : Frame).wire {},
        (⟨⟨2, 1, 0, Flag.retry⟩, [7]⟩ : Frame).wire {}] ∧
      Concluded (Node.fresh {}) 2 [7] 2 es (.ok (.outcome (.failed 0 2 2))) n' := by
  obtain ⟨es, n', hreach, hsent⟩ : ∃ es n',
      (Operation.sendReliableWith 2 [7] 2 1).Reaches (Node.fresh {}) es
        (.done (.ok (.finish (.outcome (.failed 0 2 2))), n')) ∧
      es.filterMap Exchange.sent = [(⟨⟨2, 1, 0, 0⟩, [7]⟩ : Frame).wire {},
        (⟨⟨3, 1, 9, Flag.ack⟩, []⟩ : Frame).wire {},
        (⟨⟨2, 1, 0, Flag.retry⟩, [7]⟩ : Frame).wire {}] := by
    have hbegun : (Operation.sendReliableWith 2 [7] 2 1).Reaches (Node.fresh {}) [] _ := .begun
    have hstarted := (hbegun.asked (r := .now) (0 : Nat)).turned
    have hfirst := (hstarted.asked (r := .radio (.setMode .transmit)) (.ok ())).asked
      (r := .radio (.transmit _)) (.ok ())
    have hwaits := ((hfirst.asked (r := .radio (.setMode .receive)) (.ok ())).asked
      (r := .now) (0 : Nat)).turned
    have hready := ((hwaits.asked (r := .now) (0 : Nat)).asked (r := .mode) .receive).asked
      (r := .radio .frameReady) (.ok true)
    have htaken := (hready.asked (r := .radio .receive)
      (.ok (some ⟨(⟨⟨1, 3, 9, 0⟩, [5]⟩ : Frame).wire {}, -40⟩))).asked
      (r := .kept _) ()
    have hacked := ((htaken.asked (r := .radio (.setMode .transmit)) (.ok ())).asked
      (r := .radio (.transmit _)) (.ok ())).asked (r := .radio (.setMode .receive)) (.ok ())
    have hlate := (hacked.asked (r := .radio (.setMode .receive)) (.ok ())).turned.asked
      (r := .now) (1 : Nat)
    have hsecond := (hlate.turned.asked (r := .radio (.setMode .transmit)) (.ok ())).asked
      (r := .radio (.transmit _)) (.ok ())
    have hagain := ((hsecond.asked (r := .radio (.setMode .receive)) (.ok ())).asked
      (r := .now) (1 : Nat)).turned
    exact ⟨_, _, (hagain.asked (r := .now) (2 : Nat)).asked (r := .now) (2 : Nat), rfl⟩
  have hvalid : (Node.fresh {}).config.frame.Valid := (bringUp_path bringUp_usual).1.frame
  exact ⟨es, n', hreach, hsent, (hreach.sends_copies hvalid (by decide)).2.1 _ n' rfl⟩

end Link
end PacketRadio
