/-
# Which acknowledgment a send waits for

rflink specification, §4.4: an acknowledgment resolves the matching pending
send, from that peer and addressed to this node.

A send to one peer waits for the acknowledgment of its own number, from that
peer and for this node.  The first one that comes is counted and ends the send.
No other acknowledgment does more than raise a counter, and while no such send
is under way none does.

| an acknowledgment | counter |
| --- | --- |
| that the send at hand waits for | `acksReceived` |
| any other that the node takes in | `unmatchedAcks` |
| for another node, which the node does not take in | `filtered` |

Once a send has ended, in whatever way, nothing is pending.

Main statement: `Life.acks_resolve`.
-/

import PacketRadio.Proofs.Link.Stretches
import PacketRadio.Proofs.Frame.RoundTrip

namespace PacketRadio
namespace Link

open PacketRadio.Link.Action

/-! ## What is waited for -/

/-- The reception is the acknowledgment of this number by this peer, for a node of this
configuration. -/
def Config.isAckOf (c : Config) (peer : Address) (id : UInt8) (r : Radio.Reception) : Bool :=
  match Frame.decode c.frame r.bytes with
  | .ok f => f.header.isAck && f.header.dst == c.address && peer == f.header.src &&
      id == f.header.id
  | .error _ => false

/-- How often that acknowledgment is taken in some exchanges. -/
def Exchange.acksOf (c : Config) (peer : Address) (id : UInt8) (es : List Exchange) : Nat :=
  (es.filterMap heard).countP (c.isAckOf peer id)

/-- The peer whose acknowledgment an operation waits for. -/
def Operation.awaited : Operation → Option Address
  | .sendReliable dst _ => if dst = Address.broadcast then none else some dst
  | .sendReliableWith dst _ _ _ => if dst = Address.broadcast then none else some dst
  | _ => none

section

variable {c : Config} {peer : Address} {id : UInt8} {n n' : Node} {es es' : List Exchange}
  {r : Radio.Reception} {f : Frame}

theorem Config.isAckOf_iff : c.isAckOf peer id r = true ↔
    ∃ f, Frame.decode c.frame r.bytes = .ok f ∧ f.header.isAck = true ∧
      f.header = ⟨c.address, peer, id, f.header.flags⟩ := by
  unfold Config.isAckOf
  cases hf : Frame.decode c.frame r.bytes with
  | error defect => simp
  | ok f =>
    simp only [Bool.and_eq_true, beq_iff_eq, Except.ok.injEq, exists_eq_left']
    constructor
    · rintro ⟨⟨⟨hack, hdst⟩, hsrc⟩, hid⟩
      refine ⟨hack, ?_⟩
      rw [← hdst, hsrc, hid]
    · rintro ⟨hack, hheader⟩
      rw [hheader] at hack ⊢
      exact ⟨⟨⟨hack, rfl⟩, rfl⟩, rfl⟩

theorem Exchange.acksOf_append :
    acksOf c peer id (es ++ es') = acksOf c peer id es + acksOf c peer id es' := by
  rw [acksOf, List.filterMap_append, List.countP_append]
  rfl

/-- What is not heard is no acknowledgment. -/
theorem Exchange.acksOf_of_unheard (h : es.filterMap heard = []) : acksOf c peer id es = 0 := by
  rw [acksOf, h]
  rfl

theorem Exchange.acksOf_of_heard (h : es.filterMap heard = [r]) :
    acksOf c peer id es = (c.isAckOf peer id r).toNat := by
  rw [acksOf, h, List.countP_singleton]
  cases c.isAckOf peer id r <;> rfl

/-- An acknowledgment is waited for if it is the one that the pending send needs. -/
theorem Node.awaits_iff (n : Node) (h : Header) : n.awaits h = true ↔
    ∃ p, n.pending = some p ∧ p.acked = false ∧ h = ⟨n.address, p.dst, p.id, h.flags⟩ := by
  unfold Node.awaits
  cases n.pending with
  | none => simp
  | some p =>
    simp only [AddressFilter.isLocal, Config.filter, Bool.and_eq_true, beq_iff_eq,
      Bool.not_eq_true', Option.some.injEq, exists_eq_left']
    constructor
    · rintro ⟨hdst, ⟨hnew, hsrc⟩, hid⟩
      refine ⟨hnew, ?_⟩
      rw [hsrc, hid, Node.address, ← hdst]
    · rintro ⟨hnew, hheader⟩
      rw [hheader]
      exact ⟨rfl, ⟨hnew, rfl⟩, rfl⟩

/-- While a send is pending, its acknowledgment is waited for and no other. -/
theorem Node.isAckOf_eq_awaits (hp : n.pending = some ⟨peer, id, false⟩)
    (hf : Frame.decode n.config.frame r.bytes = .ok f) (hack : f.header.isAck = true) :
    n.config.isAckOf peer id r = n.awaits f.header := by
  simp only [Config.isAckOf, hf, hack, Node.awaits, hp, AddressFilter.isLocal, Config.filter,
    Bool.true_and, Bool.not_false, Bool.and_assoc]

/-! ## Handling a reception -/

theorem Acknowledging.pending_eq {h : Header} {result : Except Error Unit}
    (hk : Acknowledging n h es n' result) : n'.pending = n.pending ∧
      n'.telemetry.acksReceived = n.telemetry.acksReceived := by
  cases hk <;> exact ⟨rfl, rfl⟩

theorem Delivering.pending_eq {d : Delivery} {taken : Bool} (hs : Delivering n d es n' taken) :
    n'.pending = n.pending ∧ n'.telemetry.acksReceived = n.telemetry.acksReceived := by
  cases hs <;> exact ⟨rfl, rfl⟩

/-- What a reception does to what is pending: the acknowledgment that is waited for resolves it, and
anything else leaves it as it is. -/
inductive Heeding (n : Node) (r : Radio.Reception) (n' : Node) (event : Except Error PollEvent) :
    Prop where
  /-- It is waited for. -/
  | resolved {f : Frame} (hf : Frame.decode n.config.frame r.bytes = .ok f)
      (hack : f.header.isAck = true) (hw : n.awaits f.header = true)
      (pending : n'.pending = n.pending.map fun p => { p with acked := true })
      (acks : n'.telemetry.acksReceived = n.telemetry.acksReceived + 1)
  /-- It is not. -/
  | other (hr : ∀ f, Frame.decode n.config.frame r.bytes = .ok f → f.header.isAck = true →
        n.awaits f.header = false)
      (pending : n'.pending = n.pending)
      (acks : n'.telemetry.acksReceived = n.telemetry.acksReceived)
      (hevent : ∀ src id, event ≠ .ok (.ackMatched src id))

/-- **A reception that is handled is heeded.** -/
theorem Handling.heeding {event : Except Error PollEvent} (hh : Handling n r es n' event) :
    Heeding n r n' event := by
  -- From the reception only the frame at hand can be read.
  have hdata : ∀ {f}, n.TakesIn r f → f.header.isAck = false →
      ∀ g, Frame.decode n.config.frame r.bytes = .ok g → g.header.isAck = true →
        n.awaits g.header = false := by
    intro f ht hnot g hg hack
    obtain rfl := ht.eq_of_decode hg
    rw [hnot] at hack
    cases hack
  cases hh with
  | dropped hf =>
    refine .other (fun g hg _ => ?_) rfl rfl (by simp)
    rw [hf] at hg
    cases hg
  | filtered hf ha =>
    refine .other (fun g hg _ => ?_) rfl rfl (by simp)
    obtain rfl := Except.ok.inj (hf.symm.trans hg)
    rw [Node.awaits]
    cases hlocal : n.config.filter.isLocal _ with
    | false => rfl
    | true =>
      rw [AddressFilter.accepts_of_isLocal hlocal] at ha
      cases ha
  | matched ht hack hw => exact .resolved ht.decoded hack hw rfl rfl
  | ignored ht hack hw =>
    refine .other (fun g hg _ => ?_) rfl rfl (by simp)
    obtain rfl := ht.eq_of_decode hg
    exact hw
  | @duplicate f es n' acked ht hack hd hk =>
    refine .other (hdata ht hack) hk.pending_eq.1 hk.pending_eq.2 fun src id => ?_
    cases acked <;> simp [Except.map]
  | overflowed ht hack hd hs =>
    exact .other (hdata ht hack) hs.pending_eq.1 hs.pending_eq.2 (by simp)
  | @delivered f es es' n₁ n' acked ht hack hd hs hk =>
    refine .other (hdata ht hack) (hk.pending_eq.1.trans hs.pending_eq.1)
      (hk.pending_eq.2.trans hs.pending_eq.2) fun src id => ?_
    cases acked <;> simp [Except.map]

/-- While nothing is pending, nothing is resolved. -/
theorem Heeding.unpending {event : Except Error PollEvent} (h : Heeding n r n' event)
    (hp : n.pending = none) : n'.pending = none ∧
      n'.telemetry.acksReceived = n.telemetry.acksReceived ∧
      ∀ src id, event ≠ .ok (.ackMatched src id) := by
  cases h with
  | resolved hf hack hw pending acks =>
    obtain ⟨p, hsome, -⟩ := (n.awaits_iff _).1 hw
    rw [hp] at hsome
    cases hsome
  | other hr pending acks hevent => exact ⟨pending.trans hp, acks, hevent⟩

/-- While a send is pending, its acknowledgment resolves it. -/
theorem Heeding.pending {event : Except Error PollEvent} (h : Heeding n r n' event)
    (hp : n.pending = some ⟨peer, id, false⟩) :
    n'.pending = some ⟨peer, id, n.config.isAckOf peer id r⟩ ∧
      n'.telemetry.acksReceived =
        n.telemetry.acksReceived + (n.config.isAckOf peer id r).toNat := by
  cases h with
  | resolved hf hack hw pending acks =>
    rw [Node.isAckOf_eq_awaits hp hf hack, hw]
    exact ⟨by rw [pending, hp]; rfl, acks⟩
  | other hr pending acks hevent =>
    have hnot : n.config.isAckOf peer id r = false := by
      refine Bool.eq_false_iff.2 fun hack => ?_
      obtain ⟨f, hf, hisAck, -⟩ := Config.isAckOf_iff.1 hack
      rw [Node.isAckOf_eq_awaits hp hf hisAck, hr f hf hisAck] at hack
      cases hack
    rw [hnot]
    exact ⟨pending.trans hp, acks⟩

/-- What is taken in a look at the radio is heeded. -/
theorem Taking.heeding {event : Except Error PollEvent} (h : Taking n r es n' event) :
    Heeding n r n' event := by
  obtain ⟨hh, htold, -, -, -, -⟩ := h
  cases hh.heeding with
  | resolved hf hack hw pending acks => exact .resolved hf hack hw pending acks
  | other hr pending acks hevent =>
    exact .other hr pending acks fun src id he => hevent src id (htold _ he)

theorem Taking.heard {event : Except Error PollEvent} (h : Taking n r es n' event) :
    es.filterMap Exchange.heard = [r] := by
  obtain ⟨-, -, -, hheard, -, -⟩ := h
  exact hheard

/-- While nothing is pending, a look at the radio resolves nothing. -/
theorem Polling.unpending {event : Except Error PollEvent} (h : Polling n es n' event)
    (hp : n.pending = none) : n'.pending = none ∧
      n'.telemetry.acksReceived = n.telemetry.acksReceived ∧
      ∀ src id, event ≠ .ok (.ackMatched src id) := by
  rcases h.taking with ⟨-, rfl, hidle⟩ | ⟨r, hr⟩
  · exact ⟨hp, rfl, fun src id he => by cases hidle _ he⟩
  · exact hr.heeding.unpending hp

/-! ## A send under way -/

/-- Since a send to `peer` began at `n₀`, the acknowledgment that it waits for has come once or not
at all, and was counted as often. -/
structure Waited (n₀ : Node) (peer : Address) (es : List Exchange) (n : Node) (acked : Bool) :
    Prop where
  /-- The configuration is the same. -/
  config : n.config = n₀.config
  /-- It has come once, or not at all. -/
  came : Exchange.acksOf n₀.config peer n₀.nextId es = acked.toNat
  /-- It was counted as often. -/
  counted : n.telemetry.acksReceived = n₀.telemetry.acksReceived + acked.toNat

/-- Nothing is taken, and what is pending stays so. -/
structure Placid (n : Node) (es : List Exchange) (n' : Node) : Prop where
  /-- Nothing is taken. -/
  heard : es.filterMap Exchange.heard = []
  /-- The configuration is the same. -/
  config : n'.config = n.config
  /-- The same send is pending. -/
  pending : n'.pending = n.pending
  /-- No acknowledgment is counted. -/
  acks : n'.telemetry.acksReceived = n.telemetry.acksReceived

theorem Placid.trans {n'' : Node} (h : Placid n es n') (h' : Placid n' es' n'') :
    Placid n (es ++ es') n'' where
  heard := by rw [List.filterMap_append, h.heard, h'.heard, List.append_nil]
  config := h'.config.trans h.config
  pending := h'.pending.trans h.pending
  acks := h'.acks.trans h.acks

theorem Idling.placid (h : Idling n es n') : Placid n es n' :=
  ⟨h.uneventful.heard, h.kept.config, h.pending, h.kept.counters .acksReceived⟩

/-- Sending takes nothing. -/
theorem Around.placid (h : Around Sends n es n') : Placid n es n' := by
  obtain ⟨before, ⟨rfl, f, result, -, -, hs⟩, after⟩ := h
  exact (before.placid.trans ⟨hs.heard.1, rfl, rfl, rfl⟩).trans after.placid

theorem Waited.placid {n₀ : Node} {acked : Bool} (h : Waited n₀ peer es n acked)
    (hp : Placid n es' n') : Waited n₀ peer (es ++ es') n' acked where
  config := hp.config.trans h.config
  came := by rw [Exchange.acksOf_append, h.came, Exchange.acksOf_of_unheard hp.heard]; rfl
  counted := hp.acks.trans h.counted

/-- **A look at the radio that waits for the acknowledgment** takes it, or not. -/
theorem Polling.waited {n₀ : Node} {event : Except Error PollEvent} (h : Polling n es' n' event)
    (hw : Waited n₀ peer es n false) (hp : n.pending = some ⟨peer, n₀.nextId, false⟩) :
    ∃ acked, Waited n₀ peer (es ++ es') n' acked ∧
      n'.pending = some ⟨peer, n₀.nextId, acked⟩ := by
  rcases h.taking with ⟨hnone, rfl, -⟩ | ⟨r, hr⟩
  · exact ⟨false, hw.placid ⟨hnone.heard, rfl, rfl, rfl⟩, hp⟩
  · obtain ⟨hpending, hacks⟩ := hr.heeding.pending hp
    refine ⟨_, ⟨?_, ?_, ?_⟩, hpending⟩
    · obtain ⟨hh, -, -, -, -, -⟩ := hr
      exact hh.config_eq.trans hw.config
    · rw [Exchange.acksOf_append, hw.came, Exchange.acksOf_of_heard hr.heard, hw.config]
      exact Nat.zero_add _
    · rw [hacks, hw.counted]
      rfl

end

/-! ## Turns of a send -/

/-- How a turn of a send to `peer`, which began at `n₀`, may end.  If the send is over, its outcome
says whether the acknowledgment has come.  If it goes on, it is still the same send, and another
copy is due only if the acknowledgment has not come. -/
def Send.Stands (n₀ : Node) (peer : Address) (acked : Bool) :
    Except Error (Turn Send SendOutcome) → Prop
  | .ok (.again s) => s.dst = peer ∧ s.id = n₀.nextId ∧ (s.phase = .transmitting → acked = false)
  | .ok (.finish outcome) =>
    outcome.id = n₀.nextId ∧ outcome.isAcked = acked ∧ outcome.isFailed = !acked
  | .error _ => True

/-- What is pending at the end of a turn. -/
def Send.pendingAfter (n₀ : Node) (peer : Address) (acked : Bool) :
    Except Error (Turn Send SendOutcome) → Option Pending
  | .ok (.again _) => some ⟨peer, n₀.nextId, acked⟩
  | _ => none

/-- A step of a send has ended, and it is still pending. -/
def Stepped (n₀ : Node) (peer : Address) (es : List Exchange) (n : Node)
    (r : Except Error (Turn Send SendOutcome)) : Prop :=
  ∃ acked, Waited n₀ peer es n acked ∧ n.pending = some ⟨peer, n₀.nextId, acked⟩ ∧
    Send.Stands n₀ peer acked r

/-- A turn of a send has ended. -/
def Turned (n₀ : Node) (peer : Address) (es : List Exchange) (n : Node)
    (r : Except Error (Turn Send SendOutcome)) : Prop :=
  ∃ acked, Waited n₀ peer es n acked ∧ n.pending = Send.pendingAfter n₀ peer acked r ∧
    Send.Stands n₀ peer acked r

/-- However the action goes, nothing is taken and what is pending stays so, and its result is as `P`
says. -/
def Placidly {α : Type} (P : Except Error α → Prop) (x : Action α) : Prop :=
  ∀ n, x.Goes n fun es n' r => Placid n es n' ∧ P r

section

variable {α β : Type} {P : Except Error β → Prop}

theorem Idles.placidly {x : Action α} (hx : Idles x) : Placidly (fun _ => True) x := fun n =>
  (hx n).imp fun _ _ _ h => ⟨h.placid, trivial⟩

theorem Does.placidly {x : Action α} (hx : Does Sends x) : Placidly (fun _ => True) x := fun n =>
  (hx n).imp fun _ _ _ h => ⟨h.elim Idling.placid Around.placid, trivial⟩

theorem Placidly.bind {x : Action α} {f : α → Action β} (hx : Placidly (fun _ => True) x)
    (hf : ∀ a, Placidly P (f a)) (herror : ∀ e, P (.error e)) : Placidly P (x >>= f) := fun n =>
  (hx n).bind (fun _ n₁ a h => (hf a n₁).imp fun _ _ _ h' => ⟨h.1.trans h'.1, h'.2⟩)
    fun _ _ e h => ⟨h.1, herror e⟩

theorem Placidly.pure {b : β} (hb : P (.ok b)) : Placidly P (Pure.pure b) := fun _ =>
  ⟨⟨rfl, rfl, rfl, rfl⟩, hb⟩

end

section

variable {n₀ n : Node} {peer : Address} {es : List Exchange} {acked : Bool} {s : Send}

/-- What is placid keeps a send where it stands. -/
theorem Waited.stepped {x : Action (Turn Send SendOutcome)} (hw : Waited n₀ peer es n acked)
    (hp : n.pending = some ⟨peer, n₀.nextId, acked⟩)
    (hx : Placidly (Send.Stands n₀ peer acked) x) :
    x.Goes n fun es' n' r => Stepped n₀ peer (es ++ es') n' r :=
  (hx n).imp fun _ _ _ ⟨h, hr⟩ => ⟨acked, hw.placid h, h.pending.trans hp, hr⟩

/-- A copy is sent. -/
theorem transmitCopy_placidly (hdst : s.dst = peer) (hid : s.id = n₀.nextId) :
    Placidly (Send.Stands n₀ peer acked) s.transmitCopy := by
  have hflags : Flag.has s.flags Flag.ack = false := by
    unfold Send.flags
    split <;> decide
  have hsend : Placidly (Send.Stands n₀ peer acked)
      (Action.sendData s.dst s.id s.flags s.payload >>= fun _ => now >>= fun t =>
        pure (.again { s with phase := .waiting (Deadline.after t s.timeout) })) := by
    refine (Does.sendData _ _ _ _ hflags).placidly.bind (fun _ => ?_) fun _ => trivial
    refine Idles.now.placidly.bind (fun t => ?_) fun _ => trivial
    exact .pure ⟨hdst, hid, fun hphase => by cases hphase⟩
  unfold Send.transmitCopy
  split
  · exact (Idles.count fun t k => by cases k <;> rfl).placidly.bind (fun _ => hsend)
      fun _ => trivial
  · exact hsend

/-- The radio is looked at, perhaps with a pause. -/
theorem pollOrPause_waited (limit : Nat) (hw : Waited n₀ peer es n false)
    (hp : n.pending = some ⟨peer, n₀.nextId, false⟩) :
    (pollOrPause limit).Goes n fun es' n' _ => ∃ acked, Waited n₀ peer (es ++ es') n' acked ∧
      n'.pending = some ⟨peer, n₀.nextId, acked⟩ := by
  refine (poll_goes n).bind (fun es₁ n₁ event h => ?_) fun _ _ _ h => h.waited hw hp
  obtain ⟨acked, hw₁, hp₁⟩ := h.waited hw hp
  refine (Idles.pause event (fun n => min n.config.pollInterval limit) n₁).imp ?_
  intro es₂ n₂ _ hidle
  refine ⟨acked, ?_, hidle.pending.trans hp₁⟩
  rw [← List.append_assoc]
  exact hw₁.placid hidle.placid

/-- **A send waits** until the acknowledgment has come or its time is up. -/
theorem await_stepped (deadline : Deadline) (hw : Waited n₀ peer es n acked)
    (hp : n.pending = some ⟨peer, n₀.nextId, acked⟩) (hdst : s.dst = peer)
    (hid : s.id = n₀.nextId) (hphase : s.phase ≠ .transmitting) :
    (s.await deadline).Goes n fun es' n' r => Stepped n₀ peer (es ++ es') n' r := by
  simp only [Send.await, isAcked, keeps_bind, keeps_node, keeps_pure, onward_ok, hp, Option.elim]
  cases acked with
  | true =>
    refine hw.stepped hp (Idles.now.placidly.bind (fun t => ?_) fun _ => trivial)
    exact .pure ⟨hid, rfl, rfl⟩
  | false =>
    rw [if_neg (by decide)]
    refine ((Idles.left deadline) n).bind (fun es₁ n₁ rest hidle => ?_) fun es₁ n₁ e hidle =>
      ⟨false, hw.placid hidle.placid, hidle.pending.trans hp, trivial⟩
    have hw₁ := hw.placid hidle.placid
    have hp₁ := hidle.pending.trans hp
    simp only [← List.append_assoc]
    cases rest with
    | some rest =>
      refine (pollOrPause_waited rest hw₁ hp₁).bind (fun es₂ n₂ _ h => ?_) fun es₂ n₂ e h => ?_
      · obtain ⟨acked, hw₂, hp₂⟩ := h
        exact ⟨acked, by simpa using hw₂, hp₂, hdst, hid, fun ht => absurd ht hphase⟩
      · obtain ⟨acked, hw₂, hp₂⟩ := h
        exact ⟨acked, hw₂, hp₂, trivial⟩
    | none =>
      refine hw₁.stepped hp₁ ?_
      dsimp only
      split
      · exact .pure ⟨hdst, hid, fun _ => rfl⟩
      · refine Idles.now.placidly.bind (fun t => ?_) fun _ => trivial
        exact .pure ⟨hid, rfl, rfl⟩

/-- **A turn of a send** keeps it where it should be, and clears what is pending when the send is
over. -/
theorem sendTurn_turned (h : Turned n₀ peer es n (.ok (.again s))) :
    s.turn.Goes n fun es' n' r => Turned n₀ peer (es ++ es') n' r := by
  obtain ⟨acked, hw, hp, hdst, hid, hphase⟩ := h
  have hstep : s.step.Goes n fun es' n' r => Stepped n₀ peer (es ++ es') n' r := by
    unfold Send.step
    split
    · rename_i htransmitting
      exact hw.stepped hp (transmitCopy_placidly hdst hid)
    · rename_i deadline hwaiting
      exact await_stepped deadline hw hp hdst hid (by simp [hwaiting])
  refine (keeps_bind _ _).2 ((keeps_attempt _).2 (hstep.imp ?_))
  rintro es' n₁ (e | s' | outcome) ⟨acked, hw₁, hp₁, hr⟩
  · exact ⟨acked, ⟨hw₁.config, hw₁.came, hw₁.counted⟩, rfl, trivial⟩
  · exact ⟨acked, hw₁, hp₁, hr⟩
  · simp only [onward_ok, keeps_bind, keeps_modify]
    split
    · exact ⟨acked, ⟨hw₁.config, hw₁.came, hw₁.counted⟩, rfl, hr⟩
    · exact ⟨acked, ⟨hw₁.config, hw₁.came, hw₁.counted⟩, rfl, hr⟩

/-- **A send to one peer begins**, unless its payload is too large. -/
theorem startSend_turned (hn : n.pending = none) {dst : Address} (hdst : dst ≠ Address.broadcast)
    (payload : Bytes) (maxRetries timeout : Nat) :
    (startSend dst payload maxRetries timeout).Goes n fun es' n' r => Turned n dst es' n' r := by
  simp only [startSend, checkPayload, allocateId, keeps_bind, keeps_node, onward_ok]
  split
  · exact ⟨false, ⟨rfl, rfl, rfl⟩, hn, trivial⟩
  · exact ⟨trivial, fun t => ⟨false, ⟨rfl, rfl, rfl⟩, rfl, rfl, rfl, fun _ => rfl⟩⟩

end

/-! ## Operations that wait for no acknowledgment -/

/-- No acknowledgment is said to have come, and no send goes on. -/
def Mute (r : Except Error (Turn Activity Reply)) : Prop :=
  (∀ src id, r ≠ .ok (.finish (.event (.ackMatched src id)))) ∧ ∀ s, r ≠ .ok (.again (.sending s))

/-- If nothing is pending, nothing gets so, and no acknowledgment is counted. -/
def Node.Clear (n n' : Node) : Prop :=
  n.pending = none → n'.pending = none ∧ n'.telemetry.acksReceived = n.telemetry.acksReceived

section

variable {n n' n'' : Node} {es : List Exchange} {thing : Node → List Exchange → Node → Prop}

theorem Node.Clear.trans (h : n.Clear n') (h' : n'.Clear n'') : n.Clear n'' := fun hp =>
  let ⟨hp', hacks⟩ := h hp
  let ⟨hp'', hacks'⟩ := h' hp'
  ⟨hp'', hacks'.trans hacks⟩

theorem Placid.clear (h : Placid n es n') : n.Clear n' := fun hp =>
  ⟨h.pending.trans hp, h.acks⟩

theorem Around.clear (hthing : ∀ n es n', thing n es n' → n.Clear n') (h : Around thing n es n') :
    n.Clear n' := by
  obtain ⟨before, middle, after⟩ := h
  exact (before.placid.clear.trans (hthing _ _ _ middle)).trans after.placid.clear

theorem Pops.clear (h : Pops n es n') : n.Clear n' := by
  obtain ⟨-, rfl⟩ := h
  exact fun hp => ⟨hp, rfl⟩

theorem Polls.clear (h : Polls n es n') : n.Clear n' := by
  obtain ⟨event, hpolling⟩ := h
  exact fun hp => ⟨(hpolling.unpending hp).1, (hpolling.unpending hp).2.1⟩

end

/-- However the action goes, nothing gets pending. -/
def Clears {α : Type} (x : Action α) : Prop :=
  ∀ n, x.Goes n fun _ n' _ => n.Clear n'

section

variable {α : Type} {x : Action α}

theorem Idles.clears (hx : Idles x) : Clears x := fun n => (hx n).imp fun _ _ _ h => h.placid.clear

theorem Does.clears {thing : Node → List Exchange → Node → Prop} (hx : Does thing x)
    (hthing : ∀ n es n', thing n es n' → n.Clear n') : Clears x := fun n =>
  (hx n).imp fun _ _ _ h => h.elim (·.placid.clear) (·.clear hthing)

/-- If the rest only says what came of an action, nothing gets pending in it, and the results are as
they are made. -/
theorem Clears.map (hx : Clears x) {f : α → Turn Activity Reply} (hf : ∀ a, Mute (.ok (f a)))
    (n : Node) :
    (x >>= fun a => pure (f a)).Goes n fun _ n' r => n.Clear n' ∧ Mute r :=
  (hx n).bind (fun _ _ a h => ⟨h, hf a⟩) fun _ _ _ h => ⟨h, by simp [Mute]⟩

end

/-- A datagram to all is sent at once. -/
theorem startSend_broadcast (payload : Bytes) (maxRetries timeout : Nat) :
    Placidly (fun r => ∀ s, r ≠ .ok (.again s))
      (startSend Address.broadcast payload maxRetries timeout) := by
  refine (Idles.checkPayload _).placidly.bind (fun _ => ?_) (by simp)
  refine Idles.allocateId.placidly.bind (fun id => ?_) (by simp)
  rw [if_pos rfl]
  exact (Does.sendData _ _ _ _ (by decide)).placidly.bind (fun _ => .pure (by simp)) (by simp)

/-! ## Whole operations -/

/-- How a turn of an operation that began at `n₀` may end, by what it waits for. -/
def Standing (awaited : Option Address) (n₀ : Node) (es : List Exchange)
    (r : Except Error (Turn Activity Reply)) (n : Node) : Prop :=
  match awaited with
  | some peer => ∃ r', r = r'.map (Turn.map .sending .outcome) ∧ Turned n₀ peer es n r'
  | none => n₀.Clear n ∧ Mute r

section

variable {n₀ n : Node} {es : List Exchange} {awaited : Option Address}

/-- What a send says of its turn is what its operation says. -/
theorem Turned.standing {peer : Address} {x : Action (Turn Send SendOutcome)}
    (hx : x.Goes n fun es' n' r => Turned n₀ peer (es ++ es') n' r) :
    (x >>= fun t => pure (t.map Activity.sending Reply.outcome)).Goes n
      fun es' n' r => Standing (some peer) n₀ (es ++ es') r n' := by
  refine hx.bind (fun es' n' t h => ⟨.ok t, rfl, ?_⟩) fun es' n' e h => ⟨.error e, rfl, h⟩
  simpa using h

theorem startSend_standing (hn : n.pending = none) (dst : Address) (payload : Bytes)
    (maxRetries timeout : Nat) :
    (startSend dst payload maxRetries timeout >>=
      fun t => pure (t.map Activity.sending Reply.outcome)).Goes n fun es' n' r =>
        Standing (if dst = Address.broadcast then none else some dst) n es' r n' := by
  split
  · rename_i hdst
    subst hdst
    refine (startSend_broadcast payload maxRetries timeout n).bind (fun es' n' t h => ?_)
      fun es' n' e h => ⟨h.1.clear, by simp [Mute]⟩
    refine ⟨h.1.clear, ?_⟩
    cases t with
    | again s => exact absurd rfl (h.2 s)
    | finish outcome => simp [Mute, Turn.map]
  · rename_i hdst
    have hstart : (startSend dst payload maxRetries timeout).Goes n fun es' n' r =>
        Turned n dst ([] ++ es') n' r := startSend_turned hn hdst payload maxRetries timeout
    exact Turned.standing hstart

/-- **Every operation begins as it should**, if nothing is pending. -/
theorem Operation.start_standing (op : Operation) (hn : n.pending = none) :
    op.start.Goes n fun es' n' r => Standing op.awaited n es' r n' := by
  cases op with
  | poll =>
    refine (poll_goes n).bind
      (fun es' n' e h => ⟨Polls.clear ⟨_, h⟩, fun src id he => ?_, by simp⟩)
      fun es' n' e h => ⟨Polls.clear ⟨_, h⟩, by simp [Mute]⟩
    cases he
    exact (h.unpending hn).2.2 src id rfl
  | recv =>
    exact (Does.recv.clears fun _ _ _ => Pops.clear).map (fun _ => by simp [Mute]) n
  | recvTimeout timeout => exact Idles.now.clears.map (fun _ => by simp [Mute]) n
  | listen flag => exact ⟨fun hp => ⟨hp, rfl⟩, by simp [Mute]⟩
  | sendUnreliable dst payload =>
    have hclears : Clears (Action.sendUnreliable dst payload) :=
      (Does.sendUnreliable dst payload).clears fun _ _ _ h => (Around.here h).placid.clear
    exact hclears.map (fun _ => by simp [Mute]) n
  | sendReliable dst payload =>
    exact (keeps_bind _ _).2 (keeps_node.2 (startSend_standing hn dst payload _ _))
  | sendReliableWith dst payload maxRetries timeout =>
    exact startSend_standing hn dst payload maxRetries timeout

/-- **Every turn keeps to it.** -/
theorem Activity.turn_standing {a : Activity} (h : Standing awaited n₀ es (.ok (.again a)) n) :
    a.turn.Goes n fun es' n' r => Standing awaited n₀ (es ++ es') r n' := by
  cases awaited with
  | some peer =>
    obtain ⟨r', hr, hturned⟩ := h
    rcases r' with e | s | outcome
    · cases hr
    · obtain rfl : a = .sending s := by simpa [Except.map, Turn.map] using hr
      exact Turned.standing (sendTurn_turned hturned)
    · simp [Except.map, Turn.map] at hr
  | none =>
    obtain ⟨hclear, -, hmute⟩ := h
    cases a with
    | receiving deadline =>
      have hclears : Clears (receiveTurn deadline) := fun n =>
        (receiveTurn_goes deadline n).imp fun _ _ _ h => h.elim (·.placid.clear)
          (·.elim (·.clear fun _ _ _ => Pops.clear) (·.clear fun _ _ _ => Polls.clear))
      exact (hclears.map (fun t => by cases t <;> simp [Mute, Turn.map]) n).imp
        fun _ _ _ h => ⟨hclear.trans h.1, h.2⟩
    | listening flag =>
      have hclears : Clears (listenTurn flag) :=
        (Does.listenTurn flag).clears fun _ _ _ => Polls.clear
      exact (hclears.map (fun t => by cases t <;> simp [Mute, Turn.map]) n).imp
        fun _ _ _ h => ⟨hclear.trans h.1, h.2⟩
    | sending s => exact absurd rfl (hmute s)

/-- **However far an operation has come**, its turn ends as it should. -/
theorem Operation.Reaches.standing {op : Operation} {rest} (hr : op.Reaches n es rest)
    (hn : n.pending = none) {es' : List Exchange} {r : Except Error (Turn Activity Reply)}
    {n' : Node} (hpath : Task.Path rest es' (.done (r, n'))) :
    Standing op.awaited n (es ++ es') r n' :=
  hr.upholds (fun _ _ _ hpath => (op.start_standing hn).path hpath)
    (fun _ _ _ _ _ _ hstanding hpath => (Activity.turn_standing hstanding).path hpath) hpath

/-- **Once an operation is over, nothing is pending.** -/
theorem Standing.over {r : Except Error (Turn Activity Reply)} (h : Standing awaited n₀ es r n)
    (hn : n₀.pending = none) (hr : ∀ a, r ≠ .ok (.again a)) : n.pending = none := by
  cases awaited with
  | some peer =>
    obtain ⟨r', rfl, acked, -, hpending, -⟩ := h
    rcases r' with e | s | outcome
    · exact hpending
    · exact absurd rfl (hr (.sending s))
    · exact hpending
  | none => exact (h.1 hn).1

end

/-! ## All its life -/

/-- Nothing is pending at a node at rest, and so at a busy one when it began what it is at. -/
def Status.Tidy : Status → Prop
  | .resting n => n.pending = none
  | .busy rest => ∃ op n es, n.pending = none ∧ Operation.Reaches op n es rest

/-- **A node stays tidy.** -/
theorem Life.tidy {n₀ : Node} {h : History} {st : Status} (hl : Life n₀ h st)
    (h₀ : n₀.pending = none) : st.Tidy := by
  induction hl with
  | start => exact h₀
  | redirect channel before ih => exact ih
  | step before next ih =>
    cases next with
    | begin n op => exact ⟨op, n, [], ih, .begun⟩
    | exchange r next a =>
      obtain ⟨op, n, es, hn, hreach⟩ := ih
      exact ⟨op, n, _, hn, hreach.asked a⟩
    | turn a n' =>
      obtain ⟨op, n, es, hn, hreach⟩ := ih
      exact ⟨op, n, es, hn, hreach.turned⟩
    | finish reply n' =>
      obtain ⟨op, n, es, hn, hreach⟩ := ih
      exact (hreach.standing hn (.here _)).over hn (by simp)
    | fail e n' =>
      obtain ⟨op, n, es, hn, hreach⟩ := ih
      exact (hreach.standing hn (.here _)).over hn (by simp)

/-- What holds at the end of a turn of an operation that a node `n` at rest began, after these
exchanges. -/
structure Resolves (c : Config) (n : Node) (op : Operation) (es : List Exchange)
    (r : Except Error (Turn Activity Reply)) (n' : Node) : Prop where
  /-- Nothing is pending when the operation is over, well or badly. -/
  returned : (∀ a, r ≠ .ok (.again a)) → n'.pending = none
  /-- If it waits for no acknowledgment, none is counted or reported, and nothing gets pending. -/
  unawaited : op.awaited = none → n'.pending = none ∧
    n'.telemetry.acksReceived = n.telemetry.acksReceived ∧
    ∀ src id, r ≠ .ok (.finish (.event (.ackMatched src id)))
  /-- If it waits for one, that is counted, as often as it comes, and that is once at most. -/
  awaited : ∀ peer, op.awaited = some peer →
    n'.telemetry.acksReceived =
      n.telemetry.acksReceived + Exchange.acksOf c peer n.nextId es ∧
    Exchange.acksOf c peer n.nextId es ≤ 1
  /-- It ends as acknowledged if it has come, and as failed if it has not. -/
  outcome : ∀ peer outcome, op.awaited = some peer → r = .ok (.finish (.outcome outcome)) →
    outcome.id = n.nextId ∧
    (outcome.isAcked = true → Exchange.acksOf c peer n.nextId es = 1) ∧
    (outcome.isFailed = true → Exchange.acksOf c peer n.nextId es = 0)

theorem Standing.resolves {op : Operation} {n n' : Node} {es : List Exchange}
    {r : Except Error (Turn Activity Reply)} (h : Standing op.awaited n es r n')
    (hn : n.pending = none) : Resolves n.config n op es r n' where
  returned := h.over hn
  unawaited hop := by
    rw [hop] at h
    obtain ⟨hclear, hmute, -⟩ := h
    exact ⟨(hclear hn).1, (hclear hn).2, hmute⟩
  awaited peer hop := by
    rw [hop] at h
    obtain ⟨r', rfl, acked, hw, -, -⟩ := h
    exact ⟨by rw [hw.counted, hw.came], hw.came ▸ acked.toNat_le⟩
  outcome peer outcome hop hr := by
    rw [hop] at h
    obtain ⟨r', rfl, acked, hw, -, hstands⟩ := h
    rcases r' with e | s | outcome'
    · cases hr
    · cases hr
    · obtain rfl : outcome' = outcome := by simpa [Except.map, Turn.map] using hr
      obtain ⟨hid, hacked, hfailed⟩ := hstands
      rw [hw.came]
      refine ⟨hid, fun hyes => ?_, fun hyes => ?_⟩
      · rw [← hacked, hyes]
        rfl
      · rw [hyes] at hfailed
        rw [show acked = false by simpa using hfailed.symm]
        rfl

/-- What handling an acknowledgment does: it resolves the send that it belongs to, or raises one
counter and changes nothing else. -/
inductive AckHandled (n : Node) (h : Header) (event : Except Error PollEvent) (n' : Node) :
    Prop where
  /-- It is for this node, of the number that is pending and from the peer that it went to. -/
  | resolved {p : Pending} (hp : n.pending = some p) (hnew : p.acked = false)
      (hh : h = ⟨n.address, p.dst, p.id, h.flags⟩) (hevent : event = .ok (.ackMatched h.src h.id))
      (hn : n' = { n with pending := some { p with acked := true }, telemetry := n'.telemetry })
      (counted : Raises (some .acksReceived) n.telemetry n'.telemetry)
  /-- It is any other that the node takes in. -/
  | unmatched (hh : ∀ p, n.pending = some p → p.acked = false →
        h ≠ ⟨n.address, p.dst, p.id, h.flags⟩)
      (ha : n.config.filter.accepts h = true) (hevent : event = .ok (.ackIgnored h.src h.id))
      (hn : n' = { n with telemetry := n'.telemetry })
      (counted : Raises (some .unmatchedAcks) n.telemetry n'.telemetry)
  /-- It is for another node, which is not listened to. -/
  | filtered (ha : n.config.filter.accepts h = false) (hevent : event = .ok (.filtered h.dst))
      (hn : n' = { n with telemetry := n'.telemetry })
      (counted : Raises (some .filtered) n.telemetry n'.telemetry)

/-- **An acknowledgment resolves the send that it belongs to, or nothing.** -/
theorem Handling.ackHandled {n n' : Node} {es : List Exchange} {r : Radio.Reception} {f : Frame}
    {event : Except Error PollEvent} (hh : Handling n r es n' event)
    (hf : Frame.decode n.config.frame r.bytes = .ok f) (hack : f.header.isAck = true) :
    es = [] ∧ AckHandled n f.header event n' := by
  cases hh with
  | dropped hdefect =>
    rw [hf] at hdefect
    cases hdefect
  | filtered hg ha =>
    obtain rfl := Except.ok.inj (hg.symm.trans hf)
    exact ⟨rfl, .filtered ha rfl rfl fun k => by cases k <;> rfl⟩
  | matched ht hisAck hw =>
    obtain rfl := ht.eq_of_decode hf
    obtain ⟨p, hp, hnew, hheader⟩ := (n.awaits_iff _).1 hw
    refine ⟨rfl, .resolved hp hnew hheader rfl ?_ fun k => by cases k <;> rfl⟩
    simp only [Node.resolve, Node.hearing, Node.count, hp, Option.map_some]
  | ignored ht hisAck hw =>
    obtain rfl := ht.eq_of_decode hf
    refine ⟨rfl, .unmatched (fun p hp hnew hheader => ?_) ht.accepted rfl rfl
      fun k => by cases k <;> rfl⟩
    rw [(n.awaits_iff _).2 ⟨p, hp, hnew, hheader⟩] at hw
    cases hw
  | duplicate ht hdata =>
    obtain rfl := ht.eq_of_decode hf
    rw [hack] at hdata
    cases hdata
  | overflowed ht hdata =>
    obtain rfl := ht.eq_of_decode hf
    rw [hack] at hdata
    cases hdata
  | delivered ht hdata =>
    obtain rfl := ht.eq_of_decode hf
    rw [hack] at hdata
    cases hdata

/-- What taking an acknowledgment does in a stretch: one of three counters is one up, and nothing is
known, handed over or queued that was not before. -/
structure AckTaken (n : Node) (h : Header) (es : List Exchange) (n' : Node) : Prop where
  /-- It is counted, as a frame for another node if it is not taken in. -/
  counted : (n.config.filter.accepts h = true ∧
      (Raises (some .acksReceived) n.telemetry n'.telemetry ∨
        Raises (some .unmatchedAcks) n.telemetry n'.telemetry)) ∨
    (n.config.filter.accepts h = false ∧ Raises (some .filtered) n.telemetry n'.telemetry)
  /-- The same numbers are known. -/
  lastAccepted : n'.lastAccepted = n.lastAccepted
  /-- Nothing is handed over. -/
  handed : es.filterMap Exchange.handed = []
  /-- Nothing is sent. -/
  sent : es.filterMap Exchange.sent = []
  /-- The same deliveries wait. -/
  sink : n'.sink = n.sink

theorem Handled.ackTaken {n n' : Node} {es : List Exchange} {r : Radio.Reception} {f : Frame}
    (h : Handled n r es n') (hf : Frame.decode n.config.frame r.bytes = .ok f)
    (hack : f.header.isAck = true) : AckTaken n f.header es n' := by
  obtain ⟨hbefore, hh, hafter, -, -, hsent, hhanded⟩ := h
  obtain ⟨rfl, hhandled⟩ := hh.ackHandled (hbefore.config ▸ hf) hack
  have hraises : ∀ {k}, Raises (some k) _ _ → Raises (some k) n.telemetry n'.telemetry := fun hk =>
    (hbefore.counters.trans_left hk).trans_right hafter.counters
  cases hhandled with
  | resolved hp hnew hheader hevent hn counted =>
    have hlocal : n.config.filter.accepts f.header = true := by
      rw [hheader, Node.address, hbefore.config]
      exact AddressFilter.accepts_of_isLocal (beq_self_eq_true _)
    refine ⟨.inl ⟨hlocal, .inl (hraises counted)⟩, ?_, hhanded, hsent, ?_⟩
    · rw [hafter.lastAccepted, hn, hbefore.lastAccepted]
    · rw [hafter.sink, hn, hbefore.sink]
  | unmatched hheader ha hevent hn counted =>
    refine ⟨.inl ⟨hbefore.config ▸ ha, .inr (hraises counted)⟩, ?_, hhanded, hsent, ?_⟩
    · rw [hafter.lastAccepted, hn, hbefore.lastAccepted]
    · rw [hafter.sink, hn, hbefore.sink]
  | filtered ha hevent hn counted =>
    refine ⟨.inr ⟨hbefore.config ▸ ha, hraises counted⟩, ?_, hhanded, hsent, ?_⟩
    · rw [hafter.lastAccepted, hn, hbefore.lastAccepted]
    · rw [hafter.sink, hn, hbefore.sink]

/-- **An acknowledgment resolves only the send that it belongs to**, on any radio.  At rest nothing
is pending.  An operation that a node begins counts no acknowledgment unless it is a send to one peer,
and then only that of its number by that peer, once, and it ends accordingly.  Any other
acknowledgment that is handled raises one counter and changes nothing else, and none changes what is
known of peers or waits in the queue in the stretch that takes it. -/
theorem Life.acks_resolve {c : Config} {es₀ : List Exchange} {n₀ : Node}
    (hup : Task.Path (bringUp c) es₀ (.done (.ok n₀))) {h : History} {n : Node}
    (hl : Life n₀ h (.resting n)) :
    n.pending = none ∧
    (∀ op es rest es' r n', op.Reaches n es rest → Task.Path rest es' (.done (r, n')) →
      Resolves c n op (es ++ es') r n') ∧
    ∀ n₁ r f es n', n₁.config = c → Frame.decode c.frame r.bytes = .ok f →
      f.header.isAck = true →
        (∀ event, Task.Path (handle r n₁) es (.done (event, n')) →
          es = [] ∧ AckHandled n₁ f.header event n') ∧
        ∀ result, Stretch n₁ es (result, n') → es.filterMap Exchange.heard = [r] →
          AckTaken n₁ f.header es n' := by
  obtain ⟨-, rfl⟩ := bringUp_path hup
  have hn : n.pending = none := hl.tidy rfl
  obtain rfl : n.config = c := hl.visible (upheld_config c) rfl rfl
  refine ⟨hn, fun op es rest es' r n' hreach hpath => ?_, ?_⟩
  · exact (hreach.standing hn hpath).resolves hn
  · intro n₁ r f es n' hconfig hf hack
    rw [← hconfig] at hf
    refine ⟨fun event hpath => ((handle_goes r n₁).path hpath).ackHandled hf hack, ?_⟩
    exact fun result hs hr => (hs.handled_of_heard hr).ackTaken hf hack

set_option maxRecDepth 2000 in
/-- A fresh node sends to node 2 and takes its acknowledgment.  That is counted, and the send ends
as acknowledged. -/
theorem acks_resolve_sent :
    ∃ (f : Frame) (es : List Exchange) (n' : Node), f = ⟨⟨1, 2, 0, Flag.ack⟩, []⟩ ∧
      es.filterMap Exchange.heard = [⟨f.wire {}, -40⟩] ∧
      Resolves {} (Node.fresh {}) (.sendReliable 2 [7]) es
        (.ok (.finish (.outcome (.acked 0 1 0)))) n' ∧
      Exchange.acksOf {} 2 0 es = 1 := by
  obtain ⟨f, hf⟩ : ∃ f : Frame, f = ⟨⟨1, 2, 0, Flag.ack⟩, []⟩ := ⟨_, rfl⟩
  obtain ⟨es, n', hheard, hreach⟩ : ∃ es n', es.filterMap Exchange.heard = [⟨f.wire {}, -40⟩] ∧
      Operation.Reaches (.sendReliable 2 [7]) (Node.fresh {}) es
        (.done (.ok (.finish (.outcome (.acked 0 1 0))), n')) := by
    subst hf
    have hbegun : (Operation.sendReliable 2 [7]).Reaches (Node.fresh {}) [] _ := .begun
    have hstarted := (hbegun.asked (r := .now) (0 : Nat)).turned
    have hswitched := hstarted.asked (r := .radio (.setMode .transmit)) (.ok ())
    have haired := hswitched.asked (r := .radio (.transmit _)) (.ok ())
    have hrestored := haired.asked (r := .radio (.setMode .receive)) (.ok ())
    have hwaiting := (hrestored.asked (r := .now) (0 : Nat)).turned
    have hlistens := (hwaiting.asked (r := .now) (0 : Nat)).asked (r := .mode) .receive
    have hready := hlistens.asked (r := .radio .frameReady) (.ok true)
    have htaken := hready.asked (r := .radio .receive)
      (.ok (some ⟨(⟨⟨1, 2, 0, Flag.ack⟩, []⟩ : Frame).wire {}, -40⟩))
    have hlooked := (htaken.asked (r := .radio (.setMode .receive)) (.ok ())).turned
    exact ⟨_, _, rfl, hlooked.asked (r := .now) (0 : Nat)⟩
  have hresolves := (Life.acks_resolve bringUp_usual .start).2.1 _ _ _ [] _ n' hreach (.here _)
  rw [List.append_nil] at hresolves
  exact ⟨f, es, n', hf, hheard, hresolves, (hresolves.outcome 2 _ rfl rfl).2.1 rfl⟩

set_option maxRecDepth 2000 in
/-- **An acknowledgment that nothing waits for need not be counted as unmatched.**  A fresh node of
address 1 that takes one for node 2 counts it as a frame for another node. -/
theorem filtered_not_unmatched :
    ¬∀ (c : Config) (es₀ : List Exchange) (n₀ n : Node) (h : History),
      Task.Path (bringUp c) es₀ (.done (.ok n₀)) → Life n₀ h (.resting n) →
      ∀ es r f event n', Task.Path (Operation.poll.start n) es (.done (event, n')) →
        es.filterMap Exchange.heard = [r] → Frame.decode c.frame r.bytes = .ok f →
        f.header.isAck = true → Raises (some .unmatchedAcks) n.telemetry n'.telemetry := by
  intro hall
  have hvalid : ({} : Config).frame.Valid := (bringUp_path bringUp_usual).1.frame
  obtain ⟨n', hpath, hcounted⟩ : ∃ n', Task.Path (Operation.poll.start (Node.fresh {}))
      [⟨.mode, .receive⟩, ⟨.radio .frameReady, .ok true⟩,
        ⟨.radio .receive, .ok (some ⟨(⟨⟨2, 3, 5, Flag.ack⟩, []⟩ : Frame).wire {}, -40⟩)⟩,
        ⟨.radio (.setMode .receive), .ok ()⟩]
      (.done (.ok (.finish (.event (.filtered 2))), n')) ∧ n'.telemetry.unmatchedAcks = 0 :=
    ⟨_, .step (.step (.step (.step (.here _)))), rfl⟩
  have hraised := hall {} _ _ _ [] bringUp_usual .start _ _ _ _ n' hpath rfl
    (Frame.decode_wire hvalid (by decide)) (by decide) .unmatchedAcks
  simp [Telemetry.tally, hcounted] at hraised

end Link
end PacketRadio
