/-
# Every reception is counted once

rflink specification, §4.5: the counters of inbound frames.

A node that takes a frame off its radio raises one of nine counters by one,
in the same turn and before anything else can fail.  Nothing else raises them.

| reception | counter |
| --- | --- |
| no frame | the one for the sort of defect, of which there are three |
| frame for another node | `filtered` |
| acknowledgment the pending send waits for | `acksReceived` |
| any other acknowledgment | `unmatchedAcks` |
| the number last accepted from its sender | `duplicates` |
| a new number, no room | `deliveryOverflow` |
| a new number | `delivered` |

This holds whatever the radio, the clock and a channel answer: an action
either takes nothing and raises nothing (`Quiet`), or takes at most one frame
and raises as many counters (`Single`).

Main statement: `receptions_counted`.
-/

import PacketRadio.Proofs.Link.Ledger

namespace PacketRadio
namespace Link

open Link.Action

/-! ## The counters -/

/-- The counters that receptions are divided among. -/
inductive Counter where
  /-- Datagrams handed to the application. -/
  | delivered
  /-- Datagrams recognised as repeated. -/
  | duplicates
  /-- Datagrams for which there was no room. -/
  | overflow
  /-- Frames for other nodes. -/
  | filtered
  /-- Acknowledgments that a send was waiting for. -/
  | acksReceived
  /-- Acknowledgments that nothing was waiting for. -/
  | unmatchedAcks
  /-- Receptions that were no frames. -/
  | dropped (kind : Frame.Defect.Kind)
  deriving DecidableEq, Repr

/-- The drops of a sort. -/
def DropCounts.tally (c : DropCounts) : Frame.Defect.Kind → Nat
  | .sync => c.sync
  | .length => c.length
  | .checksum => c.checksum

/-- What a counter stands at. -/
def Telemetry.tally (t : Telemetry) : Counter → Nat
  | .delivered => t.delivered
  | .duplicates => t.duplicates
  | .overflow => t.deliveryOverflow
  | .filtered => t.filtered
  | .acksReceived => t.acksReceived
  | .unmatchedAcks => t.unmatchedAcks
  | .dropped kind => t.dropped.tally kind

/-- The counter that an event stands for. -/
def PollEvent.counter : PollEvent → Option Counter
  | .idle => none
  | .delivered _ _ => some .delivered
  | .duplicate _ _ => some .duplicates
  | .overflowed _ _ => some .overflow
  | .ackMatched _ _ => some .acksReceived
  | .ackIgnored _ _ => some .unmatchedAcks
  | .dropped kind => some (.dropped kind)
  | .filtered _ => some .filtered

theorem PollEvent.counter_isSome {e : PollEvent} (h : e ≠ .idle) : ∃ k, e.counter = some k := by
  cases e with
  | idle => exact absurd rfl h
  | _ => exact ⟨_, rfl⟩

/-- The counter is one up, and no other has changed; without a counter none has. -/
def Raises (o : Option Counter) (t t' : Telemetry) : Prop :=
  ∀ k, t'.tally k = t.tally k + if o = some k then 1 else 0

section

variable {o : Option Counter} {t t' t'' : Telemetry}

theorem Raises.refl (t : Telemetry) : Raises none t t := fun _ => rfl

theorem Raises.trans_left (h : Raises none t t') (h' : Raises o t' t'') : Raises o t t'' :=
  fun k => (h' k).trans (congrArg (· + _) (h k))

theorem Raises.trans_right (h : Raises o t t') (h' : Raises none t' t'') : Raises o t t'' :=
  fun k => (h' k).trans (h k)

/-- Only one counter is one up. -/
theorem Raises.unique {k k' : Counter} (h : Raises (some k) t t') (h' : Raises (some k') t t') :
    k' = k := by
  have hup := (h k).symm.trans (h' k)
  rw [if_pos rfl] at hup
  by_contra hne
  rw [if_neg fun hsame => hne (Option.some.inj hsame)] at hup
  omega

/-- A drop raises the counter of its sort. -/
theorem raises_record (t : Telemetry) (kind : Frame.Defect.Kind) :
    Raises (some (.dropped kind)) t { t with dropped := t.dropped.record kind } := by
  rintro (_ | _ | _ | _ | _ | _ | kind')
  case dropped => cases kind <;> cases kind' <;> rfl
  all_goals rfl

/-- **One counter up is one reception more.** -/
theorem Raises.receptions (h : Raises o t t') : t'.receptions = t.receptions + o.toList.length := by
  have hd := h .delivered
  have hr := h .duplicates
  have ho := h .overflow
  have hf := h .filtered
  have ha := h .acksReceived
  have hu := h .unmatchedAcks
  have hs := h (.dropped .sync)
  have hl := h (.dropped .length)
  have hc := h (.dropped .checksum)
  simp only [Telemetry.tally, DropCounts.tally] at hd hr ho hf ha hu hs hl hc
  simp only [Telemetry.receptions, DropCounts.total, hd, hr, ho, hf, ha, hu, hs, hl, hc]
  rcases o with _ | (_ | _ | _ | _ | _ | _ | _ | _ | _) <;> simp <;> omega

end

/-! ## What is taken and what is counted -/

/-- The receptions among some exchanges. -/
def Exchange.taken (es : List Exchange) : Nat :=
  (es.filterMap heard).length

/-- The receptions in a history. -/
def History.taken (h : History) : Nat :=
  (h.filterMap Occurrence.heard).length

/-- The discipline of counting: the record is the number of receptions, everything may be asked
for, and whenever the node can be looked at its counters come to that number. -/
def counting : Discipline Nat where
  blank := 0
  note g o := g + o.heard.toList.length
  permits _ _ := True
  concludes _ _ := True
  AtRest g n := n.telemetry.receptions = g
  UnderWay g n _ := n.telemetry.receptions = g

@[simp] theorem counting_note (g : Nat) (e : Exchange) :
    counting.contract.note g e = g + e.heard.toList.length := rfl

/-- What is shown of an action: the counter that it raises is one up, and as much has come in. -/
def Counted (o : Option Counter) (g : Nat) (n : Node) (g' : Nat) (n' : Node) : Prop :=
  g' = g + o.toList.length ∧ Raises o n.telemetry n'.telemetry

section

variable {o : Option Counter} {g g' g'' : Nat} {n n' n'' : Node}

theorem Counted.refl (g : Nat) (n : Node) : Counted none g n g n := ⟨rfl, .refl _⟩

theorem Counted.trans_left (h : Counted none g n g' n') (h' : Counted o g' n' g'' n'') :
    Counted o g n g'' n'' := by
  obtain ⟨rfl, hr⟩ := h
  exact ⟨h'.1, hr.trans_left h'.2⟩

theorem Counted.trans_right (h : Counted o g n g' n') (h' : Counted none g' n' g'' n'') :
    Counted o g n g'' n'' := by
  obtain ⟨rfl, hr⟩ := h'
  exact ⟨h.1, h.2.trans_right hr⟩

end

/-- However the action goes, what it raises has come in, and that and its result are as `P` says. -/
def Counts {α : Type} (P : Option Counter → Except Error α → Prop) (x : Action α) : Prop :=
  ∀ g n, x.Keeps counting.contract g n fun g' n' r => ∃ o, Counted o g n g' n' ∧ P o r

/-- The action takes no frame and raises no counter. -/
def Quiet {α : Type} (x : Action α) : Prop :=
  Counts (fun o _ => o = none) x

/-- The action takes at most one frame and raises as many counters. -/
def Single {α : Type} (x : Action α) : Prop :=
  Counts (fun _ _ => True) x

/-- The same, and the event that the action ends with names the counter. -/
def Named (x : Action PollEvent) : Prop :=
  Counts (fun o r => ∀ e, r = .ok e → e.counter = o) x

section

variable {α β : Type}

namespace Counts

variable {P : Option Counter → Except Error α → Prop} {P' : Option Counter → Except Error β → Prop}

theorem imp {x : Action α} {Q : Option Counter → Except Error α → Prop} (hx : Counts P x)
    (hQ : ∀ o r, P o r → Q o r) : Counts Q x := by
  intro g n
  refine (hx g n).imp ?_
  rintro g' n' r ⟨o, hc, hP⟩
  exact ⟨o, hc, hQ o r hP⟩

/-- **What comes before may be quiet.** -/
theorem before {x : Action α} {f : α → Action β} (hx : Quiet x) (hf : ∀ a, Counts P' (f a))
    (herror : ∀ e, P' none (.error e)) : Counts P' (x >>= f) := by
  intro g n
  refine (hx g n).bind ?_ ?_
  · rintro g' n' a ⟨_, hc, rfl⟩
    refine (hf a g' n').imp ?_
    rintro g'' n'' r ⟨o, hc', hP⟩
    exact ⟨o, hc.trans_left hc', hP⟩
  · rintro g' n' e ⟨_, hc, rfl⟩
    exact ⟨none, hc, herror e⟩

/-- **What comes after may be quiet.** -/
theorem after {x : Action α} {f : α → Action β} (hx : Counts P x) (hf : ∀ a, Quiet (f a)) :
    Single (x >>= f) := by
  intro g n
  refine (hx g n).bind ?_ ?_
  · rintro g' n' a ⟨o, hc, -⟩
    refine (hf a g' n').imp ?_
    rintro g'' n'' r ⟨_, hc', rfl⟩
    exact ⟨o, hc.trans_right hc', trivial⟩
  · rintro g' n' e ⟨o, hc, -⟩
    exact ⟨o, hc, trivial⟩

theorem attempt {x : Action α} (hx : Counts P x) :
    Counts (fun o r => ∀ r', r = .ok r' → P o r') (Action.attempt x) := by
  intro g n
  refine (keeps_attempt x).2 ((hx g n).imp ?_)
  rintro g' n' r ⟨o, hc, hP⟩
  exact ⟨o, hc, fun r' hr => Except.ok.inj hr ▸ hP⟩

end Counts

namespace Quiet

theorem bind {x : Action α} {f : α → Action β} (hx : Quiet x) (hf : ∀ a, Quiet (f a)) :
    Quiet (x >>= f) :=
  Counts.before hx hf fun _ => rfl

theorem bind_single {x : Action α} {f : α → Action β} (hx : Quiet x) (hf : ∀ a, Single (f a)) :
    Single (x >>= f) :=
  Counts.before hx hf fun _ => trivial

theorem single {x : Action α} (hx : Quiet x) : Single x := Counts.imp hx fun _ _ _ => trivial

theorem attempt {x : Action α} (hx : Quiet x) : Quiet (Action.attempt x) := fun g n =>
  (keeps_attempt x).2 (hx g n)

/-- Counters that are not about receptions may go up. -/
theorem modify {f : Node → Node} (hf : ∀ n, Raises none n.telemetry (f n).telemetry) :
    Quiet (Action.modify f) := fun _ n => ⟨none, ⟨rfl, hf n⟩, rfl⟩

theorem ofExcept (x : Except Error α) : Quiet (Action.ofExcept x) := fun g n =>
  ⟨none, .refl g n, rfl⟩

theorem pure (a : α) : Quiet (Pure.pure a : Action α) := ofExcept (.ok a)

theorem fail (e : Error) : Quiet (Action.fail e : Action α) := ofExcept (.error e)

theorem node : Quiet Action.node := fun g n => ⟨none, .refl g n, rfl⟩

theorem ask {r : Request} (hr : ∀ a, Exchange.heard ⟨r, a⟩ = none) : Quiet (Action.ask r) := by
  refine fun g n => ⟨trivial, fun a => ?_⟩
  rw [counting_note, hr]
  exact ⟨none, .refl g n, rfl⟩

theorem radio {call : Radio.Call} (hcall : ∀ a, Exchange.heard ⟨.radio call, a⟩ = none) :
    Quiet (Action.radio call) := by
  refine fun g n => ⟨trivial, fun a => ?_⟩
  rw [counting_note, hcall]
  exact ⟨none, .refl g n, rfl⟩

theorem setMode (m : Radio.Mode) : Quiet (Action.setMode m) := radio fun _ => rfl

theorem now : Quiet Action.now := ask fun _ => rfl

theorem left (deadline : Deadline) : Quiet (Action.left deadline) := by
  cases deadline with
  | none => exact pure _
  | some t => exact now.bind fun _ => pure _

theorem recv : Quiet Action.recv := fun _ _ => ⟨none, ⟨rfl, .refl _⟩, rfl⟩

theorem transmit (f : Frame) : Quiet (Action.transmit f) := by
  refine node.bind fun n => ?_
  split
  · exact fail _
  · exact (setMode _).bind fun _ => (radio fun _ => rfl).attempt.bind fun sent =>
      (setMode _).attempt.bind fun restored => (ofExcept sent).bind fun _ => ofExcept restored

theorem sendAck (h : Header) : Quiet (Action.sendAck h) :=
  node.bind fun _ => (transmit _).bind fun _ => modify fun _ k => by cases k <;> rfl

theorem goIdle : Quiet Action.goIdle :=
  (setMode _).attempt.bind fun _ => pure _

end Quiet
end

/-! ## Frames that come in -/

/-- The action takes no frame, raises no counter and does not fail. -/
def Safe {α : Type} (x : Action α) : Prop :=
  Counts (fun o r => o = none ∧ ∃ a, r = .ok a) x

/-- The action takes no frame and raises no counter, and if it ends well it does so with this
event. -/
def Reports (e : PollEvent) (x : Action PollEvent) : Prop :=
  Counts (fun o r => o = none ∧ ∀ e', r = .ok e' → e' = e) x

/-- The action takes no frame and raises one counter, even if it fails, and the event that it ends
with names it. -/
def Records (x : Action PollEvent) : Prop :=
  ∀ g n, x.Keeps counting.contract g n fun g' n' r =>
    g' = g ∧ ∃ k, Raises (some k) n.telemetry n'.telemetry ∧ ∀ e, r = .ok e → e.counter = some k

theorem Safe.node : Safe Action.node := fun g n => ⟨none, .refl g n, rfl, n, rfl⟩

theorem Safe.modify {f : Node → Node} (hf : ∀ n, Raises none n.telemetry (f n).telemetry) :
    Safe (Action.modify f) := fun _ n => ⟨none, ⟨rfl, hf n⟩, rfl, (), rfl⟩

/-- A sink takes a delivery or refuses it; neither is counted here. -/
theorem Safe.deliver (d : Delivery) : Safe (Action.deliver d) := by
  intro g n
  simp only [Action.deliver, keeps_bind, keeps_node, onward_ok]
  split
  · refine ⟨trivial, fun taken => ?_⟩
    cases taken with
    | false => exact ⟨none, .refl g n, rfl, false, rfl⟩
    | true => exact ⟨none, .refl g n, rfl, true, rfl⟩
  · split
    · exact ⟨trivial, fun _ => ⟨none, ⟨rfl, .refl _⟩, rfl, true, rfl⟩⟩
    · exact ⟨none, .refl g n, rfl, false, rfl⟩

theorem Reports.pure (e : PollEvent) : Reports e (Pure.pure e) := fun g n =>
  ⟨none, .refl g n, rfl, fun _ h => (Except.ok.inj h).symm⟩

theorem Reports.after {α : Type} {x : Action α} (hx : Quiet x) (e : PollEvent) :
    Reports e (x >>= fun _ => Pure.pure e) :=
  Counts.before hx (fun _ => Reports.pure e) fun _ => ⟨rfl, fun _ h => by cases h⟩

namespace Records

theorem before {α : Type} {x : Action α} {f : α → Action PollEvent} (hx : Safe x)
    (hf : ∀ a, Records (f a)) : Records (x >>= f) := by
  intro g n
  refine (hx g n).bind ?_ ?_
  · rintro g' n' a ⟨_, ⟨rfl, hr⟩, rfl, -⟩
    refine (hf a g n').imp ?_
    rintro g'' n'' r ⟨hg, k, hk, hname⟩
    exact ⟨hg, k, hr.trans_left hk, hname⟩
  · rintro g' n' e ⟨_, -, -, a, h⟩
    cases h

/-- **A counter is raised, and nothing that is done then touches it.** -/
theorem modify {f : Node → Node} {x : Action PollEvent} {e : PollEvent} {k : Counter}
    (hf : ∀ n, Raises (some k) n.telemetry (f n).telemetry) (he : e.counter = some k)
    (hx : Reports e x) : Records (Action.modify f >>= fun _ => x) := by
  intro g n
  refine (keeps_bind _ _).2 ((keeps_modify f).2 ?_)
  rw [onward_ok]
  refine (hx g (f n)).imp ?_
  rintro g' n' r ⟨_, ⟨rfl, hr⟩, rfl, hresult⟩
  refine ⟨rfl, k, (hf n).trans_right hr, fun e' h => ?_⟩
  rw [hresult e' h, he]

theorem handleAck (h : Header) : Records (Action.handleAck h) := by
  refine before .node fun n => ?_
  split
  · exact modify (k := .acksReceived) (fun n k => by cases k <;> rfl) rfl (.pure _)
  · exact modify (k := .unmatchedAcks) (fun n k => by cases k <;> rfl) rfl (.pure _)

/-- The acknowledgment that is owed for a datagram comes after the count, and may fail. -/
theorem acknowledged {f : Node → Node} {e : PollEvent} {k : Counter} (owed : Prop) [Decidable owed]
    (h : Header) (hf : ∀ n, Raises (some k) n.telemetry (f n).telemetry)
    (he : e.counter = some k) :
    Records (Action.modify f >>= fun _ =>
      if owed then sendAck h >>= fun _ => Pure.pure e else Pure.pure e) := by
  refine modify hf he ?_
  split
  · exact .after (.sendAck h) e
  · exact .pure e

theorem handleData (f : Frame) (rssi : Int) : Records (Action.handleData f rssi) := by
  refine before .node fun n => ?_
  split
  · exact acknowledged (k := .duplicates) _ _ (fun n k => by cases k <;> rfl) rfl
  · refine before (.deliver _) fun taken => ?_
    split
    · exact acknowledged (k := .delivered) _ _ (fun n k => by cases k <;> rfl) rfl
    · exact modify (k := .overflow) (fun n k => by cases k <;> rfl) rfl (.pure _)

theorem handle (r : Radio.Reception) : Records (Action.handle r) := by
  refine before .node fun n => ?_
  split
  · exact modify (fun n => raises_record n.telemetry _) rfl (.pure _)
  · dsimp only
    split
    · refine before (.modify fun n k => by cases k <;> rfl) fun _ => ?_
      split
      · exact handleAck _
      · exact handleData _ _
    · exact modify (k := .filtered) (fun n k => by cases k <;> rfl) rfl (.pure _)

end Records

/-! ## Looking at the radio -/

/-- **What is taken off the radio is counted.** -/
theorem Named.fetch : Named Action.fetch := by
  intro g n
  refine (keeps_bind _ _).2 (keeps_receive.2 ⟨trivial, fun a => ?_⟩)
  rcases a with failure | _ | r
  · exact ⟨none, .refl g n, fun e h => by cases h⟩
  · exact ⟨none, .refl g n, fun e h => Except.ok.inj h ▸ rfl⟩
  · simp only [counting_note, Except.mapError, onward_ok]
    refine (Records.handle r _ n).imp ?_
    rintro g' n' result ⟨rfl, k, hk, hname⟩
    exact ⟨some k, ⟨rfl, hk⟩, hname⟩

/-- **Going back to listening counts nothing**, and if it fails no event is told. -/
theorem Named.restored {x : Action PollEvent} (hx : Named x) (m : Radio.Mode) :
    Named (attempt x >>= fun event => attempt (setMode m) >>= fun restored =>
      ofExcept event >>= fun event => ofExcept restored >>= fun _ => pure event) := by
  intro g n
  refine (keeps_bind _ _).2 ((keeps_attempt x).2 ((hx g n).imp ?_))
  rintro g₁ n₁ event ⟨o, hc, hname⟩
  rw [onward_ok]
  refine (keeps_bind _ _).2 ((keeps_attempt _).2 ((Quiet.setMode m g₁ n₁).imp ?_))
  rintro g₂ n₂ restored ⟨_, hc', rfl⟩
  have hcounted := hc.trans_right hc'
  cases event with
  | error failure => exact ⟨o, hcounted, fun e h => by cases h⟩
  | ok event =>
    cases restored with
    | error failure => exact ⟨o, hcounted, fun e h => by cases h⟩
    | ok u => exact ⟨o, hcounted, hname⟩

theorem Named.look : Named Action.look := by
  refine Counts.before (.radio fun _ => rfl) (fun ready => ?_) fun e e' h => by cases h
  cases ready with
  | false => exact fun g n => ⟨none, .refl g n, fun e h => Except.ok.inj h ▸ rfl⟩
  | true => exact Named.fetch.restored .receive

/-- **One look at the radio counts what it takes, and says how.** -/
theorem Named.poll : Named Action.poll := by
  refine Counts.before (.ask fun _ => rfl) (fun m => ?_) fun e e' h => by cases h
  dsimp only
  split
  · exact Counts.before (.setMode _) (fun _ => Named.look) fun e e' h => by cases h
  · exact Named.look

/-! ## Whole turns -/

/-- What follows a look at the radio that found nothing. -/
theorem Quiet.pause (e : PollEvent) (length : Node → Nat) :
    Quiet (if e = .idle then Action.node >>= fun n => sleep (length n) else Pure.pure ()) := by
  split
  · exact node.bind fun _ => ask fun _ => rfl
  · exact pure _

namespace Quiet

theorem sendData (dst : Address) (id flags : UInt8) (payload : Bytes) :
    Quiet (Action.sendData dst id flags payload) :=
  node.bind fun _ => (transmit _).bind fun _ => modify fun _ k => by cases k <;> rfl

theorem checkPayload (payload : Bytes) : Quiet (Action.checkPayload payload) := by
  refine node.bind fun n => ?_
  dsimp only
  split
  · exact fail _
  · exact pure _

theorem allocateId : Quiet Action.allocateId := fun _ _ => ⟨none, ⟨rfl, .refl _⟩, rfl⟩

theorem sendUnreliable (dst : Address) (payload : Bytes) :
    Quiet (Action.sendUnreliable dst payload) :=
  (checkPayload _).bind fun _ => allocateId.bind fun _ => (sendData _ _ _ _).bind fun _ => pure _

theorem startSend (dst : Address) (payload : Bytes) (maxRetries timeout : Nat) :
    Quiet (Action.startSend dst payload maxRetries timeout) := by
  refine (checkPayload _).bind fun _ => allocateId.bind fun id => ?_
  split
  · exact (sendData _ _ _ _).bind fun _ => pure _
  · refine (modify ?_).bind fun _ => now.bind fun _ => pure _
    exact fun n => .refl n.telemetry

theorem transmitCopy (s : Send) : Quiet s.transmitCopy := by
  have hsend : Quiet (Action.sendData s.dst s.id s.flags s.payload >>= fun _ => Action.now >>=
      fun t => Pure.pure (Turn.again { s with phase := .waiting (Deadline.after t s.timeout) } :
        Turn Send SendOutcome)) :=
    (sendData _ _ _ _).bind fun _ => now.bind fun _ => pure _
  unfold Send.transmitCopy
  split
  · exact (modify fun _ k => by cases k <;> rfl).bind fun _ => hsend
  · exact hsend

end Quiet

namespace Single

theorem pollOrPause (limit : Nat) : Single (Action.pollOrPause limit) :=
  Named.poll.after fun event => .pause event _

theorem receiveTurn (deadline : Deadline) : Single (Action.receiveTurn deadline) := by
  refine Quiet.recv.bind_single fun delivery => ?_
  cases delivery with
  | some d => exact (Quiet.pure _).single
  | none =>
    refine (Quiet.left deadline).bind_single fun rest => ?_
    cases rest with
    | none => exact (Quiet.pure _).single
    | some rest => exact (pollOrPause rest).after fun _ => .pure _

theorem listenTurn (flag : Nat) : Single (Action.listenTurn flag) := by
  refine (Quiet.ask fun _ => rfl).bind_single fun stopped => ?_
  cases stopped with
  | true => exact (Quiet.goIdle.bind fun _ => .pure _).single
  | false =>
    refine (Named.poll.after fun event => .pause event _).attempt.after fun looked => ?_
    cases looked with
    | ok u => exact .pure _
    | error e => exact Quiet.goIdle.bind fun _ => .fail e

theorem await (s : Send) (deadline : Deadline) : Single (s.await deadline) := by
  refine (Quiet.node.bind fun _ => .pure _).bind_single fun acked => ?_
  cases acked with
  | true => exact (Quiet.now.bind fun _ => .pure _).single
  | false =>
    refine (Quiet.left deadline).bind_single fun rest => ?_
    cases rest with
    | some rest => exact (pollOrPause rest).after fun _ => .pure _
    | none =>
      dsimp only
      split
      · exact (Quiet.pure _).single
      · exact (Quiet.now.bind fun _ => .pure _).single

theorem step (s : Send) : Single s.step := by
  unfold Send.step
  split
  · exact (Quiet.transmitCopy s).single
  · exact await s _

theorem sendTurn (s : Send) : Single s.turn := by
  have hclear : Quiet (modify fun n => { n with pending := none }) :=
    .modify fun n => .refl n.telemetry
  refine (step s).attempt.after fun result => ?_
  rcases result with e | s' | outcome
  · exact hclear.bind fun _ => .fail e
  · exact .pure _
  · refine hclear.bind fun _ => ?_
    dsimp only
    split
    · exact (Quiet.modify fun _ k => by cases k <;> rfl).bind fun _ => .pure _
    · exact .pure _

/-- **Every turn of an operation takes at most one frame, and counts it.** -/
theorem turn (a : Activity) : Single a.turn := by
  cases a with
  | receiving deadline => exact (receiveTurn deadline).after fun _ => .pure _
  | listening flag => exact (listenTurn flag).after fun _ => .pure _
  | sending s => exact (sendTurn s).after fun _ => .pure _

/-- **So does the beginning of every operation.** -/
theorem start (op : Operation) : Single op.start := by
  cases op with
  | poll => exact Named.poll.after fun _ => .pure _
  | recv => exact (Quiet.recv.bind fun _ => .pure _).single
  | recvTimeout timeout => exact (Quiet.now.bind fun _ => .pure _).single
  | listen flag => exact (Quiet.pure _).single
  | sendUnreliable dst payload =>
    exact ((Quiet.sendUnreliable dst payload).bind fun _ => .pure _).single
  | sendReliable dst payload =>
    exact (Quiet.node.bind fun _ => (Quiet.startSend dst payload _ _).bind fun _ => .pure _).single
  | sendReliableWith dst payload maxRetries timeout =>
    exact ((Quiet.startSend dst payload maxRetries timeout).bind fun _ => .pure _).single

end Single

/-! ## Runs -/

/-- **What a counted turn ends with is in order.** -/
theorem Single.outcome {x : Action (Turn Activity Reply)} (hx : Single x) {g : Nat} {n : Node}
    (hg : n.telemetry.receptions = g) : x.Keeps counting.contract g n counting.Outcome := by
  refine (hx g n).imp ?_
  rintro g' n' r ⟨o, ⟨rfl, hr⟩, -⟩
  have hcount : n'.telemetry.receptions = g + o.toList.length := hg ▸ hr.receptions
  rcases r with e | a | reply
  · exact ⟨trivial, hcount⟩
  · exact hcount
  · exact ⟨trivial, hcount⟩

theorem counting_sound : counting.Sound where
  start _ _ op hg := (Single.start op).outcome hg
  turn _ _ a hg := (Single.turn a).outcome hg

/-- The node, whenever it can be looked at: at rest and between two turns. -/
def Status.node? : Status → Option Node
  | .resting n => some n
  | .busy (.done (_, n)) => some n
  | .busy (.ask _ _) => none

/-- The record is the number of receptions. -/
theorem counting_record (h : History) : counting.record h = History.taken h := by
  have hfrom : ∀ (h : History) (g : Nat), h.foldl counting.note g = g + History.taken h := by
    intro h
    induction h with
    | nil => exact fun g => rfl
    | cons o h ih =>
      intro g
      rw [List.foldl_cons, ih]
      cases hheard : o.heard <;> simp [counting, History.taken, hheard]; omega
  exact (hfrom h 0).trans (Nat.zero_add _)

theorem foldl_counting (es : List Exchange) (g : Nat) :
    es.foldl counting.contract.note g = g + Exchange.taken es := by
  induction es generalizing g with
  | nil => rfl
  | cons e es ih =>
    rw [List.foldl_cons, ih, counting_note]
    cases hheard : e.heard <;> simp [Exchange.taken, hheard]; omega

/-- **A turn's counters, along every path that it can take.** -/
theorem Counts.path {α : Type} {x : Action α} {P : Option Counter → Except Error α → Prop}
    (hx : Counts P x) {n n' : Node} {es : List Exchange} {r : Except Error α}
    (hp : Task.Path (x n) es (.done (r, n'))) :
    ∃ o, Exchange.taken es = o.toList.length ∧ Raises o n.telemetry n'.telemetry ∧ P o r := by
  obtain ⟨o, ⟨htaken, hraises⟩, hP⟩ := Task.Keeps.path (hx 0 n) hp
  rw [foldl_counting, Nat.zero_add, Nat.zero_add] at htaken
  exact ⟨o, htaken, hraises, hP⟩

/-- What a node does from one time that it can be looked at to the next, with all that is exchanged
meanwhile and how it ends. -/
inductive Stretch (n : Node) (es : List Exchange)
    (p : Except Error (Turn Activity Reply) × Node) : Prop where
  /-- It begins an operation. -/
  | start (op : Operation) (path : Task.Path (op.start n) es (.done p))
  /-- It takes a turn. -/
  | turn (a : Activity) (path : Task.Path (a.turn n) es (.done p))

/-- **A stretch takes nothing and counts nothing, or takes one frame and counts it once.** -/
theorem Stretch.counted {n n' : Node} {es : List Exchange}
    {r : Except Error (Turn Activity Reply)} (h : Stretch n es (r, n')) :
    (Exchange.taken es = 0 ∧ Raises none n.telemetry n'.telemetry) ∨
      (Exchange.taken es = 1 ∧ ∃ k, Raises (some k) n.telemetry n'.telemetry) := by
  obtain ⟨o, htaken, hraises⟩ : ∃ o : Option Counter,
      Exchange.taken es = o.toList.length ∧ Raises o n.telemetry n'.telemetry := by
    cases h with
    | start op path =>
      obtain ⟨o, htaken, hraises, -⟩ := (Single.start op).path path
      exact ⟨o, htaken, hraises⟩
    | turn a path =>
      obtain ⟨o, htaken, hraises, -⟩ := (Single.turn a).path path
      exact ⟨o, htaken, hraises⟩
  cases o with
  | none => exact .inl ⟨htaken, hraises⟩
  | some k => exact .inr ⟨htaken, k, hraises⟩

/-- The event of a look at the radio names what was counted. -/
theorem Named.start : Counts (fun o r => ∀ e, r = .ok (.finish (.event e)) → e.counter = o)
    Operation.poll.start := by
  intro g n
  refine (Named.poll g n).bind ?_ ?_
  · rintro g' n' e ⟨o, hc, hname⟩
    refine ⟨o, hc, fun e' h => ?_⟩
    obtain rfl : e = e' := by simpa using h
    exact hname e rfl
  · rintro g' n' err ⟨o, hc, -⟩
    exact ⟨o, hc, fun e h => by cases h⟩

/-- **Every reception is counted, and counted once, whatever the radio does.**  For a node that has
been brought up, with deliveries going anywhere: whenever it can be looked at, its counters come to
the receptions so far; in between, each reception raises one of them by one however the turn ends;
and the event of a look at the radio that ended well names that counter. -/
theorem receptions_counted {c : Config} {es₀ : List Exchange} {n₀ : Node}
    (hup : Task.Path (bringUp c) es₀ (.done (.ok n₀))) (sink : Sink) {h : History} {st : Status}
    (hr : Run { n₀ with sink } h st) :
    (∀ n, st.node? = some n → n.telemetry.receptions = History.taken h) ∧
    (∀ n es r n', Stretch n es (r, n') →
      (Exchange.taken es = 0 ∧ Raises none n.telemetry n'.telemetry) ∨
        (Exchange.taken es = 1 ∧ ∃ k, Raises (some k) n.telemetry n'.telemetry)) ∧
    (∀ n es e n', Task.Path (Operation.poll.start n) es (.done (.ok (.finish (.event e)), n')) →
      e ≠ .idle →
        Exchange.taken es = 1 ∧
          ∃ k, e.counter = some k ∧ Raises (some k) n.telemetry n'.telemetry) := by
  refine ⟨fun n hn => ?_, fun n es r n' => Stretch.counted, fun n es e n' hpath he => ?_⟩
  · let anything : Contract Unit := ⟨fun _ _ => (), fun _ _ => True⟩
    have hfresh : n₀ = Node.fresh c :=
      (bringUp_keeps (C := anything) () fun _ _ _ => trivial).path hup n₀ rfl
    have hblank : counting.AtRest counting.blank { n₀ with sink } := by rw [hfresh]; rfl
    have hholds := counting_sound.holds hblank hr
    rw [counting_record] at hholds
    match st, hn with
    | .resting n, rfl => exact hholds
    | .busy (.done (.ok (.again a), n)), rfl => exact hholds
    | .busy (.done (.ok (.finish reply), n)), rfl => exact hholds.2
    | .busy (.done (.error e, n)), rfl => exact hholds.2
  · obtain ⟨o, htaken, hraises, hname⟩ := Named.start.path hpath
    obtain ⟨k, hk⟩ := PollEvent.counter_isSome he
    have ho : o = some k := (hname e rfl).symm.trans hk
    subst ho
    exact ⟨htaken, k, hk, hraises⟩

/-- A node takes a reception that is no frame, and then its radio does not go back to listening: the
look fails, and the reception is counted. -/
theorem receptions_counted_unrestored :
    ∃ h n, Run (Node.fresh {}) h (.resting n) ∧
      h.getLast? = some (.ended (.error (.radio .shutdown))) ∧
      History.taken h = 1 ∧ n.telemetry.receptions = 1 := by
  have hup : Task.Path (bringUp {})
      [⟨.radio .init, .ok ()⟩, ⟨.radio (.setAddress 1 false), .ok ()⟩,
        ⟨.radio (.setMode .receive), .ok ()⟩] (.done (.ok (Node.fresh {}))) :=
    .step (.step (.step (.here _)))
  have hbegin : Run (Node.fresh {}) _ _ := Run.start.step (.begin _ .poll)
  have hmode := hbegin.step (.exchange .mode _ .receive)
  have hready := hmode.step (.exchange (.radio .frameReady) _ (.ok true))
  have htake := hready.step (.exchange (.radio .receive) _ (.ok (some ⟨[0x2D], -40⟩)))
  have hset := htake.step (.exchange (.radio (.setMode .receive)) _ (.error .shutdown))
  have hend := hset.step (.fail _ _)
  exact ⟨_, _, hend, rfl, rfl, (receptions_counted hup (Node.fresh {}).sink hend).1 _ rfl⟩

end Link
end PacketRadio
