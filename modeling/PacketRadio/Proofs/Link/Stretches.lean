/-
# What a node does in one stretch

rflink specification, §4.4: the operations of the manager.

From one time that a node can be looked at to the next it does one of five
things.

| a stretch | exchanges |
| --- | --- |
| idles | nothing is taken, sent or handed over |
| gives out a delivery | none |
| begins a send | nothing is taken, sent or handed over |
| sends | one datagram, with nothing taken or handed over |
| looks at the radio once | those of `Polling` |

A look at the radio may have idle exchanges before and after it, and so may
what is sent.  Idling leaves the known numbers, the counters of receptions, the sink
and the pending send alone.  At the end of a stretch a send may be over.

Main statements: `Stretch.passage`, and `Stretch.handled`, by which one
reception is handled in a stretch or none.
-/

import PacketRadio.Proofs.Link.Life
import PacketRadio.Proofs.Link.Reception
import PacketRadio.Proofs.Link.Traffic

namespace PacketRadio
namespace Link

open PacketRadio.Link.Action

/-! ## Idling -/

/-- Nothing can be taken, sent or handed over by the request. -/
def Request.isPlain : Request → Bool
  | .radio .receive => false
  | .radio (.transmit _) => false
  | .offer _ _ => false
  | .kept _ => false
  | _ => true

/-- What a node may change without taking a frame: nothing that is known of peers, no counter of
receptions, no configuration and no delivery. -/
structure Node.Kept (n n' : Node) : Prop where
  /-- The configuration is the same. -/
  config : n'.config = n.config
  /-- The same numbers are known. -/
  lastAccepted : n'.lastAccepted = n.lastAccepted
  /-- The same receptions have been counted. -/
  counters : Raises none n.telemetry n'.telemetry
  /-- The same deliveries wait. -/
  sink : n'.sink = n.sink

/-- A node idles: its exchanges are plain, and it keeps what it has. -/
structure Idling (n : Node) (es : List Exchange) (n' : Node) : Prop where
  /-- The exchanges are plain. -/
  plain : ∀ e ∈ es, e.request.isPlain = true
  /-- The node keeps what it has. -/
  kept : n.Kept n'
  /-- The same send is pending. -/
  pending : n'.pending = n.pending

section

variable {n n' n'' : Node} {es es' : List Exchange}

namespace Node.Kept

theorem refl (n : Node) : n.Kept n := ⟨rfl, rfl, .refl _, rfl⟩

theorem trans (h : n.Kept n') (h' : n'.Kept n'') : n.Kept n'' where
  config := h'.config.trans h.config
  lastAccepted := h'.lastAccepted.trans h.lastAccepted
  counters := h.counters.trans_left h'.counters
  sink := h'.sink.trans h.sink

end Node.Kept

/-- Acknowledging is counted, and changes nothing else. -/
theorem Acknowledging.kept {h : Header} {result : Except Error Unit}
    (hk : Acknowledging n h es n' result) : n.Kept n' := by
  cases hk with
  | unowed ho => exact .refl n
  | failed ho hs => exact .refl n
  | sent ho hs => exact ⟨rfl, rfl, fun k => by cases k <;> rfl, rfl⟩

namespace Idling

theorem refl (n : Node) : Idling n [] n := ⟨by simp, .refl n, rfl⟩

theorem trans (h : Idling n es n') (h' : Idling n' es' n'') : Idling n (es ++ es') n'' :=
  ⟨fun e he => (List.mem_append.1 he).elim (h.plain e) (h'.plain e), h.kept.trans h'.kept,
    h'.pending.trans h.pending⟩

end Idling
end

/-- However the action goes, the node idles. -/
def Idles {α : Type} (x : Action α) : Prop :=
  ∀ n, x.Goes n fun es n' _ => Idling n es n'

namespace Idles

variable {α β : Type}

theorem bind {x : Action α} {f : α → Action β} (hx : Idles x) (hf : ∀ a, Idles (f a)) :
    Idles (x >>= f) := fun n =>
  (hx n).bind (fun _ n₁ a h => (hf a n₁).imp fun _ _ _ h' => h.trans h') fun _ _ _ h => h

theorem attempt {x : Action α} (hx : Idles x) : Idles (Action.attempt x) := fun n =>
  (keeps_attempt x).2 (hx n)

theorem ofExcept (r : Except Error α) : Idles (Action.ofExcept r) := fun n => .refl n

theorem pure (a : α) : Idles (Pure.pure a : Action α) := ofExcept (.ok a)

theorem fail (e : Error) : Idles (Action.fail e : Action α) := ofExcept (.error e)

theorem node : Idles Action.node := fun n => .refl n

/-- Counters that are not about receptions may go up. -/
theorem count {f : Telemetry → Telemetry} (hf : ∀ t, Raises none t (f t)) :
    Idles (Action.count f) := fun n => ⟨by simp, ⟨rfl, rfl, hf n.telemetry, rfl⟩, rfl⟩

theorem ask {r : Request} (hr : r.isPlain = true) : Idles (Action.ask r) := fun n =>
  ⟨trivial, fun _ => ⟨by simpa using hr, .refl n, rfl⟩⟩

theorem setMode (m : Radio.Mode) : Idles (Action.setMode m) := fun n =>
  ⟨trivial, fun _ => ⟨by simp [Request.isPlain], .refl n, rfl⟩⟩

theorem now : Idles Action.now := ask rfl

theorem left (deadline : Deadline) : Idles (Action.left deadline) := by
  cases deadline with
  | none => exact pure _
  | some t => exact now.bind fun _ => pure _

theorem goIdle : Idles Action.goIdle :=
  (setMode _).attempt.bind fun _ => pure _

theorem checkPayload (payload : Bytes) : Idles (Action.checkPayload payload) := by
  refine node.bind fun n => ?_
  dsimp only
  split
  · exact fail _
  · exact pure _

theorem allocateId : Idles Action.allocateId := fun _ =>
  ⟨by simp, ⟨rfl, rfl, .refl _, rfl⟩, rfl⟩

/-- What follows a look at the radio that found nothing. -/
theorem pause (e : PollEvent) (length : Node → Nat) :
    Idles (if e = .idle then Action.node >>= fun n => sleep (length n) else Pure.pure ()) := by
  split
  · exact node.bind fun _ => ask rfl
  · exact pure _

end Idles

/-! ## One thing among idle exchanges -/

/-- The node does one thing, and idles before and after it. -/
inductive Around (thing : Node → List Exchange → Node → Prop) (n : Node) :
    List Exchange → Node → Prop where
  /-- Before, the thing, after. -/
  | intro {pre es post : List Exchange} {n₁ n₂ n' : Node} (before : Idling n pre n₁)
      (middle : thing n₁ es n₂) (after : Idling n₂ post n') : Around thing n (pre ++ es ++ post) n'

/-- The node gives out the oldest delivery of its own queue. -/
def Pops (n : Node) (es : List Exchange) (n' : Node) : Prop :=
  es = [] ∧ n' = { n with sink := n.sink.pop.2 }

/-- A send begins to wait for its acknowledgment. -/
def Begins (n : Node) (es : List Exchange) (n' : Node) : Prop :=
  es = [] ∧ ∃ p, n' = { n with pending := some p }

/-- The node sends a datagram. -/
def Sends (n : Node) (es : List Exchange) (n' : Node) : Prop :=
  n' = n ∧ ∃ f r, f.header.src = n.address ∧ f.header.isAck = false ∧ Sending n.config.frame f es r

/-- The node looks at its radio. -/
def Polls (n : Node) (es : List Exchange) (n' : Node) : Prop :=
  ∃ event, Polling n es n' event

section

variable {thing : Node → List Exchange → Node → Prop} {n n' n'' : Node} {es es' : List Exchange}

theorem Around.here (h : thing n es n') : Around thing n es n' := by
  have hidle := Around.intro (.refl n) h (.refl n')
  rwa [List.nil_append, List.append_nil] at hidle

theorem Around.before (h : Idling n es n') (h' : Around thing n' es' n'') :
    Around thing n (es ++ es') n'' := by
  obtain ⟨hpre, hmiddle, hpost⟩ := h'
  rw [← List.append_assoc, ← List.append_assoc]
  exact ⟨h.trans hpre, hmiddle, hpost⟩

theorem Around.after (h : Around thing n es n') (h' : Idling n' es' n'') :
    Around thing n (es ++ es') n'' := by
  obtain ⟨hpre, hmiddle, hpost⟩ := h
  rw [List.append_assoc]
  exact ⟨hpre, hmiddle, hpost.trans h'⟩

end

/-- However the action goes, the node does the thing once, or only idles. -/
def Does {α : Type} (thing : Node → List Exchange → Node → Prop) (x : Action α) : Prop :=
  ∀ n, x.Goes n fun es n' _ => Idling n es n' ∨ Around thing n es n'

section

variable {α β : Type} {thing : Node → List Exchange → Node → Prop}

theorem Idles.does {x : Action α} (hx : Idles x) : Does thing x := fun n =>
  (hx n).imp fun _ _ _ h => .inl h

theorem Idles.bind_does {x : Action α} {f : α → Action β} (hx : Idles x)
    (hf : ∀ a, Does thing (f a)) : Does thing (x >>= f) := fun n =>
  (hx n).bind (fun _ n₁ a h => (hf a n₁).imp fun _ _ _ h' => h'.imp h.trans (Around.before h))
    fun _ _ _ h => .inl h

theorem Does.bind {x : Action α} {f : α → Action β} (hx : Does thing x) (hf : ∀ a, Idles (f a)) :
    Does thing (x >>= f) := fun n =>
  (hx n).bind
    (fun _ n₁ a h => (hf a n₁).imp fun _ _ _ h' =>
      h.imp (fun h => h.trans h') (fun h => h.after h'))
    fun _ _ _ h => h

theorem Does.attempt {x : Action α} (hx : Does thing x) : Does thing (Action.attempt x) := fun n =>
  (keeps_attempt x).2 (hx n)

end

/-! ## Sending -/

namespace Does

theorem sendData (dst : Address) (id flags : UInt8) (payload : Bytes)
    (hflags : Flag.has flags Flag.ack = false) :
    Does Sends (Action.sendData dst id flags payload) := by
  intro n
  simp only [Action.sendData, keeps_bind, keeps_node, onward_ok]
  refine (transmit_goes _ n).imp ?_
  rintro es n' r ⟨rfl, hs⟩
  have hsends : Around Sends n' es n' :=
    .here ⟨rfl, ⟨⟨dst, n'.address, id, flags⟩, payload⟩, r, rfl, hflags, hs⟩
  have hcount : Idles (count fun t => { t with dataSent := t.dataSent + 1 }) :=
    .count fun t k => by cases k <;> rfl
  cases r with
  | error e => exact .inr hsends
  | ok u =>
    rw [onward_ok]
    exact Goes.after ((hcount n').imp fun _ _ _ h => .inr (hsends.after h))

theorem sendUnreliable (dst : Address) (payload : Bytes) :
    Does Sends (Action.sendUnreliable dst payload) :=
  (Idles.checkPayload _).bind_does fun _ => Idles.allocateId.bind_does fun _ =>
    (sendData _ _ _ _ (by decide)).bind fun _ => .pure _

theorem transmitCopy (s : Send) : Does Sends s.transmitCopy := by
  have hflags : Flag.has s.flags Flag.ack = false := by
    unfold Send.flags
    split <;> decide
  have hsend : Does Sends (Action.sendData s.dst s.id s.flags s.payload >>= fun _ => Action.now >>=
      fun t => Pure.pure (Turn.again { s with phase := .waiting (Deadline.after t s.timeout) } :
        Turn Send SendOutcome)) :=
    (sendData _ _ _ _ hflags).bind fun _ => Idles.now.bind fun _ => .pure _
  unfold Send.transmitCopy
  split
  · exact (Idles.count fun t k => by cases k <;> rfl).bind_does fun _ => hsend
  · exact hsend

/-! ## Looking at the radio -/

theorem poll : Does Polls Action.poll := fun n =>
  (poll_goes n).imp fun _ _ event h => .inr (.here ⟨event, h⟩)

theorem pollOrPause (limit : Nat) : Does Polls (Action.pollOrPause limit) :=
  poll.bind fun event => .pause event _

theorem listenTurn (flag : Nat) : Does Polls (Action.listenTurn flag) := by
  refine (Idles.ask rfl).bind_does fun stopped => ?_
  cases stopped with
  | true => exact (Idles.goIdle.bind fun _ => .pure _).does
  | false =>
    refine (poll.bind fun event => .pause event _).attempt.bind fun looked => ?_
    cases looked with
    | ok u => exact .pure _
    | error e => exact Idles.goIdle.bind fun _ => .fail e

theorem await (s : Send) (deadline : Deadline) : Does Polls (s.await deadline) := by
  refine (Idles.node.bind fun _ => .pure _).bind_does fun acked => ?_
  cases acked with
  | true => exact (Idles.now.bind fun _ => .pure _).does
  | false =>
    refine (Idles.left deadline).bind_does fun rest => ?_
    cases rest with
    | some rest => exact (pollOrPause rest).bind fun _ => .pure _
    | none =>
      dsimp only
      split
      · exact (Idles.pure _).does
      · exact (Idles.now.bind fun _ => .pure _).does

end Does

/-- A turn of a send does what its step does, and may then end the send. -/
theorem sendTurn_goes {thing : Node → List Exchange → Node → Prop} {s : Send}
    (hs : Does thing s.step) (n : Node) :
    s.turn.Goes n fun es n' _ => ∃ n₁, (Idling n es n₁ ∨ Around thing n es n₁) ∧ n₁.Kept n' := by
  refine (keeps_bind _ _).2 ((keeps_attempt _).2 ((hs n).imp ?_))
  rintro es n₁ (e | s' | outcome) h
  · exact ⟨n₁, h, rfl, rfl, .refl _, rfl⟩
  · exact ⟨n₁, h, .refl n₁⟩
  · simp only [onward_ok, keeps_bind, keeps_modify]
    split
    · exact ⟨n₁, h, rfl, rfl, fun k => by cases k <;> rfl, rfl⟩
    · exact ⟨n₁, h, rfl, rfl, .refl _, rfl⟩

/-! ## Giving out and beginning -/

/-- A sink that gives nothing out stays as it is. -/
theorem Sink.pop_eq_self {sink : Sink} (h : sink.pop.1 = none) : sink.pop.2 = sink := by
  match sink, h with
  | .queue _ [], _ => rfl
  | .channel _, _ => rfl

theorem Does.recv : Does Pops Action.recv := fun _ => .inr (.here ⟨rfl, rfl⟩)

/-- A send to one peer begins; a send to all is made at once. -/
theorem startSend_goes (dst : Address) (payload : Bytes) (maxRetries timeout : Nat) (n : Node) :
    (startSend dst payload maxRetries timeout).Goes n fun es n' _ =>
      Idling n es n' ∨ Around Begins n es n' ∨ Around Sends n es n' := by
  by_cases hdst : dst = Address.broadcast
  · have hsends : Does Sends (startSend dst payload maxRetries timeout) := by
      refine (Idles.checkPayload _).bind_does fun _ => Idles.allocateId.bind_does fun id => ?_
      rw [if_pos hdst]
      exact (Does.sendData _ _ _ _ (by decide)).bind fun _ => .pure _
    exact (hsends n).imp fun _ _ _ h => h.imp_right .inr
  · have hbegins : Does Begins (startSend dst payload maxRetries timeout) := by
      refine (Idles.checkPayload _).bind_does fun _ => Idles.allocateId.bind_does fun id => ?_
      rw [if_neg hdst]
      refine Does.bind (fun _ => ?_) fun _ => Idles.now.bind fun _ => .pure _
      exact .inr (.here ⟨rfl, _, rfl⟩)
    exact (hbegins n).imp fun _ _ _ h => h.imp_right .inl

/-- A delivery is given out, or the radio is looked at. -/
theorem receiveTurn_goes (deadline : Deadline) (n : Node) :
    (receiveTurn deadline).Goes n fun es n' _ =>
      Idling n es n' ∨ Around Pops n es n' ∨ Around Polls n es n' := by
  simp only [receiveTurn, recv, keeps_bind, keeps_node, keeps_modify, keeps_pure, onward_ok]
  split
  · exact .inr (.inl (.here ⟨rfl, rfl⟩))
  · rename_i hnone
    rw [Sink.pop_eq_self hnone]
    have hpolls {f : Option Nat → Action (Turn Deadline (Option Delivery))}
        (hf : ∀ rest, Does Polls (f rest)) := (Idles.left deadline).bind_does hf n
    refine (hpolls fun rest => ?_).imp fun _ _ _ h => h.imp_right .inr
    cases rest with
    | none => exact (Idles.pure _).does
    | some rest => exact (Does.pollOrPause rest).bind fun _ => .pure _

/-! ## Stretches -/

/-- What a node does in a stretch, until a send may be over. -/
inductive Passage (n : Node) (es : List Exchange) (n' : Node) : Prop where
  /-- It idles. -/
  | idled (h : Idling n es n')
  /-- It gives out a delivery. -/
  | popped (h : Around Pops n es n')
  /-- It begins a send. -/
  | begun (h : Around Begins n es n')
  /-- It sends a datagram. -/
  | sent (h : Around Sends n es n')
  /-- It looks at its radio. -/
  | polled (h : Around Polls n es n')

theorem Passage.config_eq {n n' : Node} {es : List Exchange} (h : Passage n es n') :
    n'.config = n.config := by
  cases h with
  | idled h => exact h.kept.config
  | popped h =>
    obtain ⟨before, ⟨-, rfl⟩, after⟩ := h
    exact after.kept.config.trans before.kept.config
  | begun h =>
    obtain ⟨before, ⟨-, p, rfl⟩, after⟩ := h
    exact after.kept.config.trans before.kept.config
  | sent h =>
    obtain ⟨before, ⟨rfl, -⟩, after⟩ := h
    exact after.kept.config.trans before.kept.config
  | polled h =>
    obtain ⟨before, ⟨event, hp⟩, after⟩ := h
    exact after.kept.config.trans (hp.config_eq.trans before.kept.config)

/-- However the action goes, it is one of these, and then a send may be over. -/
def Passes {α : Type} (x : Action α) : Prop :=
  ∀ n, x.Goes n fun es n' _ => ∃ n₁, Passage n es n₁ ∧ n₁.Kept n'

namespace Passes

variable {α β : Type}

theorem of_passage {x : Action α} (hx : ∀ n, x.Goes n fun es n' _ => Passage n es n') : Passes x :=
  fun n => (hx n).imp fun _ n' _ h => ⟨n', h, .refl n'⟩

/-- What is done with the result at the end does not matter. -/
theorem map {x : Action α} (hx : Passes x) (f : α → β) : Passes (x >>= fun a => pure (f a)) :=
  fun n => (hx n).bind (fun _ _ _ h => by simpa using h) fun _ _ _ h => h

theorem poll : Passes Action.poll :=
  of_passage fun n => (Does.poll n).imp fun _ _ _ h => h.elim .idled .polled

theorem startSend (dst : Address) (payload : Bytes) (maxRetries timeout : Nat) :
    Passes (Action.startSend dst payload maxRetries timeout) :=
  of_passage fun n => (startSend_goes dst payload maxRetries timeout n).imp fun _ _ _ h =>
    h.elim .idled (·.elim .begun .sent)

theorem receiveTurn (deadline : Deadline) : Passes (Action.receiveTurn deadline) :=
  of_passage fun n => (receiveTurn_goes deadline n).imp fun _ _ _ h =>
    h.elim .idled (·.elim .popped .polled)

theorem sendTurn (s : Send) : Passes s.turn := by
  intro n
  cases hphase : s.phase with
  | transmitting =>
    have hsends : Does Sends s.step := by
      rw [Send.step, hphase]
      exact .transmitCopy s
    exact (sendTurn_goes hsends n).imp fun _ _ _ ⟨n₁, h, hkept⟩ => ⟨n₁, h.elim .idled .sent, hkept⟩
  | waiting deadline =>
    have hpolls : Does Polls s.step := by
      rw [Send.step, hphase]
      exact .await s deadline
    exact (sendTurn_goes hpolls n).imp fun _ _ _ ⟨n₁, h, hkept⟩ =>
      ⟨n₁, h.elim .idled .polled, hkept⟩

theorem start (op : Operation) : Passes op.start := by
  cases op with
  | poll => exact poll.map _
  | recv =>
    exact map (of_passage fun n => (Does.recv n).imp fun _ _ _ h => h.elim .idled .popped) _
  | recvTimeout timeout =>
    exact map (of_passage fun n => (Idles.now n).imp fun _ _ _ h => .idled h) _
  | listen flag => exact of_passage fun n => .idled (.refl n)
  | sendUnreliable dst payload =>
    exact map (of_passage fun n => (Does.sendUnreliable dst payload n).imp fun _ _ _ h =>
      h.elim .idled .sent) _
  | sendReliable dst payload =>
    exact fun n => (keeps_bind _ _).2 (keeps_node.2 ((startSend dst payload _ _).map _ n))
  | sendReliableWith dst payload maxRetries timeout =>
    exact (startSend dst payload maxRetries timeout).map _

theorem turn (a : Activity) : Passes a.turn := by
  cases a with
  | receiving deadline => exact (receiveTurn deadline).map _
  | listening flag =>
    exact map (of_passage fun n => (Does.listenTurn flag n).imp fun _ _ _ h =>
      h.elim .idled .polled) _
  | sending s => exact (sendTurn s).map _

end Passes

/-- **Every stretch is one of five things**, at the end of which a send may be over. -/
theorem Stretch.passage {n n' : Node} {es : List Exchange}
    {r : Except Error (Turn Activity Reply)} (h : Stretch n es (r, n')) :
    ∃ n₁, Passage n es n₁ ∧ n₁.Kept n' := by
  cases h with
  | start op path => exact (Passes.start op n).path path
  | turn a path => exact (Passes.turn a n).path path

/-- **No stretch changes the configuration.** -/
theorem Stretch.config_eq {n n' : Node} {es : List Exchange}
    {r : Except Error (Turn Activity Reply)} (h : Stretch n es (r, n')) : n'.config = n.config :=
  let ⟨_, hpassage, hkept⟩ := h.passage
  hkept.config.trans hpassage.config_eq

/-- A node keeps the configuration that it was brought up with. -/
theorem upheld_config (c : Config) : Upheld fun _ n => n.config = c where
  redirect _ _ _ h := h
  stretch := by
    rintro es n es' r n' rfl hs
    exact hs.config_eq

/-! ## What a stretch takes -/

/-- Nothing is taken, sent or handed over in the exchanges. -/
structure Uneventful (es : List Exchange) : Prop where
  /-- Nothing is taken. -/
  heard : es.filterMap Exchange.heard = []
  /-- Nothing is sent. -/
  sent : es.filterMap Exchange.sent = []
  /-- Nothing is handed over. -/
  handed : es.filterMap Exchange.handed = []

/-- Among the exchanges of a look at the radio a reception is handled, and nothing else is taken,
sent or handed over. -/
inductive Taking (n : Node) (r : Radio.Reception) (es : List Exchange) (n' : Node)
    (event : Except Error PollEvent) : Prop where
  /-- The look tells what became of the reception, unless it fails. -/
  | intro {es₁ : List Exchange} {event₁ : Except Error PollEvent} (hh : Handling n r es₁ n' event₁)
      (told : ∀ e, event = .ok e → event₁ = .ok e) (part : es₁ ⊆ es)
      (heard : es.filterMap Exchange.heard = [r])
      (sent : es.filterMap Exchange.sent = es₁.filterMap Exchange.sent)
      (handed : es.filterMap Exchange.handed = es₁.filterMap Exchange.handed)

/-- A reception is handled in a stretch, and nothing else is taken, sent or handed over. -/
inductive Handled (n : Node) (r : Radio.Reception) (es : List Exchange) (n' : Node) : Prop where
  /-- The node idles, handles it, and idles again. -/
  | intro {n₁ n₂ : Node} {es₁ : List Exchange} {event : Except Error PollEvent}
      (before : n.Kept n₁) (hh : Handling n₁ r es₁ n₂ event) (after : n₂.Kept n')
      (part : es₁ ⊆ es) (heard : es.filterMap Exchange.heard = [r])
      (sent : es.filterMap Exchange.sent = es₁.filterMap Exchange.sent)
      (handed : es.filterMap Exchange.handed = es₁.filterMap Exchange.handed)

/-- No reception is handled.  What is sent is no acknowledgment. -/
structure Unheard (n : Node) (es : List Exchange) (n' : Node) : Prop where
  /-- Nothing is taken. -/
  heard : es.filterMap Exchange.heard = []
  /-- Nothing is handed over. -/
  handed : es.filterMap Exchange.handed = []
  /-- What is sent is a frame that is no acknowledgment. -/
  sent : ∀ wire ∈ es.filterMap Exchange.sent, ∃ f : Frame,
    f.encode n.config.frame = .ok wire ∧ f.header.isAck = false
  /-- The same numbers are known. -/
  lastAccepted : n'.lastAccepted = n.lastAccepted
  /-- The same receptions have been counted. -/
  counters : Raises none n.telemetry n'.telemetry

section

variable {n n' n'' : Node} {es es' : List Exchange} {r : Radio.Reception}

theorem Uneventful.append (h : Uneventful es) (h' : Uneventful es') : Uneventful (es ++ es') where
  heard := by rw [List.filterMap_append, h.heard, h'.heard, List.append_nil]
  sent := by rw [List.filterMap_append, h.sent, h'.sent, List.append_nil]
  handed := by rw [List.filterMap_append, h.handed, h'.handed, List.append_nil]

theorem Idling.uneventful (h : Idling n es n') : Uneventful es := by
  have hnone : ∀ e ∈ es, e.heard = none ∧ e.sent = none ∧ e.handed = none := by
    rintro ⟨request, a⟩ he
    have hplain := h.plain _ he
    match request with
    | .radio .receive | .radio (.transmit _) | .offer _ _ | .kept _ => cases hplain
    | .radio .init | .radio (.setAddress _ _) | .radio (.setMode _) | .radio .frameReady =>
      exact ⟨rfl, rfl, rfl⟩
    | .mode | .now | .sleep _ | .stopped _ => exact ⟨rfl, rfl, rfl⟩
  exact ⟨List.filterMap_eq_nil_iff.2 fun e he => (hnone e he).1,
    List.filterMap_eq_nil_iff.2 fun e he => (hnone e he).2.1,
    List.filterMap_eq_nil_iff.2 fun e he => (hnone e he).2.2⟩

/-- Exchanges without a reception before and after change nothing about it. -/
theorem Taking.around {event event' : Except Error PollEvent} {pre post : List Exchange}
    (before : Uneventful pre) (h : Taking n r es n' event) (after : Uneventful post)
    (told : ∀ e, event' = .ok e → event = .ok e) : Taking n r (pre ++ es ++ post) n' event' := by
  obtain ⟨hh, htold, hpart, hheard, hsent, hhanded⟩ := h
  refine ⟨hh, fun e he => htold e (told e he), fun e he => ?_, ?_, ?_, ?_⟩
  · exact List.mem_append_left _ (List.mem_append_right _ (hpart he))
  · simp [before.heard, hheard, after.heard]
  · simp [before.sent, hsent, after.sent]
  · simp [before.handed, hhanded, after.handed]

/-- So do those in which the node idles. -/
theorem Taking.handled {n₁ n₂ : Node} {pre post : List Exchange} {event : Except Error PollEvent}
    (before : Idling n pre n₁) (h : Taking n₁ r es n₂ event) (after : Idling n₂ post n') :
    Handled n r (pre ++ es ++ post) n' := by
  obtain ⟨hh, -, hpart, hheard, hsent, hhanded⟩ :=
    h.around before.uneventful after.uneventful fun _ he => he
  exact ⟨before.kept, hh, after.kept, hpart, hheard, hsent, hhanded⟩

/-- Nothing is taken while a frame is sent, and nothing is handed over. -/
theorem Sending.heard {c : Frame.Config} {f : Frame} {result : Except Error Unit}
    (hs : Sending c f es result) :
    es.filterMap Exchange.heard = [] ∧ es.filterMap Exchange.handed = [] := by
  cases hs <;> exact ⟨rfl, rfl⟩

theorem Acknowledging.heard {h : Header} {result : Except Error Unit}
    (hk : Acknowledging n h es n' result) :
    es.filterMap Exchange.heard = [] ∧ es.filterMap Exchange.handed = [] := by
  cases hk with
  | unowed ho => exact ⟨rfl, rfl⟩
  | failed ho hs => exact hs.heard
  | sent ho hs => exact hs.heard

/-- Nothing else is taken while a reception is handled. -/
theorem Handling.heard {event : Except Error PollEvent} (hh : Handling n r es n' event) :
    es.filterMap Exchange.heard = [] := by
  have hdelivering : ∀ {n d es n' taken}, Delivering n d es n' taken →
      es.filterMap Exchange.heard = [] := by
    rintro n d es n' taken (_ | _ | _) <;> rfl
  cases hh with
  | duplicate ht hack hd hk => exact hk.heard.1
  | overflowed ht hack hd hs => exact hdelivering hs
  | delivered ht hack hd hs hk => rw [List.filterMap_append, hdelivering hs, hk.heard.1]; rfl
  | _ => rfl

/-- A look at the radio takes nothing, and is idle unless it fails. -/
structure Missing (n : Node) (es : List Exchange) (n' : Node) (event : Except Error PollEvent) :
    Prop where
  /-- Nothing is taken, sent or handed over. -/
  uneventful : Uneventful es
  /-- The node is the same. -/
  node : n' = n
  /-- It is idle. -/
  idle : ∀ e, event = .ok e → e = .idle

theorem Missing.around {event event' : Except Error PollEvent} {pre post : List Exchange}
    (before : Uneventful pre) (h : Missing n es n' event) (after : Uneventful post)
    (told : ∀ e, event' = .ok e → event = .ok e) : Missing n (pre ++ es ++ post) n' event' :=
  ⟨(before.append h.uneventful).append after, h.node, fun e he => h.idle e (told e he)⟩

/-- A frame that is fetched is handled. -/
theorem Fetching.taking {event : Except Error PollEvent} (hf : Fetching n es n' event) :
    Missing n es n' event ∨ ∃ r, Taking n r es n' event := by
  cases hf with
  | failed failure => exact .inl ⟨⟨rfl, rfl, rfl⟩, rfl, fun e he => by cases he⟩
  | nothing => exact .inl ⟨⟨rfl, rfl, rfl⟩, rfl, fun e he => by cases he; rfl⟩
  | taken r hh =>
    refine .inr ⟨r, hh, fun _ he => he, List.subset_cons_self _ _, ?_, rfl, rfl⟩
    exact congrArg (r :: ·) hh.heard

theorem Looking.taking {event : Except Error PollEvent} (hl : Looking n es n' event) :
    Missing n es n' event ∨ ∃ r, Taking n r es n' event := by
  cases hl with
  | failed failure => exact .inl ⟨⟨rfl, rfl, rfl⟩, rfl, fun e he => by cases he⟩
  | nothing => exact .inl ⟨⟨rfl, rfl, rfl⟩, rfl, fun e he => by cases he; rfl⟩
  | @ready es n' event hf restored =>
    have hready : Uneventful [⟨.radio .frameReady, .ok true⟩] := ⟨rfl, rfl, rfl⟩
    have hrestored : Uneventful [⟨.radio (.setMode .receive), restored⟩] := ⟨rfl, rfl, rfl⟩
    -- If the radio can not be told to listen again, the look fails.
    have htold : ∀ e, (event.bind fun event => (restored.mapError Error.radio).map fun _ => event) =
        .ok e → event = .ok e := by
      intro e he
      cases event with
      | error failure => cases he
      | ok event =>
        cases restored with
        | error failure => cases he
        | ok u => exact he
    exact hf.taking.imp (Missing.around hready · hrestored htold) fun ⟨r, hr⟩ =>
      ⟨r, Taking.around hready hr hrestored htold⟩

/-- **A look at the radio takes nothing, or a reception that is handled.** -/
theorem Polling.taking {event : Except Error PollEvent} (hp : Polling n es n' event) :
    Missing n es n' event ∨ ∃ r, Taking n r es n' event := by
  have hlooking : ∀ pre {es}, Uneventful pre → Looking n es n' event →
      Missing n (pre ++ es) n' event ∨ ∃ r, Taking n r (pre ++ es) n' event := by
    intro pre es hpre hl
    have hnothing : Uneventful [] := ⟨rfl, rfl, rfl⟩
    rcases hl.taking with hm | ⟨r, hr⟩
    · exact .inl (by simpa using hm.around hpre hnothing fun _ he => he)
    · exact .inr ⟨r, by simpa using hr.around hpre hnothing fun _ he => he⟩
  cases hp with
  | deaf hm failure => exact .inl ⟨⟨rfl, rfl, rfl⟩, rfl, fun e he => by cases he⟩
  | @roused m hm es n' event hl =>
    exact hlooking [⟨.mode, m⟩, ⟨.radio (.setMode .receive), .ok ()⟩] ⟨rfl, rfl, rfl⟩ hl
  | awake hl => exact hlooking [⟨.mode, .receive⟩] ⟨rfl, rfl, rfl⟩ hl

theorem Uneventful.unheard (h : Uneventful es) (hknown : n'.lastAccepted = n.lastAccepted)
    (hcounters : Raises none n.telemetry n'.telemetry) : Unheard n es n' where
  heard := h.heard
  handed := h.handed
  sent wire hwire := by
    rw [h.sent] at hwire
    cases hwire
  lastAccepted := hknown
  counters := hcounters

theorem Idling.unheard (h : Idling n es n') : Unheard n es n' :=
  h.uneventful.unheard h.kept.lastAccepted h.kept.counters

/-- Idling before and after takes nothing. -/
theorem Unheard.around {n₁ n₂ : Node} {pre post : List Exchange} (before : Idling n pre n₁)
    (h : Unheard n₁ es n₂) (after : Idling n₂ post n') : Unheard n (pre ++ es ++ post) n' where
  heard := by simp [before.uneventful.heard, h.heard, after.uneventful.heard]
  handed := by simp [before.uneventful.handed, h.handed, after.uneventful.handed]
  sent wire hwire := by
    have hsent : (pre ++ es ++ post).filterMap Exchange.sent = es.filterMap Exchange.sent := by
      simp [before.uneventful.sent, after.uneventful.sent]
    rw [← before.kept.config]
    exact h.sent wire (hsent ▸ hwire)
  lastAccepted := after.kept.lastAccepted.trans (h.lastAccepted.trans before.kept.lastAccepted)
  counters := (before.kept.counters.trans_left h.counters).trans_left after.kept.counters

/-- A frame is sent, and nothing is taken. -/
theorem Sending.unheard {f : Frame} {result : Except Error Unit}
    (hs : Sending n.config.frame f es result) (hf : f.header.isAck = false) : Unheard n es n where
  heard := hs.heard.1
  handed := hs.heard.2
  sent wire hwire := by
    cases hs with
    | unwritten hw => cases hwire
    | refused hw failure => cases hwire
    | aired hw sent restored =>
      obtain rfl := List.mem_singleton.1 hwire
      exact ⟨f, hw, hf⟩
  lastAccepted := rfl
  counters := .refl _

theorem Passage.handled (h : Passage n es n') :
    Unheard n es n' ∨ ∃ r, Handled n r es n' := by
  have hnothing : ∀ {n₁ n₂ : Node}, n₂.lastAccepted = n₁.lastAccepted →
      n₂.telemetry = n₁.telemetry → Unheard n₁ [] n₂ := fun hknown htelemetry =>
    (⟨rfl, rfl, rfl⟩ : Uneventful []).unheard hknown (htelemetry ▸ .refl _)
  cases h with
  | idled h => exact .inl h.unheard
  | popped h =>
    obtain ⟨before, ⟨rfl, rfl⟩, after⟩ := h
    refine .inl (.around before ?_ after)
    exact hnothing rfl rfl
  | begun h =>
    obtain ⟨before, ⟨rfl, p, rfl⟩, after⟩ := h
    refine .inl (.around before ?_ after)
    exact hnothing rfl rfl
  | sent h =>
    obtain ⟨before, ⟨rfl, f, r, -, hack, hs⟩, after⟩ := h
    exact .inl ((hs.unheard hack).around before after)
  | polled h =>
    obtain ⟨before, ⟨event, hp⟩, after⟩ := h
    rcases hp.taking with ⟨hnone, rfl, -⟩ | ⟨r, hr⟩
    · exact .inl ((hnone.unheard rfl (.refl _)).around before after)
    · exact .inr ⟨r, hr.handled before after⟩

/-- **In a stretch one reception is handled, or none.** -/
theorem Stretch.handled {result : Except Error (Turn Activity Reply)}
    (h : Stretch n es (result, n')) : Unheard n es n' ∨ ∃ r, Handled n r es n' := by
  obtain ⟨n₁, hpassage, hkept⟩ := h.passage
  rcases hpassage.handled with hu | ⟨r, before, hh, after, hpart, hheard, hsent, hhanded⟩
  · exact .inl ⟨hu.heard, hu.handed, hu.sent, hkept.lastAccepted.trans hu.lastAccepted,
      hu.counters.trans_left hkept.counters⟩
  · exact .inr ⟨r, before, hh, after.trans hkept, hpart, hheard, hsent, hhanded⟩

theorem Handled.heard (h : Handled n r es n') : es.filterMap Exchange.heard = [r] := by
  obtain ⟨-, -, -, -, hheard, -, -⟩ := h
  exact hheard

/-- **A reception that is taken in a stretch is handled in it.** -/
theorem Stretch.handled_of_heard {result : Except Error (Turn Activity Reply)}
    (h : Stretch n es (result, n')) (hr : es.filterMap Exchange.heard = [r]) :
    Handled n r es n' := by
  rcases h.handled with hunheard | ⟨r', hhandled⟩
  · rw [hunheard.heard] at hr
    cases hr
  · obtain rfl : r' = r := List.singleton_inj.1 (hhandled.heard.symm.trans hr)
    exact hhandled

end

end Link
end PacketRadio
