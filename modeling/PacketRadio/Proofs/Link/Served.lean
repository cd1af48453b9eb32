/-
# Who looks at the radio does not matter

rflink specification, §5: deliveries handed to another thread through a
bounded channel.

A node that puts its deliveries into a channel shares it with a receiver, who
may take from it at any time, also between two requests of one turn, and may
go for good.  A served node (`Served`) runs beside such a receiver.

What becomes of the frames that come in is decided by three sorts of events.

| event | from |
| --- | --- |
| a reception | any look at the radio, of whatever operation |
| a delivery was given out | the node's own queue, or the receiver |
| the receiver has gone | the receiver |

A reception takes its place when it comes off the tray, so a delivery that the
receiver takes while it is at hand comes before it.

Main statements: `Served.shown`, by which the events decide all that a node
keeps of the frames that came in, and `Life.receptions_decide`.
-/

import PacketRadio.Proofs.Link.Inbox

namespace PacketRadio
namespace Link

/-! ## A node and the receiver of its channel -/

/-- What happens at a node and at the other end of its channel. -/
inductive Incident where
  /-- Something happened at the node. -/
  | node (o : Occurrence)
  /-- The receiver took a delivery, if there was one. -/
  | taken (d : Option Delivery)
  /-- The receiver has gone, and these deliveries are lost. -/
  | closed (lost : List Delivery)

/-- What happened at the node. -/
def Incident.occurrence? : Incident → Option Occurrence
  | .node o => some o
  | _ => none

/-- What happened at the node. -/
def Incident.history (is : List Incident) : History :=
  is.filterMap occurrence?

/-- A node that started as `n₀`, with `ch₀` as the channel for its deliveries if its sink is one. -/
inductive Served (n₀ : Node) (ch₀ : Channel) : List Incident → Status → Channel → Prop where
  /-- Nothing has happened. -/
  | start : Served n₀ ch₀ [] (.resting n₀) ch₀
  /-- The node takes a step that is not about the channel. -/
  | step {is : List Incident} {st st' : Status} {o : Option Occurrence} {ch : Channel}
      (before : Served n₀ ch₀ is st ch) (next : st.Step o st')
      (apart : ∀ id d a, o ≠ some (.exchanged ⟨.offer id d, a⟩)) :
      Served n₀ ch₀ (is ++ (o.map Incident.node).toList) st' ch
  /-- The node offers a delivery, which the channel takes if it can. -/
  | offer {is : List Incident} {ch : Channel} {id : Nat} {d : Delivery} {next}
      (before : Served n₀ ch₀ is (.busy (.ask (.offer id d) next)) ch) :
      Served n₀ ch₀ (is ++ [.node (.exchanged ⟨.offer id d, (ch.push d).isSome⟩)])
        (.busy (next (ch.push d).isSome)) ((ch.push d).getD ch)
  /-- The receiver takes the oldest delivery. -/
  | take {is : List Incident} {st : Status} {ch : Channel} {id : Nat}
      (before : Served n₀ ch₀ is st ch) (sink : n₀.sink = .channel id)
      (received : ch.received = true) : Served n₀ ch₀ (is ++ [.taken ch.pop.1]) st ch.pop.2
  /-- The receiver goes. -/
  | close {is : List Incident} {st : Status} {ch : Channel} {id : Nat}
      (before : Served n₀ ch₀ is st ch) (sink : n₀.sink = .channel id)
      (received : ch.received = true) : Served n₀ ch₀ (is ++ [.closed ch.waiting]) st ch.close

section

variable {n₀ n : Node} {ch₀ ch : Channel} {is : List Incident} {st : Status}

namespace Incident

@[simp] theorem history_append (is is' : List Incident) :
    history (is ++ is') = history is ++ history is' :=
  List.filterMap_append

@[simp] theorem history_node (o : Occurrence) : history [.node o] = [o] := rfl

@[simp] theorem history_taken (d : Option Delivery) : history [.taken d] = [] := rfl

@[simp] theorem history_closed (lost : List Delivery) : history [.closed lost] = [] := rfl

@[simp] theorem history_nodes (o : Option Occurrence) :
    history (o.map Incident.node).toList = o.toList := by
  cases o <;> rfl

end Incident

/-- **A served node runs**, whatever the receiver does. -/
theorem Served.run (hs : Served n₀ ch₀ is st ch) : Run n₀ (Incident.history is) st := by
  induction hs with
  | start => exact .start
  | step before next apart ih => simpa using ih.step next
  | offer before ih => simpa using ih.step (.exchange _ _ _)
  | take before sink received ih => simpa using ih
  | close before sink received ih => simpa using ih

end

/-! ## Events -/

/-- What decides about the frames that come in. -/
inductive Event where
  /-- A frame was taken off the radio. -/
  | heard (r : Radio.Reception)
  /-- A delivery was given out. -/
  | popped
  /-- The receiver of the channel has gone. -/
  | closed
  deriving DecidableEq, Repr

/-- The frame that was taken off the radio. -/
def Event.reception? : Event → Option Radio.Reception
  | .heard r => some r
  | _ => none

/-- The events so far. -/
structure Timeline where
  /-- In their order. -/
  events : List Event := []
  /-- The reception at hand, which has no place yet. -/
  held : Option Radio.Reception := none

/-- The delivery that the node gave out. -/
def Occurrence.given : Occurrence → Option Delivery
  | .ended (.ok (.delivery d)) => d
  | _ => none

namespace Timeline

/-- The events after one more occurrence at the node. -/
def occur (t : Timeline) : Occurrence → Timeline
  | .exchanged e => ⟨t.events ++ (t.held.map Event.heard).toList, e.heard⟩
  | .ended (.ok (.delivery (some _))) => { t with events := t.events ++ [.popped] }
  | _ => t

/-- The events after one more incident. -/
def note (t : Timeline) : Incident → Timeline
  | .node o => t.occur o
  | .taken d => { t with events := t.events ++ (d.map fun _ => Event.popped).toList }
  | .closed _ => { t with events := t.events ++ [.closed] }

/-- The events of some incidents. -/
def ofIncidents (is : List Incident) : Timeline :=
  is.foldl note {}

@[simp] theorem ofIncidents_concat (is : List Incident) (i : Incident) :
    ofIncidents (is ++ [i]) = (ofIncidents is).note i := by
  simp [ofIncidents]

/-- All receptions, the one at hand included. -/
def receptions (t : Timeline) : List Radio.Reception :=
  t.events.filterMap Event.reception? ++ t.held.toList

end Timeline

/-! ## What the events come to -/

/-- The place where deliveries wait, as a channel: a queue of the node's own is one that is always
received from. -/
def Sink.store : Sink → Channel → Channel
  | .queue capacity waiting, _ => ⟨capacity, waiting, true⟩
  | .channel _, ch => ch

/-- The place where a node's deliveries wait. -/
def Node.store (n : Node) (ch : Channel) : Channel :=
  n.sink.store ch

/-- What is left of the frames that came in: what the node keeps of them, the deliveries that wait,
and the acknowledgments that were owed. -/
structure Desk where
  /-- What the node keeps. -/
  inbox : Inbox
  /-- Where deliveries wait. -/
  store : Channel
  /-- The acknowledgments that were owed. -/
  owed : List Bytes := []
  deriving DecidableEq, Repr

namespace Desk

variable (c : Config) (d : Desk)

/-- Where deliveries wait after a reception, if its delivery was taken. -/
def stored (r : Radio.Reception) : Option Channel :=
  (d.inbox.news c r).bind d.store.push

/-- The desk after a reception. -/
def hear (r : Radio.Reception) : Desk where
  inbox := d.inbox.take c r (d.stored c r).isSome
  store := (d.stored c r).getD d.store
  owed := d.owed ++ (d.inbox.reply c r (d.stored c r).isSome).toList

/-- The desk after one more event. -/
def next : Event → Desk
  | .heard r => d.hear c r
  | .popped => { d with store := d.store.pop.2 }
  | .closed => { d with store := d.store.close }

/-- The desk after some events. -/
def after (es : List Event) : Desk :=
  es.foldl (next c) d

@[simp] theorem after_append (es es' : List Event) :
    d.after c (es ++ es') = (d.after c es).after c es' :=
  List.foldl_append

@[simp] theorem after_nil : d.after c [] = d := rfl

end Desk

/-- The desk of a node, with nothing owed. -/
def Node.desk (n : Node) (ch : Channel) : Desk :=
  ⟨n.inbox, n.store ch, []⟩

/-- The tray of a node, with nothing on it. -/
def Node.tray (n : Node) : Tray where
  inbox := n.inbox
  queue := n.queued

/-! ## The tray beside the events -/

/-- The tray of a node is as the events have it. -/
structure Desk.Matches (c : Config) (s : Sink) (t : Timeline) (d : Desk) (ch : Channel)
    (g : Tray) : Prop where
  /-- The same reception is at hand. -/
  held : g.held = t.held
  /-- The inbox is the same. -/
  inbox : g.inbox = d.inbox
  /-- The same is owed. -/
  owed : g.owed = d.owed
  /-- The same deliveries wait. -/
  store : (s.holding g.queue).store ch = d.store

section

variable {c : Config} {s : Sink} {t : Timeline} {d : Desk} {ch ch' : Channel} {g : Tray}
  {r : Radio.Reception} {e : Exchange}

namespace Desk.Matches

/-- What comes off the tray comes to the desk. -/
theorem hear (h : Matches c s t d ch g) (hr : g.held = some r) {taken : Bool}
    (htaken : (d.stored c r).isSome = taken)
    (hstore : (s.holding (g.queue ++ if taken then (g.inbox.news c r).toList else [])).store ch' =
      (d.stored c r).getD d.store) (held : Option Radio.Reception) (acked : List Bytes)
    (failed : Bool) :
    Matches c s ⟨t.events ++ [.heard r], held⟩ (d.hear c r) ch'
      { g.settle c taken with held, acked, failed } := by
  subst htaken
  have hsettle : g.settle c (d.stored c r).isSome =
      { g with
        inbox := g.inbox.take c r (d.stored c r).isSome
        queue := g.queue ++ if (d.stored c r).isSome then (g.inbox.news c r).toList else []
        held := none
        owed := g.owed ++ (g.inbox.reply c r (d.stored c r).isSome).toList } := by
    rw [Tray.settle, hr]
  rw [hsettle]
  refine ⟨rfl, ?_, ?_, hstore⟩
  · rw [h.inbox]
    rfl
  · rw [h.owed, h.inbox]
    rfl

/-- With nothing on the tray an exchange changes nothing but what is at hand. -/
theorem unheld (h : Matches c s t d ch g) (hg : g.held = none) (e : Exchange) :
    Matches c s (t.occur (.exchanged e)) (d.after c (t.held.map Event.heard).toList) ch
      (g.exchange c e) := by
  have hheld : t.held = none := h.held.symm.trans hg
  rw [hheld, Tray.exchange, Tray.settle_of_unheld hg]
  exact ⟨rfl, h.inbox, h.owed, h.store⟩

/-- **An exchange that is in order**, and is not about a channel. -/
theorem exchange (h : Matches c s t d ch g) (hpermits : g.Permits c s e.request)
    (apart : ∀ id x, e.request ≠ .offer id x) :
    Matches c s (t.occur (.exchanged e)) (d.after c (t.held.map Event.heard).toList) ch
      (g.exchange c e) := by
  cases hg : g.held with
  | none => exact h.unheld hg e
  | some r =>
    have hheld : t.held = some r := h.held.symm.trans hg
    have hstored : d.stored c r = (g.inbox.news c r).bind d.store.push := by
      rw [h.inbox]
      rfl
    have hcalls : g.calls c = g.inbox.news c r := by
      rw [Tray.calls, hg]
      rfl
    simp only [Tray.Permits, hcalls] at hpermits
    rw [Timeline.occur, hheld]
    cases hnews : g.inbox.news c r with
    | none =>
      rw [hnews] at hpermits hstored
      rw [Tray.exchange, Exchange.handed_of_delivery? hpermits]
      refine h.hear hg (by rw [hstored]; rfl) ?_ _ _ _
      rw [hstored]
      simpa using h.store
    | some x =>
      rw [hnews] at hpermits hstored
      cases s with
      | channel id => exact absurd hpermits (apart id x)
      | queue capacity w =>
        have hstore : d.store = ⟨capacity, g.queue, true⟩ := h.store.symm
        simp only at hpermits
        split at hpermits
        · rename_i hroom
          have hpush : d.stored c r = some ⟨capacity, g.queue ++ [x], true⟩ := by
            rw [hstored, Option.bind_some, Channel.push_eq_some_iff, hstore]
            exact ⟨rfl, hroom, rfl⟩
          have hhanded : e.handed.isSome = true := by
            obtain ⟨request, a⟩ := e
            obtain rfl : request = .kept x := hpermits
            rfl
          rw [Tray.exchange, hhanded]
          refine h.hear hg (by rw [hpush]; rfl) ?_ _ _ _
          rw [hpush, hnews]
          rfl
        · rename_i hroom
          have hpush : d.stored c r = none := by
            rw [hstored, Option.bind_some, hstore, Channel.push]
            simp [hroom]
          rw [Tray.exchange, Exchange.handed_of_delivery? hpermits]
          refine h.hear hg (by rw [hpush]; rfl) ?_ _ _ _
          rw [hpush]
          simpa using h.store

/-- **An offer that is in order** is made to the channel of the node, which is where the delivery of
the reception at hand goes. -/
theorem offer (h : Matches c s t d ch g) {id : Nat} {x : Delivery}
    (hpermits : g.Permits c s (.offer id x)) :
    Matches c s (t.occur (.exchanged ⟨.offer id x, (ch.push x).isSome⟩))
      (d.after c (t.held.map Event.heard).toList) ((ch.push x).getD ch)
      (g.exchange c ⟨.offer id x, (ch.push x).isSome⟩) := by
  cases hcalls : g.calls c with
  | none =>
    simp only [Tray.Permits, hcalls] at hpermits
    cases hpermits
  | some x' =>
    obtain ⟨r, hg, hnews⟩ := Option.bind_eq_some_iff.1 hcalls
    have hheld : t.held = some r := h.held.symm.trans hg
    simp only [Tray.Permits, hcalls] at hpermits
    cases s with
    | queue capacity w =>
      simp only at hpermits
      split at hpermits <;> cases hpermits
    | channel id' =>
      obtain ⟨rfl, rfl⟩ := Request.offer.inj hpermits
      have hstore : d.store = ch := h.store.symm
      have hstored : d.stored c r = ch.push x := by
        rw [Desk.stored, ← h.inbox, hnews, hstore]
        rfl
      have hhanded : Option.isSome (Exchange.handed ⟨.offer id x, (ch.push x).isSome⟩) =
          (ch.push x).isSome := by
        cases ch.push x <;> rfl
      rw [Timeline.occur, hheld, Tray.exchange, hhanded]
      refine h.hear hg (by rw [hstored]) ?_ _ _ _
      rw [hstored, hstore]
      rfl

/-- What the node gives out was the oldest delivery of its own queue. -/
theorem occur (h : Matches c s t d ch g) {o : Occurrence}
    (hexchanged : ∀ e, o ≠ .exchanged e)
    (hconcludes : ∀ result, o = .ended result → g.Concludes s result) :
    ∃ es, t.occur o = { t with events := t.events ++ es } ∧
      Matches c s (t.occur o) (d.after c es) ch (g.note c o) := by
  have hnothing : t = { t with events := t.events ++ [] } := by
    rw [List.append_nil]
  match o with
  | .exchanged e => exact absurd rfl (hexchanged e)
  | .began op => exact ⟨[], hnothing, h⟩
  | .ended (.error e) => exact ⟨[], hnothing, h⟩
  | .ended (.ok reply) =>
    cases reply with
    | delivery x =>
      cases x with
      | none => exact ⟨[], hnothing, h⟩
      | some x =>
        obtain ⟨capacity, waiting, rfl, hx⟩ := hconcludes _ rfl x rfl
        refine ⟨[.popped], rfl, h.held, h.inbox, h.owed, ?_⟩
        have hstore : d.store = ⟨capacity, g.queue, true⟩ := h.store.symm
        show Channel.mk capacity g.queue.tail true = d.store.pop.2
        rw [hstore]
        rfl
    | _ => exact ⟨[], hnothing, h⟩

end Desk.Matches
end

/-! ## A served node -/

section

variable {c : Config} {n₀ n : Node} {ch₀ ch : Channel} {is : List Incident} {st : Status}

theorem Node.holding_queued (n : Node) : n.sink.holding n.queued = n.sink := by
  unfold queued
  cases n.sink <;> rfl

/-- The tray of a node shows the node. -/
theorem Node.tray_shows (hn : n.config = c) : n.tray.Shows c n.sink n :=
  ⟨hn, rfl, n.holding_queued.symm, rfl, fun _ => rfl⟩

/-- What the receiver takes, and whether it goes, comes to the desk as an event. -/
theorem Desk.Matches.received {t : Timeline} {d : Desk} {g : Tray} {id : Nat}
    (h : Matches c (.channel id) t d ch g) :
    Matches c (.channel id) (t.note (.taken ch.pop.1))
        (d.after c (ch.pop.1.map fun _ => Event.popped).toList) ch.pop.2 g ∧
      Matches c (.channel id) (t.note (.closed ch.waiting)) (d.after c [.closed]) ch.close g := by
  have hstore : d.store = ch := h.store.symm
  refine ⟨?_, h.held, h.inbox, h.owed, ?_⟩
  · obtain ⟨capacity, waiting, received⟩ := ch
    cases waiting with
    | nil => simpa [Channel.pop, Timeline.note] using h
    | cons x waiting =>
      refine ⟨h.held, h.inbox, h.owed, ?_⟩
      show Channel.mk capacity waiting received = d.store.pop.2
      rw [hstore]
      rfl
  · show ch.close = d.store.close
    rw [hstore]

/-- **The tray of a served node is as the events have it**, all the time. -/
theorem Served.matches (hc : c.frame.Valid) (hn : n₀.config = c) (hs : Served n₀ ch₀ is st ch) :
    Desk.Matches c n₀.sink (Timeline.ofIncidents is)
      ((n₀.desk ch₀).after c (Timeline.ofIncidents is).events) ch
      ((sorting c n₀.sink n₀.tray).record (Incident.history is)) := by
  have hsound := sorting_sound (s := n₀.sink) hc n₀.tray
  have hblank := Node.tray_shows hn
  induction hs with
  | start => exact ⟨rfl, rfl, rfl, congrArg (Sink.store · ch₀) n₀.holding_queued⟩
  | @step is st st' o ch before next apart ih =>
    -- What is no exchange may give out a delivery.
    have hoccur : ∀ o : Occurrence, (∀ e, o ≠ .exchanged e) →
        (∀ result, o = .ended result →
          ((sorting c n₀.sink n₀.tray).record (Incident.history is)).Concludes n₀.sink result) →
        Desk.Matches c n₀.sink (Timeline.ofIncidents (is ++ [.node o]))
          ((n₀.desk ch₀).after c (Timeline.ofIncidents (is ++ [.node o])).events) ch
          ((sorting c n₀.sink n₀.tray).record (Incident.history (is ++ [.node o]))) := by
      intro o hexchanged hconcludes
      obtain ⟨es, hevents, hmatches⟩ := ih.occur hexchanged hconcludes
      rw [Timeline.ofIncidents_concat, Incident.history_append, Incident.history_node,
        Discipline.record_append_singleton]
      have hsplit : (n₀.desk ch₀).after c ((Timeline.ofIncidents is).note (.node o)).events =
          ((n₀.desk ch₀).after c (Timeline.ofIncidents is).events).after c es := by
        rw [Timeline.note, hevents, Desk.after_append]
      rw [hsplit]
      exact hmatches
    cases next with
    | begin n op => exact hoccur _ nofun nofun
    | exchange r next a =>
      have hpermits := hsound.permits hblank before.run
      have hmatches := ih.exchange (e := ⟨r, a⟩) hpermits fun id x hr => by
        subst hr
        exact apart id x a rfl
      simp only [Option.map_some, Option.toList_some, Timeline.ofIncidents_concat,
        Incident.history_append, Incident.history_node, Discipline.record_append_singleton]
      rw [Timeline.note, Timeline.occur, Desk.after_append]
      exact hmatches
    | turn a n => simpa using ih
    | finish reply n =>
      refine hoccur _ nofun fun result hresult => ?_
      obtain rfl := Occurrence.ended.inj hresult
      exact hsound.concludes hblank before.run (.finish reply n)
    | fail e n =>
      refine hoccur _ nofun fun result hresult => ?_
      obtain rfl := Occurrence.ended.inj hresult
      exact hsound.concludes hblank before.run (.fail e n)
  | @offer is ch id x next before ih =>
    have hmatches := ih.offer (hsound.permits hblank before.run)
    rw [Timeline.ofIncidents_concat, Incident.history_append, Incident.history_node,
      Discipline.record_append_singleton, Timeline.note, Timeline.occur, Desk.after_append]
    exact hmatches
  | @take is st ch id before sink received ih =>
    rw [sink] at ih ⊢
    rw [Timeline.ofIncidents_concat, Incident.history_append, Incident.history_taken,
      List.append_nil, Timeline.note, Desk.after_append]
    exact ih.received.1
  | @close is st ch id before sink received ih =>
    rw [sink] at ih ⊢
    rw [Timeline.ofIncidents_concat, Incident.history_append, Incident.history_closed,
      List.append_nil, Timeline.note, Desk.after_append]
    exact ih.received.2

/-- The acknowledgments that a node sent. -/
def Incident.acksSent (c : Config) (is : List Incident) : List Bytes :=
  (history is).exchanges.filterMap (Exchange.ackSent c.frame)

/-- A call to the radio has failed. -/
def Incident.failed (is : List Incident) : Bool :=
  (history is).exchanges.any Exchange.failed

/-- The tray has all that was sent on record, and whether the radio has failed. -/
theorem Tray.record_acked (s : Sink) (blank : Tray) (h : History) :
    ((sorting c s blank).record h).acked =
        blank.acked ++ h.exchanges.filterMap (Exchange.ackSent c.frame) ∧
      ((sorting c s blank).record h).failed =
        (blank.failed || h.exchanges.any Exchange.failed) := by
  have hfrom : ∀ (h : History) (g : Tray),
      (h.foldl (Tray.note c) g).acked =
          g.acked ++ h.exchanges.filterMap (Exchange.ackSent c.frame) ∧
        (h.foldl (Tray.note c) g).failed = (g.failed || h.exchanges.any Exchange.failed) := by
    intro h
    induction h with
    | nil => simp [History.exchanges]
    | cons o h ih =>
      intro g
      obtain ⟨hacked, hfailed⟩ := ih (g.note c o)
      rw [List.foldl_cons, hacked, hfailed]
      match o with
      | .began op => exact ⟨rfl, rfl⟩
      | .exchanged e =>
        constructor
        · cases hsent : e.ackSent c.frame <;>
            simp [History.exchanges, Occurrence.exchange?, Tray.note, Tray.exchange, hsent]
        · simp [History.exchanges, Occurrence.exchange?, Tray.note, Tray.exchange, Bool.or_assoc]
      | .ended (.error e) => exact ⟨rfl, rfl⟩
      | .ended (.ok reply) =>
        cases reply with
        | delivery d => cases d <;> exact ⟨rfl, rfl⟩
        | _ => exact ⟨rfl, rfl⟩
  exact hfrom h blank

/-- The node, at rest or between two turns. -/
def Status.between? : Status → Option Node
  | .resting n => some n
  | .busy (.done (.ok (.again _), n)) => some n
  | _ => none

/-- **A node is as its tray has it**, at rest and between two turns. -/
theorem Run.tray_shows {h : History} (hc : c.frame.Valid) (hn₀ : n₀.config = c) (hr : Run n₀ h st)
    (hn : st.between? = some n) :
    Tray.Shows c n₀.sink ((sorting c n₀.sink n₀.tray).record h) n := by
  have hholds := (sorting_sound (s := n₀.sink) hc n₀.tray).holds (Node.tray_shows hn₀) hr
  cases st with
  | resting m =>
    obtain rfl := Option.some.inj hn
    exact hholds
  | busy rest =>
    cases rest with
    | ask r next => cases hn
    | done p =>
      obtain ⟨r, m⟩ := p
      cases r with
      | error e => cases hn
      | ok t =>
        cases t with
        | finish reply => cases hn
        | again a =>
          obtain rfl := Option.some.inj hn
          exact hholds

/-- **The events decide all that a node keeps of the frames that came in**, the deliveries that wait
and, unless the radio has failed, the acknowledgments sent. -/
theorem Served.shown (hc : c.frame.Valid) (hn₀ : n₀.config = c) (hs : Served n₀ ch₀ is st ch)
    (hn : st.between? = some n) :
    let d := (n₀.desk ch₀).after c (Timeline.ofIncidents is).events
    (Timeline.ofIncidents is).held = none ∧ n.inbox = d.inbox ∧ n.store ch = d.store ∧
      (Incident.failed is = false → Incident.acksSent c is = d.owed) := by
  have hmatches := hs.matches hc hn₀
  have hshows := hs.run.tray_shows hc hn₀ hn
  obtain ⟨hacked, hfailed⟩ :=
    Tray.record_acked (c := c) n₀.sink n₀.tray (Incident.history is)
  refine ⟨hmatches.held.symm.trans hshows.held, hshows.inbox.trans hmatches.inbox, ?_,
    fun hradio => ?_⟩
  · rw [Node.store, hshows.sink]
    exact hmatches.store
  · rw [← hmatches.owed, ← hshows.acked (hfailed.trans hradio), hacked]
    exact (List.nil_append _).symm

/-! ## Acknowledgments that came in -/

/-- The reception is an acknowledgment that a node of this configuration takes in. -/
def Config.hearsAck (c : Config) (r : Radio.Reception) : Bool :=
  match Frame.decode c.frame r.bytes with
  | .ok f => c.filter.accepts f.header && f.header.isAck
  | .error _ => false

theorem Inbox.sort_acks (i : Inbox) (h : Header) (taken : Bool) :
    (i.sort h taken).acks = i.acks + h.isAck.toNat := by
  cases hack : h.isAck with
  | true => rw [sort_ack hack]; rfl
  | false =>
    cases hd : i.isDuplicate h with
    | true => rw [sort_duplicate hack hd]; rfl
    | false =>
      cases taken with
      | true => rw [sort_taken hack hd]; rfl
      | false => rw [sort_overflow hack hd]; rfl

/-- Whether an acknowledgment counts has nothing to do with what came before it. -/
theorem Inbox.take_acks (i : Inbox) (r : Radio.Reception) (taken : Bool) :
    (i.take c r taken).acks = i.acks + (c.hearsAck r).toNat := by
  cases hf : Frame.decode c.frame r.bytes with
  | error defect =>
    simp only [take, Config.hearsAck, hf]
    rfl
  | ok f =>
    cases haccepts : c.filter.accepts f.header with
    | true =>
      simp only [take, Config.hearsAck, hf, haccepts, Bool.true_and, if_true]
      exact i.sort_acks f.header taken
    | false =>
      simp only [take, Config.hearsAck, hf, haccepts, Bool.false_and]
      rfl

/-- **The acknowledgments that a node has counted are those among the receptions.** -/
theorem Desk.after_acks (es : List Event) (d : Desk) : (d.after c es).inbox.acks =
    d.inbox.acks + (es.filterMap Event.reception?).countP c.hearsAck := by
  induction es generalizing d with
  | nil => rfl
  | cons e es ih =>
    have hrest : (d.after c (e :: es)).inbox.acks = (d.next c e).inbox.acks +
        (es.filterMap Event.reception?).countP c.hearsAck := ih (d.next c e)
    rw [hrest]
    cases e with
    | heard r =>
      have htake : (d.next c (.heard r)).inbox.acks = d.inbox.acks + (c.hearsAck r).toNat :=
        d.inbox.take_acks r _
      have hcons : (Event.heard r :: es).filterMap Event.reception? =
          r :: es.filterMap Event.reception? := rfl
      rw [htake, hcons, List.countP_cons]
      cases c.hearsAck r with
      | true => simp; omega
      | false => simp
    | popped => rfl
    | closed => rfl

/-! ## Two runs -/

/-- **Frames that come in are treated the same, whoever looks at the radio.**  Take a node that was
brought up and has done anything since, on any radio, and two runs that it may go on with.

- If the same receptions came in and deliveries were given out at the same places among them, the
  node has the same inbox, the same deliveries wait, and unless the radio has failed it has sent the
  same acknowledgments.
- If only the receptions are the same, as many acknowledgments have been counted.

What the node was asked for in the two runs, which operation took a frame, and whether a send was
pending, does not matter. -/
theorem Life.receptions_decide {n₁ n' : Node} {h : History} {es₀ : List Exchange}
    (hup : Task.Path (Action.bringUp c) es₀ (.done (.ok n₀))) (hl : Life n₀ h (.resting n₁))
    {ch₁ ch' : Channel} {is' : List Incident} {st' : Status}
    (hs : Served n₁ ch₁ is st ch) (hs' : Served n₁ ch₁ is' st' ch')
    (hn : st.between? = some n) (hn' : st'.between? = some n') :
    ((Timeline.ofIncidents is).events = (Timeline.ofIncidents is').events →
      n.inbox = n'.inbox ∧ n.store ch = n'.store ch' ∧
        (Incident.failed is = false → Incident.failed is' = false →
          Incident.acksSent c is = Incident.acksSent c is')) ∧
    ((Timeline.ofIncidents is).receptions = (Timeline.ofIncidents is').receptions →
      n.telemetry.acksReceived + n.telemetry.unmatchedAcks =
        n'.telemetry.acksReceived + n'.telemetry.unmatchedAcks) := by
  obtain ⟨hvalid, rfl⟩ := bringUp_path hup
  have hconfig : n₁.config = c := hl.visible (upheld_config c) rfl rfl
  obtain ⟨hheld, hinbox, hstore, hacks⟩ := hs.shown hvalid.frame hconfig hn
  obtain ⟨hheld', hinbox', hstore', hacks'⟩ := hs'.shown hvalid.frame hconfig hn'
  constructor
  · intro same
    rw [same] at hinbox hstore hacks
    refine ⟨hinbox.trans hinbox'.symm, hstore.trans hstore'.symm, fun hradio hradio' => ?_⟩
    exact (hacks hradio).trans (hacks' hradio').symm
  · intro same
    simp only [Timeline.receptions, hheld, hheld', Option.toList_none, List.append_nil] at same
    show n.inbox.acks = n'.inbox.acks
    rw [hinbox, hinbox', Desk.after_acks, Desk.after_acks, same]

/-- A turn goes on, with nothing offered to the channel. -/
theorem Served.path {rest rest' : Task (Except Error (Turn Activity Reply) × Node)}
    {es : List Exchange} (hpath : Task.Path rest es rest') :
    ∀ {is : List Incident}, Served n₀ ch₀ is (.busy rest) ch →
      (∀ e ∈ es, ∀ id d, e.request ≠ .offer id d) →
        Served n₀ ch₀ (is ++ es.map fun e => .node (.exchanged e)) (.busy rest') ch := by
  induction hpath with
  | here t => exact fun hs _ => by simpa using hs
  | @step r next a es t' rest ih =>
    intro is hs hapart
    have hone : Served n₀ ch₀ (is ++ [.node (.exchanged ⟨r, a⟩)]) (.busy (next a)) ch := by
      refine hs.step (.exchange r next a) fun id d a' ho => ?_
      obtain ⟨hr, -⟩ := Exchange.mk.inj (Occurrence.exchanged.inj (Option.some.inj ho))
      exact hapart _ List.mem_cons_self id d hr
    have hrest := ih hone fun e he => hapart e (List.mem_cons_of_mem _ he)
    simpa using hrest

end

set_option maxRecDepth 2000 in
/-- Two fresh nodes take the same datagram, one when it is asked to look at its radio, the other
while it waits for the acknowledgment of a send to node 7.  They keep the same of it. -/
theorem receptions_decide_waiting :
    ∃ (f : Frame) (is is' : List Incident) (s : Send) (n n' : Node), f = ⟨⟨1, 2, 5, 0⟩, [9]⟩ ∧
      Served (Node.fresh {}) {capacity := 1} is (.resting n) {capacity := 1} ∧
      Served (Node.fresh {}) {capacity := 1} is' (.busy (.done (.ok (.again (.sending s)), n')))
        {capacity := 1} ∧
      n'.pending = some ⟨7, 0, false⟩ ∧ n.inbox.delivered = 1 ∧
      (Timeline.ofIncidents is).events = [.heard ⟨f.wire {}, -40⟩] ∧ n.inbox = n'.inbox ∧
      n.store {capacity := 1} = n'.store {capacity := 1} ∧
      Incident.acksSent {} is = Incident.acksSent {} is' := by
  obtain ⟨f, hf⟩ : ∃ f : Frame, f = ⟨⟨1, 2, 5, 0⟩, [9]⟩ := ⟨_, rfl⟩
  let taking : List Exchange :=
    [⟨.mode, .receive⟩, ⟨.radio .frameReady, .ok true⟩,
      ⟨.radio .receive, .ok (some ⟨f.wire {}, -40⟩)⟩, ⟨.kept (f.delivery (-40)), ()⟩,
      ⟨.radio (.setMode .transmit), .ok ()⟩,
      ⟨.radio (.transmit ((Frame.ackFor f.header 1).wire {})), .ok ()⟩,
      ⟨.radio (.setMode .receive), .ok ()⟩, ⟨.radio (.setMode .receive), .ok ()⟩]
  obtain ⟨n, hlook, hdelivered⟩ : ∃ n, Task.Path (Operation.poll.start (Node.fresh {})) taking
      (.done (.ok (.finish (.event (.delivered 2 5))), n)) ∧ n.inbox.delivered = 1 := by
    subst hf
    exact ⟨_, .step (.step (.step (.step (.step (.step (.step (.step (.here _)))))))), rfl⟩
  obtain ⟨n', s, s', n₁, n₂, hbegin, hcopy, hwait, hpending⟩ : ∃ n' s s' n₁ n₂,
      Task.Path ((Operation.sendReliable 7 [1]).start (Node.fresh {})) [⟨.now, (0 : Nat)⟩]
        (.done (.ok (.again (.sending s)), n₁)) ∧
      Task.Path ((Activity.sending s).turn n₁)
        [⟨.radio (.setMode .transmit), .ok ()⟩,
          ⟨.radio (.transmit ((⟨⟨7, 1, 0, 0⟩, [1]⟩ : Frame).wire {})), .ok ()⟩,
          ⟨.radio (.setMode .receive), .ok ()⟩, ⟨.now, (0 : Nat)⟩]
        (.done (.ok (.again (.sending s')), n₂)) ∧
      Task.Path ((Activity.sending s').turn n₂) (⟨.now, (0 : Nat)⟩ :: taking)
        (.done (.ok (.again (.sending s')), n')) ∧ n'.pending = some ⟨7, 0, false⟩ := by
    subst hf
    exact ⟨_, _, _, _, _, .step (.here _), .step (.step (.step (.step (.here _)))),
      .step (.step (.step (.step (.step (.step (.step (.step (.step (.here _))))))))), rfl⟩
  have hlooked : Served (Node.fresh {}) {capacity := 1} _ (.resting n) _ :=
    ((Served.start.step (.begin _ .poll) nofun).path hlook (by simp [taking])).step
      (.finish _ n) nofun
  have hstarted : Served (Node.fresh {}) {capacity := 1} _ _ _ :=
    ((Served.start.step (.begin _ (.sendReliable 7 [1])) nofun).path hbegin (by simp)).step
      (.turn _ n₁) nofun
  have hsent := (hstarted.path hcopy (by simp)).step (.turn _ n₂) nofun
  have hwaited := hsent.path hwait (by simp [taking])
  obtain ⟨hsame, -⟩ := Life.receptions_decide bringUp_usual .start hlooked hwaited rfl rfl
  obtain ⟨hinbox, hstore, hacks⟩ := hsame rfl
  exact ⟨f, _, _, s', n, n', hf, hlooked, hwaited, hpending, hdelivered, rfl, hinbox, hstore,
    hacks rfl rfl⟩

end Link
end PacketRadio
