/-
# Deliveries are handed over once, in order

rflink specification, §5: the bounded channel and the bounded local queue.

A delivery that a node's sink has taken waits there until it is collected: by
the application from the node's own queue, or by the receiver of the channel.
What waits in a channel when its receiver goes is left behind with it.

An incident does one of four things to the place where deliveries wait
(`Shifts`).

| the place | the incident |
| --- | --- |
| is left alone | any that is not listed below |
| takes a delivery at its end | the sink has taken a delivery |
| gives one from its front | a delivery is collected |
| closes | the receiver has gone |

What was taken is therefore what was collected, what was left behind and what
waits, in this order (`Custody`).  None of this depends on how the radio
answers, so it holds too when the radio fails after a delivery was taken.

Main statement: `Served.hands_over_in_order`.
-/

import PacketRadio.Proofs.Link.Bookkeeping
import PacketRadio.Proofs.Link.Served

namespace PacketRadio
namespace Link

/-! ## What becomes of deliveries -/

namespace Incident

/-- The delivery that the sink of the node took. -/
def accepted? : Incident → Option Delivery
  | .node o => o.handed
  | _ => none

/-- The delivery that was collected, from the node or from its channel. -/
def collected? : Incident → Option Delivery
  | .node o => o.given
  | .taken d => d
  | .closed _ => none

/-- The deliveries that were left behind. -/
def lost : Incident → List Delivery
  | .closed lost => lost
  | _ => []

/-- The deliveries that the sink of the node took. -/
def accepted (is : List Incident) : List Delivery :=
  is.filterMap accepted?

/-- The deliveries that were collected. -/
def collected (is : List Incident) : List Delivery :=
  is.filterMap collected?

/-- The deliveries that were left behind in the channel when its receiver went. -/
def left (is : List Incident) : List Delivery :=
  is.flatMap lost

/-- The receptions that the node took. -/
def receptions (is : List Incident) : List Radio.Reception :=
  (history is).filterMap Occurrence.heard

end Incident

/-- What an incident does to the place where deliveries wait. -/
inductive Shifts (store : Channel) (i : Incident) : Channel → Prop where
  /-- Nothing. -/
  | nothing (haccepted : i.accepted? = none) (hcollected : i.collected? = none)
      (hlost : i.lost = []) : Shifts store i store
  /-- A delivery is put there. -/
  | put {d : Delivery} {store' : Channel} (haccepted : i.accepted? = some d)
      (hcollected : i.collected? = none) (hlost : i.lost = [])
      (hpush : store.push d = some store') : Shifts store i store'
  /-- The oldest delivery is collected, if there is one. -/
  | got (haccepted : i.accepted? = none) (hcollected : i.collected? = store.pop.1)
      (hlost : i.lost = []) (received : store.received = true) : Shifts store i store.pop.2
  /-- The receiver goes. -/
  | gone (haccepted : i.accepted? = none) (hcollected : i.collected? = none)
      (hlost : i.lost = store.waiting) (received : store.received = true) :
      Shifts store i store.close

/-- What waits is the oldest delivery, and what waits after it was taken. -/
theorem Channel.waiting_pop (ch : Channel) : ch.waiting = ch.pop.1.toList ++ ch.pop.2.waiting := by
  unfold Channel.pop
  cases ch.waiting <;> rfl

/-- What waited at first and what was taken since has been collected, was left behind, or waits, in
this order. -/
structure Conserved (first : List Delivery) (is : List Incident) (store : Channel) : Prop where
  /-- Nothing else has become of it. -/
  order : first ++ Incident.accepted is =
    Incident.collected is ++ Incident.left is ++ store.waiting
  /-- None is left behind as long as somebody receives. -/
  received : store.received = true → Incident.left is = []

/-- **Every incident conserves deliveries**, whatever waited at first. -/
theorem Conserved.shift {first : List Delivery} {is : List Incident} {store store' : Channel}
    {i : Incident} (h : Conserved first is store) (hi : Shifts store i store') :
    Conserved first (is ++ [i]) store' := by
  have horder := h.order
  have haccepts : Incident.accepted (is ++ [i]) = Incident.accepted is ++ i.accepted?.toList := by
    cases ha : i.accepted? <;> simp [Incident.accepted, ha]
  have hcollects : Incident.collected (is ++ [i]) =
      Incident.collected is ++ i.collected?.toList := by
    cases hc : i.collected? <;> simp [Incident.collected, hc]
  have hleaves : Incident.left (is ++ [i]) = Incident.left is ++ i.lost := by
    simp [Incident.left]
  cases hi with
  | nothing haccepted hcollected hlost =>
    rw [haccepted, Option.toList_none, List.append_nil] at haccepts
    rw [hcollected, Option.toList_none, List.append_nil] at hcollects
    rw [hlost, List.append_nil] at hleaves
    exact ⟨by rw [haccepts, hcollects, hleaves, horder], hleaves ▸ h.received⟩
  | @put d store' haccepted hcollected hlost hpush =>
    obtain ⟨-, -, rfl⟩ := (Channel.push_eq_some_iff _ _ _).1 hpush
    rw [haccepted, Option.toList_some] at haccepts
    rw [hcollected, Option.toList_none, List.append_nil] at hcollects
    rw [hlost, List.append_nil] at hleaves
    refine ⟨?_, hleaves ▸ h.received⟩
    rw [haccepts, hcollects, hleaves, ← List.append_assoc, horder, List.append_assoc]
  | got haccepted hcollected hlost received =>
    have hnone := h.received received
    rw [haccepted, Option.toList_none, List.append_nil] at haccepts
    rw [hcollected] at hcollects
    rw [hlost, List.append_nil] at hleaves
    refine ⟨?_, fun _ => hleaves.trans hnone⟩
    rw [haccepts, hcollects, hleaves, horder, hnone, List.append_nil, List.append_nil,
      store.waiting_pop, List.append_assoc]
  | gone haccepted hcollected hlost received =>
    have hnone := h.received received
    rw [haccepted, Option.toList_none, List.append_nil] at haccepts
    rw [hcollected, Option.toList_none, List.append_nil] at hcollects
    rw [hlost, hnone, List.nil_append] at hleaves
    refine ⟨?_, nofun⟩
    rw [haccepts, hcollects, hleaves, horder, hnone, List.append_nil]
    exact (List.append_nil _).symm

/-- The deliveries that were taken are accounted for by the place where they wait, which holds at
most so many. -/
structure Custody (limit : Nat) (is : List Incident) (store : Channel) : Prop where
  /-- They were collected, left behind, or wait, in their order. -/
  order : Incident.accepted is =
    Incident.collected is ++ Incident.left is ++ store.waiting
  /-- None is left behind as long as somebody receives. -/
  received : store.received = true → Incident.left is = []
  /-- None waits once nobody does. -/
  closed : store.received = false → store.waiting = []
  /-- There is room for so many. -/
  capacity : store.capacity = limit
  /-- No more wait. -/
  room : store.waiting.length ≤ limit

/-- **Every incident keeps deliveries accounted for.** -/
theorem Custody.shift {limit : Nat} {is : List Incident} {store store' : Channel} {i : Incident}
    (h : Custody limit is store) (hi : Shifts store i store') :
    Custody limit (is ++ [i]) store' := by
  have hbefore : Conserved [] is store := ⟨h.order, h.received⟩
  obtain ⟨horder, hreceived⟩ := hbefore.shift hi
  have hroom := h.room
  have hcapacity := h.capacity
  cases hi with
  | nothing haccepted hcollected hlost => exact ⟨horder, hreceived, h.closed, hcapacity, hroom⟩
  | put haccepted hcollected hlost hpush =>
    obtain ⟨hopen, hfree, rfl⟩ := (Channel.push_eq_some_iff _ _ _).1 hpush
    refine ⟨horder, hreceived, fun hclosed => ?_, hcapacity, ?_⟩
    · exact absurd hopen (Bool.eq_false_iff.1 hclosed)
    · simp only [List.length_append, List.length_singleton]
      omega
  | got haccepted hcollected hlost received =>
    refine ⟨horder, hreceived, fun hclosed => ?_, hcapacity, ?_⟩
    · exact absurd received (Bool.eq_false_iff.1 hclosed)
    · rw [store.waiting_pop, List.length_append] at hroom
      omega
  | gone haccepted hcollected hlost received =>
    exact ⟨horder, hreceived, fun _ => rfl, hcapacity, Nat.zero_le _⟩

/-! ## What the tray allows -/

section

variable {c : Config} {s : Sink} {g : Tray} {ch : Channel} {e : Exchange}

/-- The place where deliveries wait, as the tray has it. -/
def Tray.store (s : Sink) (g : Tray) (ch : Channel) : Channel :=
  (s.holding g.queue).store ch

/-- Of the counters of receptions only one tells of deliveries that were taken. -/
theorem Inbox.sort_delivered (i : Inbox) (h : Header) (taken : Bool) :
    (i.sort h taken).delivered =
      i.delivered + (!h.isAck && !i.isDuplicate h && taken).toNat := by
  cases hack : h.isAck with
  | true => rw [sort_ack hack]; rfl
  | false =>
    cases hd : i.isDuplicate h with
    | true => rw [sort_duplicate hack hd]; rfl
    | false =>
      cases taken with
      | true => rw [sort_taken hack hd]; rfl
      | false => rw [sort_overflow hack hd]; rfl

/-- **What is counted as delivered is what was taken.** -/
theorem Inbox.take_delivered (i : Inbox) (r : Radio.Reception) (taken : Bool) :
    (i.take c r taken).delivered =
      i.delivered + if taken then (i.news c r).toList.length else 0 := by
  cases hf : Frame.decode c.frame r.bytes with
  | error defect => simp [take, news, hf]
  | ok f =>
    cases haccepts : c.filter.accepts f.header with
    | false => simp [take, news, hf, haccepts]
    | true =>
      simp only [take, news, hf, haccepts, if_true, Bool.true_and, sort_delivered]
      cases f.header.isAck <;> cases i.isDuplicate f.header <;> cases taken <;> rfl

namespace Tray.Permits

/-- A delivery that is taken is the one at hand, and there was room for it. -/
theorem of_handed (h : g.Permits c s e.request) {d : Delivery} (hd : e.handed = some d) :
    g.calls c = some d ∧ match s with
      | .queue capacity _ => e.request = .kept d ∧ g.queue.length < capacity
      | .channel id => e.request = .offer id d := by
  have hdelivery : e.request.delivery? = some d := by
    obtain ⟨request, a⟩ := e
    match request, a, hd with
    | .kept d, _, rfl => rfl
    | .offer _ d, true, rfl => rfl
  unfold Permits at h
  cases hcalls : g.calls c with
  | none =>
    rw [hcalls] at h
    rw [h] at hdelivery
    cases hdelivery
  | some x =>
    rw [hcalls] at h
    cases s with
    | channel id =>
      simp only at h
      rw [h] at hdelivery
      obtain rfl := Option.some.inj hdelivery
      exact ⟨rfl, h⟩
    | queue capacity w =>
      simp only at h
      split at h
      · rename_i hroom
        rw [h] at hdelivery
        obtain rfl := Option.some.inj hdelivery
        exact ⟨rfl, h, hroom⟩
      · rw [h] at hdelivery
        cases hdelivery

/-- **What an exchange hands over** joins the deliveries on the tray, and is counted. -/
theorem exchange (h : g.Permits c s e.request) :
    (g.exchange c e).queue = g.queue ++ e.handed.toList ∧
      (g.exchange c e).inbox.delivered = g.inbox.delivered + e.handed.toList.length := by
  have hsettle : (g.exchange c e).queue = (g.settle c e.handed.isSome).queue ∧
      (g.exchange c e).inbox = (g.settle c e.handed.isSome).inbox := ⟨rfl, rfl⟩
  rw [hsettle.1, hsettle.2]
  cases hhanded : e.handed with
  | none =>
    cases hheld : g.held with
    | none =>
      rw [settle_of_unheld hheld]
      exact ⟨(List.append_nil _).symm, rfl⟩
    | some r =>
      simp only [settle, hheld]
      exact ⟨rfl, g.inbox.take_delivered r _⟩
  | some d =>
    obtain ⟨hcalls, -⟩ := h.of_handed hhanded
    obtain ⟨r, hheld, hnews⟩ := Option.bind_eq_some_iff.1 hcalls
    simp only [settle, hheld, Option.isSome_some, if_true, hnews, Inbox.take_delivered]
    exact ⟨trivial, trivial⟩

/-- **What an exchange does to the place where deliveries wait**, if it is not about a channel. -/
theorem shifts (h : g.Permits c s e.request) (apart : ∀ id d, e.request ≠ .offer id d) :
    Shifts (g.store s ch) (.node (.exchanged e)) ((g.exchange c e).store s ch) := by
  obtain ⟨hqueue, -⟩ := h.exchange
  cases hhanded : e.handed with
  | none =>
    rw [hhanded, Option.toList_none, List.append_nil] at hqueue
    rw [store, store, hqueue]
    exact .nothing hhanded rfl rfl
  | some d =>
    obtain ⟨-, hplace⟩ := h.of_handed hhanded
    cases s with
    | channel id => exact absurd hplace (apart id d)
    | queue capacity w =>
      obtain ⟨-, hroom⟩ := hplace
      rw [hhanded, Option.toList_some] at hqueue
      refine .put hhanded rfl rfl ((Channel.push_eq_some_iff _ _ _).2 ⟨rfl, hroom, ?_⟩)
      rw [store, hqueue]
      rfl

/-- **What an offer does to the channel.** -/
theorem shifts_offer {id : Nat} {d : Delivery} (h : g.Permits c s (.offer id d)) :
    Shifts (g.store s ch) (.node (.exchanged ⟨.offer id d, (ch.push d).isSome⟩))
      ((g.exchange c ⟨.offer id d, (ch.push d).isSome⟩).store s ((ch.push d).getD ch)) := by
  cases s with
  | queue capacity w =>
    -- A node with a queue of its own makes no offers.
    unfold Permits at h
    cases hcalls : g.calls c with
    | none =>
      rw [hcalls] at h
      cases h
    | some x =>
      rw [hcalls] at h
      simp only at h
      split at h <;> cases h
  | channel id' =>
    cases hpush : ch.push d with
    | none => exact .nothing rfl rfl rfl
    | some ch' => exact .put rfl rfl rfl hpush

end Tray.Permits

/-- **What is given out at the end of an operation** comes from the front of the node's own
queue. -/
theorem Tray.Concludes.shifts {result : Except Error Reply} (h : g.Concludes s result) :
    Shifts (g.store s ch) (.node (.ended result)) ((g.note c (.ended result)).store s ch) := by
  match result, h with
  | .error e, _ => exact .nothing rfl rfl rfl
  | .ok (.delivery (some d)), h =>
    obtain ⟨capacity, w, rfl, hhead⟩ := h d rfl
    exact .got rfl hhead.symm rfl rfl
  | .ok (.delivery none), _ => exact .nothing rfl rfl rfl
  | .ok (.event event), _ => exact .nothing rfl rfl rfl
  | .ok .stopped, _ => exact .nothing rfl rfl rfl
  | .ok (.sent id), _ => exact .nothing rfl rfl rfl
  | .ok (.outcome outcome), _ => exact .nothing rfl rfl rfl

end

/-! ## A served node -/

section

variable {c : Config} {n₀ n n' : Node} {ch₀ ch : Channel} {is : List Incident} {st : Status}
  {es : List Exchange} {limit : Nat}

/-- **What every shift of the place where deliveries wait keeps holds of a served node**, all the
time. -/
theorem Served.keeps {P : List Incident → Channel → Prop} (hc : c.frame.Valid) (hn : n₀.config = c)
    (h₀ : P [] (n₀.store ch₀))
    (hP : ∀ is i store store', P is store → Shifts store i store' → P (is ++ [i]) store')
    (hs : Served n₀ ch₀ is st ch) :
    P is (((sorting c n₀.sink n₀.tray).record (Incident.history is)).store n₀.sink ch) := by
  have hsound := sorting_sound (s := n₀.sink) hc n₀.tray
  have hblank := Node.tray_shows hn
  induction hs with
  | start =>
    have hstore : n₀.tray.store n₀.sink ch₀ = n₀.store ch₀ :=
      congrArg (Sink.store · ch₀) n₀.holding_queued
    have hempty : (sorting c n₀.sink n₀.tray).record (Incident.history []) = n₀.tray := rfl
    rw [hempty, hstore]
    exact h₀
  | @step is st st' o ch before next apart ih =>
    cases o with
    | none => simpa using ih
    | some o =>
      simp only [Option.map_some, Option.toList_some, Incident.history_append,
        Incident.history_node, Discipline.record_append_singleton]
      refine hP _ _ _ _ ih ?_
      cases next with
      | begin n op => exact .nothing rfl rfl rfl
      | exchange r next a =>
        have hpermits := hsound.permits hblank before.run
        refine Tray.Permits.shifts (e := ⟨r, a⟩) hpermits fun id d hr => ?_
        subst hr
        exact apart id d a rfl
      | finish reply n =>
        exact Tray.Concludes.shifts (c := c)
          (hsound.concludes hblank before.run (.finish reply n))
      | fail e n =>
        exact Tray.Concludes.shifts (c := c) (hsound.concludes hblank before.run (.fail e n))
  | @offer is ch id d next before ih =>
    simp only [Incident.history_append, Incident.history_node, Discipline.record_append_singleton]
    exact hP _ _ _ _ ih (Tray.Permits.shifts_offer (hsound.permits hblank before.run))
  | @take is st ch id before sink received ih =>
    rw [sink] at ih ⊢
    simp only [Incident.history_append, Incident.history_taken, List.append_nil]
    exact hP _ _ _ _ ih (.got rfl rfl rfl received)
  | @close is st ch id before sink received ih =>
    rw [sink] at ih ⊢
    simp only [Incident.history_append, Incident.history_closed, List.append_nil]
    exact hP _ _ _ _ ih (.gone rfl rfl rfl received)

/-- **The deliveries of a served node are accounted for**, all the time. -/
theorem Served.custody (hc : c.frame.Valid) (hn : n₀.config = c)
    (hroom : Custody limit [] (n₀.store ch₀)) (hs : Served n₀ ch₀ is st ch) :
    Custody limit is
      (((sorting c n₀.sink n₀.tray).record (Incident.history is)).store n₀.sink ch) :=
  hs.keeps hc hn hroom fun _ _ _ _ h hi => h.shift hi

/-- **They are conserved**, whatever waited at first. -/
theorem Served.conserved (hc : c.frame.Valid) (hn : n₀.config = c) (hs : Served n₀ ch₀ is st ch)
    (hbetween : st.between? = some n) :
    Conserved (n₀.store ch₀).waiting is (n.store ch) := by
  have hfirst : Conserved (n₀.store ch₀).waiting [] (n₀.store ch₀) :=
    ⟨List.append_nil _, fun _ => rfl⟩
  have hstore : n.store ch =
      ((sorting c n₀.sink n₀.tray).record (Incident.history is)).store n₀.sink ch := by
    rw [Node.store, (hs.run.tray_shows hc hn hbetween).sink]
    rfl
  rw [hstore]
  exact hs.keeps hc hn hfirst fun _ _ _ _ h hi => h.shift hi

/-- What the sink took is what was handed to it. -/
theorem Incident.accepted_eq (is : List Incident) :
    accepted is = (history is).filterMap Occurrence.handed := by
  rw [history, List.filterMap_filterMap, accepted]
  refine List.filterMap_congr fun i _ => ?_
  cases i <;> rfl

/-- **As many deliveries are counted as were handed over.** -/
theorem Run.delivered_counted {h : History} (hc : c.frame.Valid) (hn : n₀.config = c)
    (hr : Run n₀ h st) : ((sorting c n₀.sink n₀.tray).record h).inbox.delivered =
      n₀.telemetry.delivered + (h.filterMap Occurrence.handed).length := by
  have hsound := sorting_sound (s := n₀.sink) hc n₀.tray
  induction hr with
  | start => rfl
  | step before next ih =>
    cases next with
    | exchange r next a =>
      have hpermits := hsound.permits (Node.tray_shows hn) before
      obtain ⟨-, hcount⟩ := Tray.Permits.exchange (e := ⟨r, a⟩) hpermits
      have hnote : (sorting c n₀.sink n₀.tray).note = Tray.note c := rfl
      rw [Option.toList_some, Discipline.record_append_singleton, hnote, Tray.note, hcount, ih,
        List.filterMap_append, List.length_append]
      cases hhanded : Exchange.handed ⟨r, a⟩ <;> simp [Occurrence.handed, hhanded, Nat.add_assoc]
    | begin n op =>
      rw [Option.toList_some, Discipline.record_append_singleton, List.filterMap_append,
        List.length_append]
      exact ih
    | turn a n => simpa using ih
    | finish reply n =>
      rw [Option.toList_some, Discipline.record_append_singleton, List.filterMap_append,
        List.length_append]
      refine Eq.trans ?_ ih
      cases reply with
      | delivery d => cases d <;> rfl
      | _ => rfl
    | fail e n =>
      rw [Option.toList_some, Discipline.record_append_singleton, List.filterMap_append,
        List.length_append]
      exact ih

/-- The ledger of a node lists the receptions taken and the deliveries handed over. -/
theorem bookkeeping_record (h : History) :
    ((bookkeeping c).record h).heard = h.filterMap Occurrence.heard ∧
      ((bookkeeping c).record h).handed = h.filterMap Occurrence.handed := by
  have hhear : ∀ (g : Ledger) (r : Option Radio.Reception),
      (g.hear r).heard = g.heard ++ r.toList ∧ (g.hear r).handed = g.handed := by
    rintro g (_ | r)
    · exact ⟨(List.append_nil _).symm, rfl⟩
    · exact ⟨rfl, rfl⟩
  have hhand : ∀ (g : Ledger) (d : Option Delivery),
      (g.hand d).heard = g.heard ∧ (g.hand d).handed = g.handed ++ d.toList := by
    rintro g (_ | d)
    · exact ⟨rfl, (List.append_nil _).symm⟩
    · exact ⟨rfl, rfl⟩
  have hfrom : ∀ (h : History) (g : Ledger),
      (h.foldl (Ledger.note c.frame.maxPayload) g).heard =
          g.heard ++ h.filterMap Occurrence.heard ∧
        (h.foldl (Ledger.note c.frame.maxPayload) g).handed =
          g.handed ++ h.filterMap Occurrence.handed := by
    intro h
    induction h with
    | nil => simp
    | cons o h ih =>
      intro g
      obtain ⟨hheard, hhanded⟩ := ih (g.note c.frame.maxPayload o)
      rw [List.foldl_cons, hheard, hhanded]
      cases o with
      | began op => exact ⟨rfl, rfl⟩
      | ended result => exact ⟨rfl, rfl⟩
      | exchanged e =>
        have hnote : (g.note c.frame.maxPayload (.exchanged e)).heard =
              g.heard ++ e.heard.toList ∧
            (g.note c.frame.maxPayload (.exchanged e)).handed = g.handed ++ e.handed.toList := by
          rw [Ledger.note, (hhand _ _).1, (hhand _ _).2, (hhear _ _).1, (hhear _ _).2]
          exact ⟨rfl, rfl⟩
        rw [hnote.1, hnote.2]
        constructor
        · cases hh : e.heard <;> simp [Occurrence.heard, hh]
        · cases hh : e.handed <;> simp [Occurrence.handed, hh]
  exact hfrom h {}

/-! ## Deliveries that find no place -/

/-- A delivery finds no place: the node's own queue has no room for it, or the channel that it is
offered to refuses it. -/
inductive Refused (n : Node) (es : List Exchange) : Prop where
  /-- The node's own queue is full. -/
  | full {capacity : Nat} {waiting : List Delivery} (hs : n.sink = .queue capacity waiting)
      (room : capacity ≤ waiting.length)
  /-- The channel refuses it. -/
  | offered {channel : Nat} {d : Delivery} (hs : n.sink = .channel channel)
      (refused : ⟨.offer channel d, false⟩ ∈ es)

/-- The turn ends by telling that a delivery found no place. -/
def Turn.tellsOverflow : Except Error (Turn Activity Reply) → Bool
  | .ok (.finish (.event (.overflowed _ _))) => true
  | _ => false

theorem Refused.mono {es' : List Exchange} (h : Refused n es) (hes : es ⊆ es') : Refused n es' := by
  cases h with
  | full hs room => exact .full hs room
  | offered hs refused => exact .offered hs (hes refused)

/-- An overflow is told of or counted only if a delivery found no place. -/
theorem Handling.refused {r : Radio.Reception} {event : Except Error PollEvent}
    (hh : Handling n r es n' event)
    (h : (∃ src id, event = .ok (.overflowed src id)) ∨
      n'.telemetry.deliveryOverflow ≠ n.telemetry.deliveryOverflow) : Refused n es := by
  cases hh with
  | overflowed ht hack hd hs =>
    cases hs with
    | full hs room => exact .full hs room
    | offered hs => exact .offered hs List.mem_cons_self
  | @duplicate f es n' acked ht hack hd hk =>
    have hsame : n'.inbox.overflow = n.inbox.overflow := by rw [hk.inbox_eq.1]; rfl
    rcases h with ⟨src, id, h⟩ | h
    · cases acked <;> cases h
    · exact absurd hsame h
  | @delivered f es es' n₁ n' acked ht hack hd hs hk =>
    have hsame : n'.inbox.overflow = n₁.inbox.overflow := by rw [hk.inbox_eq.1]; rfl
    have hbefore : n₁.inbox.overflow = n.inbox.overflow := by cases hs <;> rfl
    rcases h with ⟨src, id, h⟩ | h
    · cases acked <;> cases h
    · exact absurd (hsame.trans hbefore) h
  | dropped hf => simp [Node.count] at h
  | filtered hf ha => simp [Node.count] at h
  | matched ht hack hw => simp [Node.resolve, Node.hearing, Node.count] at h
  | ignored ht hack hw => simp [Node.hearing, Node.count] at h

theorem Fetching.refused {event : Except Error PollEvent} (hf : Fetching n es n' event)
    (h : (∃ src id, event = .ok (.overflowed src id)) ∨
      n'.telemetry.deliveryOverflow ≠ n.telemetry.deliveryOverflow) : Refused n es := by
  cases hf with
  | failed failure => simp at h
  | nothing => simp at h
  | taken r hh => exact (hh.refused h).mono (List.subset_cons_self _ _)

theorem Looking.refused {event : Except Error PollEvent} (hl : Looking n es n' event)
    (h : (∃ src id, event = .ok (.overflowed src id)) ∨
      n'.telemetry.deliveryOverflow ≠ n.telemetry.deliveryOverflow) : Refused n es := by
  cases hl with
  | failed failure => simp at h
  | nothing => simp at h
  | @ready es n' event hf restored =>
    have hwithin : es ⊆ ⟨.radio .frameReady, .ok true⟩ :: es ++
        [⟨.radio (.setMode .receive), restored⟩] := fun e he =>
      List.mem_append_left _ (List.mem_cons_of_mem _ he)
    refine (hf.refused (h.imp_left ?_)).mono hwithin
    rintro ⟨src, id, h⟩
    refine ⟨src, id, ?_⟩
    cases event <;> cases restored <;> cases h
    rfl

/-- **A look at the radio** tells of or counts an overflow only if a delivery found no place. -/
theorem Polling.refused {event : Except Error PollEvent} (hp : Polling n es n' event)
    (h : (∃ src id, event = .ok (.overflowed src id)) ∨
      n'.telemetry.deliveryOverflow ≠ n.telemetry.deliveryOverflow) : Refused n es := by
  cases hp with
  | deaf hm failure => simp at h
  | roused hm hl =>
    exact (hl.refused h).mono fun e he => List.mem_cons_of_mem _ (List.mem_cons_of_mem _ he)
  | awake hl => exact (hl.refused h).mono (List.subset_cons_self _ _)

/-- Only a look at the radio that was asked for tells of an overflow. -/
theorem Stretch.polling_of_tellsOverflow {r : Except Error (Turn Activity Reply)}
    (hs : Stretch n es (r, n')) (h : Turn.tellsOverflow r = true) :
    ∃ src id, Polling n es n' (.ok (.overflowed src id)) := by
  have hreply : ∀ (d : Errand) (id : UInt8) (r : Except Error Unit),
      Turn.tellsOverflow (r.map fun _ => .finish (d.reply id)) = false := by
    intro d id r
    cases r with
    | error e => rfl
    | ok u =>
      simp only [Except.map, Errand.reply]
      split <;> rfl
  rcases hs.goes with ⟨op, hs⟩ | ⟨a, ht⟩
  · cases hs with
    | @polled es n' event hp =>
      cases event with
      | error e => cases h
      | ok event =>
        cases event with
        | overflowed src id => exact ⟨src, id, hp⟩
        | _ => cases h
    | sending hop hd =>
      cases hd with
      | @once es n' r hsize hd hp =>
        rw [hreply] at h
        cases h
      | oversized hsize => cases h
      | awaited hsize hd hdst t => cases h
    | _ => cases h
  · cases ht with
    | @waited deadline rest es es' n' r hd ht hw => cases r <;> cases h
    | @sending s es n' r hs => rcases r with e | s | outcome <;> cases h
    | _ => cases h

/-- **A stretch** tells of or counts an overflow only if a delivery found no place. -/
theorem Stretch.refused {r : Except Error (Turn Activity Reply)} (hs : Stretch n es (r, n'))
    (h : Turn.tellsOverflow r = true ∨
      n'.telemetry.deliveryOverflow ≠ n.telemetry.deliveryOverflow) : Refused n es := by
  rcases h with htells | hcounts
  · obtain ⟨src, id, hp⟩ := hs.polling_of_tellsOverflow htells
    exact hp.refused (.inl ⟨src, id, rfl⟩)
  · cases hs.intake with
    | none outward same hr =>
      have hsame : n'.inbox = n.inbox := Node.inbox_of_inward same
      exact absurd (congrArg Inbox.overflow hsame) hcounts
    | popped hd => exact absurd rfl hcounts
    | @looked pre es post n₁ n' event r before hp after same hr =>
      have hsame : n'.inbox = n₁.inbox := Node.inbox_of_inward same
      have hcounts : n₁.telemetry.deliveryOverflow ≠ n.telemetry.deliveryOverflow := by
        rw [← show n'.telemetry.deliveryOverflow = n₁.telemetry.deliveryOverflow from
          congrArg Inbox.overflow hsame]
        exact hcounts
      exact (hp.refused (.inr hcounts)).mono fun e he =>
        List.mem_append_left _ (List.mem_append_right _ he)

/-! ## Any served node -/

/-- A node that was brought up as `n₀` gets a place for its deliveries, for good, at which at most
so many may wait. -/
inductive Furnished (n₀ : Node) : Node → Channel → Nat → Prop where
  /-- It keeps its own queue; there is no channel. -/
  | queue (ch : Channel) : Furnished n₀ n₀ ch n₀.config.deliveryCapacity
  /-- It gets a channel. -/
  | channel (id capacity : Nat) :
      Furnished n₀ (n₀.withChannel id) (.ofCapacity capacity) (max capacity 1)

/-- The place is empty at first. -/
theorem Furnished.custody {n₁ : Node} (hf : Furnished (.fresh c) n₁ ch₀ limit) :
    n₁.config = c ∧ n₁.telemetry.delivered = 0 ∧ Custody limit [] (n₁.store ch₀) := by
  cases hf with
  | queue ch => exact ⟨rfl, rfl, rfl, fun _ => rfl, nofun, rfl, Nat.zero_le _⟩
  | channel id capacity => exact ⟨rfl, rfl, rfl, fun _ => rfl, nofun, rfl, Nat.zero_le _⟩

/-- A node only offers deliveries to its channel. -/
theorem Tray.Permits.sink_of_offer {s : Sink} {g : Tray} {id : Nat} {d : Delivery}
    (h : g.Permits c s (.offer id d)) : s = .channel id := by
  have hhanded : Exchange.handed ⟨.offer id d, true⟩ = some d := rfl
  obtain ⟨-, hplace⟩ := of_handed (e := ⟨.offer id d, true⟩) h hhanded
  cases s with
  | queue capacity w => cases hplace.1
  | channel id' => rw [(Request.offer.inj hplace).1]

/-- **A channel refuses a delivery only if it is full or nobody receives from it.** -/
theorem Served.refused (hc : c.frame.Valid) (hn : n₀.config = c)
    (hroom : Custody limit [] (n₀.store ch₀)) (hs : Served n₀ ch₀ is st ch) {is' : List Incident}
    {id : Nat} {d : Delivery} (his : is = is' ++ [.node (.exchanged ⟨.offer id d, false⟩)]) :
    ch.waiting.length = limit ∨ ch.received = false := by
  induction hs with
  | start => simp at his
  | @step is st st' o ch before next apart ih =>
    cases o with
    | none => exact ih (by simpa using his)
    | some o =>
      obtain ⟨-, hlast⟩ := List.append_inj' his rfl
      obtain rfl : o = .exchanged ⟨.offer id d, false⟩ := by simpa using hlast
      exact absurd rfl (apart id d false)
  | @offer is ch id' d' next before ih =>
    obtain ⟨-, hlast⟩ := List.append_inj' his rfl
    obtain ⟨⟨rfl, rfl⟩, hrefused⟩ : (id' = id ∧ d' = d) ∧ (ch.push d').isSome = false := by
      simpa using hlast
    have hpush : ch.push d' = none := Option.not_isSome_iff_eq_none.1 (by simp [hrefused])
    have hsound := sorting_sound (s := n₀.sink) hc n₀.tray
    have hsink := Tray.Permits.sink_of_offer (hsound.permits (Node.tray_shows hn) before.run)
    have hcustody := before.custody hc hn hroom
    rw [hsink] at hcustody
    have hcapacity : ch.capacity = limit := hcustody.capacity
    have hwaiting : ch.waiting.length ≤ limit := hcustody.room
    rw [hpush, Option.getD_none]
    cases hreceived : ch.received with
    | false => exact .inr rfl
    | true =>
      refine .inl (Nat.le_antisymm hwaiting (Nat.le_of_not_lt fun hlt => ?_))
      simp [Channel.push, hreceived, hcapacity, hlt] at hpush
  | take before sink received ih =>
    obtain ⟨-, hlast⟩ := List.append_inj' his rfl
    simp at hlast
  | close before sink received ih =>
    obtain ⟨-, hlast⟩ := List.append_inj' his rfl
    simp at hlast

/-- **Deliveries are handed over once, in order.**  Take a node that was brought up, with its own
queue or a channel of any capacity, and let anything happen at it, on any radio, and at the other
end of the channel.

- The deliveries that its sink took are a selection of what came in, in the same order and as it
  came in, and as many as are counted.
- They were collected, left in the channel when its receiver went, or still wait, in this order;
  no more wait than there is room for.
- An overflow is told of or counted only if the node's own queue is exactly full, or the channel has
  refused the delivery; and a channel refuses one only if it is exactly full or its receiver has
  gone. -/
theorem Served.hands_over_in_order {n₁ : Node} {es₀ : List Exchange}
    (hup : Task.Path (Action.bringUp c) es₀ (.done (.ok n₀))) (hf : Furnished n₀ n₁ ch₀ limit)
    (hs : Served n₁ ch₀ is st ch) :
    (Incident.accepted is).Sublist (arrivals c.frame (Incident.receptions is)) ∧
    (∀ n, st.between? = some n →
      n.telemetry.delivered = (Incident.accepted is).length ∧ Custody limit is (n.store ch) ∧
      ∀ es r n', Stretch n es (r, n') →
        Turn.tellsOverflow r = true ∨
            n'.telemetry.deliveryOverflow ≠ n.telemetry.deliveryOverflow →
          (∃ w, n.sink = .queue limit w ∧ w.length = limit) ∨
            ∃ id d, n.sink = .channel id ∧ ⟨.offer id d, false⟩ ∈ es) ∧
    (∀ id, n₁.sink = .channel id → Custody limit is ch) ∧
    (∀ is' id d, is = is' ++ [.node (.exchanged ⟨.offer id d, false⟩)] →
      ch.waiting.length = limit ∨ ch.received = false) := by
  obtain ⟨hvalid, rfl⟩ := bringUp_path hup
  obtain ⟨hconfig, hzero, hroom⟩ := hf.custody
  have hcustody := hs.custody hvalid.frame hconfig hroom
  have hcounted := hs.run.delivered_counted hvalid.frame hconfig
  refine ⟨?_, fun n hn => ?_, fun id hid => ?_, fun is' id d his => ?_⟩
  · have hrest : (bookkeeping c).AtRest {} n₁ := by
      cases hf with
      | queue ch => exact atRest_fresh c _
      | channel id capacity => exact atRest_fresh c _
    have horderly := (hs.run.orderly (bookkeeping_sound hvalid.frame) hrest).handed
    obtain ⟨hheard, hhanded⟩ := bookkeeping_record (c := c) (Incident.history is)
    rw [hheard, hhanded, ← Incident.accepted_eq] at horderly
    exact horderly
  · have hshows := hs.run.tray_shows hvalid.frame hconfig hn
    have hstore : Custody limit is (n.store ch) := by
      rw [Node.store, hshows.sink]
      exact hcustody
    have hdelivered : n.telemetry.delivered = (Incident.accepted is).length := by
      rw [hzero, Nat.zero_add, ← Incident.accepted_eq] at hcounted
      rw [← hcounted]
      exact congrArg Inbox.delivered hshows.inbox
    refine ⟨hdelivered, hstore, fun es r n' hstretch hover => ?_⟩
    cases hstretch.refused hover with
    | @full capacity waiting hsink room =>
      have hat : n.store ch = ⟨capacity, waiting, true⟩ := by rw [Node.store, hsink]; rfl
      rw [hat] at hstore
      obtain rfl : capacity = limit := hstore.capacity
      exact .inl ⟨waiting, hsink, Nat.le_antisymm hstore.room room⟩
    | @offered channel d hsink refused => exact .inr ⟨channel, d, hsink, refused⟩
  · rw [hid] at hcustody
    exact hcustody
  · exact hs.refused hvalid.frame hconfig hroom his

end

set_option maxRecDepth 2000 in
/-- A node puts a datagram into a channel that has room for one, and its radio goes off the air over
the acknowledgment.  The look at the radio fails; the delivery is counted and waits, and the
receiver gets it. -/
theorem hands_over_in_order_interrupted :
    ∃ (f : Frame) (is : List Incident) (n : Node), f = ⟨⟨1, 2, 5, 0⟩, [9]⟩ ∧
      Served ((Node.fresh {}).withChannel 3) (.ofCapacity 0) is (.resting n)
        ⟨1, [f.delivery (-40)], true⟩ ∧
      (Incident.history is).getLast? = some (.ended (.error (.radio .shutdown))) ∧
      n.telemetry.delivered = 1 ∧ Custody 1 is ⟨1, [f.delivery (-40)], true⟩ ∧
      Custody 1 (is ++ [.taken (some (f.delivery (-40)))]) ⟨1, [], true⟩ := by
  obtain ⟨f, hf⟩ : ∃ f : Frame, f = ⟨⟨1, 2, 5, 0⟩, [9]⟩ := ⟨_, rfl⟩
  obtain ⟨next, n, hbefore, hafter⟩ : ∃ next n,
      Task.Path (Operation.poll.start ((Node.fresh {}).withChannel 3))
        [⟨.mode, .receive⟩, ⟨.radio .frameReady, .ok true⟩,
          ⟨.radio .receive, .ok (some ⟨f.wire {}, -40⟩)⟩]
        (.ask (.offer 3 (f.delivery (-40))) next) ∧
      Task.Path (next true)
        [⟨.radio (.setMode .transmit), .ok ()⟩,
          ⟨.radio (.transmit ((Frame.ackFor f.header 1).wire {})), .error .shutdown⟩,
          ⟨.radio (.setMode .receive), .ok ()⟩, ⟨.radio (.setMode .receive), .ok ()⟩]
        (.done (.error (.radio .shutdown), n)) := by
    subst hf
    exact ⟨_, _, .step (.step (.step (.here _))), .step (.step (.step (.step (.here _))))⟩
  have hasked : Served ((Node.fresh {}).withChannel 3) (.ofCapacity 0) _ _ _ :=
    Served.start.step (.begin _ .poll) nofun
  have hoffered : Served _ _ _ (.busy (next true)) ⟨1, [f.delivery (-40)], true⟩ :=
    (hasked.path hbefore (by simp)).offer
  have hended := (hoffered.path hafter (by simp)).step (.fail _ n) nofun
  have hfurnished : Furnished (.fresh {}) ((Node.fresh {}).withChannel 3) (.ofCapacity 0) 1 :=
    .channel 3 0
  obtain ⟨-, hshown, hchannel, -⟩ :=
    Served.hands_over_in_order bringUp_usual hfurnished hended
  obtain ⟨hdelivered, -⟩ := hshown n rfl
  have hsink : ((Node.fresh {}).withChannel 3).sink = .channel 3 := rfl
  have hcollected := hended.take hsink rfl
  obtain ⟨-, -, hchannel', -⟩ :=
    Served.hands_over_in_order bringUp_usual hfurnished hcollected
  exact ⟨f, _, n, hf, hended, rfl, hdelivered, hchannel 3 rfl, hchannel' 3 rfl⟩

end Link
end PacketRadio
