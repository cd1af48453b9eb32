/-
# A wait for a delivery is exact and loses nothing

rflink specification, §4.4: `recv_timeout` polls until a delivery or timeout.

A node waits for a delivery on a clock that only its own pauses move.  The wait
has three ends, and before each turn of it the queue tells which are ahead.

| the wait ends with | which is | when |
| --- | --- | --- |
| a delivery that was there | the oldest of the queue | at once; the radio is not looked at |
| a delivery that came in | the only one that has been taken | before the time is up |
| nothing | and nothing waits | just when the time is up |
| an error | and what has been taken still waits | before the time is up |

A channel gives nothing back: what it takes is for its receiver, and the wait
goes on until the time is up.

Main statements: `Turning.waits` for a turn, and `Served.receives_exactly`.
-/

import PacketRadio.Proofs.Link.Custody
import PacketRadio.Proofs.Link.Pace

namespace PacketRadio
namespace Link

/-! ## What a look at the radio puts into the queue -/

namespace Sink

/-- The sink after it has taken these deliveries; a channel keeps none of them itself. -/
def taking : Sink → List Delivery → Sink
  | .queue capacity waiting, ds => .queue capacity (waiting ++ ds)
  | .channel id, _ => .channel id

@[simp] theorem taking_nil (s : Sink) : s.taking [] = s := by
  cases s <;> simp [taking]

@[simp] theorem taking_taking (s : Sink) (ds ds' : List Delivery) :
    (s.taking ds).taking ds' = s.taking (ds ++ ds') := by
  cases s <;> simp [taking]

/-- No more waits than what waited and what was taken. -/
theorem queued_taking (s : Sink) (ds : List Delivery) :
    (s.taking ds).queued = [] ∨ (s.taking ds).queued = s.queued ++ ds := by
  cases s with
  | queue capacity w => exact .inr rfl
  | channel id => exact .inl rfl

/-- Nothing is given out exactly if nothing waits in the node's own queue. -/
theorem pop_eq_none_iff {s : Sink} : s.pop.1 = none ↔ s.queued = [] := by
  cases s with
  | queue capacity w => cases w <;> simp [pop, queued]
  | channel id => simp [pop, queued]

/-- What is given out is the oldest that waits. -/
theorem queued_of_pop {s : Sink} {d : Delivery} (h : s.pop.1 = some d) :
    s.queued = d :: s.pop.2.queued := by
  cases s with
  | queue capacity w =>
    cases w with
    | nil => cases h
    | cons d' rest =>
      obtain rfl : d' = d := Option.some.inj h
      rfl
  | channel id => cases h

end Sink

section

variable {n n' : Node} {es : List Exchange} {r : Radio.Reception}

/-- A delivery that is taken joins the queue. -/
theorem Delivering.sink_eq {d : Delivery} {taken : Bool} (hs : Delivering n d es n' taken) :
    n'.sink = n.sink.taking (es.filterMap Exchange.handed) := by
  rw [hs.handed_eq]
  cases hs with
  | kept hs room =>
    rw [hs]
    rfl
  | full hs room => exact n.sink.taking_nil.symm
  | offered hs taken =>
    rw [hs]
    rfl

theorem Acknowledging.sink_eq {h : Header} {result : Except Error Unit}
    (hk : Acknowledging n h es n' result) : n'.sink = n.sink := by
  cases hk <;> rfl

/-- **A reception puts one delivery into the queue at most.** -/
theorem Handling.sink_eq {event : Except Error PollEvent} (hh : Handling n r es n' event) :
    n'.sink = n.sink.taking (es.filterMap Exchange.handed) ∧
      (es.filterMap Exchange.handed).length ≤ 1 := by
  have hsame : n'.sink = n.sink → es.filterMap Exchange.handed = [] →
      n'.sink = n.sink.taking (es.filterMap Exchange.handed) ∧
        (es.filterMap Exchange.handed).length ≤ 1 := by
    intro hsink hnone
    rw [hnone, Sink.taking_nil]
    exact ⟨hsink, Nat.zero_le _⟩
  cases hh with
  | dropped hf => exact hsame rfl rfl
  | filtered hf ha => exact hsame rfl rfl
  | matched ht hack hw => exact hsame rfl rfl
  | ignored ht hack hw => exact hsame rfl rfl
  | duplicate ht hack hd hk => exact hsame hk.sink_eq hk.heard.2
  | overflowed ht hack hd hs => exact ⟨hs.sink_eq, by rw [hs.handed_eq]; exact Nat.zero_le _⟩
  | delivered ht hack hd hs hk =>
    rw [List.filterMap_append, hk.heard.2, List.append_nil]
    refine ⟨hk.sink_eq.trans hs.sink_eq, ?_⟩
    rw [hs.handed_eq]
    exact Nat.le_refl 1

/-- **So does a look at the radio.** -/
theorem Polling.sink_eq {event : Except Error PollEvent} (hp : Polling n es n' event) :
    n'.sink = n.sink.taking (es.filterMap Exchange.handed) ∧
      (es.filterMap Exchange.handed).length ≤ 1 := by
  rcases hp.taking with ⟨hnothing, rfl, -⟩ | ⟨r, hh, -, -, -, -, hhanded⟩
  · rw [hnothing.handed, Sink.taking_nil]
    exact ⟨rfl, Nat.zero_le _⟩
  · rw [hhanded]
    exact hh.sink_eq

/-- If nothing had come in, nothing is put there. -/
theorem Polling.unhanded (hp : Polling n es n' (.ok .idle)) :
    es.filterMap Exchange.handed = [] := by
  rcases hp.taking with ⟨hnothing, -, -⟩ | ⟨r, hh, htold, -, -, -, -⟩
  · exact hnothing.handed
  · exact absurd (htold _ rfl) hh.ne_idle

/-- With the pause after it, it takes some time, or may put one delivery into the queue. -/
theorem Watching.sink_eq {length : Nat} {result : Except Error Unit}
    (hw : Watching n length es n' result) :
    n'.sink = n.sink.taking (es.filterMap Exchange.handed) ∧
      (es.filterMap Exchange.handed).length ≤ 1 ∧
      (Exchange.slept es = 0 ∨ result = .ok () ∧ es.filterMap Exchange.handed = []) := by
  cases hw with
  | failed hp =>
    exact ⟨hp.sink_eq.1, hp.sink_eq.2, .inl (Exchange.slept_eq_zero hp.unpaused)⟩
  | taken hp he =>
    exact ⟨hp.sink_eq.1, hp.sink_eq.2, .inl (Exchange.slept_eq_zero hp.unpaused)⟩
  | @paused es n' hp =>
    have hnone : (es ++ [(⟨.sleep length, ()⟩ : Exchange)]).filterMap Exchange.handed = [] := by
      rw [List.filterMap_append, hp.unhanded]
      rfl
    have hsink := hp.sink_eq.1
    rw [hp.unhanded] at hsink
    rw [hnone]
    exact ⟨hsink, Nat.zero_le _, .inr ⟨rfl, rfl⟩⟩

theorem Timing.unhanded {deadline : Deadline} {rest : Option Nat} (ht : Timing deadline es rest) :
    es.filterMap Exchange.handed = [] := by
  cases ht <;> rfl

end

/-! ## A wait -/

section

variable {n₀ n n' : Node} {start timeout : Nat} {es es' : List Exchange}

/-- How a wait for a delivery that `n₀` began at `start` ends. -/
inductive Receives (n₀ : Node) (start timeout : Nat) (es : List Exchange) :
    Except Error Reply → Node → Prop where
  /-- A delivery was there, and is given out at once. -/
  | ready {d : Delivery} {n : Node} (waited : n₀.queued = d :: n.queued)
      (once : es = [⟨.now, start⟩]) : Receives n₀ start timeout es (.ok (.delivery (some d))) n
  /-- None was.  One came in before the time was up, and is given out. -/
  | arrived {d : Delivery} {n : Node} (empty : n₀.queued = [])
      (taken : es.filterMap Exchange.handed = [d]) (left : n.queued = [])
      (soon : Exchange.slept es < timeout) :
      Receives n₀ start timeout es (.ok (.delivery (some d))) n
  /-- None was, and none waits when just the time is up. -/
  | expired {n : Node} (empty : n₀.queued = [])
      (taken : n.sink = n₀.sink.taking (es.filterMap Exchange.handed)) (left : n.queued = [])
      (passed : Exchange.slept es = timeout) : Receives n₀ start timeout es (.ok (.delivery none)) n
  /-- None was.  Something went wrong before the time was up, and what was taken waits. -/
  | failed {e : Error} {n : Node} (empty : n₀.queued = [])
      (taken : n.sink = n₀.sink.taking (es.filterMap Exchange.handed))
      (soon : Exchange.slept es < timeout) : Receives n₀ start timeout es (.error e) n

/-- A wait for a delivery that `n₀` began at `start` goes on. -/
structure Awaits (n₀ : Node) (start timeout : Nat) (es : List Exchange) (n : Node) : Prop where
  /-- The sink has what was taken. -/
  sink : n.sink = n₀.sink.taking (es.filterMap Exchange.handed)
  /-- It has only begun, or nothing waited then and one delivery at most does now, for which there
  is time. -/
  stage : (n = n₀ ∧ es = [⟨.now, start⟩]) ∨
    (n₀.queued = [] ∧ n.queued.length ≤ 1 ∧ Exchange.slept es ≤ timeout ∧
      (n.queued ≠ [] → Exchange.slept es < timeout))

/-- How a turn of the wait may end. -/
inductive Waits (n₀ : Node) (start timeout : Nat) (es : List Exchange) :
    Except Error (Turn Activity Reply) → Node → Prop where
  /-- Another is due. -/
  | again {n : Node} (awaits : Awaits n₀ start timeout es n) :
      Waits n₀ start timeout es (.ok (.again (.receiving (Deadline.after start timeout)))) n
  /-- The wait is over. -/
  | ended {result : Except Error Reply} {n : Node}
      (receives : Receives n₀ start timeout es result n) :
      Waits n₀ start timeout es (result.map .finish) n

/-- A turn of a wait gives out what waits. -/
theorem Awaits.received (h : Awaits n₀ start timeout es n) {d : Delivery}
    (hd : n.sink.pop.1 = some d) :
    Receives n₀ start timeout es (.ok (.delivery (some d))) { n with sink := n.sink.pop.2 } := by
  have holdest := Sink.queued_of_pop hd
  rcases h.stage with ⟨rfl, hes⟩ | ⟨hempty, hone, -, hsoon⟩
  · exact .ready holdest hes
  · have hwaits : n.queued = d :: n.sink.pop.2.queued := holdest
    have hlast : n.sink.pop.2.queued = [] := by
      rw [hwaits, List.length_cons] at hone
      exact List.length_eq_zero_iff.1 (by omega)
    refine .arrived hempty ?_ hlast (hsoon (hwaits ▸ List.cons_ne_nil _ _))
    have hqueued := Sink.queued_taking n₀.sink (es.filterMap Exchange.handed)
    rw [← h.sink, holdest, hlast] at hqueued
    rcases hqueued with hnone | htaken
    · cases hnone
    · have hfirst : n₀.sink.queued = [] := hempty
      rw [hfirst, List.nil_append] at htaken
      exact htaken.symm

/-- If nothing waits, nothing did at first. -/
theorem Awaits.empty (h : Awaits n₀ start timeout es n) (hn : n.queued = []) : n₀.queued = [] := by
  rcases h.stage with ⟨rfl, -⟩ | ⟨hempty, -⟩
  · exact hn
  · exact hempty

/-- The time is not over before a turn. -/
theorem Awaits.slept_le (h : Awaits n₀ start timeout es n) : Exchange.slept es ≤ timeout := by
  rcases h.stage with ⟨-, rfl⟩ | ⟨-, -, hwithin, -⟩
  · exact Nat.zero_le _
  · exact hwithin

/-- **A turn of a wait** gives out the oldest delivery, or finds that the time is up, or looks at
the radio. -/
theorem Turning.waits (h : Awaits n₀ start timeout es n)
    {r : Except Error (Turn Activity Reply)}
    (ht : Turning n (.receiving (Deadline.after start timeout)) es' n' r)
    (hon : OnTime (start + Exchange.slept es) es') (hreach : start + timeout < Deadline.beyond) :
    Waits n₀ start timeout (es ++ es') r n' := by
  have hwithin := h.slept_le
  cases ht with
  | @received _ d hd =>
    rw [List.append_nil]
    exact .ended (h.received hd)
  | expired hd ht =>
    have hnone : n.queued = [] := Sink.pop_eq_none_iff.1 hd
    have hpassed := ht.passed hon
    refine .ended (.expired (h.empty hnone) ?_ hnone ?_)
    · rw [List.filterMap_append, ht.unhanded, List.append_nil]
      exact h.sink
    · rw [Exchange.slept_append, Exchange.slept_eq_zero ht.unpaused]
      omega
  | @waited _ rest es₁ es₂ n' r hd ht hw =>
    have hnone : n.queued = [] := Sink.pop_eq_none_iff.1 hd
    obtain ⟨hsoon, hrest⟩ := (ht.ahead (onTime_append.1 hon).1).resolve_right (by omega)
    obtain ⟨hsink, hone, hpause⟩ := hw.sink_eq
    have hshort := hw.slept_le
    have hslept : Exchange.slept (es ++ (es₁ ++ es₂)) = Exchange.slept es + Exchange.slept es₂ := by
      rw [Exchange.slept_append, Exchange.slept_append, Exchange.slept_eq_zero ht.unpaused,
        Nat.zero_add]
    have htaken : n'.sink = n₀.sink.taking ((es ++ (es₁ ++ es₂)).filterMap Exchange.handed) := by
      rw [hsink, h.sink, Sink.taking_taking, List.filterMap_append, List.filterMap_append,
        ht.unhanded, List.nil_append]
    cases r with
    | error e =>
      refine .ended (.failed (h.empty hnone) htaken ?_)
      rcases hpause with hpause | ⟨hok, -⟩
      · omega
      · cases hok
    | ok u =>
      have hqueued : n'.queued = [] ∨ n'.queued = es₂.filterMap Exchange.handed := by
        have hqueued := Sink.queued_taking n.sink (es₂.filterMap Exchange.handed)
        have hempty : n.sink.queued = [] := hnone
        rwa [← hsink, hempty, List.nil_append] at hqueued
      refine .again ⟨htaken, .inr ⟨h.empty hnone, ?_, ?_, fun hwaits => ?_⟩⟩
      · rcases hqueued with hqueued | hqueued
        · rw [hqueued]
          exact Nat.zero_le _
        · rw [hqueued]
          exact hone
      · omega
      · rcases hpause with hpause | ⟨-, hunhanded⟩
        · omega
        · rw [hunhanded, or_self] at hqueued
          exact absurd hqueued hwaits

/-- **However far a wait has come**, it is as it should be. -/
theorem Operation.Reaches.waits {r : Except Error (Turn Activity Reply)}
    (hr : (Operation.recvTimeout timeout).Reaches n₀ es (.done (r, n))) (hon : OnTime start es)
    (hreach : start + timeout < Deadline.beyond) : Waits n₀ start timeout es r n := by
  refine hr.holds (Q := fun es r n => OnTime start es → Waits n₀ start timeout es r n) ?_ ?_ hon
  · intro es r n hs hon
    cases hs with
    | receiving _ t =>
      obtain rfl := hon.now
      exact .again ⟨n₀.sink.taking_nil.symm, .inl ⟨rfl, rfl⟩⟩
    | sending hop hd => cases hop
  · intro es a n₁ es' r n _ hbefore ht hon
    obtain ⟨hon₁, hon₂⟩ := onTime_append.1 hon
    generalize hagain : Except.ok (Turn.again a) = r₁ at hbefore
    cases hbefore hon₁ with
    | again awaits =>
      cases hagain
      exact ht.waits awaits hon₂ hreach
    | @ended result _ receives => cases result <;> cases hagain

/-- **A wait ends as it should.** -/
theorem Operation.Reaches.receives {result : Except Error Reply}
    (hr : (Operation.recvTimeout timeout).Reaches n₀ es (.done (result.map .finish, n)))
    (hon : OnTime start es) (hreach : start + timeout < Deadline.beyond) :
    Receives n₀ start timeout es result n := by
  have hwaits := hr.waits hon hreach
  generalize hend : result.map Turn.finish = r at hwaits
  cases hwaits with
  | again awaits => cases result <;> cases hend
  | @ended result' _ receives =>
    obtain rfl : result = result' := by
      cases result <;> cases result' <;> cases hend <;> rfl
    exact receives

variable {is : List Incident} {ch ch' : Channel} {result : Except Error Reply}

/-- What is collected while a wait fails is what the receiver of the channel takes. -/
theorem Incident.collected_of_failed {op : Operation} {e : Error}
    (his : history is = .began op :: es.map .exchanged ++ [.ended (.error e)])
    (htaken : ∀ d, .taken (some d) ∉ is) : collected is = [] := by
  refine List.filterMap_eq_nil_iff.2 fun i hi => ?_
  cases i with
  | node o =>
    have ho : o ∈ history is := List.mem_filterMap.2 ⟨_, hi, rfl⟩
    rw [his, List.mem_append, List.mem_cons, List.mem_map, List.mem_singleton] at ho
    rcases ho with (rfl | ⟨x, -, rfl⟩) | rfl <;> rfl
  | taken d =>
    cases d with
    | none => rfl
    | some d => exact absurd hi (htaken d)
  | closed lost => rfl

/-- **A wait for a delivery is exact and loses nothing**, on a clock that only its own pauses move,
with whatever waits at first, whatever comes in, and for every sink.

It gives out the oldest delivery that waits, at once and without a look at the radio.  If none
waits it gives out the one that it takes, before the time is up, and leaves none; or it gives out
none, when just the time is up and none waits.  Only an error ends it otherwise.

What waited at first and what was taken has been collected by then, or left behind by a receiver
that went, or still waits, in this order; so after an error all that was taken still waits, unless
the receiver has it. -/
theorem Served.receives_exactly (hc : n₀.config.frame.Valid)
    (hs : Served n₀ ch is (.resting n) ch')
    (his : Incident.history is =
      .began (.recvTimeout timeout) :: es.map .exchanged ++ [.ended result])
    (hon : OnTime start es) (hreach : start + timeout < Deadline.beyond) :
    Receives n₀ start timeout es result n ∧
    Incident.accepted is = es.filterMap Exchange.handed ∧
    n.telemetry.delivered = n₀.telemetry.delivered + (Incident.accepted is).length ∧
    Conserved (n₀.store ch).waiting is (n.store ch') ∧
    ∀ e, result = .error e → (∀ d, .taken (some d) ∉ is) → (∀ lost, .closed lost ∉ is) →
      (n.store ch').waiting = (n₀.store ch).waiting ++ Incident.accepted is := by
  have haccepted : Incident.accepted is = es.filterMap Exchange.handed := by
    rw [Incident.accepted_eq, his, List.filterMap_append, List.filterMap_cons_none rfl,
      List.filterMap_map, List.filterMap_cons_none rfl, List.filterMap_nil, List.append_nil]
    rfl
  have hconserved := hs.conserved hc rfl rfl
  refine ⟨(hs.run.ended his).receives hon hreach, haccepted, ?_, hconserved, ?_⟩
  · have hcounted := hs.run.delivered_counted hc rfl
    rw [← Incident.accepted_eq] at hcounted
    rw [← hcounted]
    exact congrArg Inbox.delivered (hs.run.tray_shows hc rfl rfl).inbox
  · rintro e rfl htaken hclosed
    have hleft : Incident.left is = [] := by
      refine List.flatMap_eq_nil_iff.2 fun i hi => ?_
      cases i with
      | closed lost => exact absurd hi (hclosed lost)
      | _ => rfl
    have horder := hconserved.order
    rw [Incident.collected_of_failed his htaken, hleft, List.nil_append, List.nil_append] at horder
    exact horder.symm

end

set_option maxRecDepth 2000 in
/-- A node that pauses for 2 at most waits for 3.  After the pause a datagram comes in, and the
radio goes off the air over the acknowledgment.  The wait fails, and the delivery is in the
queue. -/
theorem receives_exactly_interrupted :
    ∃ (f : Frame) (is : List Incident) (es : List Exchange) (n : Node), f = ⟨⟨1, 2, 5, 0⟩, [9]⟩ ∧
      Served (.fresh { pollInterval := 2 }) (.ofCapacity 0) is (.resting n) (.ofCapacity 0) ∧
      Receives (.fresh { pollInterval := 2 }) 0 3 es (.error (.radio .shutdown)) n ∧
      Exchange.slept es = 2 ∧ (n.store (.ofCapacity 0)).waiting = [f.delivery (-40)] := by
  obtain ⟨f, hf⟩ : ∃ f : Frame, f = ⟨⟨1, 2, 5, 0⟩, [9]⟩ := ⟨_, rfl⟩
  let idling : List Exchange :=
    [⟨.now, (0 : Nat)⟩, ⟨.mode, .receive⟩, ⟨.radio .frameReady, .ok false⟩, ⟨.sleep 2, ()⟩]
  let breaking : List Exchange :=
    [⟨.now, (2 : Nat)⟩, ⟨.mode, .receive⟩, ⟨.radio .frameReady, .ok true⟩,
      ⟨.radio .receive, .ok (some ⟨f.wire {}, -40⟩)⟩, ⟨.kept (f.delivery (-40)), ()⟩,
      ⟨.radio (.setMode .transmit), .ok ()⟩,
      ⟨.radio (.transmit ((Frame.ackFor f.header 1).wire {})), .error .shutdown⟩,
      ⟨.radio (.setMode .receive), .ok ()⟩, ⟨.radio (.setMode .receive), .ok ()⟩]
  obtain ⟨n₁, n₂, n, hbegin, hidle, hbreak⟩ : ∃ n₁ n₂ n,
      Task.Path ((Operation.recvTimeout 3).start (.fresh { pollInterval := 2 }))
        [⟨.now, (0 : Nat)⟩] (.done (.ok (.again (.receiving (Deadline.after 0 3))), n₁)) ∧
      Task.Path ((Activity.receiving (Deadline.after 0 3)).turn n₁) idling
        (.done (.ok (.again (.receiving (Deadline.after 0 3))), n₂)) ∧
      Task.Path ((Activity.receiving (Deadline.after 0 3)).turn n₂) breaking
        (.done (.error (.radio .shutdown), n)) := by
    subst hf
    exact ⟨_, _, _, .step (.here _), .step (.step (.step (.step (.here _)))),
      .step (.step (.step (.step (.step (.step (.step (.step (.step (.here _)))))))))⟩
  have hbegun : Served (.fresh { pollInterval := 2 }) (.ofCapacity 0) _ _ _ :=
    ((Served.start.step (.begin _ (.recvTimeout 3)) nofun).path hbegin (by simp)).step
      (.turn _ n₁) nofun
  have hidled := (hbegun.path hidle (by simp [idling])).step (.turn _ n₂) nofun
  have hended := (hidled.path hbreak (by simp [breaking])).step (.fail _ n) nofun
  have hvalid : (Node.fresh { pollInterval := 2 }).config.frame.Valid :=
    (bringUp_path bringUp_usual).1.frame
  have hon : OnTime 0 ([⟨.now, (0 : Nat)⟩] ++ idling ++ breaking) := by
    simp only [idling, breaking, List.nil_append, List.cons_append, onTime_cons, Exchange.told,
      Option.some.injEq, forall_eq', reduceCtorEq, IsEmpty.forall_iff, implies_true, true_and]
    exact ⟨rfl, rfl, throughout_nil⟩
  obtain ⟨hreceives, -, -, -, hkept⟩ :=
    Served.receives_exactly hvalid hended (by rfl) hon (by decide)
  refine ⟨f, _, _, n, hf, hended, hreceives, rfl, ?_⟩
  exact hkept _ rfl (by simp [idling, breaking]) (by simp [idling, breaking])

end Link
end PacketRadio
