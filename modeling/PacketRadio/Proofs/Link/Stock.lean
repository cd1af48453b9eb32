/-
# What waits in a node's own queue

rflink specification, §5: the bounded local queue; §4.5: the counter of
deliveries.

A node that keeps its deliveries itself has counted each of them as delivered.
Those that it has given out and those that wait make up the count.

| what the node does | given out | waiting |
| --- | --- | --- |
| handle a reception | the same | at most one more, if there is room |
| give out a delivery | one more | one less |
| anything else | the same | the same |

Main statements: `Polling.stock`, `Intake.stock` for any stretch, and
`Turning.stock_receiving` for a turn of waiting for a delivery.
-/

import PacketRadio.Proofs.Link.Turns

namespace PacketRadio
namespace Link

/-- So many may wait in the node's own queue, these do, and all that were counted are either waiting
or among the `given`. -/
structure Node.Stock (n : Node) (limit given : Nat) (w : List Delivery) : Prop where
  /-- They wait in the node's own queue. -/
  sink : n.sink = .queue limit w
  /-- There is room for them. -/
  room : w.length ≤ limit
  /-- The others were given out. -/
  counted : n.telemetry.delivered = given + w.length

section

variable {n n' : Node} {es : List Exchange} {limit given : Nat} {w : List Delivery}

theorem Node.stock_fresh (c : Config) : (Node.fresh c).Stock c.deliveryCapacity 0 [] :=
  ⟨rfl, Nat.zero_le _, rfl⟩

theorem Node.Stock.congr (h : n.Stock limit given w) (hsink : n'.sink = n.sink)
    (hcount : n'.telemetry.delivered = n.telemetry.delivered) : n'.Stock limit given w :=
  ⟨hsink.trans h.sink, h.room, hcount.trans h.counted⟩

theorem Node.Stock.of_inward (h : n.Stock limit given w) (hsame : n'.inward = n.inward) :
    n'.Stock limit given w := by
  have hcount : n'.inward.telemetry.delivered = n.inward.telemetry.delivered := by rw [hsame]
  exact h.congr (Node.sink_of_inward hsame) hcount

/-- **The oldest delivery is given out**, if there is one. -/
theorem Node.Stock.pop {d : Delivery} (h : n.Stock limit given w) (hd : n.sink.pop.1 = some d) :
    Node.Stock { n with sink := n.sink.pop.2 } limit (given + 1) w.tail := by
  obtain ⟨hsink, hroom, hcounted⟩ := h
  rw [hsink] at hd ⊢
  cases w with
  | nil => cases hd
  | cons d' rest =>
    refine ⟨rfl, Nat.le_of_succ_le hroom, ?_⟩
    rw [List.length_cons] at hcounted
    show n.telemetry.delivered = given + 1 + rest.length
    omega

/-- None is if none waits. -/
theorem Node.Stock.pop_eq_none_iff (h : n.Stock limit given w) : n.sink.pop.1 = none ↔ w = [] := by
  rw [h.sink]
  cases w <;> simp [Sink.pop]

/-! ## Receptions -/

theorem Delivering.stock {d : Delivery} {taken : Bool} (hs : Delivering n d es n' taken)
    (h : n.Stock limit given w) :
    n'.telemetry = n.telemetry ∧ n'.sink = .queue limit (w ++ if taken then [d] else []) ∧
      (w ++ if taken then [d] else []).length ≤ limit := by
  obtain ⟨hsink, hroom, -⟩ := h
  cases hs with
  | kept hs room =>
    obtain ⟨rfl, rfl⟩ := Sink.queue.inj (hs.symm.trans hsink)
    refine ⟨rfl, rfl, ?_⟩
    rw [if_pos rfl, List.length_append, List.length_singleton]
    exact room
  | full hs room => exact ⟨rfl, by simpa using hsink, by simpa using hroom⟩
  | offered hs taken => rw [hsink] at hs; cases hs

theorem Acknowledging.stock {h : Header} {r : Except Error Unit}
    (hk : Acknowledging n h es n' r) (hs : n.Stock limit given w) : n'.Stock limit given w := by
  cases hk with
  | unowed ho => exact hs
  | failed ho hs' => exact hs
  | sent ho hs' => exact hs.congr rfl rfl

/-- **At most one more waits after a reception**, and it is counted. -/
theorem Handling.stock {r : Radio.Reception} {event : Except Error PollEvent}
    (hh : Handling n r es n' event) (h : n.Stock limit given w) :
    ∃ more, more.length ≤ 1 ∧ n'.Stock limit given (w ++ more) := by
  have hsame : n'.Stock limit given w → ∃ more, more.length ≤ 1 ∧
      n'.Stock limit given (w ++ more) := fun hn' => ⟨[], Nat.zero_le _, by rwa [List.append_nil]⟩
  cases hh with
  | dropped hf => exact hsame (h.congr rfl rfl)
  | filtered hf ha => exact hsame (h.congr rfl rfl)
  | matched ht hack hw => exact hsame (h.congr rfl rfl)
  | ignored ht hack hw => exact hsame (h.congr rfl rfl)
  | duplicate ht hack hd hk => exact hsame (hk.stock (h.congr rfl rfl))
  | @overflowed f es n₁ ht hack hd hs =>
    have hheard : (n.hearing f r.rssi).Stock limit given w := h.congr rfl rfl
    obtain ⟨htelemetry, hsink, -⟩ := hs.stock hheard
    rw [if_neg Bool.false_ne_true, List.append_nil] at hsink
    refine hsame ⟨hsink, h.room, ?_⟩
    have hcount : n₁.telemetry.delivered = (n.hearing f r.rssi).telemetry.delivered := by
      rw [htelemetry]
    exact hcount.trans h.counted
  | @delivered f es es' n₁ n' acked ht hack hd hs hk =>
    have hheard : (n.hearing f r.rssi).Stock limit given w := h.congr rfl rfl
    obtain ⟨htelemetry, hsink, hroom⟩ := hs.stock hheard
    refine ⟨[f.delivery r.rssi], Nat.le_refl 1, hk.stock ⟨hsink, hroom, ?_⟩⟩
    have hcount : n₁.telemetry.delivered = given + w.length := by
      rw [htelemetry]
      exact h.counted
    show n₁.telemetry.delivered + 1 = _
    rw [hcount, List.length_append, List.length_singleton, Nat.add_assoc]

/-- **So it is after a look at the radio.** -/
theorem Polling.stock {event : Except Error PollEvent} (hp : Polling n es n' event)
    (h : n.Stock limit given w) : ∃ more, more.length ≤ 1 ∧ n'.Stock limit given (w ++ more) := by
  have hsame : ∃ more, more.length ≤ 1 ∧ n.Stock limit given (w ++ more) :=
    ⟨[], Nat.zero_le _, by rwa [List.append_nil]⟩
  have hlooking : ∀ {es event}, Looking n es n' event →
      ∃ more, more.length ≤ 1 ∧ n'.Stock limit given (w ++ more) := by
    rintro es event (_ | _ | ⟨_ | _ | ⟨r, hh⟩, restored⟩)
    · exact hsame
    · exact hsame
    · exact hsame
    · exact hsame
    · exact hh.stock h
  cases hp with
  | deaf hm failure => exact hsame
  | roused hm hl => exact hlooking hl
  | awake hl => exact hlooking hl

/-! ## Stretches -/

/-- **Whatever a node does in a stretch**, what it gives out is accounted for. -/
theorem Intake.stock {r : Except Error (Turn Activity Reply)} (hi : Intake n es n' r)
    (h : n.Stock limit given w) :
    ∃ w', n'.Stock limit (given + (Turn.given r).toList.length) w' := by
  cases hi with
  | none outward same hr =>
    rw [hr]
    exact ⟨w, h.of_inward same⟩
  | popped hd => exact ⟨w.tail, h.pop hd⟩
  | looked before hp after same hr =>
    obtain ⟨more, -, hmore⟩ := hp.stock h
    rw [hr]
    exact ⟨w ++ more, hmore.of_inward same⟩

/-- What a turn of waiting for a delivery comes to.  The radio is looked at only if nothing
waits. -/
inductive Await (n' : Node) (deadline : Deadline) (limit given : Nat) (w : List Delivery) :
    Except Error (Turn Activity Reply) → Prop where
  /-- A delivery is given out. -/
  | received (d : Delivery) (hn' : n'.Stock limit (given + 1) w.tail) :
      Await n' deadline limit given w (.ok (.finish (.delivery (some d))))
  /-- The time is up. -/
  | expired (hw : w = []) (hn' : n'.Stock limit given []) :
      Await n' deadline limit given w (.ok (.finish (.delivery none)))
  /-- The wait goes on. -/
  | waited (hw : w = []) {more : List Delivery} (hmore : more.length ≤ 1)
      (hn' : n'.Stock limit given more) :
      Await n' deadline limit given w (.ok (.again (.receiving deadline)))
  /-- It fails. -/
  | failed (e : Error) : Await n' deadline limit given w (.error e)

/-- **A turn of waiting for a delivery** gives out the oldest one, or there was none. -/
theorem Turning.stock_receiving {deadline : Deadline} {r : Except Error (Turn Activity Reply)}
    (ht : Turning n (.receiving deadline) es n' r) (h : n.Stock limit given w) :
    Await n' deadline limit given w r := by
  cases ht with
  | received _ hd => exact .received _ (h.pop hd)
  | expired hd ht =>
    obtain rfl := h.pop_eq_none_iff.1 hd
    exact .expired rfl h
  | @waited _ rest es es' n' r hd ht hw =>
    obtain rfl := h.pop_eq_none_iff.1 hd
    obtain ⟨looked, pause, event, -, hp, -⟩ := hw.polling
    obtain ⟨more, hmore, hn'⟩ := hp.stock h
    cases r with
    | error e => exact .failed e
    | ok u => exact .waited rfl hmore hn'

end

end Link
end PacketRadio
