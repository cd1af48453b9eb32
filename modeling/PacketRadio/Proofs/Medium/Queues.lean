/-
# The queues of the stations

rflink specification, §4.2: the receive FIFO of each radio.

What waits at a station only changes in three ways: the station's own radio
takes the oldest frame, another station's transmission puts one at the end,
or the radio leaves.  What a transmission puts there is what was sent, or that
with its last bit flipped.

Main statements: `fifo_call_self` and `fifo_call_of_ne`, and `moved_call`, which
says the same of any number of calls.
-/

import PacketRadio.Medium.Basic

namespace PacketRadio

/-- The reception that a call to a radio brought. -/
def Radio.Call.taken : (call : Radio.Call) → Except Radio.Failure call.Result →
    Option Radio.Reception
  | .receive, .ok reception => reception
  | _, _ => none

/-- The bytes that a call puts on the air, or tries to. -/
def Radio.Call.aired : Radio.Call → Option Bytes
  | .transmit bytes => some bytes
  | _ => none

namespace Medium

variable (m : Medium)

/-- The frames that wait at a station, oldest first. -/
def fifo (i : Nat) : List Radio.Reception :=
  (m.stations[i]?).elim [] (·.fifo)

theorem fifo_congr {m m' : Medium} (h : m'.stations = m.stations) (i : Nat) :
    m'.fifo i = m.fifo i := by
  rw [fifo, fifo, h]

@[simp] theorem fifo_recount (f : MediumStats → MediumStats) (i : Nat) :
    (m.recount f).fifo i = m.fifo i := rfl

/-- **A change at one station leaves the other queues alone.** -/
theorem fifo_modify_of_ne {i j : Nat} (h : j ≠ i) (f : Station → Station) :
    (m.modify i f).fifo j = m.fifo j := by
  simp only [fifo, modify, List.getElem?_modify_ne _ _ h.symm]

theorem fifo_modify_self (i : Nat) (f : Station → Station) :
    (m.modify i f).fifo i = (m.stations[i]?).elim [] fun s => (f s).fifo := by
  simp only [fifo, modify, List.getElem?_modify_eq]
  cases m.stations[i]? <;> rfl

/-- A change that is not to the queue leaves all queues alone. -/
theorem fifo_modify (i j : Nat) (f : Station → Station) (hf : ∀ s, (f s).fifo = s.fifo) :
    (m.modify i f).fifo j = m.fifo j := by
  by_cases h : j = i
  · subst h
    rw [fifo_modify_self, fifo]
    simp only [hf]
  · exact fifo_modify_of_ne m h f

/-- What a radio is doing does not matter to what waits. -/
theorem fifo_modify_mode (i j : Nat) (mode : Radio.Mode) :
    (m.modify i fun s => { s with mode }).fifo j = m.fifo j :=
  fifo_modify m i j _ fun _ => rfl

/-- A new station has heard nothing yet. -/
theorem fifo_attach (failure : Option String) (j : Nat) :
    (m.attach failure).2.fifo j = m.fifo j := by
  simp only [fifo, attach, List.getElem?_append]
  split
  · rfl
  · rename_i h
    rw [List.getElem?_eq_none (Nat.le_of_not_lt h)]
    cases hj : j - m.stations.length with
    | zero => rfl
    | succ k => rfl

/-- A radio that leaves loses what waits for it. -/
theorem fifo_detach_sublist (i j : Nat) : ((m.detach i).fifo j).Sublist (m.fifo j) := by
  by_cases h : j = i
  · subst h
    rw [detach, fifo_modify_self, fifo]
    cases m.stations[j]? <;> simp [Station.detach]
  · simp [detach, fifo_modify_of_ne m h]

/-! ## Transmissions -/

/-- **A transmission adds at most itself to the queue of another station.** -/
theorem fifo_spread (sender : Nat) (src : Address) (frame : Bytes) (j : Nat) :
    (m.spread sender src frame).fifo j = m.fifo j ∨
      j ≠ sender ∧ ∃ rssi, (m.spread sender src frame).fifo j = m.fifo j ++ [⟨frame, rssi⟩] := by
  simp only [fifo, spread, List.getElem?_mapIdx]
  cases m.stations[j]? with
  | none => exact .inl rfl
  | some s =>
    simp only [Option.map_some, Option.elim_some]
    split
    · rename_i hears
      have hj : j ≠ sender := by
        rintro rfl
        simp [Medium.hears] at hears
      unfold Station.offer
      split
      · exact .inr ⟨hj, _, rfl⟩
      · exact .inl rfl
    · exact .inl rfl

/-- What was sent got to a station, perhaps with its last bit flipped. -/
def IsCopy (bytes : Bytes) (r : Radio.Reception) : Prop :=
  r.bytes = bytes ∨ r.bytes = damage bytes

/-- **What is put on the air gets to the end of another queue, or it does not.** -/
theorem fifo_broadcast (sender : Nat) (bytes : Bytes) (j : Nat) :
    (m.broadcast sender bytes).2.fifo j = m.fifo j ∨
      j ≠ sender ∧ ∃ r, IsCopy bytes r ∧
        (m.broadcast sender bytes).2.fifo j = m.fifo j ++ [r] := by
  unfold broadcast
  split
  · exact .inl rfl
  · rename_i station _
    generalize hcounted : m.recount _ = counted
    have hfifo : counted.fifo j = m.fifo j := by rw [← hcounted, fifo_recount]
    dsimp only
    rw [← hfifo]
    cases m.fate counted.stats.transmissions bytes with
    | lostOnCredit => exact .inl rfl
    | lost => exact .inl rfl
    | damaged =>
      rcases fifo_spread (counted.recount fun s => { s with corrupted := s.corrupted + 1 }) sender
        station.address (damage bytes) j with h | ⟨hj, rssi, h⟩
      · exact .inl h
      · exact .inr ⟨hj, _, .inr rfl, h⟩
    | intact =>
      rcases fifo_spread counted sender station.address bytes j with h | ⟨hj, rssi, h⟩
      · exact .inl h
      · exact .inr ⟨hj, _, .inl rfl, h⟩

/-! ## Calls -/

/-- **What a radio takes and what then waits for it is what waited for it.** -/
theorem fifo_call_self (i : Nat) (call : Radio.Call) :
    (call.taken (m.call i call).1).toList ++ (m.call i call).2.fifo i = m.fifo i := by
  cases call with
  | init =>
    simp only [Medium.call, Radio.Call.taken, Option.toList_none, List.nil_append]
    split
    · rfl
    · exact fifo_modify m i i _ fun _ => rfl
  | setAddress address promiscuous =>
    simp only [Medium.call, Radio.Call.taken, Option.toList_none, List.nil_append]
    split
    · rfl
    · exact fifo_modify m i i _ fun _ => rfl
  | setMode mode =>
    simp only [Medium.call, Radio.Call.taken, Option.toList_none, List.nil_append]
    exact fifo_modify_mode m i i mode
  | frameReady =>
    simp only [Medium.call]
    split
    · rfl
    · split <;> rfl
  | receive =>
    simp only [Medium.call]
    split
    · rfl
    · rename_i s hs
      have hi : m.stations[i]? = some s := by
        rw [live?, Option.filter_eq_some_iff] at hs
        exact hs.1
      simp only [Radio.Call.taken, fifo_modify_self, hi, Option.elim_some, Station.take]
      rw [fifo, hi, Option.elim_some]
      cases s.fifo <;> rfl
  | transmit bytes =>
    simp only [Medium.call, Radio.Call.taken, Option.toList_none, List.nil_append]
    rw [fifo_modify_mode, ← fifo_modify_mode m i i .transmit]
    rcases fifo_broadcast (m.modify i fun s => { s with mode := .transmit }) i bytes i with
      h | ⟨hi, -⟩
    · exact h
    · exact absurd rfl hi

/-- **A call changes the queue of another station only by a transmission.** -/
theorem fifo_call_of_ne {i j : Nat} (hj : j ≠ i) (call : Radio.Call) :
    (m.call i call).2.fifo j = m.fifo j ∨
      ∃ bytes r, call = .transmit bytes ∧ IsCopy bytes r ∧
        (m.call i call).2.fifo j = m.fifo j ++ [r] := by
  cases call with
  | init =>
    left
    simp only [Medium.call]
    split
    · rfl
    · exact fifo_modify_of_ne m hj _
  | setAddress address promiscuous =>
    left
    simp only [Medium.call]
    split
    · rfl
    · exact fifo_modify_of_ne m hj _
  | setMode mode => exact .inl (fifo_modify_of_ne m hj _)
  | frameReady =>
    left
    simp only [Medium.call]
    split
    · rfl
    · split <;> rfl
  | receive =>
    left
    simp only [Medium.call]
    split
    · rfl
    · exact fifo_modify_of_ne m hj _
  | transmit bytes =>
    have hstart := fifo_modify_of_ne m hj fun s => { s with mode := .transmit }
    simp only [Medium.call]
    rw [fifo_modify_of_ne _ hj, ← hstart]
    rcases fifo_broadcast (m.modify i fun s => { s with mode := .transmit }) i bytes j with
      h | ⟨-, r, hr, h⟩
    · exact .inl h
    · exact .inr ⟨bytes, r, rfl, hr, h⟩

/-! ## Who is on the medium -/

/-- Which radios are on the medium. -/
def present : List Bool :=
  m.stations.map (·.attached)

theorem live?_isSome (i : Nat) : (m.live? i).isSome ↔ m.present[i]? = some true := by
  simp only [live?, present, List.getElem?_map]
  cases m.stations[i]? with
  | none => simp
  | some s => cases h : s.attached <;> simp [Option.filter, h]

/-- A radio stays on the medium if the radios on it stay the same. -/
theorem live_of_present {m m' : Medium} {i : Nat} (h : m'.present = m.present)
    (hlive : (m.live? i).isSome) : (m'.live? i).isSome := by
  rw [live?_isSome] at hlive ⊢
  rwa [h]

theorem present_modify (i : Nat) {f : Station → Station}
    (hf : ∀ s, (f s).attached = s.attached) : (m.modify i f).present = m.present := by
  apply List.ext_getElem?
  intro j
  simp only [present, modify, List.getElem?_map, List.getElem?_modify]
  cases m.stations[j]? with
  | none => rfl
  | some s => by_cases h : i = j <;> simp [h, hf]

theorem present_spread (sender : Nat) (src : Address) (frame : Bytes) :
    (m.spread sender src frame).present = m.present := by
  apply List.ext_getElem?
  intro j
  simp only [present, spread, List.getElem?_map, List.getElem?_mapIdx]
  cases m.stations[j]? with
  | none => rfl
  | some s =>
    simp only [Option.map_some]
    split
    · unfold Station.offer
      split <;> rfl
    · rfl

theorem present_broadcast (sender : Nat) (bytes : Bytes) :
    (m.broadcast sender bytes).2.present = m.present := by
  unfold broadcast
  split
  · rfl
  · dsimp only
    generalize Medium.fate _ _ _ = fate
    cases fate with
    | lostOnCredit => rfl
    | lost => rfl
    | damaged => exact present_spread _ _ _ _
    | intact => exact present_spread _ _ _ _

/-- **What sends nothing changes one station at most**, and leaves it on the medium. -/
theorem call_changes (i : Nat) (call : Radio.Call) :
    (∃ bytes, call = .transmit bytes) ∨ (m.call i call).2 = m ∨
      ∃ f : Station → Station, (m.call i call).2 = m.modify i f ∧
        ∀ s, (f s).attached = s.attached := by
  cases call with
  | init =>
    right
    simp only [Medium.call]
    split
    · exact .inl rfl
    · exact .inr ⟨_, rfl, fun _ => rfl⟩
  | setAddress address promiscuous =>
    right
    simp only [Medium.call]
    split
    · exact .inl rfl
    · exact .inr ⟨_, rfl, fun _ => rfl⟩
  | setMode mode => exact .inr (.inr ⟨_, rfl, fun _ => rfl⟩)
  | frameReady =>
    right
    simp only [Medium.call]
    split
    · exact .inl rfl
    · split <;> exact .inl rfl
  | receive =>
    right
    simp only [Medium.call]
    split
    · exact .inl rfl
    · exact .inr ⟨_, rfl, fun _ => rfl⟩
  | transmit bytes => exact .inl ⟨bytes, rfl⟩

/-- **Radios neither come nor go by being called.** -/
theorem present_call (i : Nat) (call : Radio.Call) : (m.call i call).2.present = m.present := by
  rcases call_changes m i call with ⟨bytes, rfl⟩ | hsame | ⟨f, hmodify, hf⟩
  · refine (present_modify _ i ?_).trans
      ((present_broadcast _ i bytes).trans (present_modify m i ?_))
    · exact fun _ => rfl
    · exact fun _ => rfl
  · rw [hsame]
  · rw [hmodify, present_modify m i hf]

/-- **Only what is put on the air is counted as a transmission.** -/
theorem transmissions_call (i : Nat) (call : Radio.Call) :
    m.stats.transmissions ≤ (m.call i call).2.stats.transmissions ∧
      (m.call i call).2.stats.transmissions ≤
        m.stats.transmissions + call.aired.toList.length := by
  rcases call_changes m i call with ⟨bytes, rfl⟩ | hsame | ⟨f, hmodify, -⟩
  · have hcount : (m.call i (.transmit bytes)).2.stats.transmissions = m.stats.transmissions + _ :=
      broadcast_transmissions (m.modify i fun s => { s with mode := .transmit }) i bytes
    rw [hcount]
    constructor
    · exact Nat.le_add_right _ _
    · refine Nat.add_le_add_left ?_ _
      split
      · exact Nat.le_refl _
      · exact Nat.zero_le _
  · rw [hsame]
    exact ⟨Nat.le_refl _, Nat.le_add_right _ _⟩
  · rw [hmodify]
    exact ⟨Nat.le_refl _, Nat.le_add_right _ _⟩

/-! ## Any number of calls -/

/-- What a medium has become by calls to the radio at a station, which took and sent this. -/
structure Moved (i : Nat) (taken : List Radio.Reception) (sent : List Bytes) (m m' : Medium) :
    Prop where
  /-- The same radios are on the medium. -/
  present : m'.present = m.present
  /-- What was taken had waited there first. -/
  own : taken ++ m'.fifo i = m.fifo i
  /-- Other queues have got at most one copy of each thing that was sent. -/
  other : ∀ j ≠ i, ∃ rs, m'.fifo j = m.fifo j ++ rs ∧ rs.length ≤ sent.length ∧
    ∀ r ∈ rs, ∃ bytes ∈ sent, IsCopy bytes r
  /-- Transmissions are not forgotten. -/
  grows : m.stats.transmissions ≤ m'.stats.transmissions
  /-- What was not sent is not counted as one. -/
  count : m'.stats.transmissions ≤ m.stats.transmissions + sent.length

variable {m} {m' m'' : Medium} {i : Nat} {taken taken' : List Radio.Reception}
  {sent sent' : List Bytes}

theorem Moved.refl (i : Nat) (m : Medium) : Moved i [] [] m m :=
  ⟨rfl, rfl, fun j _ => ⟨[], by simp⟩, Nat.le_refl _, Nat.le_refl _⟩

theorem Moved.trans (h : Moved i taken sent m m') (h' : Moved i taken' sent' m' m'') :
    Moved i (taken ++ taken') (sent ++ sent') m m'' := by
  refine ⟨h'.present.trans h.present, ?_, fun j hj => ?_, Nat.le_trans h.grows h'.grows, ?_⟩
  · rw [List.append_assoc, h'.own, h.own]
  · obtain ⟨rs, hrs, hlen, hcopy⟩ := h.other j hj
    obtain ⟨rs', hrs', hlen', hcopy'⟩ := h'.other j hj
    refine ⟨rs ++ rs', by rw [hrs', hrs, List.append_assoc], ?_, fun r hr => ?_⟩
    · rw [List.length_append, List.length_append]
      omega
    · rcases List.mem_append.1 hr with hr | hr
      · obtain ⟨bytes, hbytes, hcopies⟩ := hcopy r hr
        exact ⟨bytes, List.mem_append_left _ hbytes, hcopies⟩
      · obtain ⟨bytes, hbytes, hcopies⟩ := hcopy' r hr
        exact ⟨bytes, List.mem_append_right _ hbytes, hcopies⟩
  · have hcount := h.count
    have hcount' := h'.count
    rw [List.length_append]
    omega

/-- **One call.** -/
theorem moved_call (m : Medium) (i : Nat) (call : Radio.Call) :
    Moved i (call.taken (m.call i call).1).toList call.aired.toList m (m.call i call).2 := by
  refine ⟨present_call m i call, fifo_call_self m i call, fun j hj => ?_,
    (transmissions_call m i call).1, (transmissions_call m i call).2⟩
  rcases fifo_call_of_ne m hj call with hsame | ⟨bytes, r, rfl, hr, hmore⟩
  · exact ⟨[], by simp [hsame]⟩
  · exact ⟨[r], hmore, Nat.le_refl _, by simpa [Radio.Call.aired] using hr⟩

end Medium
end PacketRadio
