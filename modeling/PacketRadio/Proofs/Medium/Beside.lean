/-
# One more station behind all others

rflink specification, §4.2: every transmission is offered to every other
attached radio.

A medium with one more station, behind all others, does the same for each of
them.  What they send is lost or damaged as before, since only transmissions
are counted for that, and gets to the same queues; the copies for the station
behind are counted on top.

| of the two media | is |
| --- | --- |
| the other stations, the settings, the credit | the same |
| transmissions, losses, damages | the same |
| copies that found room, copies that did not | at least as many |

Main statements: `Beside.obey`, for what is done to the medium and the other
stations, and `Beside.call_last` for the station behind, as long as it sends
nothing.
-/

import PacketRadio.Proofs.Medium.Past

namespace PacketRadio
namespace Medium

/-- The medium with one more station behind all others, for which so many copies were counted. -/
def extend (m : Medium) (st : Station) (delivered overflowed : Nat) : Medium :=
  { m with
    stations := m.stations ++ [st]
    stats := { m.stats with
      delivered := m.stats.delivered + delivered
      overflowed := m.stats.overflowed + overflowed } }

/-- The second medium is the first with one more station, number `l`, behind all others. -/
structure Beside (l : Nat) (m m' : Medium) : Prop where
  /-- All others come before it. -/
  last : m.stations.length = l
  /-- There is nothing else to it. -/
  same : ∃ st delivered overflowed, m' = m.extend st delivered overflowed

/-- A change at one place of a list that is followed by one more element. -/
theorem modify_concat {α : Type} (l : List α) (a : α) (f : α → α) (j : Nat) :
    (l ++ [a]).modify j f =
      if j = l.length then l ++ [f a] else l.modify j f ++ [a] := by
  induction l generalizing j with
  | nil => cases j <;> simp
  | cons b l ih =>
    cases j with
    | zero => simp
    | succ j =>
      simp only [List.cons_append, List.modify_succ_cons, ih, List.length_cons,
        Nat.add_right_cancel_iff]
      split <;> rfl

/-- A selection by place and value from a list that is followed by one more element. -/
theorem filter_zipIdx_concat {α : Type} (p : α × Nat → Bool) (l : List α) (a : α) :
    (l ++ [a]).zipIdx.filter p = l.zipIdx.filter p ++ [(a, l.length)].filter p := by
  rw [List.zipIdx_append, List.filter_append, Nat.zero_add]
  rfl

namespace Beside

variable {l : Nat} {m m' : Medium}

/-- A new station is behind all others. -/
theorem attach (m : Medium) (initFailure : Option String) :
    Beside m.stations.length m (m.attach initFailure).2 :=
  ⟨rfl, { initFailure }, 0, 0, rfl⟩

/-- **The others are the same.** -/
theorem stations (h : Beside l m m') {j : Nat} (hj : j ≠ l) : m'.stations[j]? = m.stations[j]? := by
  obtain ⟨rfl, st, d, o, rfl⟩ := h
  rw [extend, List.getElem?_append]
  split
  · rfl
  · rw [List.getElem?_eq_none (by simp; omega), List.getElem?_eq_none (by omega)]

theorem mode (h : Beside l m m') {j : Nat} (hj : j ≠ l) : m'.mode j = m.mode j := by
  rw [Medium.mode, Medium.mode, h.stations hj]

theorem live? (h : Beside l m m') {j : Nat} (hj : j ≠ l) : m'.live? j = m.live? j := by
  rw [Medium.live?, Medium.live?, h.stations hj]

/-! ## Changes at one station -/

theorem modify (h : Beside l m m') {j : Nat} (hj : j ≠ l) (f : Station → Station) :
    Beside l (m.modify j f) (m'.modify j f) := by
  obtain ⟨rfl, st, d, o, rfl⟩ := h
  refine ⟨List.length_modify .., st, d, o, ?_⟩
  simp only [Medium.modify, extend, modify_concat, if_neg hj]

theorem modify_last (h : Beside l m m') (f : Station → Station) : Beside l m (m'.modify l f) := by
  obtain ⟨rfl, st, d, o, rfl⟩ := h
  refine ⟨rfl, f st, d, o, ?_⟩
  simp only [Medium.modify, extend, modify_concat, if_pos]

/-! ## Transmissions -/

/-- **What is spread gets to the others as before**, and perhaps to the station behind. -/
theorem spread (h : Beside l m m') (sender : Nat) (src : Address) (frame : Bytes) :
    Beside l (m.spread sender src frame) (m'.spread sender src frame) := by
  obtain ⟨rfl, st, d, o, rfl⟩ := h
  let hears (p : Station × Nat) : Bool := m.hears sender src p.2 p.1
  let room (p : Station × Nat) : Bool := m.hasRoom p.1
  let others := m.stations.zipIdx.filter hears
  let behind := [(st, m.stations.length)].filter hears
  let all := (m.stations ++ [st]).zipIdx.filter hears
  have hall : all = others ++ behind := filter_zipIdx_concat hears m.stations st
  have hdelivered : m.stats.delivered + d + all.countP room =
      m.stats.delivered + others.countP room + (d + behind.countP room) := by
    rw [hall, List.countP_append]
    omega
  have hoverflowed : m.stats.overflowed + o + (all.length - all.countP room) =
      m.stats.overflowed + (others.length - others.countP room) +
        (o + (behind.length - behind.countP room)) := by
    have hothers : others.countP room ≤ others.length := List.countP_le_length
    have hbehind : behind.countP room ≤ behind.length := List.countP_le_length
    rw [hall, List.countP_append, List.length_append]
    omega
  have hstats : ((m.extend st d o).spread sender src frame).stats =
      { (m.spread sender src frame).stats with
        delivered := m.stats.delivered + others.countP room + (d + behind.countP room)
        overflowed := m.stats.overflowed + (others.length - others.countP room) +
          (o + (behind.length - behind.countP room)) } := by
    rw [← hdelivered, ← hoverflowed]
    rfl
  let st' := if hears (st, m.stations.length) then
    st.offer m.capacity ⟨frame, m.rssi src st.address⟩ else st
  have hstations : ((m.extend st d o).spread sender src frame).stations =
      (m.spread sender src frame).stations ++ [st'] := List.mapIdx_concat
  have hspread : (m.extend st d o).spread sender src frame =
    { m with
      stations := ((m.extend st d o).spread sender src frame).stations
      stats := ((m.extend st d o).spread sender src frame).stats } := rfl
  refine ⟨List.length_mapIdx, st', d + behind.countP room,
    o + (behind.length - behind.countP room), ?_⟩
  rw [hspread, hstations, hstats]
  rfl

/-- Other counts than those of copies are the same. -/
theorem recount (h : Beside l m m') {f : MediumStats → MediumStats}
    (hf : ∀ s delivered overflowed,
      f { s with delivered := s.delivered + delivered, overflowed := s.overflowed + overflowed } =
        { f s with
          delivered := (f s).delivered + delivered
          overflowed := (f s).overflowed + overflowed }) :
    Beside l (m.recount f) (m'.recount f) := by
  obtain ⟨rfl, st, d, o, rfl⟩ := h
  refine ⟨rfl, st, d, o, ?_⟩
  simp only [Medium.recount, extend, hf]

/-- What becomes of a transmission of one of the others is the same. -/
theorem suffer (h : Beside l m m') (sender : Nat) (src : Address) (bytes : Bytes) (fate : Fate) :
    Beside l (m.suffer sender src bytes fate) (m'.suffer sender src bytes fate) := by
  cases fate with
  | lostOnCredit =>
    obtain ⟨rfl, st, d, o, rfl⟩ := h
    exact ⟨rfl, st, d, o, rfl⟩
  | lost => exact h.recount (f := fun s => { s with dropped := s.dropped + 1 }) fun _ _ _ => rfl
  | damaged =>
    have hcounted := h.recount (f := fun s => { s with corrupted := s.corrupted + 1 })
      fun _ _ _ => rfl
    exact hcounted.spread sender src (damage bytes)
  | intact => exact h.spread sender src bytes

/-- What becomes of a transmission depends on nothing else. -/
theorem fate (h : Beside l m m') (bytes : Bytes) :
    m'.fate (m'.stats.transmissions + 1) bytes = m.fate (m.stats.transmissions + 1) bytes := by
  obtain ⟨rfl, st, d, o, rfl⟩ := h
  rfl

/-- **What one of the others puts on the air is sent as before.** -/
theorem broadcast (h : Beside l m m') {sender : Nat} (hs : sender ≠ l) (bytes : Bytes) :
    (m'.broadcast sender bytes).1 = (m.broadcast sender bytes).1 ∧
      Beside l (m.broadcast sender bytes).2 (m'.broadcast sender bytes).2 := by
  simp only [Medium.broadcast, h.live? hs]
  cases m.live? sender with
  | none => exact ⟨rfl, h⟩
  | some station =>
    have hfate := h.fate bytes
    have hcounted := h.recount (f := fun s => { s with transmissions := s.transmissions + 1 })
      fun _ _ _ => rfl
    refine ⟨rfl, ?_⟩
    simp only [Medium.recount] at hcounted ⊢
    rw [hfate]
    exact hcounted.suffer sender station.address bytes _

/-! ## Calls and commands -/

/-- **A call to one of the others is answered as before.** -/
theorem call (h : Beside l m m') {i : Nat} (hi : i ≠ l) (call : Radio.Call) :
    (m'.call i call).1 = (m.call i call).1 ∧ Beside l (m.call i call).2 (m'.call i call).2 := by
  cases call with
  | init =>
    simp only [Medium.call, h.stations hi]
    split
    · exact ⟨rfl, h⟩
    · exact ⟨rfl, h.modify hi _⟩
  | setAddress address promiscuous =>
    simp only [Medium.call, h.stations hi]
    split
    · exact ⟨rfl, h⟩
    · exact ⟨rfl, h.modify hi _⟩
  | setMode mode => exact ⟨rfl, h.modify hi _⟩
  | frameReady =>
    simp only [Medium.call, h.mode hi, h.live? hi]
    split
    · exact ⟨rfl, h⟩
    · split <;> exact ⟨rfl, h⟩
  | receive =>
    simp only [Medium.call, h.live? hi]
    split
    · exact ⟨rfl, h⟩
    · exact ⟨rfl, h.modify hi _⟩
  | transmit bytes =>
    obtain ⟨hresult, hair⟩ := (h.modify hi fun s => { s with mode := .transmit }).broadcast hi bytes
    exact ⟨hresult, hair.modify hi _⟩

/-- **The station behind is called**, but not to send. -/
theorem call_last (h : Beside l m m') {call : Radio.Call} (hcall : call.name ≠ .transmit) :
    Beside l m (m'.call l call).2 := by
  rcases m'.call_changes l call with ⟨bytes, rfl⟩ | hsame | ⟨f, hmodify, -⟩
  · exact absurd rfl hcall
  · rw [hsame]
    exact h
  · rw [hmodify]
    exact h.modify_last f

/-- **What is done to the medium or to one of the others does the same as before.** -/
theorem obey (h : Beside l m m') {c : Command} (hattach : ∀ failure, c ≠ .attach failure)
    (hc : c.station? ≠ some l) : Beside l (m.obey c) (m'.obey c) := by
  cases c with
  | attach failure => exact absurd rfl (hattach failure)
  | detach i => exact h.modify (fun hi => hc (congrArg some hi)) _
  | call i call => exact (h.call (fun hi => hc (congrArg some hi)) call).2
  | inject i r =>
    have hi : i ≠ l := fun hi => hc (congrArg some hi)
    simp only [Medium.obey, h.live? hi]
    split
    · exact h.modify hi _
    · exact h
  | dropNext count =>
    obtain ⟨hlast, st, d, o, rfl⟩ := h
    exact ⟨hlast, st, d, o, rfl⟩
  | setSevered a b cut =>
    obtain ⟨hlast, st, d, o, rfl⟩ := h
    cases cut <;> exact ⟨hlast, st, d, o, rfl⟩
  | setLinkRssi src dst rssi =>
    obtain ⟨hlast, st, d, o, rfl⟩ := h
    exact ⟨hlast, st, d, o, rfl⟩

/-- **What is done to the station behind does nothing to the others**, as long as it sends
nothing. -/
theorem obey_last (h : Beside l m m') {c : Command} (hc : c.station? = some l)
    (hsilent : ∀ call, c = .call l call → call.name ≠ .transmit) : Beside l m (m'.obey c) := by
  cases c with
  | detach i =>
    obtain rfl := Option.some.inj hc
    exact h.modify_last _
  | call i call =>
    obtain rfl := Option.some.inj hc
    exact h.call_last (hsilent call rfl)
  | inject i r =>
    obtain rfl := Option.some.inj hc
    simp only [Medium.obey]
    split
    · exact h.modify_last _
    · exact h
  | _ => cases hc

end Beside

end Medium
end PacketRadio
