/-
# The medium keeps count of every frame

rflink specification, §4.2: the receive FIFO is bounded, and what overflows is
dropped and counted.

A copy of a transmission that finds room waits until a radio takes it or
leaves, and is counted as delivered.  Frames that are put into a queue past
the medium wait in the same way and are not counted.

| frames | that came | that went or are there |
| --- | --- | --- |
| from the medium | `delivered` | taken, lost when a radio left, or waiting |
| past the medium | `injections` | the same |

Main statement: `frames_conserved`.
-/

import PacketRadio.Proofs.Medium.Past
import Mathlib.Algebra.GroupWithZero.Nat

namespace PacketRadio
namespace Medium

variable (m : Medium)

/-- The number of frames that wait at all stations. -/
def waiting : Nat :=
  (m.stations.map (·.fifo.length)).sum

/-- The number of radios that a station can reach: the others on the medium, to whose addresses the
link is not severed in either order. -/
def hearers (i : Nat) : Nat :=
  m.stations.zipIdx.countP fun p => p.2 ≠ i ∧ p.1.attached ∧
    (m.address i, p.1.address) ∉ m.severed ∧ (p.1.address, m.address i) ∉ m.severed

/-- **A station is in earshot** if it is another one, on the medium, and the link is not severed. -/
theorem hears_eq_true_iff {sender i : Nat} {src : Address} {s : Station} :
    m.hears sender src i s = true ↔ i ≠ sender ∧ s.attached ∧
      (src, s.address) ∉ m.severed ∧ (s.address, src) ∉ m.severed := by
  simp [Medium.hears, isSevered, and_assoc]

/-- Those that can be reached are those in earshot. -/
theorem hearers_eq (i : Nat) :
    m.hearers i = m.stations.zipIdx.countP fun p => m.hears i (m.address i) p.2 p.1 :=
  List.countP_congr fun _ _ => decide_eq_true_iff.trans m.hears_eq_true_iff.symm

/-! ## Changes at one station -/

/-- A sum changes by what one of its terms changes. -/
theorem sum_modify {α : Type} (g : α → Nat) (f : α → α) (l : List α) (i : Nat) :
    ((l.modify i f).map g).sum + (l[i]?).elim 0 g =
      (l.map g).sum + (l[i]?).elim 0 fun a => g (f a) := by
  induction l generalizing i with
  | nil => simp
  | cons a l ih =>
    cases i with
    | zero =>
      simp
      omega
    | succ i =>
      have hrest := ih i
      simp only [List.modify_succ_cons, List.map_cons, List.sum_cons, List.getElem?_cons_succ]
      omega

theorem length_fifo (i : Nat) : (m.fifo i).length = (m.stations[i]?).elim 0 (·.fifo.length) := by
  rw [fifo]
  cases m.stations[i]? <;> rfl

theorem waiting_modify (i : Nat) (f : Station → Station) :
    (m.modify i f).waiting + (m.fifo i).length = m.waiting + ((m.modify i f).fifo i).length := by
  have hsum := sum_modify (·.fifo.length) f m.stations i
  have hafter : ((m.modify i f).fifo i).length =
      (m.stations[i]?).elim 0 fun s => (f s).fifo.length := by
    rw [fifo_modify_self]
    cases m.stations[i]? <;> rfl
  rw [hafter, length_fifo]
  exact hsum

/-- What a radio is doing moves no frame. -/
theorem waiting_modify_mode (i : Nat) (mode : Radio.Mode) :
    (m.modify i fun s => { s with mode }).waiting = m.waiting := by
  have hbalance := m.waiting_modify i fun s => { s with mode }
  rw [fifo_modify_mode] at hbalance
  omega

/-! ## Transmissions -/

/-- Every radio that hears a frame and has room for it has one more to take. -/
theorem sum_offer (hears : Station × Nat → Bool) (reception : Station → Radio.Reception)
    (l : List (Station × Nat)) :
    (l.map fun p =>
        (if hears p then p.1.offer m.capacity (reception p.1) else p.1).fifo.length).sum =
      (l.map fun p => p.1.fifo.length).sum + (l.filter hears).countP fun p => m.hasRoom p.1 := by
  induction l with
  | nil => rfl
  | cons p l ih =>
    rw [List.map_cons, List.sum_cons, List.map_cons, List.sum_cons, List.filter_cons, ih]
    cases hp : hears p with
    | false =>
      simp
      omega
    | true =>
      cases hroom : m.hasRoom p.1 with
      | false =>
        have hfull : ¬p.1.fifo.length < m.capacity := by simpa [hasRoom] using hroom
        simp [Station.offer, hfull, hroom]
        omega
      | true =>
        have hfree : p.1.fifo.length < m.capacity := by simpa [hasRoom] using hroom
        simp [Station.offer, hfree, hroom]
        omega

/-- **What is spread is counted where it gets.** -/
theorem waiting_spread (sender : Nat) (src : Address) (frame : Bytes) :
    (m.spread sender src frame).waiting + m.stats.delivered =
      m.waiting + (m.spread sender src frame).stats.delivered := by
  have hstations : (m.stations.mapIdx fun i s =>
      if m.hears sender src i s then s.offer m.capacity ⟨frame, m.rssi src s.address⟩ else s) =
      m.stations.zipIdx.map fun p =>
        if m.hears sender src p.2 p.1 then
          p.1.offer m.capacity ⟨frame, m.rssi src p.1.address⟩ else p.1 :=
    List.mapIdx_eq_zipIdx_map
  have hsum := m.sum_offer (fun p => m.hears sender src p.2 p.1)
    (fun s => ⟨frame, m.rssi src s.address⟩) m.stations.zipIdx
  have hbefore : (m.stations.zipIdx.map fun p => p.1.fifo.length).sum = m.waiting := by
    have hstations := congrArg (List.map (·.fifo.length)) (List.zipIdx_map_fst 0 m.stations)
    rw [List.map_map] at hstations
    exact congrArg List.sum hstations
  rw [waiting, spread, hstations, List.map_map]
  simp only [Function.comp_def]
  rw [hsum, hbefore]
  omega

/-- **What is spread finds room or does not at each radio in earshot.** -/
theorem counts_spread (sender : Nat) (src : Address) (frame : Bytes) :
    (m.spread sender src frame).stats.delivered + (m.spread sender src frame).stats.overflowed =
      m.stats.delivered + m.stats.overflowed +
        m.stations.zipIdx.countP fun p => m.hears sender src p.2 p.1 := by
  have hle : (m.stations.zipIdx.filter fun p => m.hears sender src p.2 p.1).countP
      (fun p => m.hasRoom p.1) ≤ _ := List.countP_le_length
  have hcount : m.stations.zipIdx.countP (fun p => m.hears sender src p.2 p.1) = _ :=
    List.countP_eq_length_filter
  rw [hcount]
  simp only [spread]
  omega

/-- What a transmission of the radio at a station leads to. -/
structure Airs (i : Nat) (m' : Medium) : Prop where
  /-- It is counted. -/
  transmissions : m'.stats.transmissions = m.stats.transmissions + 1
  /-- It is lost and gets nowhere, or is counted once for each radio that can be reached. -/
  copies : (m'.stats.dropped = m.stats.dropped + 1 ∧ m'.stats.delivered = m.stats.delivered ∧
      m'.stats.overflowed = m.stats.overflowed ∧ ∀ j, m'.fifo j = m.fifo j) ∨
    (m'.stats.dropped = m.stats.dropped ∧ m'.stats.delivered + m'.stats.overflowed =
      m.stats.delivered + m.stats.overflowed + m.hearers i)

/-- What a radio is doing does not matter for who can be reached. -/
theorem hearers_modify_mode (i : Nat) (mode : Radio.Mode) :
    (m.modify i fun s => { s with mode }).hearers i = m.hearers i := by
  have hplace : ∀ (l : List Station) (n k : Nat),
      ((l.modify n fun s => { s with mode }).zipIdx k).countP
          (fun p => m.hears i (m.address i) p.2 p.1) =
        (l.zipIdx k).countP fun p => m.hears i (m.address i) p.2 p.1 := by
    intro l
    induction l with
    | nil => simp
    | cons s l ih =>
      intro n k
      cases n with
      | zero => rfl
      | succ n => simp only [List.modify_succ_cons, List.zipIdx_cons, List.countP_cons, ih]
  rw [hearers_eq, hearers_eq, address_modify_mode]
  exact hplace m.stations i 0

/-- What is put on the air leads to that, whatever the radio is doing. -/
theorem airs_broadcast {i : Nat} (hlive : (m.live? i).isSome) (bytes : Bytes) :
    m.Airs i (m.broadcast i bytes).2 := by
  rw [m.broadcast_of_live hlive]
  refine ⟨transmissions_suffer _ _ _ _ _, ?_⟩
  cases m.fate (m.stats.transmissions + 1) bytes with
  | lostOnCredit => exact .inl ⟨rfl, rfl, rfl, fun _ => rfl⟩
  | lost => exact .inl ⟨rfl, rfl, rfl, fun _ => rfl⟩
  | damaged =>
    rw [hearers_eq]
    exact .inr ⟨rfl, m.counts_spread i (m.address i) (damage bytes)⟩
  | intact =>
    rw [hearers_eq]
    exact .inr ⟨rfl, m.counts_spread i (m.address i) bytes⟩

/-- **What a transmission leads to.** -/
theorem airs_transmit {i : Nat} (hlive : (m.live? i).isSome) (bytes : Bytes) :
    m.Airs i (m.obey (.call i (.transmit bytes))) := by
  have hlive' : ((m.modify i fun s => { s with mode := .transmit }).live? i).isSome := by
    rwa [live?_modify_mode]
  obtain ⟨hcounted, hcopies⟩ := airs_broadcast _ hlive' bytes
  rw [hearers_modify_mode] at hcopies
  refine ⟨hcounted, hcopies.imp_left fun ⟨hdropped, hdelivered, hoverflowed, hfifo⟩ =>
    ⟨hdropped, hdelivered, hoverflowed, fun j => ?_⟩⟩
  exact (fifo_modify_mode _ i j _).trans ((hfifo j).trans (fifo_modify_mode m i j _))

/-- What is put on the air is counted where it gets. -/
theorem waiting_broadcast (i : Nat) (bytes : Bytes) :
    (m.broadcast i bytes).2.waiting + m.stats.delivered =
      m.waiting + (m.broadcast i bytes).2.stats.delivered := by
  cases hlive : (m.live? i).isSome with
  | false => rw [m.broadcast_of_not_live hlive]
  | true =>
    rw [m.broadcast_of_live hlive]
    cases m.fate (m.stats.transmissions + 1) bytes with
    | lostOnCredit => rfl
    | lost => rfl
    | damaged => exact waiting_spread _ i (m.address i) (damage bytes)
    | intact => exact waiting_spread _ i (m.address i) bytes

/-! ## Any commands -/

/-- **Every frame that a command brings or takes is accounted for.** -/
theorem balance_obey (c : Command) :
    (m.obey c).waiting + (m.takes c).length + (m.loses c).length + m.stats.delivered =
      m.waiting + (m.injects c).length + (m.obey c).stats.delivered := by
  cases c with
  | attach initFailure => simp [obey, attach, waiting, takes, loses, injects]
  | detach i =>
    have hmoved := m.waiting_modify i Station.detach
    rw [show (m.modify i Station.detach).fifo i = [] from m.fifo_detach i] at hmoved
    simp only [obey, detach, takes, loses, injects, List.length_map, List.length_nil] at hmoved ⊢
    have hcounts : (m.modify i Station.detach).stats.delivered = m.stats.delivered := rfl
    omega
  | call i call =>
    have hself := congrArg List.length (m.fifo_call_self i call)
    rw [List.length_append] at hself
    simp only [obey, takes, loses, injects, List.length_map, List.length_nil]
    rcases m.call_changes i call with ⟨bytes, rfl⟩ | hsame | ⟨f, hmodify, -⟩
    · have hair := waiting_broadcast (m.modify i fun s => { s with mode := .transmit }) i bytes
      have hidle := waiting_modify_mode
        ((m.modify i fun s => { s with mode := .transmit }).broadcast i bytes).2 i .idle
      rw [waiting_modify_mode] at hair
      simp only [Radio.Call.taken, Option.toList_none, List.length_nil]
      have hstats : (m.call i (.transmit bytes)).2.stats.delivered =
        ((m.modify i fun s => { s with mode := .transmit }).broadcast i bytes).2.stats.delivered :=
          rfl
      have hwaiting : (m.call i (.transmit bytes)).2.waiting =
        ((m.modify i fun s => { s with mode := .transmit }).broadcast i bytes).2.waiting := hidle
      have hbefore : (m.modify i fun s => { s with mode := .transmit }).stats.delivered =
        m.stats.delivered := rfl
      omega
    · rw [hsame] at hself ⊢
      omega
    · have hmoved := m.waiting_modify i f
      rw [hmodify] at hself ⊢
      have hcounts : (m.modify i f).stats.delivered = m.stats.delivered := rfl
      omega
  | inject i r =>
    simp only [obey, takes, loses, injects]
    split
    · rename_i hlive
      have hmoved := m.waiting_modify i (Station.inject r)
      have hmore : ((m.modify i (Station.inject r)).fifo i).length = (m.fifo i).length + 1 := by
        rw [live?_isSome, present, List.getElem?_map, Option.map_eq_some_iff] at hlive
        obtain ⟨s, hs, -⟩ := hlive
        rw [fifo_modify_self, fifo, hs]
        simp [Station.inject]
      have hcounts : (m.modify i (Station.inject r)).stats.delivered = m.stats.delivered := rfl
      simp only [List.length_map, List.length_singleton, List.length_nil]
      omega
    · rfl
  | dropNext count => rfl
  | setSevered a b cut => cases cut <;> rfl
  | setLinkRssi src dst rssi => rfl

/-- **So is every frame that a past has brought or taken.** -/
theorem balance_after (past : List Command) :
    (m.after past).waiting + (m.takings past).length + (m.losses past).length +
        m.stats.delivered =
      m.waiting + (m.injections past).length + (m.after past).stats.delivered := by
  induction past with
  | nil => rfl
  | cons c past ih =>
    have hlast := (m.after past).balance_obey c
    simp only [after, takings, losses, injections, chronicle, List.length_append] at ih hlast ⊢
    omega

/-- **A queue past which nothing was put keeps within the room there is.** -/
theorem length_fifo_after_le {i : Nat} (hfifo : (m.fifo i).length ≤ m.capacity)
    {past : List Command} (hnone : (m.injections past).at i = []) :
    ((m.after past).fifo i).length ≤ m.capacity := by
  induction past with
  | nil => exact hfifo
  | cons c past ih =>
    rw [injections, chronicle, Log.at_append, List.append_eq_nil_iff] at hnone
    have hbefore := ih hnone.1
    have hcapacity := (m.constants_after past).1
    have hchange := (m.after past).change_obey c i
    rw [hnone.2] at hchange
    rw [after]
    generalize ((m.after past).obey c).fifo i = fifo at hchange ⊢
    generalize Log.at ((m.after past).takes c) i = taken at hchange
    generalize Log.at ((m.after past).loses c) i = lost at hchange
    cases hchange with
    | none c => exact hbefore
    | taken call hlive hrest =>
      rw [hrest, List.length_cons] at hbefore
      omega
    | left => exact Nat.zero_le _
    | heard bytes hears hsender =>
      have hroom := hears.room
      rw [List.length_append, List.length_singleton]
      omega

/-- **The medium conserves frames.**  Whatever has been done to a medium since it was set up: as
many frames wait, were taken or were lost with radios that left, as it has delivered and as were put
into queues past it.  At a radio that has left nothing waits, then or later.  Each transmission of a
radio is counted, and is lost without a trace in any queue or counted once for each radio that it
can reach.  And a queue past which nothing was put keeps within the room there is. -/
theorem frames_conserved (capacity : Nat) (defaultRssi : Int) (faults : FaultPlan)
    (severed : List (Address × Address)) (past : List Command) :
    let m₀ := fresh capacity defaultRssi faults severed
    let m := m₀.after past
    m.waiting + (m₀.takings past).length + (m₀.losses past).length =
        m.stats.delivered + (m₀.injections past).length ∧
      (∀ i, m.Gone i → ∀ more, (m₀.after (more ++ past)).fifo i = []) ∧
      (∀ i bytes, (m.live? i).isSome → m.Airs i (m.obey (.call i (.transmit bytes)))) ∧
      ∀ i, (m₀.injections past).at i = [] → (m.fifo i).length ≤ capacity := by
  intro m₀ m
  refine ⟨?_, fun i hgone more => ?_, fun i bytes hlive => m.airs_transmit hlive bytes,
    fun i hnone => ?_⟩
  · have hbalance := m₀.balance_after past
    have hwaiting : m₀.waiting = 0 := rfl
    have hdelivered : m₀.stats.delivered = 0 := rfl
    show (m₀.after past).waiting + _ + _ = (m₀.after past).stats.delivered + _
    omega
  · exact (tidy_fresh capacity defaultRssi faults severed).fifo_of_gone hgone more
  · exact m₀.length_fifo_after_le (Nat.zero_le _) hnone

/-- Five radios at the addresses 1 to 5 with room for one frame each.  The link from the second to
the first is severed, the fifth has left, and a frame waits for the third. -/
def gathering : List Command :=
  [.inject 2 ⟨[9], -40⟩, .detach 4, .setSevered 2 1 true] ++
    (List.range 5).map (fun k => .call k (.setAddress (UInt8.ofNat (k + 1)) false)) ++
    List.replicate 5 (.attach none)

/-- The first of them reaches two: one copy is delivered, and one finds a full queue. -/
theorem frames_conserved_gathering :
    let m := (fresh 1 (-40) {} []).after gathering
    (m.live? 0).isSome ∧ m.hearers 0 = 2 ∧ m.Airs 0 (m.obey (.call 0 (.transmit [7]))) ∧
      (m.obey (.call 0 (.transmit [7]))).stats.delivered = 1 ∧
      (m.obey (.call 0 (.transmit [7]))).stats.overflowed = 1 := by
  intro m
  have hlive : (m.live? 0).isSome := by decide +kernel
  exact ⟨hlive, by decide +kernel,
    (frames_conserved 1 (-40) {} [] gathering).2.2.1 0 [7] hlive, by decide +kernel,
    by decide +kernel⟩

end Medium
end PacketRadio
