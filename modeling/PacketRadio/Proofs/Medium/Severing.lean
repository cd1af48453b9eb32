/-
# Severed links

rflink specification, §4.2: severed links between address pairs.

A link joins two addresses, which may be the same, and has no direction.  The
medium keeps pairs in order: to cut a link puts one pair in, to restore it
takes both out, and both are looked up.  What the pairs stand for is a map on
links (`severance`), and a command that cuts or restores sets one place of it.

| said of a link | it is severed |
| --- | --- |
| nothing | if it was set up so, in one order or the other |
| last of all that it is cut | yes |
| last of all that it is restored | no |

Main statements: `severance_setSevered`, `severance_after` (the last word on a
link), `fifo_transmit_of_severed` (what a severed link does) and
`severed_by_last_word`.
-/

import PacketRadio.Proofs.Medium.Past
import Mathlib.Data.Sym.Sym2

namespace PacketRadio
namespace Medium

/-! ## Pairs and links -/

section

variable (m : Medium)

/-- Which links are severed. -/
def severance : Sym2 Address → Bool :=
  Sym2.lift ⟨m.isSevered, m.isSevered_comm⟩

/-- A link is severed if one of the pairs that are kept stands for it. -/
theorem severance_eq_true_iff {link : Sym2 Address} :
    m.severance link = true ↔ ∃ p ∈ m.severed, s(p.1, p.2) = link := by
  induction link with
  | h x y =>
    have hlook : m.severance s(x, y) = true ↔ (x, y) ∈ m.severed ∨ (y, x) ∈ m.severed := by
      simp [severance, isSevered]
    rw [hlook]
    constructor
    · rintro (hkept | hkept)
      · exact ⟨_, hkept, rfl⟩
      · exact ⟨_, hkept, Sym2.eq_swap⟩
    · rintro ⟨⟨a, b⟩, hkept, hlink⟩
      rcases Sym2.eq_iff.1 hlink with ⟨rfl, rfl⟩ | ⟨rfl, rfl⟩
      · exact .inl hkept
      · exact .inr hkept

/-- A link that is cut is severed, and so are those that were. -/
theorem severance_cut {a b : Address} {link : Sym2 Address} :
    (m.setSevered a b true).severance link = true ↔ link = s(a, b) ∨ m.severance link = true := by
  have hkept : (m.setSevered a b true).severed = (a, b) :: m.severed := rfl
  rw [severance_eq_true_iff, severance_eq_true_iff, hkept, List.exists_mem_cons_iff]
  exact or_congr_left eq_comm

/-- The pairs that go when a link is restored are those that stand for it. -/
theorem severance_restore {a b : Address} {link : Sym2 Address} :
    (m.setSevered a b false).severance link = true ↔ link ≠ s(a, b) ∧ m.severance link = true := by
  have hkept : ∀ p : Address × Address,
      p ∈ (m.setSevered a b false).severed ↔ p ∈ m.severed ∧ s(p.1, p.2) ≠ s(a, b) := by
    rintro ⟨x, y⟩
    simp [setSevered]
  rw [severance_eq_true_iff, severance_eq_true_iff]
  constructor
  · rintro ⟨p, hp, rfl⟩
    obtain ⟨hbefore, hother⟩ := (hkept p).1 hp
    exact ⟨hother, p, hbefore, rfl⟩
  · rintro ⟨hother, p, hbefore, rfl⟩
    exact ⟨p, (hkept p).2 ⟨hbefore, hother⟩, rfl⟩

/-- **To cut or restore a link sets one place of the map**, in whichever order its addresses are
given and however many pairs stand for it. -/
theorem severance_setSevered (a b : Address) (cut : Bool) :
    (m.setSevered a b cut).severance = Function.update m.severance s(a, b) cut := by
  funext link
  rw [Function.update_apply, Bool.eq_iff_iff]
  by_cases hlink : link = s(a, b)
  · cases cut with
    | true => simp [severance_cut, hlink]
    | false => simp [severance_restore, hlink]
  · cases cut with
    | true => rw [severance_cut, if_neg hlink, or_iff_right hlink]
    | false => rw [severance_restore, if_neg hlink, and_iff_right hlink]

/-! ## The last word -/

/-- What a command says of a link, if it says anything. -/
def Command.word? (link : Sym2 Address) : Command → Option Bool
  | .setSevered a b cut => if link = s(a, b) then some cut else none
  | _ => none

/-- What has been said of a link, the last word first. -/
def words (link : Sym2 Address) (past : List Command) : List Bool :=
  past.filterMap (Command.word? link)

theorem severance_congr {m m' : Medium} (h : m'.severed = m.severed) :
    m'.severance = m.severance := by
  funext link
  rw [Bool.eq_iff_iff, severance_eq_true_iff, severance_eq_true_iff, h]

/-- **A command leaves a link as it is unless it says something of it.** -/
theorem severance_obey (c : Command) (link : Sym2 Address) :
    (m.obey c).severance link = (c.word? link).getD (m.severance link) := by
  have hsame : (m.obey c).severed = m.severed → (m.obey c).severance link = m.severance link :=
    fun h => congrFun (severance_congr h) link
  cases c with
  | call i call =>
    have hsettings := congrArg Medium.severed (m.settings_call i call)
    exact hsame hsettings
  | inject i r =>
    refine hsame ?_
    rw [obey]
    split <;> rfl
  | setSevered a b cut =>
    rw [obey, severance_setSevered, Function.update_apply, Command.word?]
    split <;> rfl
  | _ => exact hsame rfl

/-- **The last word on a link counts.** -/
theorem severance_after (past : List Command) (link : Sym2 Address) :
    (m.after past).severance link = (words link past).head?.getD (m.severance link) := by
  induction past with
  | nil => rfl
  | cons c past ih =>
    rw [after, severance_obey, ih]
    cases hword : c.word? link with
    | none => rw [words, words, List.filterMap_cons_none hword, Option.getD_none]
    | some cut => rw [words, words, List.filterMap_cons_some hword]; rfl

/-- What is left of a past without the commands that do not concern a link says the same of it. -/
theorem words_filter (link : Sym2 Address) (past : List Command) :
    words link (past.filter fun c => (c.word? link).isSome) = words link past := by
  rw [words, words, List.filterMap_filter]
  congr
  funext c
  cases c.word? link <;> rfl

/-! ## Over a severed link -/

/-- What is spread does not get over a severed link. -/
theorem fifo_spread_of_severed {src : Address} {i : Nat}
    (h : m.isSevered src (m.address i) = true) (sender : Nat) (frame : Bytes) :
    (m.spread sender src frame).fifo i = m.fifo i := by
  simp only [fifo, spread, List.getElem?_mapIdx]
  cases hi : m.stations[i]? with
  | none => rfl
  | some s =>
    have haddress : m.address i = s.address := by simp [address, hi]
    have hdeaf : m.hears sender src i s = false := by simp [hears, ← haddress, h]
    simp [hdeaf]

/-- Nor does what is put on the air, whatever its fate. -/
theorem fifo_broadcast_of_severed {i j : Nat}
    (h : m.isSevered (m.address i) (m.address j) = true) (bytes : Bytes) :
    (m.broadcast i bytes).2.fifo j = m.fifo j := by
  cases hlive : (m.live? i).isSome with
  | false => rw [m.broadcast_of_not_live hlive]
  | true =>
    rw [m.broadcast_of_live hlive]
    cases m.fate (m.stats.transmissions + 1) bytes with
    | lostOnCredit => rfl
    | lost => rfl
    | damaged => exact fifo_spread_of_severed _ h i (damage bytes)
    | intact => exact fifo_spread_of_severed _ h i bytes

/-- **A severed link carries nothing.** -/
theorem fifo_transmit_of_severed {i j : Nat}
    (h : m.isSevered (m.address i) (m.address j) = true) (bytes : Bytes) :
    (m.obey (.call i (.transmit bytes))).fifo j = m.fifo j := by
  have hcut : (m.modify i fun s => { s with mode := .transmit }).isSevered
      ((m.modify i fun s => { s with mode := .transmit }).address i)
      ((m.modify i fun s => { s with mode := .transmit }).address j) = true := by
    rw [address_modify_mode, address_modify_mode]
    exact h
  calc (m.obey (.call i (.transmit bytes))).fifo j
    _ = ((m.modify i fun s => { s with mode := .transmit }).broadcast i bytes).2.fifo j :=
      fifo_modify_mode _ i j .idle
    _ = (m.modify i fun s => { s with mode := .transmit }).fifo j :=
      fifo_broadcast_of_severed _ hcut bytes
    _ = m.fifo j := fifo_modify_mode m i j .transmit

end

/-! ## Any past -/

/-- **The last word on a link counts, in both directions.**  Whatever pairs a medium was set up
with, in either order, once or more often, and whatever has been done to it since: a link is
severed in both directions or in neither.  It is if the last command that cut or restored it, with
its addresses in either order, has cut it; if there was none, it is if one of its two pairs was
there from the start.  It is as it would be if nothing had been done but to cut and restore this
link, and one more command sets its own link and no other.  What is sent over a severed link is not
heard. -/
theorem severed_by_last_word (capacity : Nat) (defaultRssi : Int) (faults : FaultPlan)
    (severed : List (Address × Address)) (past : List Command) :
    let m₀ := fresh capacity defaultRssi faults severed
    let m := m₀.after past
    (∀ x y, m.isSevered x y = m.isSevered y x) ∧
      (∀ x y, m.isSevered x y =
        (words s(x, y) past).head?.getD (decide ((x, y) ∈ severed ∨ (y, x) ∈ severed))) ∧
      (∀ x y, m.isSevered x y =
        (m₀.after (past.filter fun c => (c.word? s(x, y)).isSome)).isSevered x y) ∧
      (∀ a b cut, (m.setSevered a b cut).severance = Function.update m.severance s(a, b) cut) ∧
      ∀ i j, m.isSevered (m.address i) (m.address j) = true →
        ∀ bytes, (m.obey (.call i (.transmit bytes))).fifo j = m.fifo j := by
  intro m₀ m
  have hword : ∀ past x y, (m₀.after past).isSevered x y =
      (words s(x, y) past).head?.getD (m₀.isSevered x y) := fun past x y =>
    m₀.severance_after past s(x, y)
  have hstart : ∀ x y, m₀.isSevered x y = decide ((x, y) ∈ severed ∨ (y, x) ∈ severed) := by
    intro x y
    simp [m₀, fresh, isSevered]
  refine ⟨m.isSevered_comm, fun x y => ?_, fun x y => ?_, m.severance_setSevered,
    fun i j => m.fifo_transmit_of_severed⟩
  · rw [← hstart]
    exact hword past x y
  · rw [hword (past.filter _), words_filter]
    exact hword past x y

/-- A medium on which links are severed from the start: in both orders, twice, and from an address
to itself. -/
def tangled : Medium :=
  fresh 8 (-40) {} [(1, 2), (2, 1), (1, 2), (3, 3), (4, 5)]

/-- Two radios come, and their link is restored in one order and cut in the other.  Between that a
link is cut that was not, and in the end the one from an address to itself is restored. -/
def quarrel : List Command :=
  [.setSevered 3 3 false, .setSevered 2 1 true, .setSevered 5 6 true, .setSevered 2 1 false,
    .call 1 (.setAddress 2 false), .call 0 (.setAddress 1 false), .attach none, .attach none]

/-- The two do not hear each other, and nothing is changed that nothing was said of. -/
theorem severed_by_last_word_quarrel :
    (tangled.after quarrel).isSevered 1 2 = true ∧ (tangled.after quarrel).isSevered 3 3 = false ∧
      (tangled.after quarrel).isSevered 5 4 = true ∧
      (tangled.after quarrel).isSevered 6 4 = false ∧
      ∀ bytes, ((tangled.after quarrel).obey (.call 0 (.transmit bytes))).fifo 1 = [] ∧
        ((tangled.after quarrel).obey (.call 1 (.transmit bytes))).fifo 0 = [] := by
  obtain ⟨hcomm, hword, -, -, hunheard⟩ :=
    severed_by_last_word 8 (-40) {} [(1, 2), (2, 1), (1, 2), (3, 3), (4, 5)] quarrel
  have hcut : (tangled.after quarrel).isSevered 1 2 = true := (hword 1 2).trans (by decide)
  refine ⟨hcut, (hword 3 3).trans (by decide), (hword 5 4).trans (by decide),
    (hword 6 4).trans (by decide), fun bytes => ⟨?_, ?_⟩⟩
  · exact hunheard 0 1 hcut bytes
  · exact hunheard 1 0 ((hcomm 2 1).trans hcut) bytes

end Medium
end PacketRadio
