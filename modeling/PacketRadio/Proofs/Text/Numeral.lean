/-
# What numerals denote

rflink specification, §10: the numbers that the values of options hold.

Blanks around a text are dropped, and what is left may be a numeral: a row of
digits, the first one worth most, perhaps with a plus sign in front.

| relation | says |
| --- | --- |
| `Trimmed text core` | `core` is `text` without the blanks at either end |
| `IsDigit radix c v` | `c` is the digit for `v`, in either case |
| `Denotes radix text n` | `text` is a row of digits for `n` |

Main statements: `trimmed_iff` and `parse?_eq_some_iff` (what is dropped and
what is read is told by these relations).
-/

import PacketRadio.Text.Hex
import Mathlib.Data.List.Forall2
import Mathlib.Data.List.TakeWhile
import Mathlib.Data.Nat.Digits.Defs

namespace PacketRadio
namespace Text

/-! ## Blanks at the ends -/

/-- What a text is without the blanks at either end. -/
structure Trimmed (text core : List Char) : Prop where
  /-- Only blanks are dropped. -/
  around : ∃ front back, text = front ++ core ++ back ∧ (∀ c ∈ front, isBlank c = true) ∧
    ∀ c ∈ back, isBlank c = true
  /-- No blank is left in front. -/
  first : ∀ c ∈ core.head?, isBlank c = false
  /-- Nor at the end. -/
  last : ∀ c ∈ core.getLast?, isBlank c = false

/-- **Blanks are dropped up to what is none.** -/
theorem dropWhile_blanks_append {front rest : List Char} (hfront : ∀ c ∈ front, isBlank c = true)
    (hrest : ∀ c ∈ rest.head?, isBlank c = false) : (front ++ rest).dropWhile isBlank = rest := by
  rw [List.dropWhile_append_of_pos hfront]
  cases rest with
  | nil => rfl
  | cons c rest => exact List.dropWhile_cons_of_neg (by simp [hrest c rfl])

theorem trimmed_trim (text : List Char) : Trimmed text (trim text) := by
  have hblank : ∀ l : List Char, ∀ c ∈ l.takeWhile isBlank, isBlank c = true := fun l c hc =>
    List.mem_takeWhile_imp hc
  refine ⟨⟨text.takeWhile isBlank, ((text.dropWhile isBlank).reverse.takeWhile isBlank).reverse,
    ?_, hblank text, fun c hc => hblank _ c (List.mem_reverse.1 hc)⟩,
    fun c hc => head_trim_not_blank text c hc, fun c hc => ?_⟩
  · rw [trim, List.append_assoc, ← List.reverse_append, List.takeWhile_append_dropWhile,
      List.reverse_reverse, List.takeWhile_append_dropWhile]
  · rw [trim, List.getLast?_reverse] at hc
    have hstop := List.head?_dropWhile_not isBlank (text.dropWhile isBlank).reverse
    rw [hc] at hstop
    simpa using hstop

/-- **What is left by trimming** is what the blanks at either end are put around. -/
theorem trimmed_iff {text core : List Char} : Trimmed text core ↔ trim text = core := by
  constructor
  · rintro ⟨⟨front, back, rfl, hfront, hback⟩, hfirst, hlast⟩
    rcases List.eq_nil_or_concat core with rfl | ⟨lead, c, rfl⟩
    · have hall : ∀ c ∈ front ++ back, isBlank c = true := fun c hc =>
        (List.mem_append.1 hc).elim (hfront c) (hback c)
      rw [List.append_nil, trim, List.dropWhile_eq_nil_iff.2 hall]
      rfl
    · have hstart : (front ++ (lead.concat c ++ back)).dropWhile isBlank = lead.concat c ++ back :=
        dropWhile_blanks_append hfront fun d hd => hfirst d (by cases lead <;> simpa using hd)
      have hend : (back.reverse ++ (lead.concat c).reverse).dropWhile isBlank =
          (lead.concat c).reverse :=
        dropWhile_blanks_append (fun d hd => hback d (List.mem_reverse.1 hd)) fun d hd =>
          hlast d (by simpa using hd)
      rw [trim, List.append_assoc, hstart, List.reverse_append, hend, List.reverse_reverse]
  · rintro rfl
    exact trimmed_trim text

namespace Numeral

open Hex (lower upper)

/-! ## Digits -/

/-- The character is the digit of a radix for this value, in either case. -/
def IsDigit (radix : Nat) (c : Char) (v : Nat) : Prop :=
  v < radix ∧ (c = lower v ∨ c = upper v)

instance (radix : Nat) (c : Char) (v : Nat) : Decidable (IsDigit radix c v) :=
  inferInstanceAs (Decidable (_ ∧ _))

/-- The digits there are: ten numbers, and 26 letters in either case. -/
theorem digit?_lower_upper : ∀ v < 36, ∀ radix ≤ 36, v < radix →
    digit? radix (lower v) = some v ∧ digit? radix (upper v) = some v := by
  decide +kernel

/-- **A character is worth as a digit what it stands for.** -/
theorem digit?_eq_some_iff {radix : Nat} (hradix : radix ≤ 36) {c : Char} {v : Nat} :
    digit? radix c = some v ↔ IsDigit radix c v := by
  constructor
  · intro h
    obtain ⟨hvalue, hlt⟩ := Option.filter_eq_some_iff.1 h
    have hv : v < radix := of_decide_eq_true hlt
    have hc : ∀ n, c.toNat = n → c = Char.ofNat n := fun n hn => by
      rw [← hn, Char.ofNat_toNat]
    refine ⟨hv, ?_⟩
    unfold lower upper
    split at hvalue
    · rename_i hnumber
      obtain rfl := Option.some.inj hvalue
      exact .inl (hc _ (by rw [if_pos (by omega)]; omega))
    · split at hvalue
      · rename_i hletter
        obtain rfl := Option.some.inj hvalue
        exact .inl (hc _ (by rw [if_neg (by omega)]; omega))
      · split at hvalue
        · rename_i hletter
          obtain rfl := Option.some.inj hvalue
          exact .inr (hc _ (by rw [if_neg (by omega)]; omega))
        · cases hvalue
  · rintro ⟨hv, rfl | rfl⟩
    · exact (digit?_lower_upper v (by omega) radix hradix hv).1
    · exact (digit?_lower_upper v (by omega) radix hradix hv).2

/-! ## Rows of digits -/

/-- The text is a row of one or more digits of a radix, the first one worth most, for this
number. -/
def Denotes (radix : Nat) (text : List Char) (n : Nat) : Prop :=
  text ≠ [] ∧ ∃ values, List.Forall₂ (IsDigit radix) text values ∧
    n = Nat.ofDigits radix values.reverse

theorem denotes_singleton {radix : Nat} {c : Char} {n : Nat} :
    Denotes radix [c] n ↔ IsDigit radix c n := by
  simp [Denotes, List.forall₂_cons_left_iff, eq_comm]

/-- **Of two digits the first one is worth more.** -/
theorem denotes_pair {radix : Nat} {a b : Char} {n : Nat} : Denotes radix [a, b] n ↔
    ∃ high low, IsDigit radix a high ∧ IsDigit radix b low ∧ n = radix * high + low := by
  simp [Denotes, List.forall₂_cons_left_iff, Nat.ofDigits_cons, Nat.add_comm, and_assoc]

/-- A row of digits has nothing else in it. -/
theorem Denotes.isDigit {radix n : Nat} {text : List Char} (h : Denotes radix text n) :
    ∀ c ∈ text, ∃ v, IsDigit radix c v := by
  obtain ⟨-, values, hvalues, -⟩ := h
  induction hvalues with
  | nil => simp
  | cons hdigit hrest ih => exact List.forall_mem_cons.2 ⟨⟨_, hdigit⟩, ih⟩

section

variable {radix : Nat} (hradix : radix ≤ 36)

include hradix

theorem valueFrom_eq_some_iff {text : List Char} {acc n : Nat} :
    valueFrom radix acc text = some n ↔ ∃ values, List.Forall₂ (IsDigit radix) text values ∧
      n = values.foldl (fun n v => v + radix * n) acc := by
  induction text generalizing acc with
  | nil =>
    simp only [valueFrom, Option.some.injEq, List.forall₂_nil_left_iff, exists_eq_left,
      List.foldl_nil]
    exact eq_comm
  | cons c text ih =>
    simp only [valueFrom, List.forall₂_cons_left_iff]
    constructor
    · intro h
      split at h
      · rename_i v hv
        obtain ⟨values, hvalues, rfl⟩ := ih.1 h
        refine ⟨v :: values, ⟨v, values, (digit?_eq_some_iff hradix).1 hv, hvalues, rfl⟩, ?_⟩
        rw [List.foldl_cons, Nat.mul_comm, Nat.add_comm]
      · cases h
    · rintro ⟨_, ⟨v, values, hv, hvalues, rfl⟩, rfl⟩
      rw [(digit?_eq_some_iff hradix).2 hv]
      refine ih.2 ⟨values, hvalues, ?_⟩
      rw [List.foldl_cons, Nat.mul_comm, Nat.add_comm]

/-- **A row of digits is read as what it denotes.** -/
theorem value?_eq_some_iff {text : List Char} {n : Nat} :
    value? radix text = some n ↔ Denotes radix text n := by
  have hvalue : ∀ values : List Nat, Nat.ofDigits radix values.reverse =
      values.foldl (fun n v => v + radix * n) 0 := fun values => by
    rw [Nat.ofDigits_eq_foldr, List.foldr_reverse]
    rfl
  cases text with
  | nil => exact ⟨fun h => (nomatch h), fun h => absurd rfl h.1⟩
  | cons c text =>
    simp only [value?, valueFrom_eq_some_iff hradix, Denotes, hvalue]
    exact (and_iff_right (List.cons_ne_nil c text)).symm

/-- A plus sign is no digit. -/
theorem not_isDigit_plus {v : Nat} : ¬IsDigit radix '+' v := by
  rw [← digit?_eq_some_iff hradix]
  have hnone : digit? radix '+' = none := rfl
  simp [hnone]

/-- **A numeral is a row of digits, perhaps behind a plus sign.** -/
theorem parse?_eq_some_iff {bound n : Nat} {text : List Char} :
    parse? radix bound text = some n ↔
      n < bound ∧ (Denotes radix text n ∨ ∃ digits, text = '+' :: digits ∧ Denotes radix digits n) := by
  have hsigned : ∀ digits, ¬Denotes radix ('+' :: digits) n := by
    rintro digits ⟨-, values, hvalues, -⟩
    obtain ⟨v, rest, hplus, -, -⟩ := List.forall₂_cons_left_iff.1 hvalues
    exact not_isDigit_plus hradix hplus
  rw [parse?, Option.filter_eq_some_iff, value?_eq_some_iff hradix, decide_eq_true_eq, and_comm]
  refine and_congr_right fun _ => ?_
  unfold unsigned
  split
  · rename_i digits
    simp [hsigned]
  · rename_i hplain
    refine (or_iff_left ?_).symm
    rintro ⟨digits, rfl, -⟩
    exact hplain digits rfl

end

end Numeral
end Text
end PacketRadio
