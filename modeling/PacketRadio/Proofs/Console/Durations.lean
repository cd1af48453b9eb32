/-
# What is taken for a duration

rflink specification, §9: duration strings (`200ms`, `2s`).

Blanks around the text are dropped.  What is left is a numeral and a unit:

| unit | is worth |
| --- | --- |
| `ms` | a thousandth of a second |
| `s` | a second |
| none | a second |

The numeral is a row of decimal digits, perhaps with a plus sign in front, for
a number in 64 bits.  It is at least one, and a day is the most that it may
come to.  A numeral ends in a digit, so that the unit behind it cannot be
mistaken.

Main statement: `duration_grammar`.
-/

import PacketRadio.Console.Simulate
import PacketRadio.Proofs.Text.Numeral

namespace PacketRadio

namespace Console

open Text (Trimmed)
open Text.Numeral (IsDigit Denotes)

/-! ## Numerals and units -/

/-- The units that a duration may have, and what they are worth. -/
def units : List (List Char × Nat) :=
  [("ms".toList, Duration.millisecond), ("s".toList, Duration.second), ([], Duration.second)]

/-- The span that a text tells. -/
inductive TellsSpan (text : List Char) : Nat → Prop where
  /-- A numeral behind an optional plus sign, and a unit. -/
  | intro {sign digits unit : List Char} {v worth : Nat}
      (htrimmed : Trimmed text (sign ++ digits ++ unit)) (hsign : sign = [] ∨ sign = ['+'])
      (hdigits : Denotes 10 digits v) (hv : v < 2 ^ 64) (hunit : (unit, worth) ∈ units)
      (hpos : 1 ≤ v) (hday : v * worth ≤ 24 * 60 * 60 * Duration.second) :
      TellsSpan text (v * worth)

/-- What is split off is a unit. -/
theorem splitUnit_unit (text : List Char) :
    ∃ unit, text = (splitUnit text).1 ++ unit ∧ (unit, (splitUnit text).2.worth) ∈ units := by
  unfold splitUnit
  split
  · rename_i rest hrest
    exact ⟨"ms".toList, List.reverse_eq_iff.1 hrest |>.trans (by simp),
      by simp [units, DurationUnit.worth]⟩
  · rename_i rest _ hrest
    exact ⟨"s".toList, List.reverse_eq_iff.1 hrest |>.trans (by simp),
      by simp [units, DurationUnit.worth]⟩
  · exact ⟨[], (List.append_nil text).symm, by simp [units, DurationUnit.worth]⟩

/-- **A unit is found behind what does not end like one.** -/
theorem splitUnit_append {numeral unit : List Char} {worth : Nat} (hunit : (unit, worth) ∈ units)
    (hlast : ∀ c ∈ numeral.getLast?, c ≠ 'm' ∧ c ≠ 's') :
    (splitUnit (numeral ++ unit)).1 = numeral ∧
      (splitUnit (numeral ++ unit)).2.worth = worth := by
  have hhead : ∀ c rest, numeral.reverse = c :: rest → c ≠ 'm' ∧ c ≠ 's' := by
    intro c rest hreverse
    refine hlast c ?_
    rw [← List.head?_reverse, hreverse]
    rfl
  unfold splitUnit
  simp only [units, List.mem_cons, Prod.mk.injEq, List.not_mem_nil, or_false] at hunit
  rcases hunit with ⟨rfl, rfl⟩ | ⟨rfl, rfl⟩ | ⟨rfl, rfl⟩
  · simp [DurationUnit.worth]
  · rw [List.reverse_append]
    split
    · rename_i rest hrest
      exact absurd rfl (hhead 'm' rest (List.cons.inj hrest).2).1
    · rename_i rest _ hrest
      obtain rfl : numeral.reverse = rest := (List.cons.inj hrest).2
      exact ⟨List.reverse_reverse numeral, rfl⟩
    · rename_i hneither
      exact absurd rfl (hneither numeral.reverse)
  · rw [List.append_nil]
    split
    · rename_i rest hrest
      exact absurd rfl (hhead 's' _ hrest).2
    · rename_i rest _ hrest
      exact absurd rfl (hhead 's' _ hrest).2
    · exact ⟨rfl, rfl⟩

/-- A row of digits does not end like a unit, whatever stands before it. -/
theorem getLast?_digits {sign digits : List Char} {v : Nat} (h : Denotes 10 digits v) :
    ∀ c ∈ (sign ++ digits).getLast?, c ≠ 'm' ∧ c ≠ 's' := by
  have hall : ∀ d < 10, Text.Hex.lower d ≠ 'm' ∧ Text.Hex.lower d ≠ 's' ∧
      Text.Hex.upper d ≠ 'm' ∧ Text.Hex.upper d ≠ 's' := by decide
  intro c hc
  rw [List.getLast?_append_of_ne_nil sign h.1] at hc
  obtain ⟨d, hd, rfl | rfl⟩ := h.isDigit c (List.mem_of_getLast? hc)
  · exact ⟨(hall d hd).1, (hall d hd).2.1⟩
  · exact (hall d hd).2.2

/-! ## Whole texts -/

/-- **A span that is read is that of the words made from the number read**, in the unit found. -/
theorem readDuration_eq_ok_iff_words {text : List Char} {d : Nat} :
    readDuration text = .ok d ↔ ∃ v : UInt64,
      Text.Numeral.parse? 10 (Nat.pow 2 64) (splitUnit (Text.trim text)).1 = some v.toNat ∧
      1 ≤ v.toNat ∧ ((splitUnit (Text.trim text)).2.words v).span ≤ longestDuration ∧
      d = ((splitUnit (Text.trim text)).2.words v).span := by
  unfold readDuration
  dsimp only
  constructor
  · intro h
    split at h
    · cases h
    · split at h
      · cases h
      · rename_i v hv
        split at h
        · cases h
        · split at h
          · cases h
          · rename_i hzero hlong
            have hword : (UInt64.ofNat v).toNat = v :=
              UInt64.toNat_ofNat_of_lt' (Text.Numeral.parse?_lt hv)
            refine ⟨UInt64.ofNat v, ?_, ?_, Nat.le_of_not_lt hlong, (Except.ok.inj h).symm⟩
            · rwa [hword]
            · rw [hword]
              exact Nat.pos_of_ne_zero hzero
  · rintro ⟨v, hv, hpos, hday, rfl⟩
    have hsome : Text.trim text ≠ [] := by
      intro hempty
      rw [hempty] at hv
      cases hv
    rw [if_neg (by simpa using hsome), hv]
    dsimp only
    rw [if_neg (Nat.ne_of_gt hpos), UInt64.ofNat_toNat, if_neg (Nat.not_lt.2 hday)]

/-- The numeral before the unit decides whether there is a span, and which. -/
theorem readDuration_eq_ok_iff_numeral {text : List Char} {d : Nat} :
    readDuration text = .ok d ↔ ∃ v,
      Text.Numeral.parse? 10 (Nat.pow 2 64) (splitUnit (Text.trim text)).1 = some v ∧ 1 ≤ v ∧
      v * (splitUnit (Text.trim text)).2.worth ≤ longestDuration ∧
      d = v * (splitUnit (Text.trim text)).2.worth := by
  rw [readDuration_eq_ok_iff_words]
  simp only [DurationUnit.span_words]
  constructor
  · rintro ⟨v, hv⟩
    exact ⟨v.toNat, hv⟩
  · rintro ⟨v, hv⟩
    refine ⟨UInt64.ofNat v, ?_⟩
    rwa [UInt64.toNat_ofNat_of_lt' (Text.Numeral.parse?_lt hv.1)]

/-- What a command cannot do without is read like any duration. -/
theorem duration_eq_ok_iff {text : List Char} {d : Nat} :
    duration text = .ok d ↔ readDuration text = .ok d := by
  unfold duration
  cases readDuration text <;> simp [Except.mapError]

/-- **What is read as a duration**, and as which. -/
theorem readDuration_eq_ok_iff {text : List Char} {d : Nat} :
    readDuration text = .ok d ↔ TellsSpan text d := by
  rw [readDuration_eq_ok_iff_numeral]
  constructor
  · rintro ⟨v, hv, hpos, hday, rfl⟩
    obtain ⟨unit, htext, hunit⟩ := splitUnit_unit (Text.trim text)
    have htrimmed := Text.trimmed_iff.2 htext
    obtain ⟨hbound, hnumeral⟩ := (Text.Numeral.parse?_eq_some_iff (by decide)).1 hv
    rcases hnumeral with hdigits | ⟨digits, hsigned, hdigits⟩
    · have hplain : Trimmed text ([] ++ (splitUnit (Text.trim text)).1 ++ unit) := htrimmed
      exact .intro hplain (.inl rfl) hdigits hbound hunit hpos hday
    · have hplus : Trimmed text (['+'] ++ digits ++ unit) := by rwa [hsigned] at htrimmed
      exact .intro hplus (.inr rfl) hdigits hbound hunit hpos hday
  · rintro @⟨sign, digits, unit, v, worth, htrimmed, hsign, hdigits, hv, hunit, hpos, hday⟩
    have hlast : ∀ c ∈ (sign ++ digits).getLast?, c ≠ 'm' ∧ c ≠ 's' := getLast?_digits hdigits
    obtain ⟨hnumeral, hworth⟩ := splitUnit_append hunit hlast
    rw [Text.trimmed_iff.1 htrimmed, hnumeral, hworth]
    refine ⟨v, (Text.Numeral.parse?_eq_some_iff (by decide)).2 ⟨hv, ?_⟩, hpos, hday, rfl⟩
    rcases hsign with rfl | rfl
    · exact .inl hdigits
    · exact .inr ⟨digits, rfl, hdigits⟩

/-- **What is taken for a duration.**  A text is read exactly if it tells a span, and as that
span; every other text is an unusable setting.  No number in 64 bits is too large for either unit,
even one that is refused. -/
theorem duration_grammar (text : List Char) :
    (∀ d, duration text = .ok d ↔ TellsSpan text d) ∧
    ((¬∃ d, TellsSpan text d) → ∃ refusal, duration text = .error refusal ∧
      refusal.status.code = 64) ∧
    ∀ v : UInt64, (Duration.Words.ofMilliseconds v).span = v.toNat * Duration.millisecond ∧
      (Duration.Words.ofSeconds v).span = v.toNat * Duration.second := by
  refine ⟨fun d => duration_eq_ok_iff.trans readDuration_eq_ok_iff, fun hnone => ?_, fun v =>
    ⟨Duration.Words.span_ofMilliseconds v, Duration.Words.span_ofSeconds v⟩⟩
  cases hresult : readDuration text with
  | ok d => exact absurd ⟨d, readDuration_eq_ok_iff.1 hresult⟩ hnone
  | error e => exact ⟨.usage e.message, by rw [duration, hresult]; rfl, rfl⟩

example : duration " +086400000ms\n".toList = .ok longestDuration := by decide +kernel

example : duration "1 ms".toList = .error (.usage "invalid duration value: 1 ms") := by
  decide +kernel

end Console
end PacketRadio
