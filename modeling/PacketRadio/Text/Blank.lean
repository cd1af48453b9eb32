/-
# White space

rflink specification, §10: the blanks that the values of options may have.

Two sets of blank characters are in use.  Around an argument every character
of the Unicode property `White_Space` is dropped; between hex digits only the
five ASCII blanks are (so not the vertical tab, U+000B).
-/

namespace PacketRadio
namespace Text

/-- The Unicode property `White_Space`. -/
def isBlank (c : Char) : Bool :=
  let n := c.toNat
  (9 ≤ n && n ≤ 13) || n == 32 || n == 0x85 || n == 0xA0 || n == 0x1680 ||
    (0x2000 ≤ n && n ≤ 0x200A) || n == 0x2028 || n == 0x2029 || n == 0x202F ||
    n == 0x205F || n == 0x3000

/-- Space, tab, line feed, form feed and carriage return, as bytes. -/
def isAsciiBlank (b : UInt8) : Bool :=
  b == 32 || b == 9 || b == 10 || b == 12 || b == 13

/-- The text without the blanks at either end. -/
def trim (text : List Char) : List Char :=
  ((text.dropWhile isBlank).reverse.dropWhile isBlank).reverse

/-- Blank for ASCII implies blank for Unicode. -/
theorem isBlank_of_isWhitespace (c : Char) (h : c.isWhitespace = true) : isBlank c = true := by
  simp only [Char.isWhitespace, Bool.or_eq_true, decide_eq_true_eq] at h
  rcases h with ((h | h) | h) | h <;> subst h <;> decide

@[simp] theorem trim_nil : trim [] = [] := rfl

/-- **What is left starts with no blank.** -/
theorem head_trim_not_blank (text : List Char) (c : Char) (h : (trim text).head? = some c) :
    isBlank c = false := by
  have key : ∀ l : List Char, l.head? = some c →
      ∀ m : List Char, (m.reverse.dropWhile isBlank).reverse = l → ∃ r, m = c :: r := by
    intro l hl m hm
    have hsub : ∃ t, m = (m.reverse.dropWhile isBlank).reverse ++ t := by
      refine ⟨(m.reverse.takeWhile isBlank).reverse, ?_⟩
      rw [← List.reverse_append, List.takeWhile_append_dropWhile, List.reverse_reverse]
    obtain ⟨t, ht⟩ := hsub
    cases l with
    | nil => simp at hl
    | cons a r =>
      simp only [List.head?_cons, Option.some.injEq] at hl
      subst hl
      exact ⟨r ++ t, by rw [ht, hm]; simp⟩
  obtain ⟨r, hr⟩ := key (trim text) h (text.dropWhile isBlank) rfl
  have := List.head?_dropWhile_not isBlank text
  rw [hr] at this
  simpa using this

end Text
end PacketRadio
