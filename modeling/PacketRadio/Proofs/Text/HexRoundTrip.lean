/-
# Hex digits with something between them

rflink specification, §10: the hex of `encode` and `decode`.

Bytes that were written in hex read back, wherever separators are put into
their digits and whether or not a mark stands before the whole.

| part of the text | what the reader makes of it |
| --- | --- |
| blanks at either end | dropped first |
| `0x` or `0X` in front | dropped next |
| blanks and colons, also between the two digits of a byte | dropped then |
| what is left | read two digits at a time |

Digits with separators cannot be taken for a mark, for there is no letter x
among them.

Main statement: `decode_of_spells`.
-/

import PacketRadio.Text.Hex

namespace PacketRadio
namespace Text

/-! ## Blanks at the ends -/

variable {text : List Char}

/-- The text without the blanks at its end. -/
def trimEnd (text : List Char) : List Char :=
  (text.reverse.dropWhile isBlank).reverse

theorem trim_eq (text : List Char) : trim text = trimEnd (text.dropWhile isBlank) := rfl

/-- **Only blanks are dropped at the front**, so nothing is lost to what keeps none. -/
theorem filter_dropWhile {keep : Char → Bool} (h : ∀ c ∈ text, isBlank c = true → keep c = false) :
    (text.dropWhile isBlank).filter keep = text.filter keep := by
  induction text with
  | nil => rfl
  | cons c rest ih =>
    obtain ⟨hc, hrest⟩ := List.forall_mem_cons.1 h
    by_cases hblank : isBlank c = true
    · rw [List.dropWhile_cons_of_pos hblank, ih hrest, List.filter_cons_of_neg]
      simp [hc hblank]
    · rw [List.dropWhile_cons_of_neg hblank]

/-- **Nor is anything else dropped at the end.** -/
theorem filter_trimEnd {keep : Char → Bool} (h : ∀ c ∈ text, isBlank c = true → keep c = false) :
    (trimEnd text).filter keep = text.filter keep := by
  have hback : ∀ c ∈ text.reverse, isBlank c = true → keep c = false :=
    fun c hc => h c (List.mem_reverse.1 hc)
  rw [trimEnd, List.filter_reverse, filter_dropWhile hback, List.filter_reverse,
    List.reverse_reverse]

/-- What is no blank keeps its place in front of what is trimmed. -/
theorem trimEnd_cons {c : Char} (hc : isBlank c = false) (rest : List Char) :
    trimEnd (c :: rest) = c :: trimEnd rest := by
  rw [trimEnd, trimEnd, List.reverse_cons, List.dropWhile_append]
  split
  · rename_i hempty
    rw [List.isEmpty_iff.1 hempty, List.dropWhile_cons_of_neg (by simp [hc])]
    rfl
  · rw [List.reverse_append]
    rfl

/-- **Blanks in front of what is none are dropped.** -/
theorem trim_blanks_append {blanks rest : List Char} {c : Char}
    (hblanks : ∀ b ∈ blanks, isBlank b = true) (hc : isBlank c = false) :
    trim (blanks ++ c :: rest) = c :: trimEnd rest := by
  rw [trim_eq, List.dropWhile_append_of_pos hblanks, List.dropWhile_cons_of_neg (by simp [hc]),
    trimEnd_cons hc]

namespace Hex

/-! ## Digits and separators -/

/-- The digits that bytes are written in. -/
def lowerDigits : List Char :=
  "0123456789abcdef".toList

/-- What may stand anywhere among digits: a space, a tab, a line feed, a form feed, a carriage
return or a colon. -/
def isSeparator (c : Char) : Bool :=
  [' ', '\t', '\n', '\x0c', '\r', ':'].contains c

/-- The text is made of these digits, in this order, and of separators. -/
def Spaced (digits text : List Char) : Prop :=
  text.filter (fun c => !isSeparator c) = digits

instance (digits text : List Char) : Decidable (Spaced digits text) :=
  inferInstanceAs (Decidable (_ = _))

/-- A text that spells digits. -/
inductive Spells (digits : List Char) : List Char → Prop where
  /-- With separators among them. -/
  | plain {text : List Char} (h : Spaced digits text) : Spells digits text
  /-- With a mark in front as well, which only blanks may precede. -/
  | marked {blanks rest : List Char} {x : Char} (hblanks : ∀ c ∈ blanks, isBlank c = true)
      (hx : x = 'x' ∨ x = 'X') (h : Spaced digits rest) : Spells digits (blanks ++ '0' :: x :: rest)

theorem lower_mem : ∀ n < 16, lower n ∈ lowerDigits := by
  decide

/-- Bytes are written in those digits only. -/
theorem encode_subset (data : Bytes) : encode data ⊆ lowerDigits := by
  intro c hc
  obtain ⟨b, -, hc⟩ := List.mem_flatMap.1 hc
  have hb := b.toNat_lt
  simp only [pair, List.mem_cons, List.not_mem_nil, or_false] at hc
  rcases hc with rfl | rfl <;> exact lower_mem _ (by omega)

/-- **What a digit is**: one byte, which is kept, and not the letter of a mark. -/
theorem of_mem_lowerDigits : ∀ c ∈ lowerDigits, isBlank c = false ∧ c ≠ 'x' ∧ c ≠ 'X' ∧ c ≠ '-' ∧
    significant [c] = [UInt8.ofNat c.toNat] := by
  have hall : (lowerDigits.all fun c => isBlank c = false ∧ c ≠ 'x' ∧ c ≠ 'X' ∧ c ≠ '-' ∧
      significant [c] = [UInt8.ofNat c.toNat]) = true := by decide
  simpa only [List.all_eq_true, decide_eq_true_eq] using hall

/-- **What a separator is**: nothing that is kept. -/
theorem of_isSeparator {c : Char} (h : isSeparator c = true) :
    c ≠ 'x' ∧ c ≠ 'X' ∧ c ≠ '-' ∧ significant [c] = [] := by
  have hall : ([' ', '\t', '\n', '\x0c', '\r', ':'].all fun c =>
      c ≠ 'x' ∧ c ≠ 'X' ∧ c ≠ '-' ∧ significant [c] = []) = true := by decide
  simp only [List.all_eq_true, decide_eq_true_eq] at hall
  exact hall c (List.contains_iff_mem.1 h)

section

variable {digits : List Char}

/-- What is in a text of digits and separators. -/
theorem Spaced.mem (h : Spaced digits text) {c : Char} (hc : c ∈ text) :
    isSeparator c = true ∨ c ∈ digits := by
  by_cases hs : isSeparator c = true
  · exact .inl hs
  · exact .inr (h ▸ List.mem_filter.2 ⟨hc, by simpa using hs⟩)

/-- Its blanks are separators. -/
theorem Spaced.isSeparator_of_isBlank (h : Spaced digits text) (hdigits : digits ⊆ lowerDigits) :
    ∀ c ∈ text, isBlank c = true → (!isSeparator c) = false := by
  intro c hc hblank
  rcases h.mem hc with hs | hd
  · simp [hs]
  · rw [(of_mem_lowerDigits c (hdigits hd)).1] at hblank
    cases hblank

/-- **Without the blanks at its end it is still made of these digits.** -/
theorem Spaced.trimEnd (h : Spaced digits text) (hdigits : digits ⊆ lowerDigits) :
    Spaced digits (trimEnd text) :=
  (filter_trimEnd (h.isSeparator_of_isBlank hdigits)).trans h

/-- So it is without those at either end. -/
theorem Spaced.trim (h : Spaced digits text) (hdigits : digits ⊆ lowerDigits) :
    Spaced digits (trim text) := by
  have hfront : Spaced digits (text.dropWhile isBlank) :=
    (filter_dropWhile (h.isSeparator_of_isBlank hdigits)).trans h
  exact hfront.trimEnd hdigits

/-- There is no mark at its front. -/
theorem Spaced.unmarked (h : Spaced digits text) (hdigits : digits ⊆ lowerDigits) :
    unmarked text = text := by
  have hletters : 'x' ∉ text ∧ 'X' ∉ text := by
    constructor <;> intro hc <;> rcases h.mem hc with hs | hd
    · exact (of_isSeparator hs).1 rfl
    · exact (of_mem_lowerDigits _ (hdigits hd)).2.1 rfl
    · exact (of_isSeparator hs).2.1 rfl
    · exact (of_mem_lowerDigits _ (hdigits hd)).2.2.1 rfl
  unfold Hex.unmarked
  split
  · simp at hletters
  · simp at hletters
  · rfl

/-- Characters are looked at one by one. -/
theorem significant_cons (c : Char) (rest : List Char) :
    significant (c :: rest) = significant [c] ++ significant rest := by
  rw [significant, significant, significant, ← List.filter_append, ← bytes_append]
  rfl

/-- **What is left to pair up are the digits.** -/
theorem Spaced.significant (h : Spaced digits text) (hdigits : digits ⊆ lowerDigits) :
    significant text = digits.map fun c => UInt8.ofNat c.toNat := by
  induction text generalizing digits with
  | nil =>
    obtain rfl : [] = digits := h
    rfl
  | cons c rest ih =>
    rw [significant_cons]
    by_cases hs : isSeparator c = true
    · have hrest : Spaced digits rest := by
        rwa [Spaced, List.filter_cons_of_neg (by simp [hs])] at h
      rw [(of_isSeparator hs).2.2.2, ih hrest hdigits]
      rfl
    · rw [Spaced, List.filter_cons_of_pos (by simp [hs])] at h
      subst h
      obtain ⟨hc, hrest⟩ := List.cons_subset.1 hdigits
      rw [(of_mem_lowerDigits c hc).2.2.2.2, ih rfl hrest]
      rfl

end

/-! ## Reading back -/

/-- The two digits of a byte are a text of their own, which is a numeral for it. -/
theorem twoBytes?_lower : ∀ high < 16, ∀ low < 16,
    twoBytes? (UInt8.ofNat (lower high).toNat) (UInt8.ofNat (lower low).toNat) =
        some [lower high, lower low] ∧
      Numeral.parse? 16 256 [lower high, lower low] = some (16 * high + low) := by
  decide

/-- **They are read as that byte.** -/
theorem readPair_lower (b : UInt8) :
    readPair (UInt8.ofNat (lower (b.toNat / 16)).toNat) (UInt8.ofNat (lower (b.toNat % 16)).toNat) =
      .ok b := by
  have hb := b.toNat_lt
  obtain ⟨htext, hvalue⟩ := twoBytes?_lower (b.toNat / 16) (by omega) (b.toNat % 16) (by omega)
  simp only [readPair, htext, hvalue, Nat.div_add_mod, UInt8.ofNat_toNat]

/-- **Pairs of digits are read as the bytes that they were written for.** -/
theorem readPairs_encode (data : Bytes) :
    readPairs ((encode data).map fun c => UInt8.ofNat c.toNat) = .ok data := by
  induction data with
  | nil => rfl
  | cons b data ih =>
    show readPairs (_ :: _ :: (encode data).map fun c => UInt8.ofNat c.toNat) = _
    rw [readPairs, readPair_lower b, ih]
    rfl

@[simp] theorem length_encode (data : Bytes) : (encode data).length = 2 * data.length := by
  induction data with
  | nil => rfl
  | cons b data ih =>
    show (encode data).length + 2 = _
    rw [ih, List.length_cons]
    omega

/-- **Every spelling of what was written is read as the bytes that were written.** -/
theorem decode_of_spells {data : Bytes} (h : Spells (encode data) text) :
    decode text = .ok data := by
  have hdigits := encode_subset data
  have hleft : significant (unmarked (trim text)) =
      (encode data).map fun c => UInt8.ofNat c.toNat := by
    cases h with
    | plain h =>
      have htrim := h.trim hdigits
      rw [htrim.unmarked hdigits, htrim.significant hdigits]
    | @marked blanks rest x hblanks hx h =>
      have hxblank : isBlank x = false := by rcases hx with rfl | rfl <;> decide
      have hmark : unmarked ('0' :: x :: trimEnd rest) = trimEnd rest := by
        rcases hx with rfl | rfl <;> rfl
      rw [trim_blanks_append hblanks (by decide), trimEnd_cons hxblank, hmark,
        (h.trimEnd hdigits).significant hdigits]
  have heven : ((encode data).map fun c => UInt8.ofNat c.toNat).length % 2 ≠ 1 := by
    rw [List.length_map, length_encode]
    omega
  rw [decode, hleft]
  exact (if_neg heven).trans (readPairs_encode data)

end Hex
end Text
end PacketRadio
