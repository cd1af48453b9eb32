/-
# What is taken for hex text

rflink specification, §10: the hex of `decode`.

The reader drops the blanks at both ends, then one mark, then all separators,
and pairs up the bytes of what is left.

| two characters that are left | are read as |
| --- | --- |
| two digits | the byte that they denote |
| a plus sign and a digit | the value of the digit |
| any other, in part or whole | nothing: the text is refused |

The second row is what a numeral may look like, and not what hex digits look
like.  A character outside ASCII may be cut in two by the pairing, but none of
its bytes can be taken for a character of its own.

Main statement: `decode_hex_text`.
-/

import PacketRadio.Proofs.Text.HexRoundTrip
import PacketRadio.Proofs.Text.Numeral
import Mathlib.Data.List.Induction

namespace PacketRadio
namespace Text
namespace Hex

open Numeral (IsDigit)

/-! ## Pairs of characters -/

/-- Two digits and the byte that they denote, high half first. -/
def Digits (a b : Char) (v : UInt8) : Prop :=
  ∃ high low, IsDigit 16 a high ∧ IsDigit 16 b low ∧ v.toNat = 16 * high + low

/-- A plus sign and a digit, and its value. -/
def Signed (a b : Char) (v : UInt8) : Prop :=
  a = '+' ∧ IsDigit 16 b v.toNat

/-- A text in pairs of characters, and the bytes that these stand for. -/
inductive Paired (P : Char → Char → UInt8 → Prop) : List Char → Bytes → Prop where
  /-- Nothing stands for nothing. -/
  | nil : Paired P [] []
  /-- The first two characters stand for the first byte. -/
  | cons {a b : Char} {v : UInt8} {rest : List Char} {data : Bytes} (h : P a b v)
      (hrest : Paired P rest data) : Paired P (a :: b :: rest) (v :: data)

/-- What is read in pairs. -/
abbrev Read (a b : Char) (v : UInt8) : Prop :=
  Digits a b v ∨ Signed a b v

section

variable {P Q : Char → Char → UInt8 → Prop} {text : List Char} {data : Bytes}

theorem Paired.imp (h : Paired P text data) (himp : ∀ a ∈ text, ∀ b v, P a b v → Q a b v) :
    Paired Q text data := by
  induction h with
  | nil => exact .nil
  | cons h hrest ih =>
    refine .cons (himp _ List.mem_cons_self _ _ h) (ih fun a ha => himp a ?_)
    exact List.mem_cons_of_mem _ (List.mem_cons_of_mem _ ha)

theorem Paired.forall_mem {p : Char → Prop} (h : Paired P text data)
    (hp : ∀ a b v, P a b v → p a ∧ p b) : ∀ c ∈ text, p c := by
  induction h with
  | nil => simp
  | cons h hrest ih =>
    obtain ⟨ha, hb⟩ := hp _ _ _ h
    exact List.forall_mem_cons.2 ⟨ha, List.forall_mem_cons.2 ⟨hb, ih⟩⟩

theorem Paired.even (h : Paired P text data) : text.length % 2 = 0 := by
  induction h with
  | nil => rfl
  | cons h hrest ih =>
    rw [List.length_cons, List.length_cons]
    omega

end

/-- The digits in both cases. -/
def digits : List Char :=
  "0123456789abcdefABCDEF".toList

/-- **They are the digits of radix sixteen.** -/
theorem mem_digits_iff {c : Char} : c ∈ digits ↔ ∃ v, IsDigit 16 c v := by
  constructor
  · have hall : (digits.all fun c => (List.range 16).any fun v => c = lower v ∨ c = upper v) =
        true := by decide
    simp only [List.all_eq_true, List.any_eq_true, decide_eq_true_eq, List.mem_range] at hall
    exact hall c
  · have hall : ∀ v < 16, lower v ∈ digits ∧ upper v ∈ digits := by decide
    rintro ⟨v, hv, rfl | rfl⟩
    · exact (hall v hv).1
    · exact (hall v hv).2

/-- **An even number of digits is a text of such pairs, and nothing else is.** -/
theorem exists_paired_iff {text : List Char} :
    (∃ data, Paired Digits text data) ↔ text.length % 2 = 0 ∧ ∀ c ∈ text, c ∈ digits := by
  constructor
  · rintro ⟨data, h⟩
    refine ⟨h.even, h.forall_mem fun a b v => ?_⟩
    rintro ⟨high, low, ha, hb, -⟩
    exact ⟨mem_digits_iff.2 ⟨high, ha⟩, mem_digits_iff.2 ⟨low, hb⟩⟩
  · rintro ⟨heven, hdigits⟩
    induction text using List.twoStepInduction with
    | nil => exact ⟨[], .nil⟩
    | singleton c => simp at heven
    | cons_cons a b rest ih _ =>
      obtain ⟨ha, hdigits⟩ := List.forall_mem_cons.1 hdigits
      obtain ⟨hb, hrest⟩ := List.forall_mem_cons.1 hdigits
      obtain ⟨high, ha⟩ := mem_digits_iff.1 ha
      obtain ⟨low, hb⟩ := mem_digits_iff.1 hb
      obtain ⟨data, h⟩ := ih (by simp only [List.length_cons] at heven; omega) hrest
      have hhigh := ha.1
      have hlow := hb.1
      refine ⟨UInt8.ofNat (16 * high + low) :: data, .cons ⟨high, low, ha, hb, ?_⟩ h⟩
      rw [UInt8.toNat_ofNat', Nat.mod_eq_of_lt (by omega)]

/-! ## Characters and their bytes -/

/-- The byte of an ASCII character. -/
def octet (c : Char) : UInt8 :=
  UInt8.ofNat c.toNat

/-- A character of ASCII is one byte. -/
theorem utf8EncodeChar_ascii {c : Char} (h : c.toNat < 128) :
    String.utf8EncodeChar c = [octet c] := by
  rw [String.utf8EncodeChar]
  exact if_pos (Nat.le_of_lt_succ h)

/-- **The bytes of another character are none of ASCII.** -/
theorem le_of_mem_utf8EncodeChar {c : Char} (h : 128 ≤ c.toNat) :
    ∀ b ∈ String.utf8EncodeChar c, 0x80 ≤ b := by
  have hhigh : ∀ n, 128 ≤ n → n < 256 → 0x80 ≤ UInt8.ofNat n := fun n hn hlt => by
    rw [UInt8.le_iff_toNat_le, UInt8.toNat_ofNat', Nat.mod_eq_of_lt hlt]
    exact hn
  intro b hb
  have hwide : ¬c.val.toNat ≤ 127 := Nat.not_le.2 h
  rw [String.utf8EncodeChar] at hb
  simp only [if_neg hwide] at hb
  split at hb
  · rename_i hle
    simp only [List.mem_cons, List.not_mem_nil, or_false] at hb
    rcases hb with rfl | rfl <;> exact hhigh _ (by omega) (by omega)
  · split at hb
    · simp only [List.mem_cons, List.not_mem_nil, or_false] at hb
      rcases hb with rfl | rfl | rfl <;> exact hhigh _ (by omega) (by omega)
    · simp only [List.mem_cons, List.not_mem_nil, or_false] at hb
      rcases hb with rfl | rfl | rfl | rfl <;> exact hhigh _ (by omega) (by omega)

/-- **Different texts have different bytes.** -/
theorem bytes_injective : Function.Injective bytes := by
  intro a b h
  have hutf8 : a.utf8Encode = b.utf8Encode := congrArg List.toByteArray h
  have hdecoded := congrArg ByteArray.utf8Decode? hutf8
  rw [List.utf8Decode?_utf8Encode, List.utf8Decode?_utf8Encode] at hdecoded
  exact congrArg Array.toList (Option.some.inj hdecoded)

/-- A text of ASCII characters has one byte for each. -/
theorem bytes_ascii {text : List Char} (h : ∀ c ∈ text, c.toNat < 128) :
    bytes text = text.map octet := by
  induction text with
  | nil => rfl
  | cons c rest ih =>
    obtain ⟨hc, hrest⟩ := List.forall_mem_cons.1 h
    rw [bytes, List.flatMap_cons, utf8EncodeChar_ascii hc, ← bytes, ih hrest]
    rfl

/-- Separators are told from other ASCII characters by their bytes. -/
theorem significant_octet : ∀ n < 128, (!isAsciiBlank (UInt8.ofNat n) && UInt8.ofNat n != 58) =
    !isSeparator (Char.ofNat n) := by
  decide

/-- **A separator is dropped, and no byte of another character is.** -/
theorem significant_singleton (c : Char) :
    significant [c] = if isSeparator c then [] else bytes [c] := by
  split
  · rename_i hseparator
    exact (of_isSeparator hseparator).2.2.2
  · rename_i hkept
    rw [significant, List.filter_eq_self]
    intro b hb
    rw [bytes, List.flatMap_singleton] at hb
    rcases Nat.lt_or_ge c.toNat 128 with hascii | hwide
    · rw [utf8EncodeChar_ascii hascii, List.mem_singleton] at hb
      rw [hb, octet, significant_octet _ hascii, Char.ofNat_toNat]
      simpa using hkept
    · have hne : ∀ d < 0x80, b ≠ d := by
        rintro d hd rfl
        exact absurd (le_of_mem_utf8EncodeChar hwide b hb) (UInt8.not_le.2 hd)
      simp [isAsciiBlank, hne 32 (by decide), hne 9 (by decide), hne 10 (by decide),
        hne 12 (by decide), hne 13 (by decide), hne 58 (by decide)]

/-- **What is left to pair up** are the bytes of all characters but the separators. -/
theorem significant_eq (text : List Char) :
    significant text = bytes (text.filter fun c => !isSeparator c) := by
  induction text with
  | nil => rfl
  | cons c rest ih =>
    rw [significant_cons, significant_singleton, ih]
    cases hc : isSeparator c with
    | true => rw [if_pos rfl, List.filter_cons_of_neg (by simp [hc]), List.nil_append]
    | false =>
      rw [if_neg Bool.false_ne_true, List.filter_cons_of_pos (by simp [hc]), ← bytes_append]
      rfl

/-! ## Pairs of bytes -/

/-- A digit is a character of ASCII. -/
theorem lt_of_isDigit {c : Char} {v : Nat} (h : IsDigit 16 c v) : c.toNat < 128 := by
  have hall : (digits.all fun c => c.toNat < 128) = true := by decide
  simp only [List.all_eq_true, decide_eq_true_eq] at hall
  exact hall c (mem_digits_iff.2 ⟨v, h⟩)

/-- What is read in pairs is of ASCII. -/
theorem lt_of_read {a b : Char} {v : UInt8} (h : Read a b v) : a.toNat < 128 ∧ b.toNat < 128 := by
  rcases h with ⟨high, low, ha, hb, -⟩ | ⟨rfl, hb⟩
  · exact ⟨lt_of_isDigit ha, lt_of_isDigit hb⟩
  · exact ⟨by decide, lt_of_isDigit hb⟩

/-- **Two characters are a numeral** if they are two digits, or one behind a plus sign. -/
theorem parse?_pair {a b : Char} {v : UInt8} :
    Numeral.parse? 16 256 [a, b] = some v.toNat ↔ Read a b v := by
  have hv := v.toNat_lt
  rw [Numeral.parse?_eq_some_iff (by decide), and_iff_right hv, Numeral.denotes_pair]
  refine or_congr Iff.rfl ?_
  constructor
  · rintro ⟨rest, hrest, hdigit⟩
    obtain ⟨rfl, rfl⟩ := List.cons.inj hrest
    exact ⟨rfl, Numeral.denotes_singleton.1 hdigit⟩
  · rintro ⟨rfl, hdigit⟩
    exact ⟨[b], rfl, Numeral.denotes_singleton.2 hdigit⟩

/-- A single character outside ASCII is no numeral. -/
theorem parse?_wide {c : Char} (h : 128 ≤ c.toNat) : Numeral.parse? 16 256 [c] = none := by
  rw [Option.eq_none_iff_forall_ne_some]
  intro n hn
  rcases ((Numeral.parse?_eq_some_iff (by decide)).1 hn).2 with hdigit | ⟨rest, hrest, hdigits⟩
  · exact absurd (lt_of_isDigit (Numeral.denotes_singleton.1 hdigit)) (Nat.not_lt.2 h)
  · obtain ⟨rfl, rfl⟩ := List.cons.inj hrest
    exact absurd rfl hdigits.1

theorem toNat_ofNat_of_lt {n : Nat} (h : n < 0xD800) : (Char.ofNat n).toNat = n := by
  have hvalid : n.isValidChar := .inl h
  rw [Char.ofNat, dif_pos hvalid]
  rfl

/-- **What two bytes spell**: the characters whose bytes they are, or one outside ASCII. -/
theorem twoBytes?_eq_some {x y : UInt8} {text : List Char} (h : twoBytes? x y = some text) :
    (∃ a b, text = [a, b] ∧ x = octet a ∧ y = octet b) ∨ ∃ c, text = [c] ∧ 128 ≤ c.toNat := by
  unfold twoBytes? at h
  split at h
  · rename_i hascii
    obtain ⟨hx, hy⟩ := hascii
    have hchar : ∀ b < (0x80 : UInt8), b = octet (Char.ofNat b.toNat) := fun b hb => by
      have hlt : b.toNat < 128 := UInt8.lt_iff_toNat_lt.1 hb
      rw [octet, toNat_ofNat_of_lt (by omega), UInt8.ofNat_toNat]
    exact .inl ⟨_, _, (Option.some.inj h).symm, hchar x hx, hchar y hy⟩
  · split at h
    · rename_i hwide
      obtain ⟨hlead, hlast, hnext, -⟩ := hwide
      have hlead : 0xC2 ≤ x.toNat := UInt8.le_iff_toNat_le.1 hlead
      have hlast : x.toNat ≤ 0xDF := UInt8.le_iff_toNat_le.1 hlast
      have hy := y.toNat_lt
      refine .inr ⟨_, (Option.some.inj h).symm, ?_⟩
      rw [toNat_ofNat_of_lt (by omega)]
      omega
    · cases h

theorem twoBytes?_octet {a b : Char} (ha : a.toNat < 128) (hb : b.toNat < 128) :
    twoBytes? (octet a) (octet b) = some [a, b] := by
  have hoctet : ∀ c : Char, c.toNat < 128 → octet c < 0x80 ∧ Char.ofNat (octet c).toNat = c := by
    intro c hc
    have hsame : (octet c).toNat = c.toNat := by
      rw [octet, UInt8.toNat_ofNat', Nat.mod_eq_of_lt (by omega)]
    exact ⟨UInt8.lt_iff_toNat_lt.2 (hsame.symm ▸ hc), by rw [hsame, Char.ofNat_toNat]⟩
  obtain ⟨ha, hachar⟩ := hoctet a ha
  obtain ⟨hb, hbchar⟩ := hoctet b hb
  rw [twoBytes?, if_pos ⟨ha, hb⟩, hachar, hbchar]

/-- **Two bytes are read exactly if they are those of a pair of characters that is.** -/
theorem readPair_eq_ok_iff {x y v : UInt8} :
    readPair x y = .ok v ↔ ∃ a b, Read a b v ∧ x = octet a ∧ y = octet b := by
  constructor
  · intro h
    unfold readPair at h
    split at h
    · cases h
    · rename_i text htext
      split at h
      · rename_i n hn
        obtain rfl := Except.ok.inj h
        have hsame : (UInt8.ofNat n).toNat = n := by
          rw [UInt8.toNat_ofNat', Nat.mod_eq_of_lt (Numeral.parse?_lt hn)]
        rcases twoBytes?_eq_some htext with ⟨a, b, rfl, hx, hy⟩ | ⟨c, rfl, hwide⟩
        · exact ⟨a, b, parse?_pair.1 (hsame.symm ▸ hn), hx, hy⟩
        · rw [parse?_wide hwide] at hn
          cases hn
      · cases h
  · rintro ⟨a, b, hread, rfl, rfl⟩
    obtain ⟨ha, hb⟩ := lt_of_read hread
    simp only [readPair, twoBytes?_octet ha hb, parse?_pair.2 hread, UInt8.ofNat_toNat]

/-- **An even number of bytes is read in pairs.** -/
theorem readPairs_eq_ok_iff {bs data : Bytes} (heven : bs.length % 2 = 0) :
    readPairs bs = .ok data ↔ ∃ text, Paired Read text data ∧ bs = text.map octet := by
  induction bs using List.twoStepInduction generalizing data with
  | nil =>
    constructor
    · intro h
      obtain rfl := Except.ok.inj h
      exact ⟨[], .nil, rfl⟩
    · rintro ⟨text, hpaired, hbs⟩
      obtain rfl := List.map_eq_nil_iff.1 hbs.symm
      cases hpaired
      rfl
  | singleton x => simp at heven
  | cons_cons x y rest ih _ =>
    have hrest : rest.length % 2 = 0 := by
      simp only [List.length_cons] at heven
      omega
    rw [readPairs]
    constructor
    · intro h
      cases hfirst : readPair x y with
      | error e =>
        rw [hfirst] at h
        cases h
      | ok v =>
        cases hothers : readPairs rest with
        | error e =>
          rw [hfirst, hothers] at h
          cases h
        | ok others =>
          rw [hfirst, hothers] at h
          obtain rfl := Except.ok.inj h
          obtain ⟨a, b, hread, rfl, rfl⟩ := readPair_eq_ok_iff.1 hfirst
          obtain ⟨text, hpaired, rfl⟩ := (ih hrest).1 hothers
          exact ⟨a :: b :: text, .cons hread hpaired, rfl⟩
    · rintro ⟨text, hpaired, hbs⟩
      cases hpaired with
      | nil => cases hbs
      | cons hread hpaired =>
        obtain ⟨hx, hbs⟩ := List.cons.inj hbs
        obtain ⟨hy, hbs⟩ := List.cons.inj hbs
        rw [readPair_eq_ok_iff.2 ⟨_, _, hread, hx, hy⟩, (ih hrest).2 ⟨_, hpaired, hbs⟩]
        rfl

/-! ## Whole texts -/

/-- **What is read**, and what it is read as. -/
theorem decode_eq_ok_iff {text : List Char} {data : Bytes} :
    decode text = .ok data ↔
      Paired Read ((unmarked (trim text)).filter fun c => !isSeparator c) data := by
  unfold decode
  dsimp only
  rw [significant_eq]
  generalize (unmarked (trim text)).filter (fun c => !isSeparator c) = left
  have hbytes : ∀ {text : List Char}, Paired Read text data → bytes text = text.map octet := by
    intro text h
    exact bytes_ascii (h.forall_mem fun _ _ _ => lt_of_read)
  constructor
  · intro h
    split at h
    · cases h
    · rename_i hodd
      obtain ⟨text, hpaired, hsame⟩ := (readPairs_eq_ok_iff (by omega)).1 h
      rwa [bytes_injective (hsame.trans (hbytes hpaired).symm)]
  · intro hpaired
    have heven : (bytes left).length % 2 = 0 := by
      rw [hbytes hpaired, List.length_map, hpaired.even]
    rw [if_neg (by omega), readPairs_eq_ok_iff heven]
    exact ⟨left, hpaired, hbytes hpaired⟩

/-- **What is taken for hex text.**  When the blanks at both ends, one mark and all separators are
dropped, an even number of digits is read as the bytes that they denote.  Besides that, only a plus
sign may stand for the first digit of a byte: if there is none, every text that is not made of
digits in pairs is refused, and so is every text with any other character in it. -/
theorem decode_hex_text (text : List Char) : ∃ core, Trimmed text core ∧
    let left := (unmarked core).filter fun c => !isSeparator c
    (∀ data, decode text = .ok data ↔ Paired Read left data) ∧
    ('+' ∉ left → ∀ data, decode text = .ok data ↔ Paired Digits left data) ∧
    ((∃ data, Paired Digits left data) ↔ left.length % 2 = 0 ∧ ∀ c ∈ left, c ∈ digits) ∧
    ((∃ c ∈ left, c ∉ digits ∧ c ≠ '+') → ∃ e, decode text = .error e) := by
  refine ⟨trim text, trimmed_trim text, fun data => decode_eq_ok_iff, fun hplus data => ?_,
    exists_paired_iff, ?_⟩
  · rw [decode_eq_ok_iff]
    refine ⟨fun h => h.imp fun a ha b v hread => ?_, fun h => h.imp fun a _ b v => .inl⟩
    refine hread.resolve_right fun hsigned => hplus ?_
    rwa [← hsigned.1]
  · rintro ⟨c, hc, hdigit, hplus⟩
    cases hread : decode text with
    | error e => exact ⟨e, rfl⟩
    | ok data =>
      have hmem : ∀ a b v, Read a b v → (a ∈ digits ∨ a = '+') ∧ (b ∈ digits ∨ b = '+') := by
        rintro a b v (⟨high, low, ha, hb, -⟩ | ⟨rfl, hb⟩)
        · exact ⟨.inl (mem_digits_iff.2 ⟨high, ha⟩), .inl (mem_digits_iff.2 ⟨low, hb⟩)⟩
        · exact ⟨.inr rfl, .inl (mem_digits_iff.2 ⟨_, hb⟩)⟩
      exact absurd ((decode_eq_ok_iff.1 hread).forall_mem hmem c hc) (by simp [hdigit, hplus])

/-- **A plus sign is taken for a digit**: not every text that is read is made of digits in pairs. -/
theorem read_without_digits : ¬∀ text data, decode text = .ok data ↔
    Paired Digits ((unmarked (trim text)).filter fun c => !isSeparator c) data := by
  intro hall
  have hread : decode ['+', '1'] = .ok [1] := by decide +kernel
  have hpaired := exists_paired_iff.1 ⟨_, (hall _ _).1 hread⟩
  exact absurd (hpaired.2 '+' (by decide)) (by decide)

end Hex
end Text
end PacketRadio
