/-
# Ligatures

rflink specification, §10: `--format table`.

In some scripts characters that stand next to each other are written as one
sign.  Each takes up the one column of a single character, unless the table
says something else.

| script | sequence |
| --- | --- |
| Arabic | a lam and an alef, marks between them or not |
| Buginese | U+1A15, U+1A17, the joiner, U+1A10 |
| Hebrew | U+05D0, the joiner, U+05DC |
| Khmer | U+17D2 and a consonant, written below the one before: no column |
| Kirat Rai | the parts of a vowel sign |
| Lisu | two tone letters |
| Old Turkic | U+10C32, the joiner, U+10C03 |
| Tifinagh | two consonants, U+2D7F or the joiner U+200D between them |

Texts are looked at from their ends, so a ligature is known by what stands at
its end, and grows at its front.

Main statement: `extend_columns_le` (a ligature takes up one column at most).
-/

import PacketRadio.Text.CharWidth

namespace PacketRadio
namespace Text

/-! ## Characters that do not part a ligature -/

/-- The zero width joiner, U+200D. -/
def zwj : Char := '\u200d'

/-- The ranges of characters without a column that part a lam from an alef, because letters do not
join across them. -/
def partingRanges : List (Nat × Nat) :=
  [(0x605, 0x605), (0x890, 0x891), (0x8e2, 0x8e2), (0x9be, 0x9be), (0x9d7, 0x9d7), (0xb3e, 0xb3e),
    (0xb57, 0xb57), (0xbbe, 0xbbe), (0xbd7, 0xbd7), (0xcc0, 0xcc0), (0xcc2, 0xcc2), (0xcc7, 0xcc8),
    (0xcca, 0xccb), (0xcd5, 0xcd6), (0xd3e, 0xd3e), (0xd4e, 0xd4e), (0xd57, 0xd57), (0xdcf, 0xdcf),
    (0xddf, 0xddf), (0x1160, 0x11ff), (0x1715, 0x1715), (0x1734, 0x1734), (0x180e, 0x180e),
    (0x1b35, 0x1b35), (0x1b3b, 0x1b3b), (0x1b3d, 0x1b3d), (0x1b43, 0x1b44), (0x1baa, 0x1baa),
    (0x1bf2, 0x1bf3), (0x200c, 0x200d), (0x2065, 0x2069), (0x302e, 0x302f), (0x3164, 0x3164),
    (0xa8fa, 0xa8fa), (0xa953, 0xa953), (0xa9c0, 0xa9c0), (0xd7b0, 0xd7c6), (0xd7cb, 0xd7fb),
    (0xffa0, 0xffa0), (0xfff0, 0xfff8), (0x111c0, 0x111c0), (0x111c2, 0x111c3), (0x11235, 0x11235),
    (0x1133e, 0x1133e), (0x1134d, 0x1134d), (0x11357, 0x11357), (0x113b8, 0x113b8),
    (0x113c2, 0x113c2), (0x113c5, 0x113c5), (0x113c7, 0x113c9), (0x113cf, 0x113cf),
    (0x113d1, 0x113d1), (0x114b0, 0x114b0), (0x114bd, 0x114bd), (0x115af, 0x115af),
    (0x116b6, 0x116b6), (0x11930, 0x11930), (0x1193d, 0x1193d), (0x1193f, 0x1193f),
    (0x11941, 0x11941), (0x11a84, 0x11a89), (0x11d46, 0x11d46), (0x11f02, 0x11f02),
    (0x11f41, 0x11f41), (0x16ff0, 0x16ff1), (0x1d165, 0x1d166), (0x1d16d, 0x1d172),
    (0x1d250, 0x1d252), (0x1d25f, 0x1d25f), (0x1d280, 0x1d281), (0xe0000, 0xe0000),
    (0xe0002, 0xe001f), (0xe0080, 0xe00ff), (0xe01f0, 0xe0fff)]

/-- The character can stand between a lam and an alef without parting them. -/
def isBetweenLetters (c : Char) : Bool :=
  charWidth c == 0 && !inRanges partingRanges c

/-- The character is a mark that is ignored, and stands in any ligature without parting it. -/
def isIgnoredMark (c : Char) : Bool :=
  inRanges [(0x34f, 0x34f), (0x17b4, 0x17b5), (0x180b, 0x180d), (0x180f, 0x180f),
    (0xfe00, 0xfe0f), (0xe0100, 0xe01ef)] c

/-! ## Letters -/

/-- The character is a form of the letter lam. -/
def isLam (c : Char) : Bool :=
  inRanges [(0x644, 0x644), (0x6b5, 0x6b8), (0x76a, 0x76a), (0x8a6, 0x8a6), (0x8c7, 0x8c7)] c

/-- The character is a form of the letter alef. -/
def isAlef (c : Char) : Bool :=
  inRanges [(0x622, 0x623), (0x625, 0x625), (0x627, 0x627), (0x671, 0x673), (0x675, 0x675),
    (0x773, 0x774), (0x870, 0x882)] c

/-- The character is a Khmer letter with a form below the line. -/
def hasKhmerSubscript (c : Char) : Bool :=
  inRanges [(0x1780, 0x1782), (0x1784, 0x1787), (0x1789, 0x178c), (0x178e, 0x1793),
    (0x1795, 0x1798), (0x179b, 0x179d), (0x17a0, 0x17a0), (0x17a2, 0x17a2), (0x17a7, 0x17a7),
    (0x17ab, 0x17ac), (0x17af, 0x17af)] c

/-- The character is a Tifinagh consonant. -/
def isTifinaghConsonant (c : Char) : Bool :=
  inRanges [(0x2d31, 0x2d65), (0x2d6f, 0x2d6f)] c

/-- The character is a Lisu tone letter that stands first of two. -/
def isFirstLisuTone (c : Char) : Bool := inRanges [(0xa4f8, 0xa4fb)] c

/-- The character is a Lisu tone letter that stands second of two. -/
def isSecondLisuTone (c : Char) : Bool := inRanges [(0xa4fc, 0xa4fd)] c

/-! ## Ligatures -/

/-- What stands at the front of a sequence that may become a ligature. -/
inductive Ligature where
  /-- The Hebrew lamed. -/
  | lamed
  /-- The Khmer letter, perhaps to be written below the line. -/
  | khmerLetter
  /-- The Buginese ya. -/
  | buginese
  /-- The Buginese ya with the joiner and a vowel sign in front. -/
  | bugineseVowel
  /-- A Tifinagh consonant. -/
  | tifinagh
  /-- A Tifinagh consonant with the joiner of consonants in front. -/
  | tifinaghJoined
  /-- The second Lisu tone letter. -/
  | lisuTone
  /-- The Old Turkic i. -/
  | oldTurkic
  deriving DecidableEq, Repr

/-- What a letter may be the end of. -/
def Ligature.ofLetter? (c : Char) : Option Ligature :=
  if c = '\u05dc' then some .lamed
  else if hasKhmerSubscript c then some .khmerLetter
  else if c = '\u1a10' then some .buginese
  else if isTifinaghConsonant c then some .tifinagh
  else if isSecondLisuTone c then some .lisuTone
  else if c.toNat = 0x10c03 then some .oldTurkic
  else none

/-- How a character joins: the columns that the sequence takes up with it, and what the sequence
may still become. -/
abbrev Ligature.Growth := Nat × Option Ligature

/-- How a character joins what stands behind it, if it does.  `joined` says whether a joiner stands
between the two. -/
def Ligature.extend? (l : Ligature) (joined : Bool) (c : Char) : Option Growth :=
  match l with
  | .lamed => if joined && c = '\u05d0' then some (1, none) else none
  | .khmerLetter => if c = '\u17d2' then some (0, none) else none
  | .buginese => if joined && c = '\u1a17' then some (1, some .bugineseVowel) else none
  | .bugineseVowel => if c = '\u1a15' then some (1, none) else none
  | .tifinagh =>
    if c = '\u2d7f' then some (2, some .tifinaghJoined)
    else if joined && isTifinaghConsonant c then some (1, none)
    else none
  | .tifinaghJoined => if isTifinaghConsonant c then some (1, none) else none
  | .lisuTone => if isFirstLisuTone c then some (1, none) else none
  | .oldTurkic => if joined && c.toNat == 0x10c32 then some (1, none) else none

/-- **A ligature takes up one column at most**; while it may still become one, two. -/
theorem Ligature.extend_columns_le (l : Ligature) (joined : Bool) (c : Char) (g : Growth)
    (h : l.extend? joined c = some g) : g.1 ≤ 2 ∧ (g.2 = none → g.1 ≤ 1) := by
  unfold Ligature.extend? at h
  cases l <;> simp only at h <;> split at h <;> try split at h
  all_goals
    simp only [Option.some.injEq, reduceCtorEq] at h
  all_goals
    subst h
    simp

end Text
end PacketRadio
