/-
# Clusters

rflink specification, §10: `--format table`.

A cluster is a sequence of characters that are shown as one sign, such as an
emoji with its modifier, a flag or a ligature.  A text is looked at from its
end, and each character in turn either joins the cluster behind it or starts
one of its own (`Cluster.place`).

A selector changes the character in front of it.

| selector | in front of it | columns |
| --- | --- | --- |
| U+FE01 | one of the quotation marks U+2018, U+2019, U+201C, U+201D | 2 |
| U+FE0E | an emoji that can be shown as a narrow text | 1 |
| U+FE0F | a character that can be shown as an emoji | 2 |

Main statement: `place_closed` (in front of a closed cluster every character
starts one of its own).
-/

import PacketRadio.Text.Emoji
import PacketRadio.Text.Ligature

namespace PacketRadio
namespace Text

/-- What a selector asks for. -/
inductive Selector where
  /-- The wide form of a quotation mark. -/
  | wide
  /-- The form of a text. -/
  | text
  /-- The form of an emoji. -/
  | emoji
  deriving DecidableEq, Repr

/-- The selector that a character is. -/
def Selector.ofChar? (c : Char) : Option Selector :=
  if c = '\ufe01' then some .wide
  else if c = '\ufe0e' then some .text
  else if c = '\ufe0f' then some .emoji
  else none

/-- The selectors that wait for a character in front of them. -/
structure Selectors where
  /-- One asks for the wide form. -/
  wide : Bool := false
  /-- One asks for the form of a text. -/
  text : Bool := false
  /-- One asks for the form of an emoji. -/
  emoji : Bool := false
  deriving DecidableEq, Repr

/-- The selectors with one more. -/
def Selectors.insert (s : Selectors) : Selector → Selectors
  | .wide => { s with wide := true }
  | .text => { s with text := true }
  | .emoji => { s with emoji := true }

/-- The character is a quotation mark with a wide form. -/
def isQuotationMark (c : Char) : Bool :=
  inRanges [(0x2018, 0x2019), (0x201c, 0x201d)] c

/-- The tags in front of the tag at the end, counted. -/
inductive Tags where
  /-- Letters alone. -/
  | letters (count : Nat)
  /-- Digits, with up to four letters behind them. -/
  | digits (count : Nat)
  deriving DecidableEq, Repr

/-- The tags with one more in front. -/
def Tags.extend? (t : Tags) (c : Char) : Option Tags :=
  match t with
  | .letters n =>
    if isTagLetter c && n < 6 then some (.letters (n + 1))
    else if isTagDigit c && n < 5 then some (.digits 1)
    else none
  | .digits n => if isTagDigit c && n < 3 then some (.digits (n + 1)) else none

/-- The tags name a region. -/
def Tags.isRegion : Tags → Bool
  | .letters n => 3 ≤ n
  | .digits n => n == 3

/-- What stands at the front of a cluster, which decides what can join it. -/
inductive Front where
  /-- Nothing that anything joins. -/
  | closed
  /-- A line feed. -/
  | lineFeed
  /-- An emoji. -/
  | emoji
  /-- A modifier of emoji. -/
  | modifier
  /-- One regional indicator. -/
  | region
  /-- Two or more regional indicators. -/
  | regions
  /-- A joiner with an emoji behind it. -/
  | joiner
  /-- The frame of a keycap, with a joiner and an emoji behind it. -/
  | keycap
  /-- One regional indicator, with a joiner and an emoji behind it. -/
  | joinedRegion
  /-- An even number of regional indicators, with a joiner and an emoji behind them. -/
  | evenRegions
  /-- Three regional indicators or more, an odd number, with a joiner and an emoji behind them. -/
  | oddRegions
  /-- Tags, with a joiner and an emoji behind them. -/
  | tags (run : Tags)
  /-- The alef, with marks in front of it or not. -/
  | alef
  /-- What may become a ligature, with a joiner in front of it or not. -/
  | ligature (l : Ligature) (joined : Bool)
  /-- The Kirat Rai vowel sign e. -/
  | kiratRaiE
  /-- The Kirat Rai vowel sign ai. -/
  | kiratRaiAi
  deriving DecidableEq, Repr

/-- No selector parts the ligature that may come about with what stands here. -/
def Front.isOfScript : Front → Bool
  | .alef => true
  | .ligature .. => true
  | _ => false

/-- An emoji by selector that stands in front of this is one with the emoji behind. -/
def Front.isJoined : Front → Bool
  | .joiner => true
  | .keycap => true
  | _ => false

/-- The characters of a text that are shown as one sign, as far as they are known. -/
structure Cluster where
  /-- The columns that they take up. -/
  columns : Nat
  /-- What stands at their front. -/
  front : Front := .closed
  /-- The selectors in front of them. -/
  selectors : Selectors := {}
  deriving DecidableEq, Repr

/-- What a character does in front of a cluster. -/
inductive Placing where
  /-- It joins the cluster, which is this one then. -/
  | joins (k : Cluster)
  /-- It starts this cluster. -/
  | starts (k : Cluster)
  deriving DecidableEq, Repr

namespace Cluster

/-! ## One character -/

/-- What a character is for those in front of it. -/
def frontOf (c : Char) : Front :=
  if c.toNat ≤ 0xa0 then if c = '\n' then .lineFeed else .closed
  else if isAlef c then .alef
  else if c.toNat = 0x16d67 then .kiratRaiE
  else if c.toNat = 0x16d68 then .kiratRaiAi
  else if isRegionalIndicator c then .region
  else if isModifier c then .modifier
  else if isShownAsEmoji c then .emoji
  else
    match Ligature.ofLetter? c with
    | some l => .ligature l false
    | none => .closed

/-- The cluster of one character. -/
def ofChar (c : Char) : Cluster :=
  { columns := charWidth c, front := frontOf c }

/-! ## A character in front of a cluster -/

/-- The cluster with a character in front, if that joins it.  Selectors are not looked at. -/
def join? (k : Cluster) (c : Char) : Option Cluster :=
  match k.front with
  | .closed => none
  | .lineFeed => if c = '\r' then some { columns := k.columns } else none
  | .emoji => if c = zwj then some { columns := k.columns, front := .joiner } else none
  | .modifier =>
    if isModifierBase c then some { columns := k.columns, front := .emoji }
    else if c = zwj then some { columns := k.columns, front := .joiner }
    else none
  | .region =>
    if isRegionalIndicator c then some { columns := k.columns + 1, front := .regions } else none
  | .regions =>
    if isRegionalIndicator c then some { columns := k.columns + 1, front := .regions }
    else if c = zwj then some { columns := k.columns, front := .joiner }
    else none
  | .joiner =>
    if c = '\u20e3' then some { columns := k.columns, front := .keycap }
    else if isRegionalIndicator c then some { columns := k.columns + 1, front := .joinedRegion }
    else if isModifier c then some { columns := k.columns, front := .modifier }
    else if c.toNat = 0xe007f then some { columns := k.columns, front := .tags (.letters 0) }
    else if isShownAsEmoji c then some { columns := k.columns, front := .emoji }
    else none
  | .keycap => none
  | .joinedRegion =>
    if isRegionalIndicator c then some { columns := k.columns - 1, front := .evenRegions }
    else none
  | .evenRegions =>
    if isRegionalIndicator c then some { columns := k.columns + 3, front := .oddRegions }
    else if c = zwj then some { columns := k.columns, front := .joiner }
    else none
  | .oddRegions =>
    if isRegionalIndicator c then some { columns := k.columns - 1, front := .evenRegions }
    else if c = zwj then some { columns := k.columns, front := .joiner }
    else none
  | .tags run =>
    match run.extend? c with
    | some more => some { columns := k.columns, front := .tags more }
    | none =>
      if run.isRegion && c.toNat == 0x1f3f4 then some { columns := k.columns, front := .emoji }
      else none
  | .alef =>
    if isLam c then some { columns := k.columns }
    else if isBetweenLetters c then some { columns := k.columns, front := .alef }
    else none
  | .ligature l joined =>
    if c = zwj then some { columns := k.columns, front := .ligature l true }
    else if isIgnoredMark c then some { columns := k.columns, front := .ligature l joined }
    else
      match l.extend? joined c with
      | some (columns, some more) => some { columns, front := .ligature more false }
      | some (columns, none) => some { columns }
      | none => none
  | .kiratRaiE =>
    if c.toNat = 0x16d63 || c.toNat = 0x16d69 then some { columns := k.columns }
    else if c.toNat = 0x16d67 then some { columns := k.columns, front := .kiratRaiAi }
    else if c.toNat = 0x16d68 then some { columns := k.columns + 1, front := .kiratRaiE }
    else none
  | .kiratRaiAi => if c.toNat = 0x16d63 then some { columns := k.columns } else none

/-- A character in front of a cluster without a selector. -/
def placeBare (k : Cluster) (c : Char) : Placing :=
  match k.join? c with
  | some more => .joins more
  | none => .starts (ofChar c)

/-- A selector in front of a cluster.  It waits there for its character, together with others if
the cluster may still become a ligature.  Any other cluster is complete, unless an emoji joins
it. -/
def placeSelector (k : Cluster) (s : Selector) : Placing :=
  if k.front.isOfScript || (s == .emoji && k.front.isJoined) then
    .joins { k with selectors := k.selectors.insert s }
  else .starts { columns := 0, selectors := Selectors.insert {} s }

/-- A character in front of a cluster, none of whose selectors asks for an emoji. -/
def placeNarrow (k : Cluster) (c : Char) : Placing :=
  match Selector.ofChar? c with
  | some s => k.placeSelector s
  | none =>
    if k.selectors.text && hasNarrowStyle c then .starts { columns := 1 }
    else if k.selectors.wide && isQuotationMark c then .starts { columns := 2 }
    else k.placeBare c

/-- The cluster without the selector for an emoji, which the character in front does not follow. -/
def dropEmojiSelector (k : Cluster) : Cluster :=
  if k.front.isOfScript then { k with selectors := { k.selectors with emoji := false } }
  else { columns := k.columns }

/-- A character in front of a cluster. -/
def place (k : Cluster) (c : Char) : Placing :=
  if k.selectors.emoji then
    if hasEmojiStyle c then
      if k.front.isJoined then .joins { columns := k.columns, front := .emoji }
      else .starts { columns := 2, front := .emoji }
    else k.dropEmojiSelector.placeNarrow c
  else k.placeNarrow c

/-- **In front of a closed cluster every character starts one of its own**, whatever the cluster
takes up. -/
theorem place_closed (m n : Nat) (c : Char) :
    ∃ k, place { columns := m } c = .starts k ∧ place { columns := n } c = .starts k := by
  cases h : Selector.ofChar? c with
  | none => exact ⟨ofChar c, by simp [place, placeNarrow, placeBare, join?, h],
      by simp [place, placeNarrow, placeBare, join?, h]⟩
  | some s => exact ⟨{ columns := 0, selectors := Selectors.insert {} s },
      by simp [place, placeNarrow, placeSelector, Front.isOfScript, Front.isJoined, h],
      by simp [place, placeNarrow, placeSelector, Front.isOfScript, Front.isJoined, h]⟩

/-- A blank is a closed cluster of one column. -/
theorem place_blank (n : Nat) : place { columns := n } ' ' = .starts { columns := 1 } := rfl

end Cluster

end Text
end PacketRadio
