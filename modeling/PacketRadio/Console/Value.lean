/-
# The values that arguments take

rflink specification, §9: duration strings; §10: the values of the options.

| value | text |
| --- | --- |
| byte | a decimal numeral, or a hex one behind `0x` |
| sync word | hex text for two bytes |
| duration | a numeral and `ms`, `s` or nothing (seconds); from 1 ms to 24 h |
| count | a decimal numeral below a power of two |

Blanks at the ends are ignored except around counts.

Main statement: `DurationUnit.span_words` (a number of 64 bits becomes a span
in either unit without an overflow).
-/

import PacketRadio.Frame.Config
import PacketRadio.Text.Hex
import PacketRadio.Time

namespace PacketRadio

/-! ## Spans in words -/

namespace Duration

/-- A span as it is kept in words: whole seconds, and the nanoseconds beyond them. -/
structure Words where
  /-- Whole seconds. -/
  seconds : UInt64
  /-- Nanoseconds beyond them. -/
  beyond : UInt32
  deriving DecidableEq, Repr

/-- How long it is. -/
def Words.span (w : Words) : Nat :=
  w.seconds.toNat * second + w.beyond.toNat

/-- So many seconds. -/
def Words.ofSeconds (v : UInt64) : Words :=
  ⟨v, 0⟩

/-- So many milliseconds, by arithmetic that wraps around. -/
def Words.ofMilliseconds (v : UInt64) : Words :=
  ⟨v / 1000, (v % 1000).toUInt32 * 1000000⟩

theorem Words.span_ofSeconds (v : UInt64) : (ofSeconds v).span = v.toNat * second := by
  simp [span, ofSeconds]

/-- The nanoseconds beyond whole seconds are worked out without an overflow. -/
theorem Words.beyond_ofMilliseconds (v : UInt64) :
    (ofMilliseconds v).beyond.toNat = v.toNat % 1000 * millisecond := by
  have hrest : v.toNat % 1000 < 1000 := Nat.mod_lt _ (by decide)
  have hword : (v % 1000).toUInt32.toNat = v.toNat % 1000 := by
    rw [UInt64.toNat_toUInt32, UInt64.toNat_mod]
    exact Nat.mod_eq_of_lt (by show v.toNat % 1000 < 2 ^ 32; omega)
  rw [ofMilliseconds, UInt32.toNat_mul, hword]
  exact Nat.mod_eq_of_lt (by show v.toNat % 1000 * 1000000 < 2 ^ 32; omega)

/-- **No number of milliseconds is too large.** -/
theorem Words.span_ofMilliseconds (v : UInt64) :
    (ofMilliseconds v).span = v.toNat * millisecond := by
  have hseconds : (ofMilliseconds v).seconds.toNat = v.toNat / 1000 := UInt64.toNat_div v 1000
  have hthousand : second = 1000 * millisecond := rfl
  rw [span, beyond_ofMilliseconds, hseconds, hthousand, ← Nat.mul_assoc, ← Nat.add_mul,
    Nat.div_add_mod']

end Duration

namespace Console

open Text (trim)

/-! ## Bytes -/

/-- The byte that a text denotes. -/
def byte? (text : List Char) : Option UInt8 :=
  let parsed :=
    match trim text with
    | '0' :: 'x' :: digits => Text.Numeral.parse? 16 256 digits
    | '0' :: 'X' :: digits => Text.Numeral.parse? 16 256 digits
    | digits => Text.Numeral.parse? 10 256 digits
  parsed.map UInt8.ofNat

/-- What is said about a text that denotes no byte. -/
def noByteMessage (text : List Char) : String :=
  "expected a byte (0-255 or 0x00-0xFF), got " ++ Text.Quoted.text (trim text)

/-- Reads a byte or says what was found instead. -/
def readByte (text : List Char) : Except String UInt8 :=
  match byte? text with
  | some b => .ok b
  | none => .error (noByteMessage text)

/-! ## Sync words -/

/-- Why a text denotes no sync word. -/
inductive SyncWordError where
  /-- It is not hex text. -/
  | hex (error : Text.Hex.Error)
  /-- It denotes another number of bytes than two. -/
  | size (bytes : Nat)
  deriving DecidableEq, Repr

/-- The wording of an error. -/
def SyncWordError.message : SyncWordError → String
  | .hex error => error.message
  | .size n => s!"sync word must be 2 bytes (4 hex digits), got {n}"

/-- Reads a sync word. -/
def readSyncWord (text : List Char) : Except SyncWordError SyncWord :=
  match Text.Hex.decode text with
  | .error e => .error (.hex e)
  | .ok [first, second] => .ok ⟨first, second⟩
  | .ok other => .error (.size other.length)

/-! ## Durations -/

/-- Why a text denotes no duration. -/
inductive DurationError where
  /-- There is nothing but blanks. -/
  | empty
  /-- There is no numeral before the unit. -/
  | notNumeral (text : List Char)
  /-- The duration is nothing. -/
  | zero
  /-- The duration is above a day. -/
  | tooLong (text : List Char)
  deriving DecidableEq, Repr

/-- The wording of an error. -/
def DurationError.message : DurationError → String
  | .empty => "duration must not be empty"
  | .notNumeral text => "invalid duration value: " ++ String.ofList text
  | .zero => "duration must be greater than zero"
  | .tooLong text => "duration " ++ String.ofList text ++ " exceeds 86400s"

/-- The longest duration that an argument may ask for. -/
def longestDuration : Nat := 86400 * Duration.second

/-- The units that a duration is given in. -/
inductive DurationUnit where
  | milliseconds
  | seconds
  deriving DecidableEq, Repr

/-- What a unit is worth. -/
def DurationUnit.worth : DurationUnit → Nat
  | milliseconds => Duration.millisecond
  | seconds => Duration.second

/-- So many of a unit. -/
def DurationUnit.words : DurationUnit → UInt64 → Duration.Words
  | milliseconds => Duration.Words.ofMilliseconds
  | seconds => Duration.Words.ofSeconds

/-- **So many of a unit are as long as the unit is worth**, each time. -/
theorem DurationUnit.span_words (unit : DurationUnit) (v : UInt64) :
    (unit.words v).span = v.toNat * unit.worth := by
  cases unit with
  | milliseconds => exact Duration.Words.span_ofMilliseconds v
  | seconds => exact Duration.Words.span_ofSeconds v

theorem DurationUnit.worth_pos (unit : DurationUnit) : 0 < unit.worth := by
  cases unit <;> decide

/-- A text without its unit, and the unit; seconds if none is given. -/
def splitUnit (text : List Char) : List Char × DurationUnit :=
  match text.reverse with
  | 's' :: 'm' :: rest => (rest.reverse, .milliseconds)
  | 's' :: rest => (rest.reverse, .seconds)
  | _ => (text, .seconds)

/-- Reads a duration. -/
def readDuration (text : List Char) : Except DurationError Nat :=
  let text := trim text
  if text.isEmpty then .error .empty
  else
    let (numeral, unit) := splitUnit text
    match Text.Numeral.parse? 10 (Nat.pow 2 64) numeral with
    | none => .error (.notNumeral text)
    | some n =>
      if n = 0 then .error .zero
      else
        let span := (unit.words (UInt64.ofNat n)).span
        if longestDuration < span then .error (.tooLong text)
        else .ok span

/-! ## Counts -/

/-- A count below `2 ^ 32`.  It is read with a sign, so that a zero may carry a minus. -/
def readCount32 (text : List Char) : Option Nat :=
  match text with
  | '-' :: digits => (Text.Numeral.value? 10 digits).filter (· = 0)
  | _ => Text.Numeral.parse? 10 (Nat.pow 2 32) text

/-- A count below `2 ^ 64`. -/
def readCount64 (text : List Char) : Option Nat :=
  Text.Numeral.parse? 10 (Nat.pow 2 64) text

end Console
end PacketRadio
