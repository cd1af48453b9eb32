/-
# Hexadecimal text

rflink specification, §10: the hex of `encode` and `decode`.

Bytes are written as two lower-case digits each, without separators.  What is
read is more liberal: blanks around the text, one leading `0x` or `0X`, and
ASCII blanks and colons anywhere after it are ignored, and both cases of the
digits are taken.

The digits are read two bytes at a time, so a character outside ASCII takes
part with the bytes of its UTF-8 form.
-/

import PacketRadio.Bytes
import PacketRadio.Text.Blank
import PacketRadio.Text.Numeral
import PacketRadio.Text.Quoted

namespace PacketRadio
namespace Text
namespace Hex

/-- The digit for a value below sixteen, in lower case. -/
def lower (n : Nat) : Char :=
  Char.ofNat (if n < 10 then 48 + n else 87 + n)

/-- The digit for a value below sixteen, in upper case. -/
def upper (n : Nat) : Char :=
  Char.ofNat (if n < 10 then 48 + n else 55 + n)

/-- The two digits of a byte, high half first. -/
def pair (digit : Nat → Char) (b : UInt8) : List Char :=
  [digit (b.toNat / 16), digit (b.toNat % 16)]

/-- Bytes as digits in lower case, without separators. -/
def encode (data : Bytes) : List Char :=
  data.flatMap (pair lower)

/-- A byte as `0x` and two digits in upper case. -/
def byte (b : UInt8) : String :=
  "0x" ++ String.ofList (pair upper b)

/-- A word as `0x` and four digits in upper case. -/
def word (w : BitVec 16) : String :=
  "0x" ++ String.ofList
    [upper (w.toNat / 4096), upper (w.toNat / 256 % 16), upper (w.toNat / 16 % 16),
      upper (w.toNat % 16)]

/-- Why a text does not denote bytes. -/
inductive Error where
  /-- A digit without a partner. -/
  | oddDigits
  /-- Two bytes that are not characters of their own. -/
  | notText
  /-- Two characters' worth of bytes that are no hex numeral. -/
  | badByte (pair : List Char)
  deriving DecidableEq, Repr

/-- The wording of an error. -/
def Error.message : Error → String
  | .oddDigits => "hex input has an odd number of digits"
  | .notText => "hex input is not ASCII"
  | .badByte pair => "invalid hex byte " ++ Quoted.text pair

/-- The text that two bytes spell: two ASCII characters, or one character of two bytes. -/
def twoBytes? (a b : UInt8) : Option (List Char) :=
  if a < 0x80 ∧ b < 0x80 then
    some [Char.ofNat a.toNat, Char.ofNat b.toNat]
  else if 0xC2 ≤ a ∧ a ≤ 0xDF ∧ 0x80 ≤ b ∧ b ≤ 0xBF then
    some [Char.ofNat ((a.toNat - 0xC0) * 64 + (b.toNat - 0x80))]
  else
    none

/-- The byte that a pair of input bytes denotes. -/
def readPair (a b : UInt8) : Except Error UInt8 :=
  match twoBytes? a b with
  | none => .error .notText
  | some text =>
    match Numeral.parse? 16 256 text with
    | some n => .ok (UInt8.ofNat n)
    | none => .error (.badByte text)

/-- Reads the pairs in order; the first bad one decides. -/
def readPairs : Bytes → Except Error Bytes
  | a :: b :: rest => do
    let first ← readPair a b
    let others ← readPairs rest
    return first :: others
  | _ => .ok []

/-- The text after one leading `0x` or `0X`, if it has one. -/
def unmarked : List Char → List Char
  | '0' :: 'x' :: rest => rest
  | '0' :: 'X' :: rest => rest
  | text => text

/-- The bytes that are left to pair up: no ASCII blanks, no colons. -/
def significant (text : List Char) : Bytes :=
  (bytes text).filter fun b => !isAsciiBlank b && b != 58

/-- Reads bytes from hex text. -/
def decode (text : List Char) : Except Error Bytes :=
  let digits := significant (unmarked (trim text))
  if digits.length % 2 = 1 then .error .oddDigits else readPairs digits

end Hex
end Text
end PacketRadio
