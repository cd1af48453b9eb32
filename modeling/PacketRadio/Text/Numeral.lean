/-
# Numerals

rflink specification, §10: the numbers that the values of options hold.

A numeral is an optional plus sign and one or more digits of a radix, below a
bound.  There is no minus sign, no digit separator and no blank, and only the
ASCII digits count.
-/

namespace PacketRadio
namespace Text
namespace Numeral

/-- What a character is worth as a digit: `0`–`9`, then `a`–`z` in either case. -/
def digit? (radix : Nat) (c : Char) : Option Nat :=
  let n := c.toNat
  let v :=
    if 48 ≤ n ∧ n ≤ 57 then some (n - 48)
    else if 97 ≤ n ∧ n ≤ 122 then some (n - 87)
    else if 65 ≤ n ∧ n ≤ 90 then some (n - 55)
    else none
  v.filter (· < radix)

/-- The value of a row of digits after `acc`; one bad digit spoils the row. -/
def valueFrom (radix : Nat) (acc : Nat) : List Char → Option Nat
  | [] => some acc
  | c :: rest =>
    match digit? radix c with
    | some d => valueFrom radix (acc * radix + d) rest
    | none => none

/-- The value of one or more digits. -/
def value? (radix : Nat) : List Char → Option Nat
  | [] => none
  | digits => valueFrom radix 0 digits

/-- The text after one leading plus sign, if there is one. -/
def unsigned : List Char → List Char
  | '+' :: rest => rest
  | text => text

/-- Reads a numeral below `bound`. -/
def parse? (radix bound : Nat) (text : List Char) : Option Nat :=
  (value? radix (unsigned text)).filter (· < bound)

/-- **A numeral that reads is below its bound.** -/
theorem parse?_lt {radix bound n : Nat} {text : List Char}
    (h : parse? radix bound text = some n) : n < bound := by
  simpa using (Option.filter_eq_some_iff.1 h).2

/-- **A numeral has a digit.** -/
@[simp] theorem parse?_nil (radix bound : Nat) : parse? radix bound [] = none := rfl

end Numeral
end Text
end PacketRadio
