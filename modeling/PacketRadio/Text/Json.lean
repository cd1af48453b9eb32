/-
# JSON text

rflink specification, §10: `--format json`.

Reports are written as JSON on one line: no blanks between the parts, fields
in the order given, and in strings nothing escaped that need not be.

| character | is written |
| --- | --- |
| quote, backslash | behind a backslash |
| backspace, form feed, line feed, return, tab | `\b`, `\f`, `\n`, `\r`, `\t` |
| any other control below U+0020 | `\u00` and two hex digits |
| anything else | as it is |

Main statement: `le_of_mem_escape` (what is written holds no control
characters, so a report stays on its line).
-/

import PacketRadio.Text.Hex

namespace PacketRadio
namespace Text
namespace Json

/-- How one character of a string is written. -/
def escape (c : Char) : List Char :=
  match c with
  | '"' => ['\\', '"']
  | '\\' => ['\\', '\\']
  | '\x08' => ['\\', 'b']
  | '\x0C' => ['\\', 'f']
  | '\n' => ['\\', 'n']
  | '\r' => ['\\', 'r']
  | '\t' => ['\\', 't']
  | c =>
    if c.toNat < 32 then ['\\', 'u', '0', '0', Hex.lower (c.toNat / 16), Hex.lower (c.toNat % 16)]
    else [c]

/-- A string. -/
def string (s : String) : String :=
  String.ofList ('"' :: s.toList.flatMap escape ++ ['"'])

/-- A truth value. -/
def bool (b : Bool) : String :=
  if b then "true" else "false"

/-- A whole number. -/
def int (n : Int) : String :=
  toString n

/-- A natural number. -/
def nat (n : Nat) : String :=
  toString n

/-- A byte, as a number. -/
def byte (b : UInt8) : String :=
  nat b.toNat

/-- An array of values that have been written. -/
def array (items : List String) : String :=
  "[" ++ String.intercalate "," items ++ "]"

/-- An object whose values have been written. -/
def object (fields : List (String × String)) : String :=
  let member (f : String × String) : String := string f.1 ++ ":" ++ f.2
  "\x7b" ++ String.intercalate "," (fields.map member) ++ "\x7d"

theorem le_toNat_lower {n : Nat} (h : n < 16) : 32 ≤ (Hex.lower n).toNat := by
  revert n
  decide

/-- **What is written holds no control characters.** -/
theorem le_of_mem_escape {c x : Char} (h : x ∈ escape c) : 32 ≤ x.toNat := by
  unfold escape at h
  split at h
  case h_8 =>
    split at h
    · rename_i hc
      have h₁ := le_toNat_lower (n := c.toNat / 16) (by omega)
      have h₂ := le_toNat_lower (n := c.toNat % 16) (by omega)
      simp only [List.mem_cons, List.not_mem_nil, or_false] at h
      rcases h with rfl | rfl | rfl | rfl | rfl | rfl <;> first | decide | assumption
    · simp only [List.mem_cons, List.not_mem_nil, or_false] at h
      subst h
      omega
  all_goals
    simp only [List.mem_cons, List.not_mem_nil, or_false] at h
    rcases h with rfl | rfl <;> decide

end Json
end Text
end PacketRadio
