/-
# Quoted text in messages

rflink specification, §10: the messages of the command line.

An error message shows the text it complains about between double quotes, so
that blanks at its ends and characters without a glyph can be seen.
-/

import PacketRadio.Text.Printable

namespace PacketRadio
namespace Text
namespace Quoted

/-- A number in hex digits of lower case, without leading zeros. -/
def hexNumber (n : Nat) : List Char :=
  Nat.toDigits 16 n

/-- How one character is shown between the quotes. -/
def escape (c : Char) : List Char :=
  match c with
  | '\x00' => ['\\', '0']
  | '\t' => ['\\', 't']
  | '\r' => ['\\', 'r']
  | '\n' => ['\\', 'n']
  | '\\' => ['\\', '\\']
  | '"' => ['\\', '"']
  | c =>
    if isUnprintable c then ['\\', 'u', '\x7b'] ++ hexNumber c.toNat ++ ['\x7d'] else [c]

/-- A text between double quotes. -/
def text (content : List Char) : String :=
  String.ofList ('"' :: content.flatMap escape ++ ['"'])

end Quoted
end Text
end PacketRadio
