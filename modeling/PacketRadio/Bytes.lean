/-
# Bytes and text

rflink specification, §3: the payload of a frame.

Frames are lists of bytes, and so are the payloads they carry.  Text becomes
a payload through its UTF-8 form, character by character, so a fact about
the bytes of a text can be read off its characters.

Main statement: `bytes_append`, the bytes of two texts side by side.
-/

namespace PacketRadio

/-- A string of octets, first one first. -/
abbrev Bytes := List UInt8

namespace Text

/-- The UTF-8 form of a text. -/
def bytes (text : List Char) : Bytes :=
  text.flatMap String.utf8EncodeChar

/-- **Texts side by side have their bytes side by side.** -/
@[simp] theorem bytes_append (a b : List Char) : bytes (a ++ b) = bytes a ++ bytes b := by
  simp [bytes]

/-- The text whose UTF-8 form is `data`, if there is one. -/
def ofBytes? (data : Bytes) : Option String :=
  String.fromUTF8? ⟨data.toArray⟩

end Text
end PacketRadio
