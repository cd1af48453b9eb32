/-
# Encoding and decoding frames

rflink specification, §10: `encode` and `decode`.

The settings say how frames are written: a sync word, or a group in its
place, and the length of the preamble.  They are looked at before anything
else.
-/

import PacketRadio.Console.FrameReport

namespace PacketRadio
namespace Console

/-- How frames are written, as the arguments say. -/
structure FrameSettings where
  /-- The sync word. -/
  sync : SyncWord := SyncWord.standard
  /-- The group, if one is given. -/
  group : Option UInt8 := none
  /-- The length of the preamble. -/
  preambleLen : Nat := 4
  deriving DecidableEq, Repr

namespace FrameSettings

/-- The configuration that the settings describe; a group wins over the sync word. -/
def toConfig (s : FrameSettings) : Frame.Config :=
  let base : Frame.Config := { sync := s.sync, preambleLen := s.preambleLen }
  s.group.elim base base.withGroup

/-- The configuration that the settings describe, if it can be used. -/
def config (s : FrameSettings) : Except Refusal Frame.Config :=
  match s.toConfig.validate with
  | .ok () => .ok s.toConfig
  | .error problem => .error (.ofFrame "invalid frame settings" (.invalidConfig problem))

end FrameSettings

/-- The payload of a frame, as the arguments say. -/
inductive PayloadSetting where
  /-- Nothing. -/
  | empty
  /-- A text. -/
  | text (content : List Char)
  /-- Bytes in hex. -/
  | hex (digits : List Char)
  deriving DecidableEq, Repr

/-- The bytes of a payload. -/
def PayloadSetting.bytes : PayloadSetting → Except Refusal Bytes
  | .empty => .ok []
  | .text content => .ok (Text.bytes content)
  | .hex digits =>
    (Text.Hex.decode digits).mapError fun e => .about .usage "invalid hex payload" e.message

/-- What is to be encoded. -/
structure EncodeSettings where
  /-- The header. -/
  header : Header
  /-- The payload. -/
  payload : PayloadSetting
  /-- How frames are written. -/
  frame : FrameSettings
  deriving DecidableEq, Repr

/-- Encodes a frame. -/
def EncodeSettings.encode (s : EncodeSettings) : Except Refusal FrameReport := do
  let config ← s.frame.config
  let payload ← s.payload.bytes
  let frame : Frame := ⟨s.header, payload⟩
  let wire ← (frame.encode config).mapError (Refusal.ofFrame "encode failed")
  return .ofEncoded frame wire

/-- What is to be decoded. -/
structure DecodeSettings where
  /-- The bytes in hex. -/
  hex : List Char
  /-- How frames are written. -/
  frame : FrameSettings
  deriving DecidableEq, Repr

/-- Decodes a frame. -/
def DecodeSettings.decode (s : DecodeSettings) : Except Refusal FrameReport := do
  let config ← s.frame.config
  let wire ← (Text.Hex.decode s.hex).mapError fun e => .about .usage "invalid hex input" e.message
  let frame ← (Frame.decode config wire).mapError fun d => .ofFrame "decode failed" (.rejected d)
  return .ofDecoded frame wire

/-- The encoding command. -/
def runEncode (s : EncodeSettings) (format : Format) : Output :=
  .ofResult (s.encode.map fun report => (.success, report.printEncoded format))

/-- The decoding command. -/
def runDecode (s : DecodeSettings) (format : Format) : Output :=
  .ofResult (s.decode.map fun report => (.success, report.printDecoded format))

end Console
end PacketRadio
