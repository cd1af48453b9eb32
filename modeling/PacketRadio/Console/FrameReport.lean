/-
# A frame as it is reported

rflink specification, §10: what `encode` and `decode` print.

Encoding and decoding report the same things about a frame; they differ in
the name of the report, in the bytes that are printed raw, and in the line
for people, which after encoding is the wire alone.
-/

import PacketRadio.Console.Output
import PacketRadio.Frame.Codec
import PacketRadio.Text.Json
import PacketRadio.Text.Table

namespace PacketRadio
namespace Console

open Text (Json.array Json.bool Json.byte Json.nat Json.object Json.string Table)

/-- A frame and its wire. -/
structure FrameReport where
  /-- The name of the report. -/
  schema : String
  /-- The frame. -/
  frame : Frame
  /-- The bytes on the wire. -/
  wire : Bytes
  deriving DecidableEq, Repr

namespace FrameReport

/-- The report of an encoded frame. -/
def ofEncoded (frame : Frame) (wire : Bytes) : FrameReport :=
  ⟨"https://schemas.3leaps.dev/rflink/cli/v1/frame-encoded.schema.json", frame, wire⟩

/-- The report of a decoded frame. -/
def ofDecoded (frame : Frame) (wire : Bytes) : FrameReport :=
  ⟨"https://schemas.3leaps.dev/rflink/cli/v1/frame-decoded.schema.json", frame, wire⟩

/-- The wire in hex digits. -/
def hex (r : FrameReport) : String :=
  String.ofList (Text.Hex.encode r.wire)

/-- The names of the flags. -/
def flagNames (r : FrameReport) : String :=
  Flag.describe r.frame.header.flags

/-- The report as JSON. -/
def json (r : FrameReport) : String :=
  let h := r.frame.header
  Json.object
    [("schema_id", Json.string r.schema), ("to", Json.byte h.dst), ("from", Json.byte h.src),
      ("id", Json.byte h.id), ("flags", Json.byte h.flags),
      ("flag_names", Json.string r.flagNames), ("broadcast", Json.bool h.isBroadcast),
      ("payload_size", Json.nat r.frame.payload.length),
      ("payload", Json.string (preview r.frame.payload)),
      ("wire_size", Json.nat r.wire.length), ("hex", Json.string r.hex)]

/-- The report as a table. -/
def table (r : FrameReport) : Table :=
  let h := r.frame.header
  { header := ["FIELD", "VALUE"]
    rows :=
      [["TO", addressLabel h.dst], ["FROM", toString h.src.toNat], ["ID", toString h.id.toNat],
        ["FLAGS", Text.Hex.byte h.flags ++ " " ++ r.flagNames],
        ["PAYLOAD", preview r.frame.payload], ["SIZE", toString r.frame.payload.length],
        ["WIRE", r.hex]] }

/-- The report as a line for people. -/
def line (r : FrameReport) : String :=
  let h := r.frame.header
  "to=" ++ addressLabel h.dst ++ " from=" ++ toString h.src.toNat ++ " id=" ++
    toString h.id.toNat ++ " flags=" ++ r.flagNames ++ " size=" ++
    toString r.frame.payload.length ++ " payload=" ++ preview r.frame.payload

/-- What is printed about an encoded frame. -/
def printEncoded (r : FrameReport) : Format → Bytes
  | .json => lineBytes [r.json]
  | .table => lineBytes [r.table.render]
  | .pretty => lineBytes [r.hex]
  | .raw => r.wire

/-- What is printed about a decoded frame. -/
def printDecoded (r : FrameReport) : Format → Bytes
  | .json => lineBytes [r.json]
  | .table => lineBytes [r.table.render]
  | .pretty => lineBytes [r.line]
  | .raw => r.frame.payload

end FrameReport
end Console
end PacketRadio
