/-
# What can go wrong with a frame

rflink specification, §7: `DecodeError` and `FrameError`.

A received string of bytes that is no frame has a `Defect`.  A frame that
cannot be written, or a configuration that cannot be used, is an `Error`.
-/

import PacketRadio.Frame.Config
import PacketRadio.Text.Hex

namespace PacketRadio
namespace Frame

/-- Why received bytes are not a frame (`DecodeError`). -/
inductive Defect where
  /-- No sync word where one may stand. -/
  | noSync
  /-- The bytes after the sync word are not as many as they say. -/
  | length (declared available : Nat)
  /-- The trailer is not the checksum of what it follows. -/
  | checksum (received computed : BitVec 16)
  deriving DecidableEq, Repr

/-- The three sorts of defect, as they are counted. -/
inductive Defect.Kind where
  /-- No sync word. -/
  | sync
  /-- A wrong number of bytes. -/
  | length
  /-- A wrong checksum. -/
  | checksum
  deriving DecidableEq, Repr

namespace Defect

/-- The sort of a defect. -/
def kind : Defect → Kind
  | .noSync => .sync
  | .length _ _ => .length
  | .checksum _ _ => .checksum

/-- The wording of a defect. -/
def message : Defect → String
  | .noSync => "invalid sync word"
  | .length declared available =>
    s!"length mismatch (frame declares {declared} bytes after sync, {available} received)"
  | .checksum received computed =>
    "crc mismatch (trailer " ++ Text.Hex.word received ++ ", computed " ++
      Text.Hex.word computed ++ ")"

end Defect

/-- Why a frame cannot be written or read (`FrameError`). -/
inductive Error where
  /-- The payload is above the limit. -/
  | payloadTooLarge (size max : Nat)
  /-- The configuration cannot be used. -/
  | invalidConfig (problem : Config.Problem)
  /-- The bytes are not a frame. -/
  | rejected (defect : Defect)
  deriving DecidableEq, Repr

/-- The wording of an error. -/
def Error.message : Error → String
  | .payloadTooLarge size max => s!"payload too large ({size} bytes, max {max})"
  | .invalidConfig problem => "invalid frame configuration: " ++ problem.message
  | .rejected defect => "frame rejected: " ++ defect.message

end Frame
end PacketRadio
