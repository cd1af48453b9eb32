/-
# Half-duplex packet radios

rflink specification, §4.2: the transceiver capability (`init`, `set_mode`,
`mode`, `frame_ready`, `receive_raw`, `transmit_raw`, `set_address`); §7:
`RadioError`.

A radio is in one of three modes.  It is driven by six calls, each of which
may fail; reading its mode cannot.  Taking a received frame and sending one
leave the radio idle, so whoever wants to listen has to switch it back.
-/

import PacketRadio.Frame.Header

namespace PacketRadio
namespace Radio

/-- What a radio is doing (`Mode`). -/
inductive Mode where
  /-- Neither sending nor listening. -/
  | idle
  /-- Putting a frame on the air. -/
  | transmit
  /-- Listening. -/
  | receive
  deriving DecidableEq, Repr

/-- The name of a mode. -/
def Mode.name : Mode → String
  | .idle => "idle"
  | .transmit => "transmit"
  | .receive => "receive"

/-- A frame taken off the air, as it came in. -/
structure Reception where
  /-- The bytes, from the preamble or the sync word on. -/
  bytes : Bytes
  /-- The signal strength in dBm. -/
  rssi : Int
  deriving DecidableEq, Repr

/-- The sorts of device trouble that are told apart. -/
inductive IoKind where
  /-- The device did not answer in time. -/
  | timedOut
  /-- The device would have kept the caller waiting. -/
  | wouldBlock
  /-- The connection to the device is gone. -/
  | brokenPipe
  /-- There is no such device. -/
  | notFound
  /-- The call was interrupted. -/
  | interrupted
  /-- Anything else. -/
  | other
  deriving DecidableEq, Repr

/-- Why a call failed (`RadioError`). -/
inductive Failure where
  /-- The radio does not come up. -/
  | init (reason : String)
  /-- The frame did not get on the air. -/
  | transmit (reason : String)
  /-- The device behind the radio gave trouble. -/
  | io (kind : IoKind) (detail : String)
  /-- The radio refuses a setting. -/
  | invalidConfig (reason : String)
  /-- The radio is no longer on its medium. -/
  | shutdown
  deriving DecidableEq, Repr

/-- The wording of a failure. -/
def Failure.message : Failure → String
  | .init reason => "transceiver init failed: " ++ reason
  | .transmit reason => "transmit failed: " ++ reason
  | .io _ detail => "radio I/O error: " ++ detail
  | .invalidConfig reason => "invalid radio configuration: " ++ reason
  | .shutdown => "radio shut down"

/-- The calls that drive a radio. -/
inductive Call where
  /-- Brings the radio up (`init`). -/
  | init
  /-- Sets the node's address and whether frames for others are wanted (`set_address`). -/
  | setAddress (address : Address) (promiscuous : Bool)
  /-- Switches the mode (`set_mode`). -/
  | setMode (mode : Mode)
  /-- Asks whether a frame has come in (`frame_ready`). -/
  | frameReady
  /-- Takes the oldest frame that has come in (`receive_raw`). -/
  | receive
  /-- Sends bytes (`transmit_raw`). -/
  | transmit (bytes : Bytes)
  deriving DecidableEq, Repr

/-- What a call that does not fail answers. -/
@[reducible] def Call.Result : Call → Type
  | .frameReady => Bool
  | .receive => Option Reception
  | _ => Unit

/-- The names of the calls, whatever they carry. -/
inductive Call.Name where
  /-- Bringing up. -/
  | init
  /-- Setting the address. -/
  | setAddress
  /-- Switching the mode. -/
  | setMode
  /-- Asking for a frame. -/
  | frameReady
  /-- Taking a frame. -/
  | receive
  /-- Sending. -/
  | transmit
  deriving DecidableEq, Repr

/-- The name of a call. -/
def Call.name : Call → Call.Name
  | .init => .init
  | .setAddress _ _ => .setAddress
  | .setMode _ => .setMode
  | .frameReady => .frameReady
  | .receive => .receive
  | .transmit _ => .transmit

end Radio
end PacketRadio
