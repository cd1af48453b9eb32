/-
# How a command ends

rflink specification, §7: exit codes.

| status | code | meaning |
| --- | ---: | --- |
| `success` | 0 | the command did its job |
| `failure` | 1 | it did, and the result is bad news; or the radio is gone |
| `arguments` | 2 | the arguments could not be made sense of |
| `radio` | 3 | a radio failed |
| `data` | 60 | the data is not acceptable |
| `usage` | 64 | the settings are not acceptable |
| `timeout` | 124 | something did not come in time |
| `internal` | 125 | the program itself is at fault |

A command that does not do its job says why: what it was about, and the
error.  Of device trouble only the detail is said.
-/

import PacketRadio.Link.Config

namespace PacketRadio
namespace Console

/-- The ways a command can end. -/
inductive Status where
  /-- The command did its job. -/
  | success
  /-- It did its job and the result is bad news, or the radio is gone. -/
  | failure
  /-- The arguments could not be made sense of. -/
  | arguments
  /-- A radio failed. -/
  | radio
  /-- The data is not acceptable. -/
  | data
  /-- The settings are not acceptable. -/
  | usage
  /-- Something did not come in time. -/
  | timeout
  /-- The program itself is at fault. -/
  | internal
  deriving DecidableEq, Repr

/-- The exit code of a status. -/
def Status.code : Status → UInt8
  | .success => 0
  | .failure => 1
  | .arguments => 2
  | .radio => 3
  | .data => 60
  | .usage => 64
  | .timeout => 124
  | .internal => 125

/-- Why a command did not do its job. -/
structure Refusal where
  /-- How it ends. -/
  status : Status
  /-- What is said about it. -/
  message : String
  deriving DecidableEq, Repr

namespace Refusal

/-- A refusal that says what it was about before the reason. -/
def about (status : Status) (context reason : String) : Refusal :=
  ⟨status, context ++ ": " ++ reason⟩

/-- The settings are not acceptable. -/
def usage (message : String) : Refusal :=
  ⟨.usage, message⟩

/-- The status that device trouble leads to. -/
def ioStatus : Radio.IoKind → Status
  | .timedOut => .timeout
  | .wouldBlock => .timeout
  | _ => .radio

/-- The refusal over a radio's failure. -/
def ofRadio (context : String) (failure : Radio.Failure) : Refusal :=
  match failure with
  | .io kind detail => about (ioStatus kind) context detail
  | .invalidConfig _ => about .usage context failure.message
  | .shutdown => about .failure context failure.message
  | .init _ => about .radio context failure.message
  | .transmit _ => about .radio context failure.message

/-- The refusal over a frame. -/
def ofFrame (context : String) (error : Frame.Error) : Refusal :=
  match error with
  | .invalidConfig _ => about .usage context error.message
  | .payloadTooLarge _ _ => about .data context error.message
  | .rejected _ => about .data context error.message

/-- The refusal over a node's error. -/
def ofLink (context : String) (error : Link.Error) : Refusal :=
  match error with
  | .radio failure => ofRadio context failure
  | .frame error => ofFrame context error
  | .invalidAddress _ => about .usage context error.message
  | .invalidConfig _ => about .usage context error.message

end Refusal
end Console
end PacketRadio
