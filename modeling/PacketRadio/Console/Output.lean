/-
# What a command prints

rflink specification, §10: `--format json|table|pretty|raw`.

| format | a frame | a simulation |
| --- | --- | --- |
| `json` | one line of JSON | one line of JSON |
| `table` | a table | three tables |
| `pretty` | one line | a line for each thing to tell |
| `raw` | bytes | what was handed to the server, a line each |

Without a choice, a terminal gets tables and anything else JSON.
-/

import PacketRadio.Console.Exit

namespace PacketRadio
namespace Console

/-- The formats that a command can print in. -/
inductive Format where
  /-- JSON on one line. -/
  | json
  /-- Tables. -/
  | table
  /-- Lines for people. -/
  | pretty
  /-- Nothing but the payload. -/
  | raw
  deriving DecidableEq, Repr

namespace Format

/-- The format of a name. -/
def ofName? (name : List Char) : Option Format :=
  match String.ofList name with
  | "json" => some .json
  | "table" => some .table
  | "pretty" => some .pretty
  | "raw" => some .raw
  | _ => none

/-- The format that is used without a choice. -/
def default (terminal : Bool) : Format :=
  if terminal then .table else .json

end Format

/-- What a command leaves behind. -/
structure Output where
  /-- How it ended. -/
  status : Status
  /-- What it printed. -/
  stdout : Bytes := []
  /-- What it said about trouble. -/
  stderr : Bytes := []
  deriving DecidableEq, Repr

/-- The bytes of a text. -/
def textBytes (text : String) : Bytes :=
  Text.bytes text.toList

/-- The bytes of texts on lines of their own. -/
def lineBytes (lines : List String) : Bytes :=
  lines.flatMap fun line => textBytes line ++ [10]

namespace Output

/-- What a refused command leaves behind. -/
def ofRefusal (r : Refusal) : Output :=
  { status := r.status, stderr := lineBytes ["error: " ++ r.message] }

/-- What a command leaves behind that printed something, or was refused. -/
def ofResult : Except Refusal (Status × Bytes) → Output
  | .ok (status, stdout) => { status, stdout }
  | .error r => ofRefusal r

end Output

/-- An address as it is shown. -/
def addressLabel (a : Address) : String :=
  if a = Address.broadcast then "broadcast" else toString a.toNat

/-- A payload as it is shown: its text, if it is one. -/
def preview (payload : Bytes) : String :=
  match Text.ofBytes? payload with
  | some text => text
  | none => s!"<binary {payload.length} bytes>"

end Console
end PacketRadio
