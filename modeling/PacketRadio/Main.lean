/-
# The command line

rflink specification, §10: the program `rflink`.

Reads the arguments and the variables, runs the program, prints what it
leaves behind and ends with its code.
-/

import PacketRadio.Console.Run

namespace PacketRadio
namespace Console

/-- The variables that the program looks at. -/
def variableNames : List String :=
  ["RFLINK_LOG_LEVEL", "RFLINK_SYNC_WORD", "RFLINK_GROUP", "RFLINK_PREAMBLE_LEN",
    "RFLINK_SERVER_ADDRESS", "RFLINK_CLIENT_ADDRESS", "RFLINK_MAX_RETRIES", "RFLINK_ACK_TIMEOUT"]

/-- More steps than anybody waits for. -/
def patience : Nat := Nat.pow 2 62

/-- The variables that are set. -/
def readEnvironment : IO Environment := do
  let mut env : Environment := []
  for name in variableNames do
    if let some value ← IO.getEnv name then
      env := (name, value.toList) :: env
  return env

/-- The bytes as they are written out. -/
def packed (bytes : Bytes) : ByteArray :=
  ⟨bytes.toArray⟩

end Console
end PacketRadio

open PacketRadio.Console in
/-- Runs the program. -/
def main (args : List String) : IO UInt32 := do
  let stdout ← IO.getStdout
  let stderr ← IO.getStderr
  let env ← readEnvironment
  match run patience (← stdout.isTty) env (args.map String.toList) with
  | none => return Status.internal.code.toUInt32
  | some output =>
    stdout.write (packed output.stdout)
    stdout.flush
    stderr.write (packed output.stderr)
    return output.status.code.toUInt32
