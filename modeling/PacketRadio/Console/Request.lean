/-
# What the arguments ask for

rflink specification, §10: the commands and their options; §9: the variables.

The arguments name a command with options of its own.  Three options go with
every command and may stand before or after its name; what stands after it
counts.  Some options can be set by variables instead; an argument wins, and
a variable counts as given when two options exclude each other.  A variable of
an option that goes with every command is looked at wherever the option is
missing, before the name or after it.
-/

import PacketRadio.Console.Arguments
import PacketRadio.Console.Simulate

namespace PacketRadio
namespace Console

/-- What the arguments ask for. -/
inductive Request where
  /-- The version. -/
  | version
  /-- Help. -/
  | help
  /-- To encode a frame. -/
  | encode (settings : EncodeSettings)
  /-- To decode a frame. -/
  | decode (settings : DecodeSettings)
  /-- To simulate a network. -/
  | simulate (settings : SimulateSettings)
  deriving DecidableEq, Repr

/-! ## Options that go with every command -/

/-- The options that go with every command. -/
def globalOptions : List String :=
  ["format", "log-format", "log-level"]

/-- The names of the log formats. -/
def logFormats : List String :=
  ["text", "compact", "json"]

/-- The names of the log levels. -/
def logLevels : List String :=
  ["error", "warn", "info", "debug", "trace"]

/-- A name from a list. -/
def oneOf (names : List String) (text : List Char) : Option String :=
  names.find? fun name => name.toList == text

/-- Reads the options that go with every command; logging ones are only looked at. -/
def readGlobals (env : Environment) (s : Scan) : Except ArgumentProblem (Option Format) := do
  let format ← s.option env "format" none Format.ofName?
  let _ ← s.option env "log-format" none (oneOf logFormats)
  let _ ← s.option env "log-level" (some "RFLINK_LOG_LEVEL") (oneOf logLevels)
  return format

/-! ## The commands' own options -/

/-- The options that say how frames are written. -/
def frameOptions : List String :=
  ["sync-word", "group", "preamble-len"]

/-- Reads how frames are written. -/
def readFrameSettings (env : Environment) (s : Scan) :
    Except ArgumentProblem FrameSettings := do
  let sync ← s.option env "sync-word" (some "RFLINK_SYNC_WORD") fun t => (readSyncWord t).toOption
  let group ← s.option env "group" (some "RFLINK_GROUP") byte?
  let preambleLen ← s.option env "preamble-len" (some "RFLINK_PREAMBLE_LEN") readCount64
  if sync.isSome && group.isSome then
    throw (.conflict "group" "sync-word")
  let base : FrameSettings := {}
  return { sync := sync.getD base.sync, group, preambleLen := preambleLen.getD base.preambleLen }

/-- What the arguments of the encoding command may hold. -/
def encodeGrammar : Grammar :=
  { options := globalOptions ++ frameOptions ++ ["to", "from", "id", "flags", "data", "hex"] }

/-- Reads the settings of the encoding command. -/
def readEncode (env : Environment) (s : Scan) : Except ArgumentProblem EncodeSettings := do
  let dst ← s.option env "to" none byte?
  let src ← s.option env "from" none byte?
  let id ← s.option env "id" none byte?
  let flags ← s.option env "flags" none byte?
  let data ← s.option env "data" none some
  let hex ← s.option env "hex" none some
  let frame ← readFrameSettings env s
  let payload ←
    match data, hex with
    | none, none => pure .empty
    | some text, none => pure (.text text)
    | none, some digits => pure (.hex digits)
    | some _, some _ => throw (.conflict "data" "hex")
  let dst ← Scan.require "--to" dst
  let src ← Scan.require "--from" src
  return { header := ⟨dst, src, id.getD 0, flags.getD 0⟩, payload, frame }

/-- What the arguments of the decoding command may hold. -/
def decodeGrammar : Grammar :=
  { options := globalOptions ++ frameOptions, places := 1 }

/-- Reads the settings of the decoding command. -/
def readDecode (env : Environment) (s : Scan) : Except ArgumentProblem DecodeSettings := do
  let frame ← readFrameSettings env s
  let hex ← Scan.require "the frame" s.places.head?
  return { hex, frame }

/-- What the arguments of the simulation command may hold. -/
def simulateGrammar : Grammar :=
  { options := globalOptions ++ frameOptions ++
      ["server", "client", "count", "data", "sniffer", "retries", "ack-timeout", "interval",
        "reply-timeout", "drop-every", "corrupt-every"]
    switches := ["reply"] }

/-- Reads the settings of the simulation command. -/
def readSimulate (env : Environment) (s : Scan) : Except ArgumentProblem SimulateSettings := do
  let base : SimulateSettings := {}
  let server ← s.option env "server" (some "RFLINK_SERVER_ADDRESS") byte?
  let client ← s.option env "client" (some "RFLINK_CLIENT_ADDRESS") byte?
  let count ← s.option env "count" none readCount32
  let data ← s.option env "data" none some
  let reply ← s.switch "reply"
  let sniffer ← s.option env "sniffer" none byte?
  let retries ← s.option env "retries" (some "RFLINK_MAX_RETRIES") readCount32
  let ackTimeout ← s.option env "ack-timeout" (some "RFLINK_ACK_TIMEOUT") some
  let interval ← s.option env "interval" none some
  let replyTimeout ← s.option env "reply-timeout" none some
  let dropEvery ← s.option env "drop-every" none readCount32
  let corruptEvery ← s.option env "corrupt-every" none readCount32
  let frame ← readFrameSettings env s
  return {
    server := server.getD base.server, client := client.getD base.client
    count := count.getD base.count, data := data.getD base.data, reply, sniffer
    retries := retries.getD base.retries, ackTimeout := ackTimeout.getD base.ackTimeout
    interval := interval.getD base.interval, replyTimeout := replyTimeout.getD base.replyTimeout
    dropEvery, corruptEvery, frame }

/-- What the arguments of the version command may hold. -/
def versionGrammar : Grammar :=
  { options := globalOptions }

/-! ## All arguments -/

/-- The commands. -/
def commandNames : List String :=
  ["simulate", "encode", "decode", "version", "help"]

/-- What arguments may hold up to the command. -/
def rootGrammar : Grammar :=
  { options := globalOptions, commands := commandNames, versioned := true }

/-- Reads what a scan holds: a request with its format, unless help was asked for. -/
def readOwn (env : Environment) (s : Scan)
    (read : Environment → Scan → Except ArgumentProblem Request) :
    Except ArgumentProblem (Option Format × Request) :=
  let whole (env : Environment) : Except ArgumentProblem (Option Format × Request) := do
    let format ← readGlobals env s
    let request ← read env s
    return (format, request)
  match s.ending with
  | .problem p => .error p
  | .help =>
    match whole [] with
    | .error p => if p.isOfOne then .error p else .ok (none, .help)
    | .ok _ => .ok (none, .help)
  | _ => whole env

/-- Reads a command's own arguments. -/
def readCommand (env : Environment) (name : String) (args : List (List Char)) :
    Except ArgumentProblem (Option Format × Request) := do
  let own (g : Grammar) (read : Environment → Scan → Except ArgumentProblem Request) :=
    readOwn env (scan g args) read
  match name with
  | "encode" => own encodeGrammar fun env s => (readEncode env s).map .encode
  | "decode" => own decodeGrammar fun env s => (readDecode env s).map .decode
  | "simulate" => own simulateGrammar fun env s => (readSimulate env s).map .simulate
  | "version" => own versionGrammar fun _ _ => .ok .version
  | _ =>
    match args with
    | [] => return (none, .help)
    | [about] =>
      if commandNames.contains (String.ofList about) then return (none, .help)
      else throw (.unexpectedArgument (String.ofList about))
    | _ :: extra :: _ => throw (.unexpectedArgument (String.ofList extra))

/-- Reads all arguments: what they ask for, and the format if they choose one. -/
def readRequest (env : Environment) (args : List (List Char)) :
    Except ArgumentProblem (Option Format × Request) := do
  let s := scan rootGrammar args
  match s.ending with
  | .problem p => throw p
  | .version =>
    let format ← readGlobals [] s
    return (format, .version)
  | .help =>
    let format ← readGlobals [] s
    return (format, .help)
  | .finished => throw .noCommand
  | .command name rest =>
    let (inner, request) ← readCommand env name rest
    let outer ← readGlobals (if request = .help then [] else env) s
    return (inner.or outer, request)

end Console
end PacketRadio
