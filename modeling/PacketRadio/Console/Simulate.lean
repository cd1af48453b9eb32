/-
# The simulation command

rflink specification, §10: `simulate` and its exit codes.

The settings are looked at in order: the durations, how frames are written,
the addresses.  A simulation that ends with sends given up is a failure, and
otherwise one with answers missing has timed out.
-/

import PacketRadio.Console.Framing
import PacketRadio.Console.SimulationReport
import PacketRadio.Console.Value

namespace PacketRadio
namespace Console

/-- What is to be simulated, as the arguments say. -/
structure SimulateSettings where
  /-- The server's address. -/
  server : Address := 2
  /-- The client's address. -/
  client : Address := 1
  /-- How many datagrams are sent. -/
  count : Nat := 3
  /-- What each of them carries. -/
  data : List Char := "Hello World!".toList
  /-- The server answers. -/
  reply : Bool := false
  /-- The address of the node that listens, if one does. -/
  sniffer : Option Address := none
  /-- How often a datagram is sent until it is acknowledged. -/
  retries : Nat := 3
  /-- The wait after each time. -/
  ackTimeout : List Char := "200ms".toList
  /-- The pause between datagrams. -/
  interval : List Char := "100ms".toList
  /-- How long the client waits for an answer. -/
  replyTimeout : List Char := "2s".toList
  /-- Every so many transmissions one is lost. -/
  dropEvery : Option Nat := none
  /-- Every so many transmissions one is damaged. -/
  corruptEvery : Option Nat := none
  /-- How frames are written. -/
  frame : FrameSettings := {}
  deriving DecidableEq, Repr

/-- Reads a duration that a command cannot do without. -/
def duration (text : List Char) : Except Refusal Nat :=
  (readDuration text).mapError fun e => .usage e.message

/-- The simulation that the settings describe, if there is one. -/
def SimulateSettings.settings (s : SimulateSettings) : Except Refusal Simulation.Settings := do
  let ackTimeout ← duration s.ackTimeout
  let interval ← duration s.interval
  let replyTimeout ← duration s.replyTimeout
  let frame ← s.frame.config
  if s.server = s.client then
    throw (.usage "server and client addresses must differ")
  if s.sniffer = some s.server ∨ s.sniffer = some s.client then
    throw (.usage "sniffer address must differ from server and client")
  return {
    server := s.server, client := s.client, sniffer := s.sniffer, count := s.count
    payload := Text.bytes s.data, reply := s.reply, retries := s.retries
    ackTimeout, interval, replyTimeout, faults := ⟨s.dropEvery, s.corruptEvery⟩, frame }

/-- What a simulation that came to nothing was about. -/
def failureContext : Simulation.Failure → String
  | .startup party _ => party.name ++ " startup failed"
  | .running .client _ => "client failed"
  | .running party _ => party.name ++ " node failed"

/-- The refusal over a simulation that came to nothing. -/
def refusalOfFailure (f : Simulation.Failure) : Refusal :=
  match f with
  | .startup _ e => .ofLink (failureContext f) e
  | .running _ e => .ofLink (failureContext f) e

/-- How the command ends, from what its simulation reports. -/
def reportStatus (r : Simulation.Report) : Status :=
  if 0 < r.failedSends then .failure
  else if 0 < r.missingReplies then .timeout
  else .success

/-- The simulation command.  No result means that the simulation was not over after `patience`
steps. -/
def runSimulate (patience : Nat) (s : SimulateSettings) (format : Format) : Option Output :=
  match s.settings with
  | .error refusal => some (.ofRefusal refusal)
  | .ok settings =>
    (Simulation.run patience settings).map fun result =>
      .ofResult <| (result.mapError refusalOfFailure).map fun report =>
        (reportStatus report, SimulationReport.print s.server report format)

/-- **More patience changes no output.** -/
theorem runSimulate_mono {p q : Nat} (hpq : p ≤ q) {s : SimulateSettings} {format : Format}
    {o : Output} (h : runSimulate p s format = some o) : runSimulate q s format = some o := by
  unfold runSimulate at h ⊢
  cases hs : s.settings with
  | error refusal => simpa [hs] using h
  | ok settings =>
    simp only [hs, Option.map_eq_some_iff] at h ⊢
    obtain ⟨r, hr, rfl⟩ := h
    exact ⟨r, Simulation.run_mono hpq hr, rfl⟩

end Console
end PacketRadio
