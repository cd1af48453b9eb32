/-
# The client of a simulation

rflink specification, §10: the client of `simulate`.

For each datagram the client sends it, waits for the answer if there is to be
one and the datagram was acknowledged, and pauses unless it was the last.
-/

import PacketRadio.Simulation.Settings

namespace PacketRadio
namespace Simulation

open Link (Action Activity Operation Reply SendOutcome Turn)
open Link.Action (ask sleep)

/-- What the client is at. -/
inductive Client.Stage where
  /-- About to send the next datagram. -/
  | ready
  /-- Sending it. -/
  | sending (activity : Activity)
  /-- Waiting for the answer. -/
  | awaiting (activity : Activity)
  deriving DecidableEq, Repr

/-- The client at work. -/
structure Client where
  /-- The number of the datagram at hand, from one. -/
  number : Nat := 1
  /-- What comes next. -/
  stage : Client.Stage := .ready
  /-- What it has to tell so far. -/
  found : Findings := {}
  deriving DecidableEq, Repr

namespace Client

/-- Goes on to the next datagram, after a pause. -/
def next (s : Settings) (c : Client) : Action (Turn Client Findings) := do
  if c.number < s.count then
    sleep s.interval
    pure (.again { c with number := c.number + 1, stage := .ready })
  else
    pure (.finish c.found)

/-- Goes on once the answer has come, or has not. -/
def replied (s : Settings) (c : Client) : Turn Activity Reply → Action (Turn Client Findings)
  | .again activity => pure (.again { c with stage := .awaiting activity })
  | .finish (.delivery (some d)) => next s { c with found := c.found.addDelivery d }
  | .finish _ => next s { c with found := c.found.addMissing }

/-- Goes on once the datagram has been sent. -/
def sent (s : Settings) (c : Client) : Turn Activity Reply → Action (Turn Client Findings)
  | .again activity => pure (.again { c with stage := .sending activity })
  | .finish (.outcome outcome) => do
    let c := { c with found := c.found.addSend c.number outcome }
    if s.reply && outcome.isAcked then
      replied s c (← Operation.start (.recvTimeout s.replyTimeout))
    else
      next s c
  | .finish _ => next s c

/-- One turn of the client. -/
def turn (s : Settings) (c : Client) : Action (Turn Client Findings) :=
  match c.stage with
  | .ready => do
    if s.count < c.number then
      pure (.finish c.found)
    else if ← ask (.stopped stopFlag) then
      pure (.finish c.found)
    else
      sent s c (← Operation.start (.sendReliable s.server s.payload))
  | .sending activity => do
    sent s c (← activity.turn)
  | .awaiting activity => do
    replied s c (← activity.turn)

end Client
end Simulation
end PacketRadio
