/-
# The server of a simulation

rflink specification, §10: the server of `simulate`.

The server takes datagrams one by one until the stop flag is set, and answers
each if it is to.  It leaves its radio idle.
-/

import PacketRadio.Simulation.Settings

namespace PacketRadio
namespace Simulation

open Link (Action Activity Delivery Operation Reply Turn)
open Link.Action (ask setMode)

/-- What the server is at. -/
inductive Server.Stage where
  /-- About to look at the stop flag. -/
  | ready
  /-- Waiting for a datagram. -/
  | receiving (activity : Activity)
  /-- Answering one. -/
  | replying (delivery : Delivery) (activity : Activity)
  deriving DecidableEq, Repr

/-- The server at work. -/
structure Server where
  /-- What comes next. -/
  stage : Server.Stage := .ready
  /-- What it has to tell so far. -/
  found : Findings := {}
  deriving DecidableEq, Repr

namespace Server

/-- The server once it has done with a datagram. -/
def take (sv : Server) (d : Delivery) : Server :=
  { sv with stage := .ready, found := sv.found.addDelivery d }

/-- Goes on once the answer has been sent. -/
def replied (sv : Server) (d : Delivery) : Turn Activity Reply → Turn Server Findings
  | .again activity => .again { sv with stage := .replying d activity }
  | .finish _ => .again (sv.take d)

/-- Goes on once a datagram has come, or has not. -/
def received (s : Settings) (sv : Server) :
    Turn Activity Reply → Action (Turn Server Findings)
  | .again activity => pure (.again { sv with stage := .receiving activity })
  | .finish (.delivery (some d)) => do
    if s.reply then
      pure (sv.replied d (← Operation.start (.sendReliable d.src replyPayload)))
    else
      pure (.again (sv.take d))
  | .finish _ => pure (.again { sv with stage := .ready })

/-- One turn of the server. -/
def turn (s : Settings) (sv : Server) : Action (Turn Server Findings) :=
  match sv.stage with
  | .ready => do
    if ← ask (.stopped stopFlag) then
      setMode .idle
      pure (.finish sv.found)
    else
      received s sv (← Operation.start (.recvTimeout serverPatience))
  | .receiving activity => do
    received s sv (← activity.turn)
  | .replying d activity => do
    pure (sv.replied d (← activity.turn))

end Server
end Simulation
end PacketRadio
