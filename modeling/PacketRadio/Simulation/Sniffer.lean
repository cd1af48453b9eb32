/-
# The node that listens to a simulation

rflink specification, §10: `--sniffer`.

It listens until the stop flag is set.  Frames that wait at its radio by then
still count, so it takes those too before it leaves its radio idle.
-/

import PacketRadio.Simulation.Settings

namespace PacketRadio
namespace Simulation

open Link (Action Activity Operation Reply Turn)
open Link.Action (poll setMode)

/-- The listening node at work. -/
inductive Sniffer where
  /-- About to listen. -/
  | ready
  /-- Listening. -/
  | listening (activity : Activity)
  /-- Taking what is left. -/
  | draining
  deriving DecidableEq, Repr

namespace Sniffer

/-- Goes on with listening. -/
def heard : Turn Activity Reply → Turn Sniffer Findings
  | .again activity => .again (.listening activity)
  | .finish _ => .again .draining

/-- One turn of the listening node. -/
def turn : Sniffer → Action (Turn Sniffer Findings)
  | .ready => do
    pure (heard (← Operation.start (.listen stopFlag)))
  | .listening activity => do
    pure (heard (← activity.turn))
  | .draining => do
    if (← poll) = .idle then
      setMode .idle
      pure (.finish {})
    else
      pure (.again .draining)

end Sniffer
end Simulation
end PacketRadio
