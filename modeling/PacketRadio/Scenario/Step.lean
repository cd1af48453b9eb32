/-
# The steps of a scenario

rflink specification, §4.2: what can be done to an `Ether` and a `SimRadio`;
§4.4: what can be asked of a node; §11: experiments of this sort.

A scenario is a list of steps on nodes, on bare radios and on the medium.
Nodes and radios are numbered apart, each in the order they were made.  A
step can also be put off to a later time; it then takes its turn while some
node is looking for frames.
-/

import PacketRadio.Link.Operation
import PacketRadio.Medium.Basic
import PacketRadio.Scenario.Fault

namespace PacketRadio
namespace Scenario

/-- How a node is set up. -/
structure NodeSetup where
  /-- How it takes part. -/
  config : Link.Config := {}
  /-- Why its radio does not come up, if it does not. -/
  initFailure : Option String := none
  /-- The faults that its radio has from the start. -/
  faults : List Fault := []
  /-- The node looks for frames whenever another one does. -/
  automatic : Bool := false
  /-- The capacity of the channel its deliveries go to, if they go to one. -/
  channel : Option Nat := none
  deriving DecidableEq, Repr

/-- How a bare radio is set up. -/
structure RadioSetup where
  /-- Why it does not come up, if it does not. -/
  initFailure : Option String := none
  /-- The address it listens at, and whether it wants frames for others. -/
  listenAt : Option (Address × Bool) := none
  deriving DecidableEq, Repr

/-- A step on a bare radio. -/
inductive RadioStep where
  /-- A call. -/
  | call (c : Radio.Call)
  /-- A frame is put before it. -/
  | inject (reception : Radio.Reception)
  /-- All waiting frames are taken. -/
  | drain
  /-- It leaves the medium. -/
  | leave
  deriving DecidableEq, Repr

/-- A step on a node. -/
inductive NodeStep where
  /-- The node is asked for something. -/
  | operate (op : Link.Operation)
  /-- The node is asked for something so many times. -/
  | repeatedly (op : Link.Operation) (times : Nat)
  /-- The node listens until the stop flag that is in use now is set. -/
  | listen
  /-- The mode of its radio is switched. -/
  | setMode (mode : Radio.Mode)
  /-- A frame is put before its radio. -/
  | inject (reception : Radio.Reception)
  /-- A delivery is taken out of its channel. -/
  | takeFromChannel
  /-- Nobody receives from its channel any more. -/
  | closeChannel
  /-- Its radio gets one more fault. -/
  | addFault (fault : Fault)
  /-- Its radio loses all faults. -/
  | clearFaults
  /-- It becomes automatic, or stops being so. -/
  | setAutomatic (on : Bool)
  /-- Its counters are read. -/
  | telemetry
  /-- Its settings are read. -/
  | info
  /-- It leaves, and its radio with it. -/
  | leave
  deriving DecidableEq, Repr

/-- A step. -/
inductive Step where
  /-- A node is made. -/
  | addNode (setup : NodeSetup)
  /-- A bare radio is made. -/
  | addRadio (setup : RadioSetup)
  /-- A step on a node. -/
  | node (i : Nat) (step : NodeStep)
  /-- A step on a bare radio. -/
  | radio (i : Nat) (step : RadioStep)
  /-- The next transmissions are lost. -/
  | dropNext (count : Nat)
  /-- The link between two addresses is cut or restored. -/
  | setSevered (a b : Address) (cut : Bool)
  /-- The signal strength of a link is set. -/
  | setLinkRssi (src dst : Address) (rssi : Int)
  /-- The medium's counters are read. -/
  | stats
  /-- The stop flag in use is set. -/
  | stop
  /-- A new stop flag comes into use. -/
  | resetStop
  /-- Time passes. -/
  | sleep (duration : Nat)
  /-- A step is put off. -/
  | later (delay : Nat) (step : Step)
  deriving Repr

/-- How often a step can be put off, itself included. -/
def Step.depth : Step → Nat
  | .later _ step => step.depth + 1
  | _ => 1

/-- What a step on a bare radio results in. -/
inductive RadioReply where
  /-- It is done. -/
  | done
  /-- The frame was put before the radio. -/
  | injected
  /-- Whether a frame has come in. -/
  | ready (isReady : Bool)
  /-- The frame taken, if there was one. -/
  | received (reception : Option Radio.Reception)
  /-- The frames taken. -/
  | drained (receptions : List Radio.Reception)
  /-- The radio failed. -/
  | failed (failure : Radio.Failure)
  deriving DecidableEq, Repr

/-- What a step on a node results in. -/
inductive NodeReply where
  /-- It is done. -/
  | done
  /-- The frame was put before the radio. -/
  | injected
  /-- What was asked for, or why it failed; nothing if it was given up as unfinished. -/
  | reply (result : Option (Except Link.Error Link.Reply))
  /-- What was asked for, each time. -/
  | replies (results : List (Option (Except Link.Error Link.Reply)))
  /-- How listening ended, and whether its stop flag is set. -/
  | listened (result : Option (Except Link.Error Link.Reply)) (stopped : Bool)
  /-- The radio failed. -/
  | failed (failure : Radio.Failure)
  /-- What was taken out of the channel, and whether somebody receives from it. -/
  | taken (delivery : Option Link.Delivery) (isOpen : Bool)
  /-- The counters. -/
  | telemetry (counts : Link.Telemetry)
  /-- The settings. -/
  | info (config : Link.Config)

/-- What can be seen of a bare radio. -/
structure RadioView where
  /-- Its station. -/
  station : Nat
  /-- What it is doing. -/
  mode : Radio.Mode
  /-- The frames waiting. -/
  pending : Nat
  /-- Its address. -/
  address : Address
  /-- It wants frames for others. -/
  promiscuous : Bool
  deriving DecidableEq, Repr

/-- What can be seen of a node. -/
structure NodeView where
  /-- What its radio is doing. -/
  mode : Radio.Mode
  /-- The frames waiting at its radio. -/
  pending : Nat
  /-- The deliveries waiting in its own queue. -/
  queued : Nat
  deriving DecidableEq, Repr

/-- What a step results in. -/
inductive Result where
  /-- It is done. -/
  | done
  /-- A node was made. -/
  | nodeAdded (i : Nat) (view : NodeView)
  /-- A node could not be made. -/
  | nodeRefused (error : Link.Error)
  /-- A bare radio was made. -/
  | radioAdded (i : Nat) (view : RadioView)
  /-- A step on a node. -/
  | node (reply : NodeReply) (view : NodeView)
  /-- A step on a bare radio. -/
  | radio (reply : RadioReply) (view : RadioView)
  /-- A frame was put before a node that is looking for one; so many wait there now. -/
  | injected (pending : Nat)
  /-- Somebody left, or there was nobody to leave. -/
  | left (happened : Bool)
  /-- There is no such node to be had. -/
  | noSuchNode
  /-- There is no such radio. -/
  | noSuchRadio
  /-- The medium's counters. -/
  | stats (counts : MediumStats)

/-- What happened while a node was looking for frames. -/
inductive LogEntry where
  /-- A step that had been put off was taken. -/
  | stepped (step : Step) (result : Result)
  /-- An automatic node took a frame, or failed to. -/
  | polled (node : Nat) (result : Except Link.Error Link.PollEvent)

/-- A step as it was taken. -/
structure Outcome where
  /-- What it resulted in. -/
  result : Result
  /-- The time afterwards. -/
  now : Nat
  /-- What happened meanwhile. -/
  log : List LogEntry

end Scenario
end PacketRadio
