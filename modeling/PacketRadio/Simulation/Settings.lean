/-
# What a simulation is about

rflink specification, §10: the options of `simulate`.

A client sends datagrams to a server over one medium.  The server may answer
each of them, and a third node may listen to everything.
-/

import PacketRadio.Link.Operation
import PacketRadio.Medium.Basic

namespace PacketRadio
namespace Simulation

/-- The nodes of a simulation. -/
inductive Party where
  /-- The node that sends. -/
  | client
  /-- The node that is sent to. -/
  | server
  /-- The node that listens. -/
  | sniffer
  deriving DecidableEq, Repr

namespace Party

/-- The name of a party. -/
def name : Party → String
  | .client => "client"
  | .server => "server"
  | .sniffer => "sniffer"

/-- The station of a party's radio.  The server's is put up first. -/
def station : Party → Nat
  | .server => 0
  | .client => 1
  | .sniffer => 2

end Party

/-- What a simulation is about. -/
structure Settings where
  /-- The server's address. -/
  server : Address
  /-- The client's address. -/
  client : Address
  /-- The address of the node that listens, if one does. -/
  sniffer : Option Address
  /-- How many datagrams are sent. -/
  count : Nat
  /-- What each of them carries. -/
  payload : Bytes
  /-- The server answers. -/
  reply : Bool
  /-- How often a datagram is sent until it is acknowledged. -/
  retries : Nat
  /-- The wait after each time. -/
  ackTimeout : Nat
  /-- The pause between datagrams. -/
  interval : Nat
  /-- How long the client waits for an answer. -/
  replyTimeout : Nat
  /-- The faults of the medium. -/
  faults : FaultPlan
  /-- How frames are written. -/
  frame : Frame.Config
  deriving DecidableEq, Repr

namespace Settings

/-- The configuration of the node at an address. -/
def node (s : Settings) (address : Address) : Link.Config :=
  { address, maxRetries := s.retries, ackTimeout := s.ackTimeout, frame := s.frame }

end Settings

/-- The stop flag of a simulation; it is set when the client has finished. -/
def stopFlag : Nat := 0

/-- The channel that takes what the listening node hears. -/
def snifferChannel : Nat := 0

/-- The most deliveries that wait in that channel. -/
def snifferCapacity : Nat := 256

/-- What the server answers. -/
def replyPayload : Bytes :=
  Text.bytes "And hello back to you".toList

/-- How long the server waits for a datagram before it looks at the stop flag again. -/
def serverPatience : Nat := 50 * Duration.millisecond

/-- What a party has to tell. -/
structure Findings where
  /-- Its sends, by number, and how they ended. -/
  sends : List (Nat × Link.SendOutcome) := []
  /-- What was handed to it. -/
  deliveries : List Link.Delivery := []
  /-- How many answers did not come. -/
  missingReplies : Nat := 0
  deriving DecidableEq, Repr

namespace Findings

/-- One more send. -/
def addSend (f : Findings) (number : Nat) (outcome : Link.SendOutcome) : Findings :=
  { f with sends := f.sends ++ [(number, outcome)] }

/-- One more delivery. -/
def addDelivery (f : Findings) (d : Link.Delivery) : Findings :=
  { f with deliveries := f.deliveries ++ [d] }

/-- One more answer that did not come. -/
def addMissing (f : Findings) : Findings :=
  { f with missingReplies := f.missingReplies + 1 }

end Findings
end Simulation
end PacketRadio
