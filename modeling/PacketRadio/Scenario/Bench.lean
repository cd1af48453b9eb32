/-
# The bench that a scenario is played on

rflink specification, §11: nodes and radios that are driven from outside.

The bench is a network with nodes and bare radios on it, and an agenda of
steps that have been put off.

While a node is looking for frames it is busy: steps taken meanwhile can put
a frame before its radio, and otherwise do not get at it.
-/

import PacketRadio.Network
import PacketRadio.Scenario.Step

namespace PacketRadio
namespace Scenario

/-- The place of a node. -/
structure Post where
  /-- The station of its radio. -/
  station : Nat
  /-- The faults of its radio. -/
  faults : List Fault
  /-- It is automatic. -/
  automatic : Bool
  /-- The channel that its deliveries go to. -/
  channel : Option Nat
  /-- The node, unless it could not be made or has left. -/
  node : Option Link.Node

/-- The bench. -/
structure Bench where
  /-- The network. -/
  network : Network := {}
  /-- The places of the nodes, in the order they were made. -/
  posts : List Post := []
  /-- The stations of the bare radios, in the order they were made; none if the radio has left. -/
  radios : List (Option Nat) := []
  /-- The steps that have been put off, with the time they are due, in the order that was done. -/
  agenda : List (Nat × Step) := []
  /-- The node that is looking for frames, if other steps are taken meanwhile. -/
  busy : Option Nat := none
  /-- What has happened in the current step. -/
  log : List LogEntry := []

namespace Bench

/-! ## Nodes and radios -/

/-- A node that is there and not busy. -/
def available (b : Bench) (i : Nat) : Option (Post × Link.Node) :=
  if b.busy = some i then none
  else do
    let post ← b.posts[i]?
    let node ← post.node
    pure (post, node)

/-- The bench after a change at the place of a node. -/
def modifyPost (b : Bench) (i : Nat) (f : Post → Post) : Bench :=
  { b with posts := b.posts.modify i f }

/-- The bench with a node as it is now. -/
def putNode (b : Bench) (i : Nat) (node : Link.Node) : Bench :=
  b.modifyPost i fun post => { post with node := some node }

/-- The station of a bare radio that is there. -/
def radioStation (b : Bench) (i : Nat) : Option Nat :=
  (b.radios[i]?).join

/-- The bench after a change of its network. -/
def onNetwork (b : Bench) (f : Network → Network) : Bench :=
  { b with network := f b.network }

/-- The bench after a change of its medium. -/
def onMedium (b : Bench) (f : Medium → Medium) : Bench :=
  b.onNetwork fun n => n.onMedium f

/-- The bench with one more log entry. -/
def note (b : Bench) (entry : LogEntry) : Bench :=
  { b with log := b.log ++ [entry] }

/-- What can be seen of a bare radio. -/
def radioView (b : Bench) (station : Nat) : RadioView :=
  let m := b.network.medium
  { station
    mode := m.mode station
    pending := m.pending station
    address := m.address station
    promiscuous := (m.stations[station]?).elim false (·.promiscuous) }

/-- What can be seen of a node. -/
def nodeView (b : Bench) (station : Nat) (node : Link.Node) : NodeView :=
  let m := b.network.medium
  ⟨m.mode station, m.pending station, node.queued.length⟩

/-! ## Answering requests -/

/-- The radio of a node answers a call, unless a fault spoils it. -/
def call (b : Bench) (i : Nat) (c : Radio.Call) : Except Radio.Failure c.Result × Bench :=
  match b.posts[i]? with
  | none => (.error .shutdown, b)
  | some post =>
    let (effect, faults) := Fault.strike c.name post.faults
    let b := b.modifyPost i fun post => { post with faults }
    match effect with
    | some effect => (effect.answer c, b)
    | none =>
      let (result, network) := b.network.call post.station c
      (result, { b with network })

/-- The station of a node. -/
def station (b : Bench) (i : Nat) : Nat :=
  (b.posts[i]?).elim 0 (·.station)

/-- The answer to a request from a node, with nothing happening meanwhile. -/
def answer (i : Nat) : (r : Link.Request) → Bench → r.Answer × Bench
  | .radio c, b => b.call i c
  | r, b =>
    let (a, network) := Network.answer (b.station i) r b.network
    (a, { b with network })

/-- The bench as a node sees it, with nothing happening meanwhile. -/
def quiet (i : Nat) : Link.Surroundings Bench :=
  ⟨answer i⟩

end Bench
end Scenario
end PacketRadio
