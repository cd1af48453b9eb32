/-
# The report of a simulation

rflink specification, §10: what `simulate` tells.

A simulation is set up node by node: the server, then the client, then the
node that listens.  Then the client starts at once, and the others are queued
in that order.
-/

import PacketRadio.Simulation.Schedule

namespace PacketRadio
namespace Simulation

open Link (Action Delivery Node SendOutcome Telemetry)

/-- Why a simulation comes to nothing. -/
inductive Failure where
  /-- A node could not be brought up. -/
  | startup (party : Party) (error : Link.Error)
  /-- A node ran into an error. -/
  | running (party : Party) (error : Link.Error)
  deriving DecidableEq, Repr

/-- What a node has counted. -/
structure NodeReport where
  /-- Who it is. -/
  party : Party
  /-- The node's address. -/
  address : Address
  /-- Its counters. -/
  telemetry : Telemetry
  deriving DecidableEq, Repr

/-- The report of a simulation. -/
structure Report where
  /-- The client's sends, by number, and how they ended. -/
  sends : List (Nat × SendOutcome)
  /-- What was handed to each party: the server's first, then the client's. -/
  deliveries : List (Party × Delivery)
  /-- What the nodes counted: the client's first, then the server's. -/
  nodes : List NodeReport
  /-- What the medium counted. -/
  medium : MediumStats
  /-- How many answers the client missed. -/
  missingReplies : Nat
  deriving DecidableEq, Repr

namespace Report

/-- The number of sends that were given up. -/
def failedSends (r : Report) : Nat :=
  r.sends.countP fun p => p.2.isFailed

end Report

/-! ## Setting up -/

/-- Puts up a station and brings up a node on it. -/
def bringUp (party : Party) (config : Link.Config) (n : Network) :
    Except Failure (Node × Network) :=
  let (station, n) := n.attach none
  match (Action.bringUp config).run (Network.surroundings station) n with
  | (.ok node, n) => .ok (node, n)
  | (.error e, _) => .error (.startup party e)

/-- Queues a party to begin at once. -/
def queued (s : Settings) (role : Role) (node : Node) : Sleeper :=
  ⟨role.party, 0, role.turn s node⟩

/-- The state in which a simulation begins. -/
def start (s : Settings) : Except Failure State := do
  let n : Network := { medium := { faults := s.faults } }
  let (server, n) ← bringUp .server (s.node s.server) n
  let (client, n) ← bringUp .client (s.node s.client) n
  let clientTurn := Role.turn s (.client {}) client
  match s.sniffer with
  | none =>
    pure
      { network := n
        acting := some (.client, clientTurn)
        queue := [queued s (.server {}) server] }
  | some address =>
    let (sniffer, n) ← bringUp .sniffer { s.node address with promiscuous := true } n
    let (channel, n) := n.addChannel snifferCapacity
    pure
      { network := n
        acting := some (.client, clientTurn)
        queue := [queued s (.server {}) server,
          queued s (.sniffer .ready) (sniffer.withChannel channel)] }

/-! ## Reporting -/

/-- What a party that has finished has to tell, and its node. -/
def State.outcome (st : State) (party : Party) : Except Failure (Option (Findings × Node)) :=
  match st.finisher party with
  | none => .ok none
  | some f =>
    match f.result with
    | .ok found => .ok (some (found, f.node))
    | .error e => .error (.running party e)

/-- The deliveries in the listening node's channel. -/
def State.overheard (st : State) : List Delivery :=
  (st.network.channels[snifferChannel]?).elim [] (·.waiting)

/-- The report of a simulation in which nobody acts any more.  Of several errors the client's
counts, then the server's. -/
def State.report (st : State) : Except Failure Report := do
  let client ← st.outcome .client
  let server ← st.outcome .server
  let sniffer ← st.outcome .sniffer
  let deliveries (party : Party) (o : Option (Findings × Node)) : List (Party × Delivery) :=
    o.elim [] fun p => p.1.deliveries.map fun d => (party, d)
  let node (party : Party) (o : Option (Findings × Node)) : List NodeReport :=
    o.elim [] fun p => [⟨party, p.2.address, p.2.telemetry⟩]
  pure
    { sends := client.elim [] fun p => p.1.sends
      deliveries := deliveries .server server ++ deliveries .client client ++
        st.overheard.map fun d => (.sniffer, d)
      nodes := node .client client ++ node .server server ++ node .sniffer sniffer
      medium := st.network.medium.stats
      missingReplies := client.elim 0 fun p => p.1.missingReplies }

/-- Runs a simulation.  No result means that it was not over after `patience` steps. -/
def run (patience : Nat) (s : Settings) : Option (Except Failure Report) :=
  match start s with
  | .error e => some (.error e)
  | .ok st => (st.run s patience).map State.report

/-- **More patience changes no report.** -/
theorem run_mono {p q : Nat} (hpq : p ≤ q) {s : Settings} {r : Except Failure Report}
    (h : run p s = some r) : run q s = some r := by
  unfold run at h ⊢
  cases hs : start s with
  | error e => simpa [hs] using h
  | ok st =>
    simp only [hs, Option.map_eq_some_iff] at h ⊢
    obtain ⟨st', hr, rfl⟩ := h
    exact ⟨st', State.run_mono s hpq hr, rfl⟩

end Simulation
end PacketRadio
