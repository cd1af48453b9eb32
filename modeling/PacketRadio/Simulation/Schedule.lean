/-
# Who acts when

rflink specification, §10: `simulate`; §5: polling, pauses and the stop flag.

The parties of a simulation take turns on one clock, and only one acts at a
time.  A party acts until it pauses or has finished.  A pause puts it at the
end of the queue with the time it is to wake; then whoever is to wake first
goes on, of several the one queued first, and the clock moves there.

When the client has finished, the others are told to stop.  A party that
stops takes its radio off the medium, so it no longer hears those that are
still at work.

Main statement: `run_mono` (a simulation that has finished has finished for
good).
-/

import PacketRadio.Network
import PacketRadio.Simulation.Client
import PacketRadio.Simulation.Server
import PacketRadio.Simulation.Sniffer

namespace PacketRadio
namespace Simulation

open Link (Action Node Surroundings Turn)

/-- A party at work. -/
inductive Role where
  /-- The client. -/
  | client (c : Client)
  /-- The server. -/
  | server (sv : Server)
  /-- The listening node. -/
  | sniffer (sn : Sniffer)
  deriving DecidableEq, Repr

namespace Role

/-- Who it is. -/
def party : Role → Party
  | .client _ => .client
  | .server _ => .server
  | .sniffer _ => .sniffer

/-- One turn. -/
def turn (s : Settings) : Role → Action (Turn Role Findings)
  | .client c => do
    pure ((← c.turn s).map .client id)
  | .server sv => do
    pure ((← sv.turn s).map .server id)
  | .sniffer sn => do
    pure ((← sn.turn).map .sniffer id)

end Role

/-- What is left of a turn. -/
abbrev Remainder := Link.Task (Except Link.Error (Turn Role Findings) × Node)

/-- A party that pauses. -/
structure Sleeper where
  /-- Who it is. -/
  party : Party
  /-- When it is to wake. -/
  wake : Nat
  /-- What is left of its turn. -/
  rest : Remainder

/-- A party that has finished. -/
structure Finisher where
  /-- Who it is. -/
  party : Party
  /-- What it has to tell, or what went wrong. -/
  result : Except Link.Error Findings
  /-- Its node at the end. -/
  node : Node

/-- A simulation under way. -/
structure State where
  /-- What the parties share. -/
  network : Network
  /-- Who acts, and what is left of its turn. -/
  acting : Option (Party × Remainder)
  /-- Who pauses, in the order they began to. -/
  queue : List Sleeper := []
  /-- Who has finished. -/
  finished : List Finisher := []

/-- How far a tree of requests gets before somebody else may act. -/
inductive Progress (α : Type) where
  /-- To its result. -/
  | done (a : α)
  /-- To a pause. -/
  | paused (duration : Nat) (rest : Link.Task α)

/-- Runs a tree of requests to its first pause.  A pause of no length is none. -/
def toPause {σ α : Type} (env : Surroundings σ) :
    Link.Task α → σ → Progress α × σ
  | .done a, s => (.done a, s)
  | .ask (.sleep duration) next, s =>
    if duration = 0 then toPause env (next ()) s else (.paused duration (next ()), s)
  | .ask r next, s =>
    let (a, s) := env.answer r s
    toPause env (next a) s

/-- Takes whoever is to wake first out of a queue. -/
def nextUp : List Sleeper → Option (Sleeper × List Sleeper)
  | [] => none
  | a :: rest =>
    match nextUp rest with
    | none => some (a, [])
    | some (b, others) => if b.wake < a.wake then some (b, a :: others) else some (a, rest)

/-- Whoever is to wake first acts, if anybody is left. -/
def State.wakeNext (st : State) : State :=
  match nextUp st.queue with
  | none => { st with acting := none }
  | some (a, queue) =>
    { st with
      network := { st.network with now := a.wake }
      acting := some (a.party, a.rest)
      queue }

/-- The network once a party has finished.  The client's end stops the others; the radio of anybody
else leaves the medium. -/
def leave (party : Party) (n : Network) : Network :=
  match party with
  | .client => n.stop stopFlag
  | _ => n.onMedium fun m => m.detach party.station

/-- A party has finished. -/
def State.finish (st : State) (f : Finisher) : State :=
  State.wakeNext
    { st with network := leave f.party st.network, finished := st.finished ++ [f] }

/-- A party pauses. -/
def State.pause (st : State) (a : Sleeper) : State :=
  State.wakeNext { st with queue := st.queue ++ [a] }

/-- Whoever acts goes on to its next pause, or to the end of its turn. -/
def State.step (s : Settings) (st : State) : State :=
  match st.acting with
  | none => st
  | some (party, rest) =>
    let (progress, network) := toPause (Network.surroundings party.station) rest st.network
    let st := { st with network }
    match progress with
    | .paused duration rest => st.pause ⟨party, network.now + duration, rest⟩
    | .done (.ok (.again role), node) => { st with acting := some (party, role.turn s node) }
    | .done (.ok (.finish found), node) => st.finish ⟨party, .ok found, node⟩
    | .done (.error e, node) => st.finish ⟨party, .error e, node⟩

/-- The simulation once nobody acts any more, if that takes at most `patience` steps. -/
def State.run (s : Settings) : Nat → State → Option State
  | 0, st => if st.acting.isNone then some st else none
  | patience + 1, st => if st.acting.isNone then some st else State.run s patience (st.step s)

/-- What has become of a party. -/
def State.finisher (st : State) (party : Party) : Option Finisher :=
  st.finished.find? fun f => f.party == party

/-- **A simulation that has finished has finished for good**: more patience changes nothing. -/
theorem State.run_mono (s : Settings) {p q : Nat} (hpq : p ≤ q) {st st' : State}
    (h : st.run s p = some st') : st.run s q = some st' := by
  induction p generalizing q st with
  | zero =>
    unfold State.run at h
    split at h
    · cases q <;> (unfold State.run; rw [if_pos (by assumption)]; exact h)
    · cases h
  | succ p ih =>
    obtain ⟨q, rfl⟩ : ∃ k, q = k + 1 := ⟨q - 1, by omega⟩
    unfold State.run at h ⊢
    split at h
    · rw [if_pos (by assumption)]; exact h
    · rw [if_neg (by assumption)]; exact ih (by omega) h

end Simulation
end PacketRadio
