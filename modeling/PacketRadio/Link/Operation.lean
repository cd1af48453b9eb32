/-
# What can be asked of a node

rflink specification, §4.4: `poll`, `recv`, `recv_timeout` and the sends; §5:
`run`.

An operation is begun once (`Operation.start`) and, as long as it is not over,
given turns (`Activity.turn`).  Between two turns, and between two requests of
one turn, other nodes may act.

| operation | waits |
| --- | --- |
| look at the radio once | no |
| take a delivery that is there | no |
| wait for a delivery | until one is there or a timeout has passed |
| listen | until a stop flag is set |
| send without acknowledgment | no |
| send with acknowledgment | until it has come or the attempts are used up |

Listening leaves the radio idle, however it ends.
-/

import PacketRadio.Link.Outbound

namespace PacketRadio
namespace Link

/-- What can be asked of a node. -/
inductive Operation where
  /-- To look at the radio once (`poll`). -/
  | poll
  /-- To hand over a delivery that is there (`recv`). -/
  | recv
  /-- To wait for a delivery (`recv_timeout`). -/
  | recvTimeout (timeout : Nat)
  /-- To listen until the stop flag of this number is set (`run`). -/
  | listen (flag : Nat)
  /-- To send without acknowledgment (`send_unreliable`). -/
  | sendUnreliable (dst : Address) (payload : Bytes)
  /-- To send with acknowledgment, as the configuration says (`send_reliable`). -/
  | sendReliable (dst : Address) (payload : Bytes)
  /-- To send with acknowledgment (`send_reliable_with`). -/
  | sendReliableWith (dst : Address) (payload : Bytes) (maxRetries timeout : Nat)
  deriving DecidableEq, Repr

/-- What an operation results in. -/
inductive Reply where
  /-- What became of one look at the radio. -/
  | event (event : PollEvent)
  /-- A delivery, or none in time. -/
  | delivery (delivery : Option Delivery)
  /-- The node has stopped listening. -/
  | stopped
  /-- The sequence number of what was sent. -/
  | sent (id : UInt8)
  /-- How a reliable send ended. -/
  | outcome (outcome : SendOutcome)
  deriving DecidableEq, Repr

/-- An operation under way. -/
inductive Activity where
  /-- Waiting for a delivery. -/
  | receiving (deadline : Deadline)
  /-- Listening. -/
  | listening (flag : Nat)
  /-- Sending with acknowledgment. -/
  | sending (send : Send)
  deriving DecidableEq, Repr

namespace Turn

variable {σ τ α β : Type}

/-- The same turn for another state and another result. -/
def map (f : σ → τ) (g : α → β) : Turn σ α → Turn τ β
  | .again s => .again (f s)
  | .finish a => .finish (g a)

end Turn

namespace Action

/-- Takes the oldest delivery out of the node's own queue. -/
def recv : Action (Option Delivery) := do
  let n ← node
  modify fun n => { n with sink := n.sink.pop.2 }
  pure n.sink.pop.1

/-- One turn of waiting for a delivery. -/
def receiveTurn (deadline : Deadline) : Action (Turn Deadline (Option Delivery)) := do
  match ← recv with
  | some delivery => pure (.finish (some delivery))
  | none =>
    match ← left deadline with
    | none => pure (.finish none)
    | some rest =>
      pollOrPause rest
      pure (.again deadline)

/-- Leaves the radio idle, if it can be. -/
def goIdle : Action Unit := do
  let _ ← attempt (setMode .idle)

/-- One turn of listening. -/
def listenTurn (flag : Nat) : Action (Turn Unit Unit) := do
  if ← ask (.stopped flag) then
    goIdle
    pure (.finish ())
  else
    let looked ← attempt do
      if (← poll) = .idle then
        let n ← node
        sleep n.config.pollInterval
    match looked with
    | .ok () => pure (.again ())
    | .error e =>
      goIdle
      fail e

end Action

open PacketRadio.Link.Action

/-- One turn of an operation under way. -/
def Activity.turn : Activity → Action (Turn Activity Reply)
  | .receiving deadline => do
    pure ((← receiveTurn deadline).map .receiving .delivery)
  | .listening flag => do
    pure ((← listenTurn flag).map (fun _ => .listening flag) fun _ => .stopped)
  | .sending send => do
    pure ((← send.turn).map .sending .outcome)

/-- Begins an operation. -/
def Operation.start : Operation → Action (Turn Activity Reply)
  | .poll => do
    pure (.finish (.event (← Action.poll)))
  | .recv => do
    pure (.finish (.delivery (← Action.recv)))
  | .recvTimeout timeout => do
    pure (.again (.receiving (Deadline.after (← now) timeout)))
  | .listen flag => pure (.again (.listening flag))
  | .sendUnreliable dst payload => do
    pure (.finish (.sent (← Action.sendUnreliable dst payload)))
  | .sendReliable dst payload => do
    let n ← node
    pure ((← startSend dst payload n.config.attempts n.config.ackTimeout).map .sending .outcome)
  | .sendReliableWith dst payload maxRetries timeout => do
    pure ((← startSend dst payload maxRetries timeout).map .sending .outcome)

/-! ## Whole operations -/

variable {σ : Type}

/-- Gives turns to an operation under way, at most `patience` of them.  No result means that it
was not over by then. -/
def Activity.run (env : Surroundings σ) (patience : Nat) (a : Activity) (n : Node) (s : σ) :
    Option (Except Error Reply) × Node × σ :=
  match patience with
  | 0 => (none, n, s)
  | patience + 1 =>
    match (a.turn n).run env s with
    | ((.ok (.again a), n), s) => a.run env patience n s
    | ((.ok (.finish reply), n), s) => (some (.ok reply), n, s)
    | ((.error e, n), s) => (some (.error e), n, s)

/-- Runs an operation to its end, unless that takes more than `patience` turns. -/
def Operation.run (env : Surroundings σ) (patience : Nat) (op : Operation) (n : Node) (s : σ) :
    Option (Except Error Reply) × Node × σ :=
  match (op.start n).run env s with
  | ((.ok (.again a), n), s) => a.run env patience n s
  | ((.ok (.finish reply), n), s) => (some (.ok reply), n, s)
  | ((.error e, n), s) => (some (.error e), n, s)

/-- **More patience changes no result.** -/
theorem Activity.run_mono (env : Surroundings σ) {p q : Nat} (hpq : p ≤ q) {a : Activity}
    {n n' : Node} {s s' : σ} {r : Except Error Reply}
    (h : a.run env p n s = (some r, n', s')) : a.run env q n s = (some r, n', s') := by
  induction p generalizing q a n s with
  | zero => simp [Activity.run] at h
  | succ p ih =>
    obtain ⟨q, rfl⟩ : ∃ k, q = k + 1 := ⟨q - 1, by omega⟩
    unfold Activity.run at h ⊢
    split at h
    · exact ih (by omega) h
    · exact h
    · exact h

end Link
end PacketRadio
