/-
# A node and what it can do in one step

rflink specification, §4.4: the state of the manager; §3: the pending send.

The state of a node is its configuration, the sequence number of its next
datagram, the last number accepted from each peer, the send that waits for an
acknowledgment, the sink for deliveries and the counters.

An `Action` changes that state while it makes requests.  When it fails, the
changes made so far stay.

Main statements: `run_bind_ok` and `run_bind_error`, which follow an action
through its continuation.
-/

import PacketRadio.Link.Config
import PacketRadio.Link.Task
import PacketRadio.Link.Telemetry

namespace PacketRadio
namespace Link

/-- A datagram that waits for its acknowledgment. -/
structure Pending where
  /-- The peer it went to. -/
  dst : Address
  /-- Its sequence number. -/
  id : UInt8
  /-- The acknowledgment has come. -/
  acked : Bool
  deriving DecidableEq, Repr

/-- A node. -/
structure Node where
  /-- How it takes part. -/
  config : Config
  /-- The number of its next datagram. -/
  nextId : UInt8 := 0
  /-- The number of the datagram last accepted from each peer. -/
  lastAccepted : PeerTable UInt8 := {}
  /-- The datagram that waits for its acknowledgment, if one does. -/
  pending : Option Pending := none
  /-- Where accepted datagrams go. -/
  sink : Sink
  /-- What has been counted. -/
  telemetry : Telemetry := {}
  deriving DecidableEq, Repr

namespace Node

/-- The node's address. -/
def address (n : Node) : Address :=
  n.config.address

/-- A node before its first frame, with a queue of its own. -/
def fresh (config : Config) : Node :=
  { config, sink := .queue config.deliveryCapacity [] }

/-- The node with its deliveries going into a channel. -/
def withChannel (n : Node) (channel : Nat) : Node :=
  { n with sink := .channel channel }

/-- The deliveries that wait in the node's own queue. -/
def queued (n : Node) : List Delivery :=
  n.sink.queued

/-- The node with other counts. -/
def count (n : Node) (f : Telemetry → Telemetry) : Node :=
  { n with telemetry := f n.telemetry }

end Node

/-- A step of a node: requests, changes to the node, and a result or an error. -/
def Action (α : Type) : Type :=
  Node → Task (Except Error α × Node)

namespace Action

variable {α β : Type}

/-- A result without any change. -/
def result (a : α) : Action α :=
  fun n => .done (.ok a, n)

/-- Goes on from the result, if there is one. -/
def bind (x : Action α) (f : α → Action β) : Action β :=
  fun n => (x n).bind fun
    | (.ok a, n) => f a n
    | (.error e, n) => .done (.error e, n)

instance : Monad Action where
  pure := result
  bind := bind

/-- Gives up. -/
def fail (e : Error) : Action α :=
  fun n => .done (.error e, n)

/-- A result or an error that is at hand. -/
def ofExcept (x : Except Error α) : Action α :=
  fun n => .done (x, n)

/-- The node as it is. -/
def node : Action Node :=
  fun n => .done (.ok n, n)

/-- Changes the node. -/
def modify (f : Node → Node) : Action Unit :=
  fun n => .done (.ok (), f n)

/-- Changes the counters. -/
def count (f : Telemetry → Telemetry) : Action Unit :=
  modify fun n => n.count f

/-- The outcome of an action that must not end the one it is part of. -/
def attempt (x : Action α) : Action (Except Error α) :=
  fun n => (x n).bind fun (r, n) => .done (.ok r, n)

/-- A request. -/
def ask (r : Request) : Action r.Answer :=
  fun n => .ask r fun a => .done (.ok a, n)

/-- A call to the radio; its failure is the action's. -/
def radio (c : Radio.Call) : Action c.Result :=
  fun n => .ask (.radio c) fun a => .done (a.mapError .radio, n)

/-- Switches the mode of the radio. -/
def setMode (mode : Radio.Mode) : Action Unit :=
  radio (.setMode mode)

/-- Asks the radio whether a frame has come in. -/
def frameReady : Action Bool :=
  radio .frameReady

/-- Takes a frame from the radio. -/
def receive : Action (Option Radio.Reception) :=
  radio .receive

/-- The mode of the radio. -/
def mode : Action Radio.Mode :=
  ask .mode

/-- The time. -/
def now : Action Nat :=
  ask .now

/-- Pauses. -/
def sleep (duration : Nat) : Action Unit :=
  ask (.sleep duration)

/-- The time left to a deadline.  The clock is only read if it matters. -/
def left (deadline : Deadline) : Action (Option Nat) :=
  match deadline with
  | none => result (deadline.left 0)
  | some _ => bind now fun t => result (deadline.left t)

/-! ## How actions run -/

variable {σ : Type}

/-- **An action that succeeds hands over to its continuation.** -/
theorem run_bind_ok {env : Surroundings σ} {x : Action α} {n n' : Node} {s s' : σ} {a : α}
    (h : (x n).run env s = ((.ok a, n'), s')) (f : α → Action β) :
    ((x.bind f) n).run env s = (f a n').run env s' := by
  simp [bind, Task.run_bind, h]

/-- **An action that fails ends there.** -/
theorem run_bind_error {env : Surroundings σ} {x : Action α} {n n' : Node} {s s' : σ} {e : Error}
    (h : (x n).run env s = ((.error e, n'), s')) (f : α → Action β) :
    ((x.bind f) n).run env s = ((.error e, n'), s') := by
  simp [bind, Task.run_bind, h]

end Action
end Link
end PacketRadio
