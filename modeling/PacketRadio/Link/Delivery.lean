/-
# Deliveries and where they go

rflink specification, §5: `delivery_channel` and the bounded local queue; §6:
what a delivery holds.

A datagram that a node accepts goes to its sink: a queue of the node's own,
or a channel to another party.  Either takes so many and no more; a channel
takes none once nobody receives from it.

Main statements: `Channel.push_eq_some_iff` (when a channel takes a delivery).
-/

import PacketRadio.Frame.Header

namespace PacketRadio
namespace Link

/-- A datagram handed to the application. -/
structure Delivery where
  /-- Whom it is for. -/
  dst : Address
  /-- Who sent it. -/
  src : Address
  /-- The sender's sequence number. -/
  id : UInt8
  /-- The flag bits it came with. -/
  flags : UInt8
  /-- What it carries. -/
  payload : Bytes
  /-- The signal strength it came in with. -/
  rssi : Int
  deriving DecidableEq, Repr

/-- The datagram was for every node. -/
def Delivery.isBroadcast (d : Delivery) : Bool :=
  d.dst == Address.broadcast

/-- Where a node puts deliveries. -/
inductive Sink where
  /-- A queue of the node's own that holds at most `capacity`, oldest first. -/
  | queue (capacity : Nat) (waiting : List Delivery)
  /-- The channel of this number. -/
  | channel (id : Nat)
  deriving DecidableEq, Repr

namespace Sink

/-- The deliveries waiting in the node's own queue. -/
def queued : Sink → List Delivery
  | .queue _ waiting => waiting
  | .channel _ => []

/-- Takes the oldest delivery out of the node's own queue; a channel gives nothing back. -/
def pop : Sink → Option Delivery × Sink
  | .queue capacity (d :: rest) => (some d, .queue capacity rest)
  | sink => (none, sink)

end Sink

/-- A bounded channel that carries deliveries to another party (`delivery_channel`). -/
structure Channel where
  /-- The most deliveries that wait in it. -/
  capacity : Nat
  /-- The deliveries that wait in it, oldest first. -/
  waiting : List Delivery := []
  /-- Somebody still receives from it. -/
  received : Bool := true
  deriving DecidableEq, Repr

namespace Channel

/-- A new channel; it holds at least one delivery. -/
def ofCapacity (capacity : Nat) : Channel :=
  { capacity := max capacity 1 }

/-- The channel with one more delivery, if it takes it. -/
def push (c : Channel) (d : Delivery) : Option Channel :=
  if c.received && c.waiting.length < c.capacity then
    some { c with waiting := c.waiting ++ [d] }
  else none

/-- Takes the oldest delivery out. -/
def pop (c : Channel) : Option Delivery × Channel :=
  (c.waiting.head?, { c with waiting := c.waiting.tail })

/-- The channel after its receiver has gone; what waited in it is lost. -/
def close (c : Channel) : Channel :=
  { c with waiting := [], received := false }

/-- **A channel takes a delivery if somebody receives from it and it has room.** -/
theorem push_eq_some_iff (c c' : Channel) (d : Delivery) :
    c.push d = some c' ↔
      c.received = true ∧ c.waiting.length < c.capacity ∧
        c' = { c with waiting := c.waiting ++ [d] } := by
  unfold push
  split
  · rename_i h
    simp only [Bool.and_eq_true, decide_eq_true_eq] at h
    simp [h, eq_comm]
  · rename_i h
    simp only [Bool.and_eq_true, decide_eq_true_eq] at h
    constructor
    · intro h'; cases h'
    · rintro ⟨h₁, h₂, -⟩; exact absurd ⟨h₁, h₂⟩ h

end Channel
end Link
end PacketRadio
