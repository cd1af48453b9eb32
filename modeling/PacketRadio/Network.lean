/-
# What nodes share

rflink specification, §5: one polling loop for each node, the cooperative stop
flag and the bounded channels.

A network is a medium with a clock, stop flags and channels.  The clock
stands still until somebody pauses, and then moves by exactly the pause.

Main statements: `answer_now` (time only passes in pauses) and
`answer_medium` (only radio calls touch the medium).
-/

import PacketRadio.Link.Task
import PacketRadio.Medium.Basic

namespace PacketRadio

/-- The surroundings that nodes share. -/
structure Network where
  /-- The medium their radios are on. -/
  medium : Medium := {}
  /-- The time since the beginning. -/
  now : Nat := 0
  /-- The stop flags, and which of them have been set. -/
  stopFlags : List Bool := [false]
  /-- The channels that carry deliveries. -/
  channels : List Link.Channel := []
  deriving DecidableEq, Repr

namespace Network

open Link (Channel Delivery Request Surroundings)

/-- The stop flag of this number is set. -/
def isStopped (n : Network) (flag : Nat) : Bool :=
  n.stopFlags.getD flag false

/-- Sets a stop flag. -/
def stop (n : Network) (flag : Nat) : Network :=
  { n with stopFlags := n.stopFlags.set flag true }

/-- The flag that was made last. -/
def latestFlag (n : Network) : Nat :=
  n.stopFlags.length - 1

/-- A new stop flag, not set. -/
def addFlag (n : Network) : Network :=
  { n with stopFlags := n.stopFlags ++ [false] }

/-- A new channel and its number. -/
def addChannel (n : Network) (capacity : Nat) : Nat × Network :=
  (n.channels.length, { n with channels := n.channels ++ [Channel.ofCapacity capacity] })

/-- A new station and its number. -/
def attach (n : Network) (initFailure : Option String) : Nat × Network :=
  let (station, medium) := n.medium.attach initFailure
  (station, { n with medium })

/-- The network after a change of its medium. -/
def onMedium (n : Network) (f : Medium → Medium) : Network :=
  { n with medium := f n.medium }

/-- The radio at a station answers a call. -/
def call (n : Network) (station : Nat) (c : Radio.Call) :
    Except Radio.Failure c.Result × Network :=
  let (result, medium) := n.medium.call station c
  (result, { n with medium })

/-- A channel is offered a delivery. -/
def offer (n : Network) (channel : Nat) (d : Delivery) : Bool × Network :=
  match (n.channels[channel]?).bind fun c => c.push d with
  | some c => (true, { n with channels := n.channels.set channel c })
  | none => (false, n)

/-- The answer to a request from the node at a station. -/
def answer (station : Nat) : (r : Request) → Network → r.Answer × Network
  | .radio c, n => n.call station c
  | .mode, n => (n.medium.mode station, n)
  | .now, n => (n.now, n)
  | .sleep duration, n => ((), { n with now := n.now + duration })
  | .stopped flag, n => (n.isStopped flag, n)
  | .offer channel d, n => n.offer channel d
  | .kept _, n => ((), n)

/-- The network as the node at a station sees it. -/
def surroundings (station : Nat) : Surroundings Network :=
  ⟨answer station⟩

/-- The pause that a request asks for. -/
def pause : Request → Nat
  | .sleep duration => duration
  | _ => 0

/-- **Time only passes in pauses.** -/
theorem answer_now (station : Nat) (r : Request) (n : Network) :
    (answer station r n).2.now = n.now + pause r := by
  cases r with
  | offer channel d => simp only [answer, offer, pause]; split <;> rfl
  | _ => rfl

/-- **Only radio calls touch the medium.** -/
theorem answer_medium (station : Nat) (r : Request) (n : Network) :
    (∃ c, r = .radio c) ∨ (answer station r n).2.medium = n.medium := by
  cases r with
  | radio c => exact .inl ⟨c, rfl⟩
  | offer channel d => right; simp only [answer, offer]; split <;> rfl
  | _ => right; rfl

end Network
end PacketRadio
