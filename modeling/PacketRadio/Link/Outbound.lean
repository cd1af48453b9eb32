/-
# Datagrams that go out

rflink specification, §4.4: `send_reliable`, `send_reliable_with`,
`send_unreliable` and `SendOutcome`.

A reliable send repeats its datagram until the peer acknowledges it or the
attempts are used up.  The first copy carries no flags and the others carry
`RETRY`; all carry one sequence number.  After each copy the node waits for
one timeout, and takes whatever frames come in meanwhile.

A send is a succession of turns (`Send.turn`): one turn sends a copy, the
others each look at the radio once.
-/

import PacketRadio.Link.Inbound

namespace PacketRadio
namespace Link

/-- How a reliable send ended (`SendOutcome`). -/
inductive SendOutcome where
  /-- The peer acknowledged the datagram. -/
  | acked (id : UInt8) (attempts elapsed : Nat)
  /-- Every attempt timed out. -/
  | failed (id : UInt8) (attempts elapsed : Nat)
  /-- It went to every node, once; nobody acknowledges that. -/
  | broadcast (id : UInt8)
  deriving DecidableEq, Repr

namespace SendOutcome

/-- The peer acknowledged the datagram. -/
def isAcked : SendOutcome → Bool
  | .acked _ _ _ => true
  | _ => false

/-- Every attempt timed out. -/
def isFailed : SendOutcome → Bool
  | .failed _ _ _ => true
  | _ => false

/-- The sequence number of the datagram. -/
def id : SendOutcome → UInt8
  | .acked id _ _ => id
  | .failed id _ _ => id
  | .broadcast id => id

end SendOutcome

/-- What a send does next. -/
inductive Send.Phase where
  /-- It sends a copy. -/
  | transmitting
  /-- It waits for an acknowledgment. -/
  | waiting (deadline : Deadline)
  deriving DecidableEq, Repr

/-- A reliable send under way. -/
structure Send where
  /-- The peer. -/
  dst : Address
  /-- The sequence number. -/
  id : UInt8
  /-- What is carried. -/
  payload : Bytes
  /-- How many copies may be sent. -/
  attempts : Nat
  /-- The wait after each. -/
  timeout : Nat
  /-- When the send began. -/
  started : Nat
  /-- The number of the copy at hand, from one. -/
  attempt : Nat := 1
  /-- What comes next. -/
  phase : Send.Phase := .transmitting
  deriving DecidableEq, Repr

namespace Send

/-- The flags of the copy at hand. -/
def flags (s : Send) : UInt8 :=
  if s.attempt = 1 then 0 else Flag.retry

end Send

namespace Action

/-- Refuses a payload above the configured limit. -/
def checkPayload (payload : Bytes) : Action Unit := do
  let n ← node
  let max := n.config.frame.maxPayload
  if max < payload.length then
    fail (.frame (.payloadTooLarge payload.length max))

/-- Takes the next sequence number. -/
def allocateId : Action UInt8 := do
  let n ← node
  modify fun n => { n with nextId := n.nextId + 1 }
  pure n.nextId

/-- Sends one copy of a datagram. -/
def sendData (dst : Address) (id flags : UInt8) (payload : Bytes) : Action Unit := do
  let n ← node
  transmit ⟨⟨dst, n.address, id, flags⟩, payload⟩
  count fun t => { t with dataSent := t.dataSent + 1 }

/-- Sends a datagram once and asks for no acknowledgment (`send_unreliable`). -/
def sendUnreliable (dst : Address) (payload : Bytes) : Action UInt8 := do
  checkPayload payload
  let id ← allocateId
  sendData dst id Flag.noAck payload
  pure id

/-- Begins a reliable send (`send_reliable_with`); to every node it is over at once. -/
def startSend (dst : Address) (payload : Bytes) (maxRetries timeout : Nat) :
    Action (Turn Send SendOutcome) := do
  checkPayload payload
  let id ← allocateId
  if dst = Address.broadcast then
    sendData dst id Flag.noAck payload
    pure (.finish (.broadcast id))
  else
    modify fun n => { n with pending := some ⟨dst, id, false⟩ }
    let started ← now
    pure (.again { dst, id, payload, attempts := max maxRetries 1, timeout, started })

/-- The pending send has its acknowledgment. -/
def isAcked : Action Bool := do
  let n ← node
  pure (n.pending.elim false (·.acked))

/-- Looks at the radio once, and pauses for at most `limit` if there was nothing. -/
def pollOrPause (limit : Nat) : Action Unit := do
  if (← poll) = .idle then
    let n ← node
    sleep (min n.config.pollInterval limit)

end Action

namespace Send

open PacketRadio.Link.Action

/-- Sends the copy at hand and sets its deadline. -/
def transmitCopy (s : Send) : Action (Turn Send SendOutcome) := do
  if s.attempt ≠ 1 then
    count fun t => { t with retries := t.retries + 1 }
  sendData s.dst s.id s.flags s.payload
  let t ← now
  pure (.again { s with phase := .waiting (Deadline.after t s.timeout) })

/-- Waits for the acknowledgment of the copy at hand. -/
def await (s : Send) (deadline : Deadline) : Action (Turn Send SendOutcome) := do
  if ← isAcked then
    let t ← now
    pure (.finish (.acked s.id s.attempt (t - s.started)))
  else
    match ← left deadline with
    | some rest =>
      pollOrPause rest
      pure (.again s)
    | none =>
      if s.attempt < s.attempts then
        pure (.again { s with attempt := s.attempt + 1, phase := .transmitting })
      else
        let t ← now
        pure (.finish (.failed s.id s.attempts (t - s.started)))

/-- One turn, whatever comes next. -/
def step (s : Send) : Action (Turn Send SendOutcome) :=
  match s.phase with
  | .transmitting => s.transmitCopy
  | .waiting deadline => s.await deadline

/-- One turn.  When the send is over, well or badly, nothing is pending any more. -/
def turn (s : Send) : Action (Turn Send SendOutcome) := do
  match ← Action.attempt s.step with
  | .ok (.again s) => pure (.again s)
  | .ok (.finish outcome) =>
    modify fun n => { n with pending := none }
    if outcome.isFailed then
      count fun t => { t with failed := t.failed + 1 }
    pure (.finish outcome)
  | .error e =>
    modify fun n => { n with pending := none }
    fail e

end Send
end Link
end PacketRadio
