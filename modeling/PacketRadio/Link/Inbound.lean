/-
# Frames that come in

rflink specification, §4.4: inbound frames, `poll` and `PollEvent`; §4.3: the
address filter.

Every frame goes the same way, whoever pulled it off the radio: it is read,
matched against the node's address, and then either resolves the send that
waits for it or is delivered.

| reception | becomes | and is acknowledged |
| --- | --- | --- |
| no frame | dropped | no |
| frame for another node | filtered | no |
| acknowledgment the pending send waits for | matched | no |
| any other acknowledgment | ignored | no |
| the number last accepted from its sender | duplicate | if it wants to be and is for this node |
| a new number, no room | overflowed | no |
| a new number | delivered | if it wants to be and is for this node |

A node switches its radio back to listening after each frame, even when
taking it or acknowledging it went wrong.
-/

import PacketRadio.Frame.Codec
import PacketRadio.Link.Action

namespace PacketRadio
namespace Link

/-- What became of one look at the radio (`PollEvent`). -/
inductive PollEvent where
  /-- No frame had come in. -/
  | idle
  /-- A new datagram went to the sink. -/
  | delivered (src : Address) (id : UInt8)
  /-- A datagram came once more. -/
  | duplicate (src : Address) (id : UInt8)
  /-- A new datagram found no room. -/
  | overflowed (src : Address) (id : UInt8)
  /-- The acknowledgment of the pending send. -/
  | ackMatched (src : Address) (id : UInt8)
  /-- An acknowledgment that nothing waits for. -/
  | ackIgnored (src : Address) (id : UInt8)
  /-- The reception was no frame. -/
  | dropped (kind : Frame.Defect.Kind)
  /-- The frame is for another node. -/
  | filtered (dst : Address)
  deriving DecidableEq, Repr

namespace Node

/-- The header is the acknowledgment that the pending send waits for. -/
def awaits (n : Node) (h : Header) : Bool :=
  n.config.filter.isLocal h &&
    match n.pending with
    | some p => !p.acked && p.dst == h.src && p.id == h.id
    | none => false

/-- The node owes an acknowledgment for the header. -/
def owesAck (n : Node) (h : Header) : Bool :=
  n.config.filter.isLocal h && h.wantsAck

/-- The datagram is the one last accepted from its sender. -/
def isDuplicate (n : Node) (h : Header) : Bool :=
  n.lastAccepted.get? h.src == some h.id

/-- The node after the acknowledgment that it waited for. -/
def resolve (n : Node) : Node :=
  { n with
    pending := n.pending.map fun p => { p with acked := true }
    telemetry := { n.telemetry with acksReceived := n.telemetry.acksReceived + 1 } }

/-- The node after accepting the datagram under a header. -/
def accept (n : Node) (h : Header) : Node :=
  { n with
    lastAccepted := n.lastAccepted.insert h.src h.id
    telemetry := { n.telemetry with delivered := n.telemetry.delivered + 1 } }

end Node

namespace Action

/-- Sends a frame and goes back to listening.  If both fail, the first failure counts.  It is the
same if the frame goes out of a buffer (`PacketRadio.Link.Buffer`). -/
def transmit (frame : Frame) : Action Unit := do
  let n ← node
  match frame.encode n.config.frame with
  | .error e => fail (.frame e)
  | .ok wire =>
    setMode .transmit
    let sent ← attempt (radio (.transmit wire))
    let restored ← attempt (setMode .receive)
    ofExcept sent
    ofExcept restored

/-- Acknowledges the datagram under a header. -/
def sendAck (h : Header) : Action Unit := do
  let n ← node
  transmit (Frame.ackFor h n.address)
  count fun t => { t with acksSent := t.acksSent + 1 }

/-- Takes an acknowledgment. -/
def handleAck (h : Header) : Action PollEvent := do
  let n ← node
  if n.awaits h then
    modify Node.resolve
    pure (.ackMatched h.src h.id)
  else
    count fun t => { t with unmatchedAcks := t.unmatchedAcks + 1 }
    pure (.ackIgnored h.src h.id)

/-- Puts a delivery into the sink and says whether it took it. -/
def deliver (d : Delivery) : Action Bool := do
  let n ← node
  match n.sink with
  | .channel id => ask (.offer id d)
  | .queue capacity waiting =>
    if waiting.length < capacity then
      modify fun n => { n with sink := .queue capacity (waiting ++ [d]) }
      ask (.kept d)
      pure true
    else
      pure false

/-- Takes a datagram. -/
def handleData (frame : Frame) (rssi : Int) : Action PollEvent := do
  let h := frame.header
  let n ← node
  if n.isDuplicate h then
    count fun t => { t with duplicates := t.duplicates + 1 }
    if n.owesAck h then
      sendAck h
    pure (.duplicate h.src h.id)
  else if ← deliver ⟨h.dst, h.src, h.id, h.flags, frame.payload, rssi⟩ then
    modify fun n => n.accept h
    if n.owesAck h then
      sendAck h
    pure (.delivered h.src h.id)
  else
    count fun t => { t with deliveryOverflow := t.deliveryOverflow + 1 }
    pure (.overflowed h.src h.id)

/-- Takes a reception. -/
def handle (reception : Radio.Reception) : Action PollEvent := do
  let n ← node
  match Frame.decode n.config.frame reception.bytes with
  | .error defect =>
    count fun t => { t with dropped := t.dropped.record defect.kind }
    pure (.dropped defect.kind)
  | .ok frame =>
    let h := frame.header
    if n.config.filter.accepts h then
      count fun t => { t with lastRssi := t.lastRssi.insert h.src reception.rssi }
      if h.isAck then handleAck h else handleData frame reception.rssi
    else
      count fun t => { t with filtered := t.filtered + 1 }
      pure (.filtered h.dst)

/-- Takes a frame off the radio, if there is one. -/
def fetch : Action PollEvent := do
  match ← receive with
  | some reception => handle reception
  | none => pure .idle

/-- Takes a frame if one has come in, and goes back to listening. -/
def look : Action PollEvent := do
  if ← frameReady then
    let event ← attempt fetch
    let restored ← attempt (setMode .receive)
    let event ← ofExcept event
    ofExcept restored
    pure event
  else
    pure .idle

/-- Takes at most one frame off the radio, which is to listen first. -/
def poll : Action PollEvent := do
  if (← mode) ≠ .receive then
    setMode .receive
  look

/-- Brings up the radio and starts listening. -/
def bringUp (config : Config) : Task (Except Error Node) :=
  match config.validate with
  | .error e => .done (.error e)
  | .ok () =>
    let up : Action Unit := do
      radio .init
      radio (.setAddress config.address config.promiscuous)
      setMode .receive
    (up (Node.fresh config)).bind fun (r, n) => .done (r.map fun _ => n)

end Action
end Link
end PacketRadio
