/-
# A simulation as it is reported

rflink specification, §10: what `simulate` prints; §4.5: telemetry.

All formats tell the same story: the sends, what was handed to each party,
what the nodes counted and what the medium counted.  Raw output is what was
handed to the server.
-/

import PacketRadio.Console.Output
import PacketRadio.Simulation.Report
import PacketRadio.Text.Json
import PacketRadio.Text.Table

namespace PacketRadio
namespace Console
namespace SimulationReport

open Link (Delivery SendOutcome Telemetry)
open Simulation (NodeReport Party Report)
open Text (Json.array Json.bool Json.byte Json.int Json.nat Json.object Json.string Table)

/-! ## Sends -/

/-- How a send ended, in a word. -/
def outcomeName : SendOutcome → String
  | .acked _ _ _ => "acked"
  | .failed _ _ _ => "failed"
  | .broadcast _ => "broadcast"

/-- How often the datagram was sent. -/
def attempts : SendOutcome → Nat
  | .acked _ n _ => n
  | .failed _ n _ => n
  | .broadcast _ => 1

/-- How long that took, in whole milliseconds. -/
def elapsedMs : SendOutcome → Nat
  | .acked _ _ elapsed => Duration.inMilliseconds elapsed
  | .failed _ _ elapsed => Duration.inMilliseconds elapsed
  | .broadcast _ => 0

/-- A send as JSON. -/
def sendJson (dst : Address) (send : Nat × SendOutcome) : String :=
  let (number, o) := send
  Json.object
    [("seq", Json.nat number), ("to", Json.byte dst), ("id", Json.byte o.id),
      ("outcome", Json.string (outcomeName o)), ("attempts", Json.nat (attempts o)),
      ("elapsed_ms", Json.nat (elapsedMs o))]

/-- A send as a row. -/
def sendRow (dst : Address) (send : Nat × SendOutcome) : List String :=
  let (number, o) := send
  [toString number, addressLabel dst, toString o.id.toNat, outcomeName o, toString (attempts o),
    toString (elapsedMs o) ++ "ms"]

/-- A send as a line. -/
def sendLine (dst : Address) (send : Nat × SendOutcome) : String :=
  let (number, o) := send
  "send seq=" ++ toString number ++ " to=" ++ addressLabel dst ++ " id=" ++
    toString o.id.toNat ++ " outcome=" ++ outcomeName o ++ " attempts=" ++
    toString (attempts o) ++ " elapsed=" ++ toString (elapsedMs o) ++ "ms"

/-! ## Deliveries -/

/-- A delivery as JSON. -/
def deliveryJson (delivery : Party × Delivery) : String :=
  let (party, d) := delivery
  Json.object
    [("node", Json.string party.name), ("from", Json.byte d.src), ("to", Json.byte d.dst),
      ("id", Json.byte d.id), ("flags", Json.string (Flag.describe d.flags)),
      ("rssi", Json.int d.rssi), ("payload", Json.string (preview d.payload))]

/-- A delivery as a row. -/
def deliveryRow (delivery : Party × Delivery) : List String :=
  let (party, d) := delivery
  [party.name, toString d.src.toNat, addressLabel d.dst, toString d.id.toNat,
    Flag.describe d.flags, toString d.rssi, preview d.payload]

/-- A delivery as a line. -/
def deliveryLine (delivery : Party × Delivery) : String :=
  let (party, d) := delivery
  "recv node=" ++ party.name ++ " from=" ++ toString d.src.toNat ++ " to=" ++
    addressLabel d.dst ++ " id=" ++ toString d.id.toNat ++ " flags=" ++ Flag.describe d.flags ++
    " rssi=" ++ toString d.rssi ++ " payload=" ++ preview d.payload

/-! ## Nodes -/

/-- A node's counters as JSON. -/
def nodeJson (node : NodeReport) : String :=
  let t := node.telemetry
  Json.object
    [("node", Json.string node.party.name), ("address", Json.byte node.address),
      ("delivered", Json.nat t.delivered), ("duplicates", Json.nat t.duplicates),
      ("dropped", Json.object
        [("invalid_sync", Json.nat t.dropped.sync), ("length_mismatch", Json.nat t.dropped.length),
          ("crc_mismatch", Json.nat t.dropped.checksum)]),
      ("filtered", Json.nat t.filtered), ("data_sent", Json.nat t.dataSent),
      ("acks_sent", Json.nat t.acksSent), ("acks_received", Json.nat t.acksReceived),
      ("unmatched_acks", Json.nat t.unmatchedAcks), ("retries", Json.nat t.retries),
      ("failed", Json.nat t.failed), ("delivery_overflow", Json.nat t.deliveryOverflow),
      ("last_rssi", Json.object (t.lastRssi.entries.map fun (a, rssi) =>
        (toString a.toNat, Json.int rssi)))]

/-- The counters by the names they have in tables. -/
def counters (t : Telemetry) : List (String × Nat) :=
  [("delivered", t.delivered), ("duplicates", t.duplicates),
    ("dropped: invalid sync", t.dropped.sync), ("dropped: length mismatch", t.dropped.length),
    ("dropped: crc mismatch", t.dropped.checksum), ("filtered", t.filtered),
    ("data sent", t.dataSent), ("acks sent", t.acksSent), ("acks received", t.acksReceived),
    ("unmatched acks", t.unmatchedAcks), ("retries", t.retries), ("failed sends", t.failed),
    ("delivery overflow", t.deliveryOverflow), ("peers heard", t.lastRssi.size)]

/-- The counters of all nodes side by side. -/
def nodeTable (nodes : List NodeReport) : Table :=
  let title (node : NodeReport) : String :=
    node.party.name ++ " (" ++ toString node.address.toNat ++ ")"
  let values := nodes.map fun node => (counters node.telemetry).map fun p => toString p.2
  { header := "COUNTER" :: nodes.map title
    rows := (counters {}).zipIdx.map fun (p, i) => p.1 :: values.map fun v => v.getD i "" }

/-- A node's counters as a line. -/
def nodeLine (node : NodeReport) : String :=
  let t := node.telemetry
  let field (name : String) (value : Nat) : String := " " ++ name ++ "=" ++ toString value
  "node=" ++ node.party.name ++ field "address" node.address.toNat ++
    field "delivered" t.delivered ++ field "duplicates" t.duplicates ++
    field "dropped" t.dropped.total ++ field "filtered" t.filtered ++ field "sent" t.dataSent ++
    field "acks_sent" t.acksSent ++ field "acks_received" t.acksReceived ++
    field "retries" t.retries ++ field "failed" t.failed ++ field "overflow" t.deliveryOverflow

/-! ## The medium -/

/-- The medium's counters by name. -/
def mediumFields (m : MediumStats) : List (String × Nat) :=
  [("transmissions", m.transmissions), ("delivered", m.delivered), ("dropped", m.dropped),
    ("corrupted", m.corrupted), ("overflowed", m.overflowed)]

/-- The medium's counters as JSON. -/
def mediumJson (m : MediumStats) : String :=
  Json.object ((mediumFields m).map fun p => (p.1, Json.nat p.2))

/-- The medium's counters as a line. -/
def mediumLine (m : MediumStats) : String :=
  "medium" ++ String.join ((mediumFields m).map fun p => " " ++ p.1 ++ "=" ++ toString p.2)

/-! ## The whole report -/

/-- The report as JSON; nobody interrupts a simulation. -/
def json (server : Address) (r : Report) : String :=
  Json.object
    [("schema_id",
        Json.string "https://schemas.3leaps.dev/rflink/cli/v1/simulation-report.schema.json"),
      ("interrupted", Json.bool false),
      ("sends", Json.array (r.sends.map (sendJson server))),
      ("deliveries", Json.array (r.deliveries.map deliveryJson)),
      ("nodes", Json.array (r.nodes.map nodeJson)), ("medium", mediumJson r.medium)]

/-- The report as tables. -/
def tables (server : Address) (r : Report) : List Table :=
  [{ header := ["SEQ", "TO", "ID", "OUTCOME", "ATTEMPTS", "ELAPSED"]
     rows := r.sends.map (sendRow server) },
    { header := ["NODE", "FROM", "TO", "ID", "FLAGS", "RSSI", "PAYLOAD"]
      rows := r.deliveries.map deliveryRow },
    nodeTable r.nodes]

/-- The report as lines. -/
def lines (server : Address) (r : Report) : List String :=
  r.sends.map (sendLine server) ++ r.deliveries.map deliveryLine ++ r.nodes.map nodeLine ++
    [mediumLine r.medium]

/-- What was handed to the server, as it is shown. -/
def payloads (r : Report) : List String :=
  (r.deliveries.filter fun p => p.1 == .server).map fun p => preview p.2.payload

/-- What is printed about a simulation. -/
def print (server : Address) (r : Report) : Format → Bytes
  | .json => lineBytes [json server r]
  | .table => lineBytes ((tables server r).map Table.render)
  | .pretty => lineBytes (lines server r)
  | .raw => lineBytes (payloads r)

end SimulationReport
end Console
end PacketRadio
