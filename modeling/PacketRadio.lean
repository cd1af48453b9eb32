import PacketRadio.Bytes
import PacketRadio.Text.Hex
import PacketRadio.Text.Json
import PacketRadio.Text.Table
import PacketRadio.Frame.Codec
import PacketRadio.Console.Exit
import PacketRadio.Console.Value
import PacketRadio.Link.Config
import PacketRadio.Link.Task
import PacketRadio.Link.Operation
import PacketRadio.Link.Buffer
import PacketRadio.Medium.Basic
import PacketRadio.Scenario.Play
import PacketRadio.Simulation.Report
import PacketRadio.Main
import PacketRadio.Proofs.Frame.RoundTrip
import PacketRadio.Proofs.Frame.Grammar
import PacketRadio.Proofs.Frame.Remainder
import PacketRadio.Proofs.Frame.BitErrors
import PacketRadio.Proofs.Link.Ledger
import PacketRadio.Proofs.Link.Bookkeeping
import PacketRadio.Proofs.Network.System
import PacketRadio.Proofs.Network.Provenance
import PacketRadio.Proofs.Network.Delivery
import PacketRadio.Proofs.Network.Moves
import PacketRadio.Proofs.Network.Acknowledgment
import PacketRadio.Proofs.Link.Course
import PacketRadio.Proofs.Medium.Between
import PacketRadio.Proofs.Scenario.Duel
import PacketRadio.Proofs.Scenario.Answer
import PacketRadio.Proofs.Scenario.Attempts
import PacketRadio.Proofs.Scenario.Reliable
import PacketRadio.Proofs.Link.Counting
import PacketRadio.Proofs.Link.Traffic
import PacketRadio.Proofs.Network.Quiet
import PacketRadio.Proofs.Link.Life
import PacketRadio.Proofs.Link.Reception
import PacketRadio.Proofs.Link.Stretches
import PacketRadio.Proofs.Link.Driving
import PacketRadio.Proofs.Link.Answering
import PacketRadio.Proofs.Link.Acceptance
import PacketRadio.Proofs.Link.Resolution
import PacketRadio.Proofs.Link.Turns
import PacketRadio.Proofs.Link.Inbox
import PacketRadio.Proofs.Link.Served
import PacketRadio.Proofs.Link.Custody
import PacketRadio.Proofs.Link.Likeness
import PacketRadio.Proofs.Link.Informational
import PacketRadio.Proofs.Link.Outgoing
import PacketRadio.Proofs.Link.Accounting
import PacketRadio.Proofs.Network.Fleet
import PacketRadio.Proofs.Link.Oblivious
import PacketRadio.Proofs.Medium.Conservation
import PacketRadio.Proofs.Medium.Order
import PacketRadio.Proofs.Link.Discretion
import PacketRadio.Proofs.Medium.Beside
import PacketRadio.Proofs.Network.Happenings
import PacketRadio.Proofs.Network.Listener
import PacketRadio.Proofs.Link.Failures
import PacketRadio.Proofs.Network.Ownership
import PacketRadio.Proofs.Simulation.Consistency
import PacketRadio.Proofs.Console.Simulate
import PacketRadio.Proofs.Frame.Foreign
import PacketRadio.Proofs.Text.HexRoundTrip
import PacketRadio.Proofs.Console.Framing
import PacketRadio.Proofs.Link.Copies
import PacketRadio.Proofs.Link.Pace
import PacketRadio.Proofs.Link.Expiry
import PacketRadio.Proofs.Link.Tuning
import PacketRadio.Proofs.Link.Overflow
import PacketRadio.Proofs.Link.Receiving
import PacketRadio.Proofs.Simulation.Draining
import PacketRadio.Proofs.Frame.Bursts
import PacketRadio.Proofs.Frame.Preamble
import PacketRadio.Proofs.Frame.Extent
import PacketRadio.Proofs.Link.Numbering
import PacketRadio.Proofs.Medium.Faults
import PacketRadio.Proofs.Medium.Severing
import PacketRadio.Proofs.Frame.Writing
import PacketRadio.Proofs.Text.Numeral
import PacketRadio.Proofs.Text.HexText
import PacketRadio.Proofs.Console.Durations
