/-
# What a node counts

rflink specification, §4.5: link telemetry.

The counters only grow and decide nothing.
-/

import PacketRadio.Frame.Error
import PacketRadio.Link.PeerTable

namespace PacketRadio
namespace Link

/-- Receptions that were no frames, by the sort of defect. -/
structure DropCounts where
  /-- No sync word. -/
  sync : Nat := 0
  /-- A wrong number of bytes. -/
  length : Nat := 0
  /-- A wrong checksum. -/
  checksum : Nat := 0
  deriving DecidableEq, Repr

namespace DropCounts

/-- All of them. -/
def total (c : DropCounts) : Nat :=
  c.sync + c.length + c.checksum

/-- One more of a sort. -/
def record (c : DropCounts) : Frame.Defect.Kind → DropCounts
  | .sync => { c with sync := c.sync + 1 }
  | .length => { c with length := c.length + 1 }
  | .checksum => { c with checksum := c.checksum + 1 }

/-- **A drop of any sort counts once.** -/
@[simp] theorem total_record (c : DropCounts) (kind : Frame.Defect.Kind) :
    (c.record kind).total = c.total + 1 := by
  cases kind <;> simp [record, total] <;> omega

end DropCounts

/-- The activity of one node. -/
structure Telemetry where
  /-- Datagrams handed to the application. -/
  delivered : Nat := 0
  /-- Datagrams recognised as repeated. -/
  duplicates : Nat := 0
  /-- Receptions that were no frames. -/
  dropped : DropCounts := {}
  /-- Frames for other nodes. -/
  filtered : Nat := 0
  /-- Datagrams sent, repetitions included. -/
  dataSent : Nat := 0
  /-- Acknowledgments sent. -/
  acksSent : Nat := 0
  /-- Acknowledgments that a send was waiting for. -/
  acksReceived : Nat := 0
  /-- Acknowledgments that nothing was waiting for. -/
  unmatchedAcks : Nat := 0
  /-- Repetitions sent. -/
  retries : Nat := 0
  /-- Sends that were given up. -/
  failed : Nat := 0
  /-- Datagrams lost because the application had no room. -/
  deliveryOverflow : Nat := 0
  /-- The signal strength of the last frame taken in from each peer. -/
  lastRssi : PeerTable Int := {}
  deriving DecidableEq, Repr

namespace Telemetry

/-- The receptions that have been accounted for, each in one counter. -/
def receptions (t : Telemetry) : Nat :=
  t.delivered + t.duplicates + t.deliveryOverflow + t.filtered + t.acksReceived +
    t.unmatchedAcks + t.dropped.total

end Telemetry
end Link
end PacketRadio
