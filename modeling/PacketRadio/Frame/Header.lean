/-
# Addresses, flags and headers

rflink specification, §3: addresses and flags; §4.1: `ack_for`; §4.3: the
address filter.

A frame is led by four bytes: destination, source, sequence id and flags.

| flag bit | name | meaning |
| ---: | --- | --- |
| `0x01` | `ACK` | the frame acknowledges another one |
| `0x02` | `NO_ACK` | the sender waits for no acknowledgment |
| `0x04` | `RETRY` | the frame has been sent before |
| `0xF8` | | reserved: sent as given, ignored on receipt |

Main statements: an acknowledgment is never acknowledged
(`Header.ackFor_wantsAck`), and neither is a broadcast.
-/

import PacketRadio.Text.Hex

namespace PacketRadio

/-- A node's address on the network. -/
abbrev Address := UInt8

/-- The address every node listens to. -/
def Address.broadcast : Address := 0xFF

namespace Flag

/-- The frame acknowledges another one. -/
def ack : UInt8 := 0x01

/-- The sender waits for no acknowledgment. -/
def noAck : UInt8 := 0x02

/-- The frame has been sent before. -/
def retry : UInt8 := 0x04

/-- The bits without a meaning. -/
def reserved : UInt8 := 0xF8

/-- Some bit of `mask` is set in `flags`. -/
def has (flags mask : UInt8) : Bool :=
  flags &&& mask != 0

/-- The names of the set bits joined by `|`, the reserved ones as one number; `-` for none. -/
def describe (flags : UInt8) : String :=
  let names :=
    (if has flags ack then ["ACK"] else []) ++
    (if has flags noAck then ["NO_ACK"] else []) ++
    (if has flags retry then ["RETRY"] else []) ++
    (if has flags reserved then [Text.Hex.byte (flags &&& reserved)] else [])
  if names.isEmpty then "-" else "|".intercalate names

end Flag

/-- The four bytes that lead a frame. -/
structure Header where
  /-- The node the frame is for. -/
  dst : Address
  /-- The node that sent the frame. -/
  src : Address
  /-- The sender's sequence number. -/
  id : UInt8
  /-- The flag bits. -/
  flags : UInt8
  deriving DecidableEq, Repr

namespace Header

/-- The frame acknowledges another one. -/
def isAck (h : Header) : Bool :=
  Flag.has h.flags Flag.ack

/-- The frame is for every node. -/
def isBroadcast (h : Header) : Bool :=
  h.dst == Address.broadcast

/-- The sender waits for an acknowledgment. -/
def wantsAck (h : Header) : Bool :=
  !h.isAck && !h.isBroadcast && !Flag.has h.flags Flag.noAck

/-- The header of the acknowledgment that the node at `local_` owes for `h`. -/
def ackFor (h : Header) (local_ : Address) : Header :=
  ⟨h.src, local_, h.id, Flag.ack⟩

/-- The header as it is sent. -/
def toBytes (h : Header) : Bytes :=
  [h.dst, h.src, h.id, h.flags]

@[simp] theorem length_toBytes (h : Header) : h.toBytes.length = 4 := rfl

@[simp] theorem ackFor_isAck (h : Header) (local_ : Address) :
    (h.ackFor local_).isAck = true := by
  simp [isAck, ackFor, Flag.has, Flag.ack]

/-- **An acknowledgment asks for none.** -/
@[simp] theorem ackFor_wantsAck (h : Header) (local_ : Address) :
    (h.ackFor local_).wantsAck = false := by
  simp [wantsAck]

/-- **A broadcast asks for no acknowledgment.** -/
theorem wantsAck_of_isBroadcast {h : Header} (hb : h.isBroadcast = true) :
    h.wantsAck = false := by
  simp [wantsAck, hb]

end Header

/-- Which frames a node takes in. -/
structure AddressFilter where
  /-- The node's own address. -/
  address : Address
  /-- The node takes in frames for other nodes too. -/
  promiscuous : Bool
  deriving DecidableEq, Repr

namespace AddressFilter

/-- The frame is for the node, for everyone, or the node listens to all. -/
def accepts (f : AddressFilter) (h : Header) : Bool :=
  f.promiscuous || h.dst == f.address || h.dst == Address.broadcast

/-- The frame is for this node and no other. -/
def isLocal (f : AddressFilter) (h : Header) : Bool :=
  h.dst == f.address

/-- **What is for the node is taken in.** -/
theorem accepts_of_isLocal {f : AddressFilter} {h : Header} (hl : f.isLocal h = true) :
    f.accepts h = true := by
  simp_all [accepts, isLocal]

end AddressFilter
end PacketRadio
