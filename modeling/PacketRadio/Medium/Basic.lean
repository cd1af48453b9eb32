/-
# The shared medium

rflink specification, §4.2: `Ether` and its fault injection.

Every station on the medium hears what the others send, the way nodes on one
frequency do.  Nothing is lost unless a fault says so, and faults are
deterministic: the number of a transmission decides its fate.

| fault | what it does |
| --- | --- |
| drop credit | the next transmissions are lost |
| `dropEvery` | every n-th transmission is lost |
| `corruptEvery` | the last bit of every n-th transmission is flipped |
| severed link | two addresses do not hear each other |
| full queue | the station misses the frame |

A lost transmission still counts, and a drop credit is used up before the
period of losses is looked at.

Main statements: `isSevered_comm` (severing has no direction) and
`broadcast_transmissions` (every transmission counts once).
-/

import PacketRadio.Medium.Station

namespace PacketRadio

/-- The faults that come round periodically. -/
structure FaultPlan where
  /-- Every n-th transmission is lost; never if absent or zero. -/
  dropEvery : Option Nat := none
  /-- Every n-th transmission is damaged; never if absent or zero. -/
  corruptEvery : Option Nat := none
  deriving DecidableEq, Repr

/-- The fault with this period hits transmission number `seq`. -/
def FaultPlan.hits (period : Option Nat) (seq : Nat) : Bool :=
  match period with
  | some n => 0 < n && seq % n == 0
  | none => false

/-- What the medium counts. -/
structure MediumStats where
  /-- Transmissions made. -/
  transmissions : Nat := 0
  /-- Copies that reached a queue. -/
  delivered : Nat := 0
  /-- Transmissions lost by a fault. -/
  dropped : Nat := 0
  /-- Transmissions damaged by a fault. -/
  corrupted : Nat := 0
  /-- Copies that found a full queue. -/
  overflowed : Nat := 0
  deriving DecidableEq, Repr

/-- The medium and the stations on it (`Ether`). -/
structure Medium where
  /-- The stations in the order they came. -/
  stations : List Station := []
  /-- The most frames that wait at a station. -/
  capacity : Nat := 8
  /-- The signal strength of a link that has none of its own. -/
  defaultRssi : Int := -40
  /-- The periodic faults. -/
  faults : FaultPlan := {}
  /-- The signal strengths of single links, latest first. -/
  linkRssi : List ((Address × Address) × Int) := []
  /-- The pairs of addresses that do not hear each other, in either order. -/
  severed : List (Address × Address) := []
  /-- How many of the next transmissions will be lost. -/
  dropCredit : Nat := 0
  /-- What has been counted. -/
  stats : MediumStats := {}
  deriving DecidableEq, Repr

namespace Medium

/-- What a radio on the medium calls itself. -/
def radioName : String := "sim-ether"

/-! ## Settings -/

/-- The largest drop credit. -/
def maxCredit : Nat := Nat.pow 2 32 - 1

/-- The medium with one more station, and that station's number. -/
def attach (m : Medium) (initFailure : Option String) : Nat × Medium :=
  (m.stations.length, { m with stations := m.stations ++ [{ initFailure }] })

/-- The medium after a change at one station. -/
def modify (m : Medium) (i : Nat) (f : Station → Station) : Medium :=
  { m with stations := m.stations.modify i f }

/-- The medium after a radio has left. -/
def detach (m : Medium) (i : Nat) : Medium :=
  m.modify i Station.detach

/-- Loses the next `count` transmissions on top of those already due to be lost. -/
def dropNext (m : Medium) (count : Nat) : Medium :=
  { m with dropCredit := min (m.dropCredit + count) maxCredit }

/-- Cuts or restores the link between two addresses. -/
def setSevered (m : Medium) (a b : Address) (cut : Bool) : Medium :=
  if cut then { m with severed := (a, b) :: m.severed }
  else { m with severed := m.severed.filter fun p => p != (a, b) && p != (b, a) }

/-- The two addresses do not hear each other. -/
def isSevered (m : Medium) (a b : Address) : Bool :=
  m.severed.contains (a, b) || m.severed.contains (b, a)

/-- Sets the signal strength that `dst` sees of `src`. -/
def setLinkRssi (m : Medium) (src dst : Address) (rssi : Int) : Medium :=
  { m with linkRssi := ((src, dst), rssi) :: m.linkRssi }

/-- The signal strength that `dst` sees of `src`. -/
def rssi (m : Medium) (src dst : Address) : Int :=
  (m.linkRssi.lookup (src, dst)).getD m.defaultRssi

/-! ## Transmissions -/

/-- The bytes with the last bit of the last byte flipped. -/
def damage : Bytes → Bytes
  | [] => []
  | [b] => [b ^^^ 1]
  | b :: rest => b :: damage rest

/-- Station `i` is in earshot of station `sender` at address `src`. -/
def hears (m : Medium) (sender : Nat) (src : Address) (i : Nat) (s : Station) : Bool :=
  i != sender && s.attached && !m.isSevered src s.address

/-- The station has room for one more frame. -/
def hasRoom (m : Medium) (s : Station) : Bool :=
  s.fifo.length < m.capacity

/-- Puts a copy into every queue in earshot that has room. -/
def spread (m : Medium) (sender : Nat) (src : Address) (frame : Bytes) : Medium :=
  let inEarshot := m.stations.zipIdx.filter fun p => m.hears sender src p.2 p.1
  let reached := inEarshot.countP fun p => m.hasRoom p.1
  { m with
    stations := m.stations.mapIdx fun i s =>
      if m.hears sender src i s then s.offer m.capacity ⟨frame, m.rssi src s.address⟩ else s
    stats := { m.stats with
      delivered := m.stats.delivered + reached
      overflowed := m.stats.overflowed + (inEarshot.length - reached) } }

/-- What becomes of a transmission. -/
inductive Fate where
  /-- It is lost and a drop credit is used up. -/
  | lostOnCredit
  /-- It is lost by the period of losses. -/
  | lost
  /-- It goes out damaged. -/
  | damaged
  /-- It goes out as it is. -/
  | intact
  deriving DecidableEq, Repr

/-- What becomes of transmission number `seq`: credits come first, then losses, then damage. -/
def fate (m : Medium) (seq : Nat) (bytes : Bytes) : Fate :=
  if 0 < m.dropCredit then .lostOnCredit
  else if FaultPlan.hits m.faults.dropEvery seq then .lost
  else if FaultPlan.hits m.faults.corruptEvery seq && !bytes.isEmpty then .damaged
  else .intact

/-- The medium with other counts. -/
def recount (m : Medium) (f : MediumStats → MediumStats) : Medium :=
  { m with stats := f m.stats }

/-- The medium after station `sender` at address `src` has sent `bytes` to this fate. -/
def suffer (m : Medium) (sender : Nat) (src : Address) (bytes : Bytes) : Fate → Medium
  | .lostOnCredit =>
    { m.recount (fun s => { s with dropped := s.dropped + 1 }) with dropCredit := m.dropCredit - 1 }
  | .lost => m.recount fun s => { s with dropped := s.dropped + 1 }
  | .damaged =>
    (m.recount fun s => { s with corrupted := s.corrupted + 1 }).spread sender src (damage bytes)
  | .intact => m.spread sender src bytes

/-- Station `i`, if its radio is still on the medium. -/
def live? (m : Medium) (i : Nat) : Option Station :=
  (m.stations[i]?).filter (·.attached)

/-- Station `sender` puts `bytes` on the air. -/
def broadcast (m : Medium) (sender : Nat) (bytes : Bytes) : Except Radio.Failure Unit × Medium :=
  match m.live? sender with
  | none => (.error .shutdown, m)
  | some station =>
    let counted := m.recount fun s => { s with transmissions := s.transmissions + 1 }
    let fate := m.fate counted.stats.transmissions bytes
    (.ok (), counted.suffer sender station.address bytes fate)

/-! ## Radio calls -/

/-- What the radio at station `i` is doing. -/
def mode (m : Medium) (i : Nat) : Radio.Mode :=
  (m.stations[i]?).elim .idle (·.mode)

/-- The address of station `i`. -/
def address (m : Medium) (i : Nat) : Address :=
  (m.stations[i]?).elim 0 (·.address)

/-- The number of frames waiting at station `i`. -/
def pending (m : Medium) (i : Nat) : Nat :=
  (m.stations[i]?).elim 0 (·.fifo.length)

/-- The radio at station `i` answers a call. -/
def call (m : Medium) (i : Nat) : (c : Radio.Call) → Except Radio.Failure c.Result × Medium
  | .init =>
    match (m.stations[i]?).bind (·.initFailure) with
    | some reason => (.error (.init reason), m)
    | none => (.ok (), m.modify i fun s => { s with mode := .idle })
  | .setAddress address promiscuous =>
    match m.stations[i]? with
    | none => (.error .shutdown, m)
    | some _ => (.ok (), m.modify i fun s => { s with address, promiscuous })
  | .setMode mode => (.ok (), m.modify i fun s => { s with mode })
  | .frameReady =>
    if m.mode i ≠ .receive then (.ok false, m)
    else
      match m.live? i with
      | none => (.error .shutdown, m)
      | some s => (.ok s.ready, m)
  | .receive =>
    match m.live? i with
    | none => (.error .shutdown, m)
    | some s => (.ok s.take.1, m.modify i fun s => s.take.2)
  | .transmit bytes =>
    let (result, m) := (m.modify i fun s => { s with mode := .transmit }).broadcast i bytes
    (result, m.modify i fun s => { s with mode := .idle })

/-! ## Lemmas -/

/-- **Severing has no direction.** -/
theorem isSevered_comm (m : Medium) (a b : Address) : m.isSevered a b = m.isSevered b a := by
  simp [isSevered, Bool.or_comm]

@[simp] theorem transmissions_suffer (m : Medium) (sender : Nat) (src : Address) (bytes : Bytes)
    (fate : Fate) : (m.suffer sender src bytes fate).stats.transmissions =
      m.stats.transmissions := by
  cases fate <;> rfl

/-- **Every transmission of a station on the medium counts once, lost or not.** -/
theorem broadcast_transmissions (m : Medium) (sender : Nat) (bytes : Bytes) :
    (m.broadcast sender bytes).2.stats.transmissions =
      m.stats.transmissions + if (m.live? sender).isSome then 1 else 0 := by
  unfold broadcast
  cases m.live? sender with
  | none => rfl
  | some s => simp [recount]

end Medium
end PacketRadio
