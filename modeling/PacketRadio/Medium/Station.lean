/-
# Stations

rflink specification, §4.2: `SimRadio`.

A station is one radio's place on a shared medium: its settings, its mode and
the queue of frames that have come in.  A station that has left the medium
keeps its place but neither hears nor sends.
-/

import PacketRadio.Radio.Basic

namespace PacketRadio

/-- One radio's place on the medium (`SimRadio`). -/
structure Station where
  /-- The address the radio was given; zero until then. -/
  address : Address := 0
  /-- The radio was told to take in frames for others. -/
  promiscuous : Bool := false
  /-- What the radio is doing. -/
  mode : Radio.Mode := .idle
  /-- Why the radio does not come up, if it does not. -/
  initFailure : Option String := none
  /-- The frames that have come in, oldest first. -/
  fifo : List Radio.Reception := []
  /-- The radio is still on the medium. -/
  attached : Bool := true
  deriving DecidableEq, Repr

namespace Station

/-- The station after its radio has left the medium. -/
def detach (s : Station) : Station :=
  { s with attached := false, fifo := [] }

/-- The station with one more frame, if the queue of `capacity` frames has room for it. -/
def offer (capacity : Nat) (reception : Radio.Reception) (s : Station) : Station :=
  if s.fifo.length < capacity then { s with fifo := s.fifo ++ [reception] } else s

/-- The station with one more frame, room or not. -/
def inject (reception : Radio.Reception) (s : Station) : Station :=
  { s with fifo := s.fifo ++ [reception] }

/-- Takes the oldest frame; the radio is idle afterwards. -/
def take (s : Station) : Option Radio.Reception × Station :=
  (s.fifo.head?, { s with fifo := s.fifo.tail, mode := .idle })

/-- A frame can be taken: the radio listens and one has come in. -/
def ready (s : Station) : Bool :=
  s.mode == .receive && !s.fifo.isEmpty

/-- **A queue that is offered frames stays within its capacity.** -/
theorem length_offer_le {capacity : Nat} {reception : Radio.Reception} {s : Station}
    (h : s.fifo.length ≤ capacity) : (s.offer capacity reception).fifo.length ≤ capacity := by
  unfold offer
  split
  · simp; omega
  · exact h

end Station
end PacketRadio
