/-
# How a node takes part

rflink specification, §9: `DatagramConfig`; §7: `DatagramError`.

Main statement: `Config.attempts_pos` (a send is tried at least once).
-/

import PacketRadio.Frame.Error
import PacketRadio.Radio.Basic
import PacketRadio.Time

namespace PacketRadio
namespace Link

/-- What can be wrong with a node's configuration, its address and frame settings apart. -/
inductive Config.Problem where
  /-- There is no time to wait for an acknowledgment. -/
  | noAckTimeout
  /-- The wait for an acknowledgment is too long. -/
  | ackTimeout (timeout : Nat)
  /-- There is no room for deliveries. -/
  | noCapacity
  /-- A problem described by whoever found it. -/
  | other (reason : String)
  deriving DecidableEq, Repr

/-- The longest wait for an acknowledgment. -/
def maxAckTimeout : Nat := 3600 * Duration.second

/-- The wording of a problem. -/
def Config.Problem.message : Config.Problem → String
  | .noAckTimeout => "ack_timeout must be greater than zero"
  | .ackTimeout timeout =>
    "ack_timeout " ++ Duration.inSeconds timeout ++ " exceeds " ++ Duration.inSeconds maxAckTimeout
  | .noCapacity => "delivery_capacity must be at least 1"
  | .other reason => reason

/-- What can go wrong with a node (`DatagramError`). -/
inductive Error where
  /-- Its radio failed. -/
  | radio (failure : Radio.Failure)
  /-- A frame could not be written. -/
  | frame (error : Frame.Error)
  /-- The address is not one of a node. -/
  | invalidAddress (address : Address)
  /-- The configuration cannot be used. -/
  | invalidConfig (problem : Config.Problem)
  deriving DecidableEq, Repr

/-- The wording of an error. -/
def Error.message : Error → String
  | .radio failure => "radio error: " ++ failure.message
  | .frame error => "frame error: " ++ error.message
  | .invalidAddress address => "invalid node address " ++ Text.Hex.byte address
  | .invalidConfig problem => "invalid datagram configuration: " ++ problem.message

/-- How a node takes part (`DatagramConfig`). -/
structure Config where
  /-- The node's address. -/
  address : Address := 1
  /-- The node takes in frames for others. -/
  promiscuous : Bool := false
  /-- How often a datagram is sent until it is acknowledged; zero counts as one. -/
  maxRetries : Nat := 3
  /-- The wait for an acknowledgment after each time. -/
  ackTimeout : Nat := 200 * Duration.millisecond
  /-- The pause after the radio had nothing. -/
  pollInterval : Nat := 5 * Duration.millisecond
  /-- The most deliveries that wait for the application. -/
  deliveryCapacity : Nat := 10
  /-- How frames are written and read. -/
  frame : Frame.Config := {}
  deriving DecidableEq, Repr

namespace Config

/-- How often a datagram is sent until it is acknowledged. -/
def attempts (c : Config) : Nat :=
  max c.maxRetries 1

/-- Which frames the node takes in. -/
def filter (c : Config) : AddressFilter :=
  ⟨c.address, c.promiscuous⟩

/-- Accepts a configuration or names its first problem. -/
def validate (c : Config) : Except Error Unit :=
  if c.address = Address.broadcast then .error (.invalidAddress c.address)
  else if c.ackTimeout = 0 then .error (.invalidConfig .noAckTimeout)
  else if maxAckTimeout < c.ackTimeout then .error (.invalidConfig (.ackTimeout c.ackTimeout))
  else if c.deliveryCapacity = 0 then .error (.invalidConfig .noCapacity)
  else c.frame.validate.mapError fun problem => .frame (.invalidConfig problem)

/-- The conditions that a configuration has to meet. -/
structure Valid (c : Config) : Prop where
  /-- The address is one node's. -/
  address : c.address ≠ Address.broadcast
  /-- There is time to wait for an acknowledgment. -/
  timeout_pos : 0 < c.ackTimeout
  /-- But not too much. -/
  timeout_le : c.ackTimeout ≤ maxAckTimeout
  /-- There is room for a delivery. -/
  capacity : 0 < c.deliveryCapacity
  /-- Frames can be written and read. -/
  frame : c.frame.Valid

/-- **Exactly the valid configurations are accepted.** -/
theorem validate_eq_ok_iff (c : Config) : c.validate = .ok () ↔ c.Valid := by
  unfold validate
  constructor
  · intro h
    split at h
    · cases h
    · split at h
      · cases h
      · split at h
        · cases h
        · split at h
          · cases h
          · rename_i h₁ h₂ h₃ h₄
            refine ⟨h₁, by omega, by omega, by omega, ?_⟩
            rw [← Frame.Config.validate_eq_ok_iff]
            cases hf : c.frame.validate with
            | ok u => rfl
            | error e => rw [hf] at h; cases h
  · intro h
    have h₂ := h.timeout_pos
    have h₃ := h.timeout_le
    have h₄ := h.capacity
    rw [if_neg h.address, if_neg (by omega), if_neg (by omega), if_neg (by omega),
      (Frame.Config.validate_eq_ok_iff _).2 h.frame]
    rfl

/-- **A send is tried at least once.** -/
theorem attempts_pos (c : Config) : 0 < c.attempts := by
  unfold attempts; omega

end Config
end Link
end PacketRadio
