/-
# How a network writes its frames

rflink specification, §4.1: `FrameConfig` and its validation.

All nodes of a network share a sync word.  The preamble before it and the
limit on payloads may differ between nodes.

Two limits hold on top of the configured ones whatever the configuration
says: a payload never exceeds what the length byte can say, and a preamble of
more than 255 bytes is refused.
-/

import PacketRadio.Bytes

namespace PacketRadio

/-- The two bytes that mark the start of a frame. -/
structure SyncWord where
  /-- The byte sent first. -/
  first : UInt8
  /-- The byte sent second. -/
  second : UInt8
  deriving DecidableEq, Repr

namespace SyncWord

/-- The sync word as it is sent. -/
def toBytes (s : SyncWord) : Bytes :=
  [s.first, s.second]

/-- The sync word of the default group. -/
def standard : SyncWord := ⟨0x2D, 0xD4⟩

/-- Groups share the first byte and have the second to themselves. -/
def ofGroup (group : UInt8) : SyncWord :=
  ⟨standard.first, group⟩

end SyncWord

namespace Frame

/-- The byte that preambles are made of. -/
def preambleByte : UInt8 := 0xAA

/-- The longest preamble that can be sent. -/
def maxPreamble : Nat := 255

/-- The largest payload that the length byte can announce. -/
def lengthLimit : Nat := 255

/-- How a node writes and reads frames (`FrameConfig`). -/
structure Config where
  /-- The network's sync word. -/
  sync : SyncWord := SyncWord.standard
  /-- The number of preamble bytes sent, and the most that are skipped on receipt. -/
  preambleLen : Nat := 4
  /-- The largest payload sent or taken in. -/
  maxPayload : Nat := 251
  deriving DecidableEq, Repr

namespace Config

/-- What can be wrong with a configuration. -/
inductive Problem where
  /-- The payload limit is beyond the length byte. -/
  | payloadLimit (maxPayload : Nat)
  /-- The preamble is too long. -/
  | preamble (preambleLen : Nat)
  /-- The sync word starts like the preamble. -/
  | syncWord
  /-- A problem described by whoever found it. -/
  | other (reason : String)
  deriving DecidableEq, Repr

/-- The wording of a problem. -/
def Problem.message : Problem → String
  | .payloadLimit n => s!"max_payload {n} exceeds length field (max 255)"
  | .preamble n => s!"preamble_len {n} exceeds 255"
  | .syncWord => "sync word must not start with preamble byte 0xAA"
  | .other reason => reason

/-- The payload limit in force: the configured one, but never above the length byte's. -/
def payloadLimit (c : Config) : Nat :=
  min c.maxPayload lengthLimit

/-- Refuses a preamble that is too long. -/
def checkPreamble (c : Config) : Except Problem Unit :=
  if maxPreamble < c.preambleLen then .error (.preamble c.preambleLen) else .ok ()

/-- Accepts a configuration or names its first problem. -/
def validate (c : Config) : Except Problem Unit := do
  if lengthLimit < c.maxPayload then
    throw (.payloadLimit c.maxPayload)
  c.checkPreamble
  if c.sync.first = preambleByte then
    throw .syncWord

/-- The same settings for another group of nodes. -/
def withGroup (c : Config) (group : UInt8) : Config :=
  { c with sync := SyncWord.ofGroup group }

/-- The three conditions that a configuration has to meet. -/
structure Valid (c : Config) : Prop where
  /-- The length byte can announce every payload. -/
  payload : c.maxPayload ≤ lengthLimit
  /-- The preamble can be sent. -/
  preamble : c.preambleLen ≤ maxPreamble
  /-- The sync word stands out from the preamble. -/
  sync : c.sync.first ≠ preambleByte

/-- **Exactly the valid configurations are accepted.** -/
theorem validate_eq_ok_iff (c : Config) : c.validate = .ok () ↔ c.Valid := by
  unfold validate checkPreamble
  by_cases h₁ : lengthLimit < c.maxPayload
  · simp only [h₁, ↓reduceIte]
    exact ⟨fun h => (nomatch h), fun h => absurd h.payload (by omega)⟩
  · by_cases h₂ : maxPreamble < c.preambleLen
    · simp only [h₁, h₂, ↓reduceIte]
      exact ⟨fun h => (nomatch h), fun h => absurd h.preamble (by omega)⟩
    · by_cases h₃ : c.sync.first = preambleByte
      · simp only [h₁, h₂, h₃, ↓reduceIte]
        exact ⟨fun h => (nomatch h), fun h => absurd h₃ h.sync⟩
      · simp only [h₁, h₂, h₃, ↓reduceIte]
        exact ⟨fun _ => ⟨by omega, by omega, h₃⟩, fun _ => rfl⟩

/-- **Under a valid configuration the configured limit is the one in force.** -/
theorem Valid.payloadLimit_eq {c : Config} (h : c.Valid) : c.payloadLimit = c.maxPayload :=
  Nat.min_eq_left h.payload

end Config
end Frame
end PacketRadio
