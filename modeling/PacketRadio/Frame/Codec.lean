/-
# Frames on the wire

rflink specification, §4.1: `encode_frame`, `decode_frame`, `wire_size`; §6:
the wire layout.

| part | bytes |
| --- | ---: |
| preamble, `0xAA` each | as configured |
| sync word | 2 |
| destination, source, id, flags | 4 |
| payload length | 1 |
| payload | 0–255 |
| checksum of the header, the length and the payload, low byte first | 2 |

A reader looks for the sync word at most as far in as its own preamble would
reach, so it can miss the start of a preamble but not more.  After the sync
word the bytes have to be exactly as many as the length byte says.

Main statements: `encodeOnto_eq` (one frame or nothing is appended),
`length_wire`, and `body_of_parse` (what is read is what would be written).
-/

import PacketRadio.Frame.Checksum
import PacketRadio.Frame.Error
import PacketRadio.Frame.Header

namespace PacketRadio

/-- A header and what it leads. -/
structure Frame where
  /-- Who sends what to whom. -/
  header : Header
  /-- The carried bytes. -/
  payload : Bytes
  deriving DecidableEq, Repr

namespace Frame

/-- The bytes of the sync word. -/
def syncSize : Nat := 2

/-- The bytes after the sync word that are not payload: header, length and checksum. -/
def envelopeSize : Nat := 7

/-- The largest count of bytes that a size can be told in. -/
def maxCount : Nat := Nat.pow 2 64 - 1

/-- The acknowledgment that the node at `local_` owes for `h` (`ack_for`). -/
def ackFor (h : Header) (local_ : Address) : Frame :=
  ⟨h.ackFor local_, []⟩

/-- The bytes that the checksum covers. -/
def covered (f : Frame) : Bytes :=
  f.header.toBytes ++ UInt8.ofNat f.payload.length :: f.payload

/-- The bytes after the sync word. -/
def body (f : Frame) : Bytes :=
  f.covered ++ Crc.toBytes (Crc.ofBytes f.covered)

/-- The whole frame as it is sent. -/
def wire (c : Config) (f : Frame) : Bytes :=
  List.replicate c.preambleLen preambleByte ++ c.sync.toBytes ++ f.body

/-- The size of the frame on the wire (`wire_size`), held at the largest count. -/
def wireSize (c : Config) (f : Frame) : Nat :=
  min (c.preambleLen + (syncSize + envelopeSize + f.payload.length)) maxCount

/-- Writes a frame (`encode_frame`); the preamble is checked before the payload. -/
def encode (c : Config) (f : Frame) : Except Error Bytes :=
  match c.checkPreamble with
  | .error problem => .error (.invalidConfig problem)
  | .ok () =>
    if c.payloadLimit < f.payload.length then
      .error (.payloadTooLarge f.payload.length c.payloadLimit)
    else
      .ok (f.wire c)

/-- Writes a frame behind what a buffer already holds. -/
def encodeOnto (c : Config) (f : Frame) (buffer : Bytes) : Bytes × Except Error Unit :=
  match f.encode c with
  | .ok wire => (buffer ++ wire, .ok ())
  | .error e => (buffer, .error e)

/-- The bytes after the first sync word that starts at most `window` bytes in. -/
def afterSync (sync : SyncWord) : Nat → Bytes → Option Bytes
  | window, a :: b :: rest =>
    if a = sync.first ∧ b = sync.second then some rest
    else
      match window with
      | 0 => none
      | window + 1 => afterSync sync window (b :: rest)
  | _, _ => none

/-- Reads the bytes after the sync word. -/
def parseBody (limit : Nat) (body : Bytes) : Except Defect Frame :=
  match body with
  | dst :: src :: id :: flags :: len :: rest =>
    if rest.length < 2 then
      .error (.length envelopeSize body.length)
    else if limit < len.toNat ∨ body.length ≠ envelopeSize + len.toNat then
      .error (.length (envelopeSize + len.toNat) body.length)
    else
      match rest.drop len.toNat with
      | [low, high] =>
        let computed := Crc.ofBytes (body.take (5 + len.toNat))
        let received := Crc.ofTrailer low high
        if received ≠ computed then
          .error (.checksum received computed)
        else
          .ok ⟨⟨dst, src, id, flags⟩, rest.take len.toNat⟩
      | _ => .error (.length (envelopeSize + len.toNat) body.length)
  | _ => .error (.length envelopeSize body.length)

/-- Reads a frame from received bytes (`decode_frame`). -/
def decode (c : Config) (received : Bytes) : Except Defect Frame :=
  match afterSync c.sync c.preambleLen received with
  | none => .error .noSync
  | some body => parseBody c.payloadLimit body

/-! ## Sizes -/

@[simp] theorem length_covered (f : Frame) : f.covered.length = 5 + f.payload.length := by
  simp [covered]; omega

@[simp] theorem length_body (f : Frame) : f.body.length = envelopeSize + f.payload.length := by
  simp [body, envelopeSize]; omega

/-- **The wire is as long as announced.** -/
theorem length_wire (c : Config) (f : Frame) :
    (f.wire c).length = c.preambleLen + (syncSize + envelopeSize + f.payload.length) := by
  simp [wire, SyncWord.toBytes, syncSize]; omega

/-! ## Writing -/

/-- **A frame is written exactly if the preamble and the payload fit.** -/
theorem encode_eq_ok_iff (c : Config) (f : Frame) (w : Bytes) :
    f.encode c = .ok w ↔
      c.preambleLen ≤ maxPreamble ∧ f.payload.length ≤ c.payloadLimit ∧ w = f.wire c := by
  unfold encode Config.checkPreamble
  by_cases hp : maxPreamble < c.preambleLen
  · simp only [hp, ↓reduceIte]
    constructor
    · intro h; cases h
    · rintro ⟨h, -, -⟩; omega
  · by_cases hl : c.payloadLimit < f.payload.length
    · simp only [hp, hl, ↓reduceIte]
      constructor
      · intro h; cases h
      · rintro ⟨-, h, -⟩; omega
    · simp only [hp, hl, ↓reduceIte, Except.ok.injEq]
      constructor
      · intro h; exact ⟨by omega, by omega, h.symm⟩
      · rintro ⟨-, -, h⟩; exact h.symm

/-- **One frame or nothing is appended.** -/
theorem encodeOnto_eq (c : Config) (f : Frame) (buffer : Bytes) :
    f.encodeOnto c buffer =
      match f.encode c with
      | .ok wire => (buffer ++ wire, .ok ())
      | .error e => (buffer, .error e) := rfl

/-! ## Reading -/

/-- **What is read is what would be written**: the bytes after the sync word are those of the
frame that comes out, and its payload is within the limit. -/
theorem body_of_parse {limit : Nat} {body : Bytes} {f : Frame}
    (h : parseBody limit body = .ok f) : body = f.body ∧ f.payload.length ≤ limit := by
  unfold parseBody at h
  split at h
  · rename_i dst src id flags len rest
    split at h
    · cases h
    · split at h
      · cases h
      · rename_i h₁ h₂
        have hlen : rest.length = len.toNat + 2 := by
          have := not_or.1 h₂ |>.2
          simp only [List.length_cons, envelopeSize, ne_eq, Decidable.not_not] at this
          omega
        split at h
        · rename_i low high hdrop
          dsimp only at h
          split at h
          · cases h
          · rename_i hcrc
            have hcrc : Crc.ofTrailer low high = _ := Decidable.not_not.1 hcrc
            obtain rfl := Except.ok.inj h
            have htake : (rest.take len.toNat).length = len.toNat := by simp; omega
            have hrest : rest = rest.take len.toNat ++ [low, high] := by
              rw [← hdrop, List.take_append_drop]
            have hcov : (dst :: src :: id :: flags :: len :: rest).take (5 + len.toNat) =
                dst :: src :: id :: flags :: len :: rest.take len.toNat := by
              rw [Nat.add_comm]; simp
            rw [hcov] at hcrc
            refine ⟨?_, by simpa [htake] using Nat.not_lt.1 (not_or.1 h₂).1⟩
            simp only [Frame.body, covered, Header.toBytes, htake, UInt8.ofNat_toNat,
              List.cons_append, List.nil_append, ← hcrc, Crc.toBytes_ofTrailer, ← hrest]
        · cases h
  · cases h

end Frame
end PacketRadio
