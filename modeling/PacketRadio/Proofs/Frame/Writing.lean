/-
# One frame or nothing

rflink specification, §4.1: `encode_frame` and when it fails.

Writing a frame behind what a buffer holds appends the whole frame, or nothing
and says why.  What is appended does not depend on what is there already.

| preamble | payload | what is appended | answer |
| --- | --- | --- | --- |
| above 255 | any | nothing | the settings are of no use |
| at most 255 | above the limit in force | nothing | too large, with both sizes |
| at most 255 | within it | the frame | done |

The limit in force is the configured one, but never above what the length byte
can say.  The settings need not be valid for that: `Appends` is the table for
all of them, and `encodeInPlace` writes piece by piece with every sum and the
length byte checked, which shows that none of them can go wrong.

Main statement: `encodeOnto_appends`.
-/

import PacketRadio.Proofs.Frame.Grammar

namespace PacketRadio
namespace Frame

variable {c : Config} {f : Frame}

/-! ## The table -/

/-- What is appended for a frame, and the answer. -/
inductive Appends (c : Config) (f : Frame) : Bytes → Except Error Unit → Prop where
  /-- The preamble cannot be sent. -/
  | preamble (h : 255 < c.preambleLen) :
      Appends c f [] (.error (.invalidConfig (.preamble c.preambleLen)))
  /-- The payload is above the limit. -/
  | payload (hpreamble : c.preambleLen ≤ 255) (h : min c.maxPayload 255 < f.payload.length) :
      Appends c f [] (.error (.payloadTooLarge f.payload.length (min c.maxPayload 255)))
  /-- Both fit, and the length byte says how long the payload is. -/
  | frame {len : UInt8} {w : Bytes} (hpreamble : c.preambleLen ≤ 255)
      (hpayload : f.payload.length ≤ min c.maxPayload 255) (hlen : len.toNat = f.payload.length)
      (hw : w = List.replicate c.preambleLen 0xAA ++ c.sync.toBytes ++ f.header.toBytes ++
        len :: f.payload ++ Crc.toBytes (Crc.ofBytes (f.header.toBytes ++ len :: f.payload)))
      (hsize : w.length = f.wireSize c) : Appends c f w (.ok ())

/-- The length byte can say it. -/
theorem toNat_length (h : f.payload.length ≤ lengthLimit) :
    (UInt8.ofNat f.payload.length).toNat = f.payload.length := by
  rw [UInt8.toNat_ofNat']
  exact Nat.mod_eq_of_lt (Nat.lt_succ_of_le h)

/-- A frame that can be written is small. -/
theorem size_le (hpreamble : c.preambleLen ≤ maxPreamble)
    (hpayload : f.payload.length ≤ c.payloadLimit) :
    c.preambleLen + (syncSize + envelopeSize + f.payload.length) ≤ 519 := by
  have hlimit : c.payloadLimit ≤ lengthLimit := Nat.min_le_right ..
  simp only [maxPreamble, lengthLimit, syncSize, envelopeSize] at *
  omega

/-- **What is written is as long as announced**, for it is below the largest count. -/
theorem length_wire_eq_wireSize (hpreamble : c.preambleLen ≤ maxPreamble)
    (hpayload : f.payload.length ≤ c.payloadLimit) : (f.wire c).length = f.wireSize c := by
  have hsmall : 519 ≤ maxCount := by decide
  rw [length_wire, wireSize, Nat.min_eq_left (Nat.le_trans (size_le hpreamble hpayload) hsmall)]

/-- **The table says what is appended.** -/
theorem exists_appends (c : Config) (f : Frame) : ∃ appended answer, Appends c f appended answer ∧
    ∀ buffer, f.encodeOnto c buffer = (buffer ++ appended, answer) := by
  by_cases hpreamble : maxPreamble < c.preambleLen
  · refine ⟨[], _, .preamble hpreamble, fun buffer => ?_⟩
    simp only [encodeOnto, encode, Config.checkPreamble, if_pos hpreamble, List.append_nil]
  · rw [Nat.not_lt] at hpreamble
    by_cases hpayload : c.payloadLimit < f.payload.length
    · refine ⟨[], _, .payload hpreamble hpayload, fun buffer => ?_⟩
      simp only [encodeOnto, encode, Config.checkPreamble, if_neg (Nat.not_lt.2 hpreamble),
        if_pos hpayload, List.append_nil]
      rfl
    · rw [Nat.not_lt] at hpayload
      have hlen := toNat_length (Nat.le_trans hpayload (Nat.min_le_right ..))
      have hwritten : f.encode c = .ok (f.wire c) :=
        (encode_eq_ok_iff c f _).2 ⟨hpreamble, hpayload, rfl⟩
      refine ⟨f.wire c, .ok (), .frame hpreamble hpayload hlen ?_
        (length_wire_eq_wireSize hpreamble hpayload), fun buffer => ?_⟩
      · simp only [wire, body, covered, preambleByte, List.append_assoc]
      · rw [encodeOnto_eq, hwritten]

/-! ## Writing in place -/

/-- The most bytes that are ever in one place: half of the counts are for more than that. -/
def maxBytes : Nat := Nat.pow 2 63 - 1

/-- A count as the length byte, if the byte can say it. -/
def lengthByte? (n : Nat) : Option UInt8 :=
  if n ≤ lengthLimit then some (UInt8.ofNat n) else none

/-- The size of the frame on the wire.  What follows the preamble is summed up with every sum
checked, and the whole is held at the largest count. -/
def wireSizeInPlace (c : Config) (f : Frame) : Option Nat := do
  let rest ← sum? (syncSize + envelopeSize) f.payload.length
  pure (min (c.preambleLen + rest) maxCount)

/-- The room that a frame takes in a buffer, with every sum checked. -/
def room? (c : Config) (f : Frame) : Option Nat := do
  let front ← sum? c.preambleLen syncSize
  let whole ← sum? front envelopeSize
  sum? whole f.payload.length

/-- Writes a frame behind what a buffer holds, piece by piece.  There is no answer if a sum is
beyond the largest count or the length byte cannot say the length. -/
def encodeInPlace (c : Config) (f : Frame) (buffer : Bytes) :
    Option (Bytes × Except Error Unit) := do
  if maxPreamble < c.preambleLen then
    pure (buffer, .error (.invalidConfig (.preamble c.preambleLen)))
  else if c.payloadLimit < f.payload.length then
    pure (buffer, .error (.payloadTooLarge f.payload.length c.payloadLimit))
  else
    let len ← lengthByte? f.payload.length
    let crc := Crc.ofParts [f.header.toBytes, [len], f.payload]
    let _ ← sum? buffer.length (← room? c f)
    let pieces := [List.replicate c.preambleLen preambleByte, c.sync.toBytes, f.header.toBytes,
      [len], f.payload, Crc.toBytes crc]
    pure (pieces.foldl (· ++ ·) buffer, .ok ())

theorem room?_eq (hpreamble : c.preambleLen ≤ maxPreamble)
    (hpayload : f.payload.length ≤ c.payloadLimit) :
    room? c f = some (c.preambleLen + syncSize + envelopeSize + f.payload.length) := by
  have hsmall : 519 ≤ maxCount := by decide
  have hsize := size_le hpreamble hpayload
  unfold room?
  rw [sum?_eq (by omega), Option.bind_eq_bind, Option.bind_some, sum?_eq (by omega),
    Option.bind_some, sum?_eq (by omega)]

/-- **Writing in place always gets to an answer, and to the right one.** -/
theorem encodeInPlace_eq (c : Config) (f : Frame) {buffer : Bytes}
    (hbuffer : buffer.length ≤ maxBytes) :
    encodeInPlace c f buffer = some (f.encodeOnto c buffer) := by
  unfold encodeInPlace encodeOnto encode Config.checkPreamble
  by_cases hpreamble : maxPreamble < c.preambleLen
  · rw [if_pos hpreamble, if_pos hpreamble]
    rfl
  · rw [if_neg hpreamble, if_neg hpreamble]
    by_cases hpayload : c.payloadLimit < f.payload.length
    · simp only [if_pos hpayload]
      rfl
    · rw [Nat.not_lt] at hpreamble hpayload
      have hroom : maxBytes + 519 ≤ maxCount := by decide
      have hsize := size_le hpreamble hpayload
      have hlen : lengthByte? f.payload.length = some (UInt8.ofNat f.payload.length) :=
        if_pos (Nat.le_trans hpayload (Nat.min_le_right ..))
      have hsum : buffer.length + (c.preambleLen + syncSize + envelopeSize + f.payload.length) ≤
          maxCount := by omega
      simp only [if_neg (Nat.not_lt.2 hpayload), hlen, room?_eq hpreamble hpayload, sum?_eq hsum,
        Option.bind_eq_bind, Option.bind_some]
      simp [Crc.ofParts_eq, wire, body, covered]

/-- **The announced size is summed up without an overflow.** -/
theorem wireSizeInPlace_eq (c : Config) {f : Frame} (hpayload : f.payload.length ≤ maxBytes) :
    wireSizeInPlace c f = some (f.wireSize c) := by
  have hsmall : syncSize + envelopeSize + maxBytes ≤ maxCount := by decide
  rw [wireSizeInPlace, sum?_eq (by omega)]
  rfl

/-- **Writing appends one frame or nothing**, under any settings and behind any contents.  What is
appended and the answer are those of the table, whatever the buffer holds; the answer is good
exactly if the preamble and the payload fit; and in a buffer that there can be no sum goes beyond
the largest count and no length is cut to fit its byte. -/
theorem encodeOnto_appends (c : Config) (f : Frame) :
    (∃ appended answer, Appends c f appended answer ∧
      ∀ buffer, f.encodeOnto c buffer = (buffer ++ appended, answer)) ∧
    (∀ buffer, (f.encodeOnto c buffer).2 = .ok () ↔
      c.preambleLen ≤ 255 ∧ f.payload.length ≤ min c.maxPayload 255) ∧
    (∀ buffer, buffer.length ≤ maxBytes →
      encodeInPlace c f buffer = some (f.encodeOnto c buffer)) ∧
    (f.payload.length ≤ maxBytes → wireSizeInPlace c f = some (f.wireSize c)) := by
  obtain ⟨appended, answer, htable, hall⟩ := exists_appends c f
  refine ⟨⟨appended, answer, htable, hall⟩, fun buffer => ?_,
    fun buffer => encodeInPlace_eq c f, wireSizeInPlace_eq c⟩
  rw [hall]
  cases htable with
  | preamble h => exact ⟨fun h => (nomatch h), fun hfit => absurd hfit.1 (Nat.not_le.2 h)⟩
  | payload hpreamble h => exact ⟨fun h => (nomatch h), fun hfit => absurd hfit.2 (Nat.not_le.2 h)⟩
  | frame hpreamble hpayload => exact ⟨fun _ => ⟨hpreamble, hpayload⟩, fun _ => rfl⟩

/-- Settings that are no network's: the limit on payloads is the largest count, and the sync word
looks like the preamble. -/
def unusual : Config :=
  { sync := ⟨0xAA, 0xAA⟩, preambleLen := 1, maxPayload := maxCount }

/-- Behind one byte a frame is written all the same, under them; with a preamble of the largest
count none is. -/
theorem encodeOnto_appends_unusual :
    let f : Frame := ⟨⟨2, 1, 7, 0⟩, [5]⟩
    [9].length ≤ maxBytes ∧
      encodeInPlace unusual f [9] =
        some ([9, 0xAA, 0xAA, 0xAA, 2, 1, 7, 0, 1, 5, 0xFC, 0xC5], .ok ()) ∧
      encodeInPlace { unusual with preambleLen := maxCount } f [9] =
        some ([9], .error (.invalidConfig (.preamble maxCount))) := by
  intro f
  have hbuffer : [(9 : UInt8)].length ≤ maxBytes := by decide
  have hwritten : f.encodeOnto unusual [9] =
      ([9, 0xAA, 0xAA, 0xAA, 2, 1, 7, 0, 1, 5, 0xFC, 0xC5], .ok ()) := by
    decide +kernel
  have hrefused : f.encodeOnto { unusual with preambleLen := maxCount } [9] =
      ([9], .error (.invalidConfig (.preamble maxCount))) := rfl
  exact ⟨hbuffer, hwritten ▸ (encodeOnto_appends unusual f).2.2.1 [9] hbuffer,
    hrefused ▸ (encodeOnto_appends { unusual with preambleLen := maxCount } f).2.2.1 [9] hbuffer⟩

end Frame
end PacketRadio
