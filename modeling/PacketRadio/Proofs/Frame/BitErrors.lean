/-
# Flipped bits are noticed

rflink specification, §3: a frame is valid only if its trailer matches; §11:
corruption is detected.

A frame on the wire has some of the bits after its sync word flipped: two, or
an odd number of them.  No receiver under the same settings takes what is left
for a frame.

| the length byte | what is found |
| --- | --- |
| has a flipped bit | a wrong length: the bytes that are there are still as many as before |
| has none | a wrong checksum, if the remainders of the flipped places do not cancel |

Which bits were flipped only matters for that.  The longest frame has 262 bytes
after its sync word, 2096 bits, and so far the places have different remainders.

Main statements: `decode_flipBits_wire` (of any flipped bits) and
`decode_flipBits`.
-/

import PacketRadio.Proofs.Frame.Grammar
import PacketRadio.Proofs.Frame.Remainder
import Mathlib.Data.List.Nodup

namespace PacketRadio

/-! ## Single bits -/

/-- One bit of the data, clear beyond its end. -/
def bitAt (data : Bytes) (i : Nat) : Bool :=
  (data[i / 8]?.getD 0).toBitVec.getLsbD (i % 8)

section

variable {data : Bytes} {bits : List Nat}

theorem bitAt_flipBit {i : Nat} (hi : i < 8 * data.length) (j : Nat) :
    bitAt (flipBit data i) j = (bitAt data j ^^ decide (i = j)) := by
  have hbyte : i / 8 < data.length := by omega
  unfold bitAt flipBit
  rw [List.getElem?_modify]
  by_cases hplace : i / 8 = j / 8
  · have hsame : j % 8 = i % 8 ↔ i = j := by omega
    have hbit : j % 8 < 8 := Nat.mod_lt _ (by decide)
    rw [← hplace, List.getElem?_eq_getElem hbyte]
    simp [hbit, hsame]
  · have hne : i ≠ j := fun h => hplace (h ▸ rfl)
    simp [hplace, hne]

/-- **Exactly the bits that were flipped are others.** -/
theorem bitAt_flipBits (hdistinct : bits.Nodup) (hbits : ∀ i ∈ bits, i < 8 * data.length)
    (j : Nat) : bitAt (flipBits data bits) j = (bitAt data j ^^ decide (j ∈ bits)) := by
  induction bits generalizing data with
  | nil => simp
  | cons i bits ih =>
    obtain ⟨hi, hrest⟩ := List.forall_mem_cons.1 hbits
    obtain ⟨hfresh, hdistinct⟩ := List.nodup_cons.1 hdistinct
    rw [flipBits_cons, ih hdistinct (by simpa using hrest), bitAt_flipBit hi]
    by_cases hij : i = j
    · subst hij
      simp [hfresh]
    · simp [hij, Ne.symm hij]

/-- **A byte with a flipped bit is another byte.** -/
theorem getElem?_flipBits_ne (hdistinct : bits.Nodup) (hbits : ∀ i ∈ bits, i < 8 * data.length)
    {k : Nat} (h : ∃ i ∈ bits, i / 8 = k) : (flipBits data bits)[k]? ≠ data[k]? := by
  obtain ⟨i, hi, rfl⟩ := h
  intro hsame
  have hbit : bitAt (flipBits data bits) i = bitAt data i := by rw [bitAt, bitAt, hsame]
  rw [bitAt_flipBits hdistinct hbits, decide_eq_true hi] at hbit
  simp at hbit

/-- **A byte without one stays.** -/
theorem getElem?_flipBits_of_ne {k : Nat} (h : ∀ i ∈ bits, i / 8 ≠ k) :
    (flipBits data bits)[k]? = data[k]? := by
  induction bits generalizing data with
  | nil => rfl
  | cons i bits ih =>
    obtain ⟨hi, hrest⟩ := List.forall_mem_cons.1 h
    rw [flipBits_cons, ih hrest, flipBit, List.getElem?_modify]
    simp [hi]

end

/-- Bits behind a prefix are flipped behind it. -/
theorem flipBits_append (front : Bytes) {data : Bytes} {bits : List Nat}
    (h : ∀ i ∈ bits, 8 * front.length ≤ i) :
    flipBits (front ++ data) bits =
      front ++ flipBits data (bits.map (· - 8 * front.length)) := by
  have hflip : ∀ (front data : Bytes) (i : Nat), 8 * front.length ≤ i →
      flipBit (front ++ data) i = front ++ flipBit data (i - 8 * front.length) := by
    intro front data i hi
    induction front generalizing i with
    | nil => rfl
    | cons b front ih =>
      rw [List.length_cons] at hi
      rw [List.cons_append, flipBit_cons_of_le _ _ _ (by omega), ih _ (by omega), List.length_cons,
        List.cons_append]
      congr 3
      omega
  induction bits generalizing data with
  | nil => rfl
  | cons i bits ih =>
    obtain ⟨hi, hrest⟩ := List.forall_mem_cons.1 h
    rw [flipBits_cons, hflip front data i hi, ih hrest, List.map_cons, flipBits_cons]

namespace Frame

/-! ## What a reader makes of them -/

/-- **The trailer of a frame clears the register.** -/
theorem ofBytes_body (f : Frame) : Crc.ofBytes f.body = 0 := by
  rw [body, Crc.toBytes, Crc.ofBytes_append_trailer, Crc.ofTrailer_toBytes]

section

variable {f : Frame} {bits : List Nat} {limit : Nat}

/-- The length byte of a frame. -/
theorem getElem?_body (hf : f.payload.length ≤ lengthLimit) :
    ∃ len : UInt8, f.body[4]? = some len ∧ len.toNat = f.payload.length := by
  refine ⟨UInt8.ofNat f.payload.length, rfl, ?_⟩
  rw [UInt8.toNat_ofNat']
  exact Nat.mod_eq_of_lt (by unfold lengthLimit at hf; omega)

/-- **A flipped bit in the length byte makes the length wrong.** -/
theorem parseBody_flipBits_length (hf : f.payload.length ≤ lengthLimit) (hdistinct : bits.Nodup)
    (hbits : ∀ i ∈ bits, i < 8 * f.body.length) (htouched : ∃ i ∈ bits, i / 8 = 4) :
    ∃ declared, declared ≠ f.body.length ∧
      parseBody limit (flipBits f.body bits) = .error (.length declared f.body.length) := by
  obtain ⟨len, hlen, hsize⟩ := getElem?_body hf
  have hne := getElem?_flipBits_ne hdistinct hbits htouched
  have h7 : envelopeSize ≤ (flipBits f.body bits).length := by simp
  obtain ⟨len', hlen'⟩ : ∃ len', (flipBits f.body bits)[4]? = some len' := by
    obtain ⟨_, _, _, _, len', _, heq⟩ := exists_length_byte h7
    exact ⟨len', heq ▸ rfl⟩
  have hdeclared : envelopeSize + len'.toNat ≠ f.body.length := by
    intro h
    rw [length_body, ← hsize] at h
    refine hne ?_
    rw [hlen', hlen, UInt8.toNat_inj.1 (Nat.add_left_cancel h)]
  refine ⟨envelopeSize + len'.toNat, hdeclared, ?_⟩
  rw [parseBody_length h7 hlen' (.inr (by simpa using hdeclared.symm)), length_flipBits]

/-- **Flipped bits elsewhere make the checksum wrong**, if they leave the register anything but
clear. -/
theorem parseBody_flipBits_of_ne_zero (hf : f.payload.length ≤ lengthLimit)
    (hlimit : f.payload.length ≤ limit) (huntouched : ∀ i ∈ bits, i / 8 ≠ 4)
    (hnonzero : Crc.ofBytes (flipBits f.body bits) ≠ 0) :
    ∃ received computed, received ≠ computed ∧
      parseBody limit (flipBits f.body bits) = .error (.checksum received computed) := by
  obtain ⟨len, hlen, hsize⟩ := getElem?_body hf
  have hlen' : (flipBits f.body bits)[4]? = some len := by
    rw [getElem?_flipBits_of_ne huntouched, hlen]
  obtain ⟨g, low, high, hsplit, hg⟩ := exists_covered hlen' (by simp [hsize])
  rw [hsplit] at hnonzero
  have htrailer : Crc.ofTrailer low high ≠ Crc.ofBytes g.covered :=
    fun h => hnonzero ((Crc.ofBytes_append_trailer _ _ _).2 h)
  have hwithin : ¬limit < g.payload.length := by
    rw [hg, hsize]
    exact Nat.not_lt.2 hlimit
  refine ⟨_, _, htrailer, ?_⟩
  rw [hsplit, parseBody_covered (payload_le_lengthLimit hg), if_neg hwithin, if_pos htrailer]

end

/-- **Flipped bits whose remainders do not cancel are noticed.**  If one of them belongs to the
length byte, the length is found to be wrong, and otherwise the checksum is. -/
theorem decode_flipBits_wire {c : Config} (hc : c.Valid) {f : Frame}
    (hf : f.payload.length ≤ c.payloadLimit) {bits : List Nat} (hdistinct : bits.Nodup)
    (hbits : ∀ i ∈ bits, 8 * (c.preambleLen + 2) ≤ i ∧ i < 8 * (f.wire c).length)
    (hsyndrome : Crc.syndrome (8 * (f.wire c).length) bits ≠ 0) :
    ((∃ i ∈ bits, i / 8 = c.preambleLen + 6) → ∃ declared, declared ≠ f.body.length ∧
      decode c (flipBits (f.wire c) bits) = .error (.length declared f.body.length)) ∧
    ((∀ i ∈ bits, i / 8 ≠ c.preambleLen + 6) → ∃ received computed, received ≠ computed ∧
      decode c (flipBits (f.wire c) bits) = .error (.checksum received computed)) := by
  have hlimit : f.payload.length ≤ lengthLimit := Nat.le_trans hf (Nat.min_le_right _ _)
  have hwire : (f.wire c).length = c.preambleLen + 2 + f.body.length := by
    simp only [length_wire, length_body, syncSize]
    omega
  let front := List.replicate c.preambleLen preambleByte ++ c.sync.toBytes
  have hfront : 8 * (c.preambleLen + 2) = 8 * front.length := by simp [front, SyncWord.toBytes]
  have hafter : ∀ i ∈ bits, 8 * front.length ≤ i := fun i hi => hfront ▸ (hbits i hi).1
  -- The places of the flipped bits, counted from the end of the sync word.
  let inner := bits.map (· - 8 * front.length)
  have hread : decode c (flipBits (f.wire c) bits) =
      parseBody c.payloadLimit (flipBits f.body inner) := by
    have hflip : flipBits (f.wire c) bits = front ++ flipBits f.body inner :=
      flipBits_append front hafter
    rw [hflip]
    exact decode_front_append hc _
  have hinner : ∀ i ∈ inner, i < 8 * f.body.length := by
    intro i hi
    obtain ⟨j, hj, rfl⟩ := List.mem_map.1 hi
    have hin := hbits j hj
    omega
  rw [hread]
  constructor
  · rintro ⟨i, hi, hlen⟩
    have hdistinct' : inner.Nodup := by
      refine List.Nodup.map_on (fun i hi j hj h => ?_) hdistinct
      have hle := hafter i hi
      have hle' := hafter j hj
      omega
    exact parseBody_flipBits_length hlimit hdistinct' hinner
      ⟨_, List.mem_map_of_mem hi, by omega⟩
  · intro hlen
    have hnonzero : Crc.ofBytes (flipBits f.body inner) ≠ 0 := by
      have hbody : 8 * f.body.length = 8 * (f.wire c).length - 8 * front.length := by omega
      rw [Crc.ofBytes_flipBits hinner, ofBytes_body, hbody, Crc.syndrome_map_sub hafter]
      simpa using hsyndrome
    refine parseBody_flipBits_of_ne_zero hlimit hf (fun i hi => ?_) hnonzero
    obtain ⟨j, hj, rfl⟩ := List.mem_map.1 hi
    have hle := hafter j hj
    have hother := hlen j hj
    omega

/-- **Two flipped bits or an odd number of them are never taken for a frame.**  The bits lie after
the sync word of a frame on the wire, in any order.  If one of them belongs to the length byte,
the length is found to be wrong, and otherwise the checksum is. -/
theorem decode_flipBits {c : Config} (hc : c.validate = .ok ()) {f : Frame} {w : Bytes}
    (hw : f.encode c = .ok w) {bits : List Nat} (hdistinct : bits.Nodup)
    (hbits : ∀ i ∈ bits, 8 * (c.preambleLen + 2) ≤ i ∧ i < 8 * w.length)
    (hcount : bits.length = 2 ∨ bits.length % 2 = 1) :
    ((∃ i ∈ bits, i / 8 = c.preambleLen + 6) → ∃ declared, declared ≠ 7 + f.payload.length ∧
      decode c (flipBits w bits) = .error (.length declared (7 + f.payload.length))) ∧
    ((∀ i ∈ bits, i / 8 ≠ c.preambleLen + 6) → ∃ received computed, received ≠ computed ∧
      decode c (flipBits w bits) = .error (.checksum received computed)) := by
  obtain ⟨-, hlimit, rfl⟩ := (encode_eq_ok_iff c f w).1 hw
  have hf : f.payload.length ≤ lengthLimit := Nat.le_trans hlimit (Nat.min_le_right _ _)
  have hsyndrome : Crc.syndrome (8 * (f.wire c).length) bits ≠ 0 := by
    refine Crc.syndrome_ne_zero hdistinct (fun i hi => ⟨(hbits i hi).2, ?_⟩) hcount
    have hafter := (hbits i hi).1
    simp only [length_wire, syncSize, envelopeSize, lengthLimit] at hf ⊢
    omega
  rw [← show f.body.length = 7 + f.payload.length from length_body f]
  exact decode_flipBits_wire ((Config.validate_eq_ok_iff c).1 hc) hlimit hdistinct hbits hsyndrome

/-- A frame with one byte of payload, on which the length byte, two bits of the trailer, or three
bits of the header and the payload are hit. -/
theorem decode_flipBits_three :
    let c : Config := {}
    let f : Frame := ⟨⟨2, 1, 7, 0⟩, [0x2D]⟩
    (∃ declared, declared ≠ 8 ∧
      decode c (flipBits (f.wire c) [80]) = .error (.length declared 8)) ∧
    (∃ received computed, received ≠ computed ∧
      decode c (flipBits (f.wire c) [96, 111]) = .error (.checksum received computed)) ∧
    (∃ received computed, received ≠ computed ∧
      decode c (flipBits (f.wire c) [90, 48, 79]) = .error (.checksum received computed)) := by
  intro c f
  have hc : c.validate = .ok () := rfl
  have hw : f.encode c = .ok (f.wire c) := rfl
  have hread := fun bits => @decode_flipBits c hc f _ hw bits
  exact ⟨(hread [80] (by decide) (by decide) (by decide)).1 (by decide),
    (hread [96, 111] (by decide) (by decide) (by decide)).2 (by decide),
    (hread [90, 48, 79] (by decide) (by decide) (by decide)).2 (by decide)⟩

end Frame
end PacketRadio
