/-
# Bursts of flipped bits are noticed

rflink specification, §3: a frame is valid only if its trailer matches; §11:
corruption is detected.

A burst hits bits of a frame that lie within 16 bits in a row, behind its sync
word.  The register takes the bits of a byte from the lowest on, and its own
low byte goes out first.  So a frame with its trailer is one row of bits, and
a burst is a word of 16 of them, wherever it lies: in the header, in the
payload, in the trailer or across the border between them.

| flipped bits | their remainders add up to |
| --- | --- |
| of a burst from the place `s` on | the word that they make, divided along with the `n - s` bits from there on |
| of none | nothing |

Division loses nothing, and the word is not empty.  So the checksum is wrong,
unless the length already is.

Main statements: `Crc.syndrome_eq_advances` and `decode_burst`.
-/

import PacketRadio.Proofs.Frame.BitErrors

namespace PacketRadio

namespace Crc

variable {bits : List Nat} {s n : Nat}

/-- The word that flipped bits make from the place `s` on. -/
def burst (s : Nat) (bits : List Nat) : BitVec 16 :=
  bits.foldr (fun i r => (1 : BitVec 16) <<< (i - s) ^^^ r) 0

@[simp] theorem burst_cons (i : Nat) :
    burst s (i :: bits) = (1 : BitVec 16) <<< (i - s) ^^^ burst s bits := rfl

/-- **The word has the bits that are flipped.** -/
theorem getLsbD_burst (hdistinct : bits.Nodup) (hbits : ∀ i ∈ bits, s ≤ i) {k : Nat} (hk : k < 16) :
    (burst s bits).getLsbD k = decide (s + k ∈ bits) := by
  induction bits with
  | nil => simp [burst]
  | cons i bits ih =>
    obtain ⟨hi, hrest⟩ := List.forall_mem_cons.1 hbits
    obtain ⟨hfresh, hdistinct⟩ := List.nodup_cons.1 hdistinct
    have hone : ((1 : BitVec 16) <<< (i - s)).getLsbD k = decide (s + k = i) := by
      simp only [BitVec.getLsbD_shiftLeft, BitVec.ofNat_eq_ofNat, BitVec.getLsbD_one, hk,
        decide_true, Bool.true_and, Nat.zero_lt_succ, ← decide_not, ← Bool.decide_and]
      congr 1
      simp only [eq_iff_iff]
      omega
    rw [burst_cons, BitVec.getLsbD_xor, hone, ih hdistinct hrest]
    by_cases hplace : s + k = i
    · simp [hplace, hfresh]
    · simp [hplace]

/-- **The word is not empty** if a bit is flipped. -/
theorem burst_ne_zero (hne : bits ≠ []) (hdistinct : bits.Nodup)
    (hbits : ∀ i ∈ bits, s ≤ i ∧ i < s + 16) : burst s bits ≠ 0 := by
  obtain ⟨i, hi⟩ := List.exists_mem_of_ne_nil bits hne
  obtain ⟨hle, hlt⟩ := hbits i hi
  intro hzero
  have hbit := getLsbD_burst hdistinct (fun j hj => (hbits j hj).1) (k := i - s) (by omega)
  rw [hzero, Nat.add_sub_of_le hle, decide_eq_true hi] at hbit
  simp at hbit

/-- A single bit of a word is divided from its own place on only. -/
theorem advances_one_shiftLeft {k : Nat} (hk : k < 16) (hn : k ≤ n) :
    advances n ((1 : BitVec 16) <<< k) = advances (n - k) 1 := by
  have hmoves : advances k ((1 : BitVec 16) <<< k) = 1 := by
    refine advances_shiftLeft k fun i hi => ?_
    simp [BitVec.getLsbD_one]
    omega
  rw [← Nat.add_sub_of_le hn, advances_add, hmoves, Nat.add_sub_cancel_left]

/-- **The remainders of a burst are that of its word.** -/
theorem syndrome_eq_advances (hbits : ∀ i ∈ bits, (s ≤ i ∧ i < s + 16) ∧ i < n) :
    syndrome n bits = advances (n - s) (burst s bits) := by
  induction bits with
  | nil => exact ((advances_eq_zero_iff _ _).2 rfl).symm
  | cons i bits ih =>
    obtain ⟨⟨⟨hle, hlt⟩, hi⟩, hrest⟩ := List.forall_mem_cons.1 hbits
    have hplace : n - s - (i - s) = n - i := by omega
    have hstep : syndrome n (i :: bits) = advances (n - i) 1 ^^^ syndrome n bits := rfl
    rw [hstep, ih hrest, burst_cons, advances_xor, advances_one_shiftLeft (by omega) (by omega),
      hplace]

/-- **The remainders of a burst do not cancel.** -/
theorem syndrome_burst_ne_zero (hne : bits ≠ []) (hdistinct : bits.Nodup)
    (hbits : ∀ i ∈ bits, i < n) (hburst : ∀ i ∈ bits, s ≤ i ∧ i < s + 16) :
    syndrome n bits ≠ 0 := by
  rw [syndrome_eq_advances fun i hi => ⟨hburst i hi, hbits i hi⟩, Ne, advances_eq_zero_iff]
  exact burst_ne_zero hne hdistinct hburst

end Crc

namespace Frame

/-- **A burst is never taken for a frame.**  The flipped bits lie within 16 bits in a row, anywhere
after the sync word of a frame on the wire, and there is at least one.  If one of them belongs to
the length byte, the length is found to be wrong, and otherwise the checksum is. -/
theorem decode_burst {c : Config} (hc : c.validate = .ok ()) {f : Frame} {w : Bytes}
    (hw : f.encode c = .ok w) {bits : List Nat} (hne : bits ≠ []) (hdistinct : bits.Nodup)
    (hbits : ∀ i ∈ bits, 8 * (c.preambleLen + 2) ≤ i ∧ i < 8 * w.length) {s : Nat}
    (hburst : ∀ i ∈ bits, s ≤ i ∧ i < s + 16) :
    ((∃ i ∈ bits, i / 8 = c.preambleLen + 6) → ∃ declared, declared ≠ 7 + f.payload.length ∧
      decode c (flipBits w bits) = .error (.length declared (7 + f.payload.length))) ∧
    ((∀ i ∈ bits, i / 8 ≠ c.preambleLen + 6) → ∃ received computed, received ≠ computed ∧
      decode c (flipBits w bits) = .error (.checksum received computed)) := by
  obtain ⟨-, hf, rfl⟩ := (encode_eq_ok_iff c f w).1 hw
  have hsyndrome : Crc.syndrome (8 * (f.wire c).length) bits ≠ 0 :=
    Crc.syndrome_burst_ne_zero hne hdistinct (fun i hi => (hbits i hi).2) hburst
  rw [← show f.body.length = 7 + f.payload.length from length_body f]
  exact decode_flipBits_wire ((Config.validate_eq_ok_iff c).1 hc) hf hdistinct hbits hsyndrome

/-- A frame with one byte of payload.  One burst runs from the last bit of the payload into the
trailer, with four bits, and one from the flags into the length byte. -/
theorem decode_burst_across :
    let c : Config := {}
    let f : Frame := ⟨⟨2, 1, 7, 0⟩, [0x2D]⟩
    (∃ received computed, received ≠ computed ∧
      decode c (flipBits (f.wire c) [95, 96, 103, 110]) = .error (.checksum received computed)) ∧
    (∃ declared, declared ≠ 8 ∧
      decode c (flipBits (f.wire c) [87, 72]) = .error (.length declared 8)) := by
  intro c f
  have hc : c.validate = .ok () := rfl
  have hw : f.encode c = .ok (f.wire c) := rfl
  exact ⟨(@decode_burst c hc f _ hw [95, 96, 103, 110] (by decide) (by decide) (by decide) 95
      (by decide)).2 (by decide),
    (@decode_burst c hc f _ hw [87, 72] (by decide) (by decide) (by decide) 72 (by decide)).1
      (by decide)⟩

end Frame
end PacketRadio
