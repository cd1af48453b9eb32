/-
# What the register of the checksum keeps

rflink specification, §3: the integrity trailer.

A message followed by its own checksum, low byte first, leaves the register
clear, and no other trailer does.  Flipping bits of a message adds one
remainder for each bit, which depends only on how many bits are left after it.
So flipped bits go unnoticed exactly if the remainders of their places add up
to nothing (`syndrome`).

Two things are known of the divisor that rule this out.

| flipped bits | why their remainders do not cancel |
| --- | --- |
| an odd number | division keeps the parity of the register, and each remainder is odd |
| two | within 2096 bits of division the register does not come back to one |

Main statements: `ofBytes_append_trailer`, `ofBytes_flipBits` and
`syndrome_ne_zero`.
-/

import PacketRadio.Frame.Checksum

namespace PacketRadio

/-! ## Flipped bits -/

/-- The data with one bit flipped.  The bits of a byte are counted from the lowest. -/
def flipBit (data : Bytes) (i : Nat) : Bytes :=
  data.modify (i / 8) fun b => b ^^^ ⟨BitVec.twoPow 8 (i % 8)⟩

/-- The data with several bits flipped. -/
def flipBits (data : Bytes) (bits : List Nat) : Bytes :=
  bits.foldl flipBit data

section

variable (data : Bytes) (i : Nat) (bits : List Nat)

theorem flipBit_cons_of_lt (b : UInt8) (h : i < 8) :
    flipBit (b :: data) i = (b ^^^ ⟨BitVec.twoPow 8 i⟩) :: data := by
  rw [flipBit, Nat.div_eq_of_lt h, Nat.mod_eq_of_lt h, List.modify_zero_cons]

theorem flipBit_cons_of_le (b : UInt8) (h : 8 ≤ i) :
    flipBit (b :: data) i = b :: flipBit data (i - 8) := by
  have hplace : i / 8 = (i - 8) / 8 + 1 := by omega
  have hbit : i % 8 = (i - 8) % 8 := by omega
  rw [flipBit, flipBit, hplace, hbit, List.modify_succ_cons]

@[simp] theorem length_flipBit : (flipBit data i).length = data.length := by
  simp [flipBit]

@[simp] theorem flipBits_nil : flipBits data [] = data := rfl

@[simp] theorem flipBits_cons : flipBits data (i :: bits) = flipBits (flipBit data i) bits := rfl

@[simp] theorem length_flipBits : (flipBits data bits).length = data.length := by
  induction bits generalizing data with
  | nil => rfl
  | cons i bits ih => rw [flipBits_cons, ih, length_flipBit]

end

namespace Crc

/-! ## Division loses nothing -/

/-- **A register is only cleared by division if it was clear.** -/
theorem advance_eq_zero_iff (r : BitVec 16) : advance r = 0 ↔ r = 0 := by
  constructor
  · intro h
    unfold advance at h
    split at h
    · rename_i hlow
      -- The divisor's topmost bit stays, for the shift has made room for it.
      have htop := congrArg (BitVec.getLsbD · 15) h
      simp [divisor] at htop
    · rename_i hlow
      apply BitVec.eq_of_getLsbD_eq
      intro i hi
      cases i with
      | zero => simpa using hlow
      | succ i =>
        have hbit := congrArg (BitVec.getLsbD · i) h
        simpa [BitVec.getLsbD_ushiftRight, Nat.add_comm] using hbit
  · rintro rfl
    rfl

theorem advances_eq_zero_iff (n : Nat) (r : BitVec 16) : advances n r = 0 ↔ r = 0 := by
  induction n generalizing r with
  | zero => rfl
  | succ n ih => rw [advances, ih, advance_eq_zero_iff]

/-- **Different registers stay different.** -/
theorem advances_inj (n : Nat) (r s : BitVec 16) : advances n r = advances n s ↔ r = s := by
  calc advances n r = advances n s
      ↔ advances n r ^^^ advances n s = 0 := BitVec.xor_eq_zero_iff.symm
    _ ↔ advances n (r ^^^ s) = 0 := by rw [advances_xor]
    _ ↔ r ^^^ s = 0 := advances_eq_zero_iff n _
    _ ↔ r = s := BitVec.xor_eq_zero_iff

/-- Bits that are not divided yet only move down. -/
theorem advances_shiftLeft (n : Nat) {r : BitVec 16} (h : ∀ i, 16 ≤ i + n → r.getLsbD i = false) :
    advances n (r <<< n) = r := by
  induction n with
  | zero => simp [advances]
  | succ n ih =>
    have hlow : (r <<< (n + 1)).getLsbD 0 = false := by simp
    have hshift : (r <<< (n + 1)) >>> 1 = r <<< n := by
      apply BitVec.eq_of_getLsbD_eq
      intro i hi
      simp only [BitVec.getLsbD_ushiftRight, BitVec.getLsbD_shiftLeft]
      by_cases hin : i < n
      · simp [hin, show 1 + i < n + 1 by omega]
      · have hplace : 1 + i - (n + 1) = i - n := by omega
        by_cases htop : 1 + i < 16
        · simp [hin, hi, htop, hplace, show ¬1 + i < n + 1 by omega]
        · simp [htop, h (i - n) (by omega)]
    rw [advances, advance, hlow, if_neg Bool.false_ne_true, hshift]
    exact ih fun i hi => h i (by omega)

/-! ## Remainders of messages -/

/-- **What was in the register before a message is divided along with it.** -/
theorem update_xor (r s : BitVec 16) (data : Bytes) :
    update (r ^^^ s) data = update r data ^^^ advances (8 * data.length) s := by
  induction data generalizing r s with
  | nil => rfl
  | cons b data ih =>
    have hb : absorb (r ^^^ s) b = absorb r b ^^^ advances 8 s := by
      unfold absorb
      rw [← advances_xor]
      congr 1
      ac_rfl
    rw [update_cons, update_cons, hb, ih, List.length_cons, Nat.mul_succ, Nat.add_comm,
      advances_add]

/-- **A trailer is added to the register two bytes before the end.** -/
theorem update_trailer (r : BitVec 16) (low high : UInt8) :
    update r [low, high] = advances 16 (r ^^^ ofTrailer low high) := by
  have hhigh : advances 8 (high.toBitVec.setWidth 16 <<< 8) = high.toBitVec.setWidth 16 := by
    refine advances_shiftLeft 8 fun i hi => ?_
    simp [BitVec.getLsbD_setWidth, BitVec.getLsbD_of_ge high.toBitVec i (by omega)]
  have hsplit :
      ofTrailer low high = low.toBitVec.setWidth 16 ^^^ high.toBitVec.setWidth 16 <<< 8 := by
    apply BitVec.eq_of_getLsbD_eq
    intro i hi
    simp only [ofTrailer, BitVec.getLsbD_append, BitVec.getLsbD_xor, BitVec.getLsbD_setWidth,
      BitVec.getLsbD_shiftLeft]
    by_cases h : i < 8
    · simp [h, hi]
    · simp [h, hi, BitVec.getLsbD_of_ge low.toBitVec i (by omega), show i - 8 < 16 by omega]
  calc update r [low, high]
      = advances 8 (advances 8 (r ^^^ low.toBitVec.setWidth 16) ^^^
          advances 8 (high.toBitVec.setWidth 16 <<< 8)) := by rw [hhigh]; rfl
    _ = advances 8 (advances 8 (r ^^^ ofTrailer low high)) := by
        rw [← advances_xor 8 (r ^^^ _), hsplit, BitVec.xor_assoc]
    _ = advances 16 (r ^^^ ofTrailer low high) := (advances_add 8 8 _).symm

/-- **A message and a trailer leave the register clear exactly if the trailer is the checksum.** -/
theorem ofBytes_append_trailer (data : Bytes) (low high : UInt8) :
    ofBytes (data ++ [low, high]) = 0 ↔ ofTrailer low high = ofBytes data := by
  rw [ofBytes, update_append, update_trailer, advances_eq_zero_iff]
  exact BitVec.xor_eq_zero_iff.trans eq_comm

/-- A byte with a single bit. -/
theorem absorb_twoPow {t : Nat} (ht : t < 8) :
    absorb 0 ⟨BitVec.twoPow 8 t⟩ = advances (8 - t) 1 := by
  have hwide : (BitVec.twoPow 8 t).setWidth 16 = (1 : BitVec 16) <<< t := by
    apply BitVec.eq_of_getLsbD_eq
    intro i hi
    simp only [BitVec.getLsbD_setWidth, BitVec.getLsbD_twoPow, BitVec.getLsbD_shiftLeft,
      BitVec.ofNat_eq_ofNat, BitVec.getLsbD_one]
    by_cases h : t = i
    · simp [h, hi, h ▸ ht]
    · simp [h]
      omega
  have hone : advances t ((1 : BitVec 16) <<< t) = 1 := by
    refine advances_shiftLeft t fun i hi => ?_
    simp [BitVec.getLsbD_one]
    omega
  calc absorb 0 ⟨BitVec.twoPow 8 t⟩
      = advances (t + (8 - t)) ((1 : BitVec 16) <<< t) := by
        rw [← hwide, Nat.add_sub_of_le (Nat.le_of_lt ht), absorb]
        simp
    _ = advances (8 - t) 1 := by rw [advances_add, hone]

/-- **A flipped bit adds the remainder of its place.** -/
theorem update_flipBit (r : BitVec 16) {data : Bytes} {i : Nat} (hi : i < 8 * data.length) :
    update r (flipBit data i) = update r data ^^^ advances (8 * data.length - i) 1 := by
  induction data generalizing r i with
  | nil => simp at hi
  | cons b data ih =>
    rw [List.length_cons] at hi ⊢
    rcases Nat.lt_or_ge i 8 with hfirst | hlater
    · have hb : absorb r (b ^^^ ⟨BitVec.twoPow 8 i⟩) = absorb r b ^^^ advances (8 - i) 1 := by
        rw [← absorb_twoPow hfirst, ← absorb_xor]
        simp
      rw [flipBit_cons_of_lt data i b hfirst, update_cons, update_cons, hb, update_xor,
        ← advances_add]
      congr 2
      omega
    · rw [flipBit_cons_of_le data i b hlater, update_cons, update_cons, ih _ (by omega)]
      congr 2
      omega

/-- What flipping bits of a message of `n` bits adds to its remainder. -/
def syndrome (n : Nat) (bits : List Nat) : BitVec 16 :=
  bits.foldr (fun i r => advances (n - i) 1 ^^^ r) 0

/-- **Flipped bits add up.** -/
theorem ofBytes_flipBits {data : Bytes} {bits : List Nat}
    (hbits : ∀ i ∈ bits, i < 8 * data.length) :
    ofBytes (flipBits data bits) = ofBytes data ^^^ syndrome (8 * data.length) bits := by
  induction bits generalizing data with
  | nil => simp [syndrome]
  | cons i bits ih =>
    obtain ⟨hi, hrest⟩ := List.forall_mem_cons.1 hbits
    rw [flipBits_cons, ih (by simpa using hrest), ofBytes, update_flipBit 0 hi, length_flipBit,
      syndrome, syndrome, List.foldr_cons, ofBytes, BitVec.xor_assoc]

/-- Only the bits behind a place matter for its remainder. -/
theorem syndrome_map_sub {m n : Nat} {bits : List Nat} (h : ∀ i ∈ bits, m ≤ i) :
    syndrome (n - m) (bits.map (· - m)) = syndrome n bits := by
  induction bits with
  | nil => rfl
  | cons i bits ih =>
    obtain ⟨hi, hrest⟩ := List.forall_mem_cons.1 h
    have hplace : n - m - (i - m) = n - i := by omega
    rw [List.map_cons, syndrome, List.foldr_cons, hplace, ← syndrome, ih hrest]
    rfl

/-! ## An odd number of bits -/

/-- There is an odd number of ones among the lowest `n` bits. -/
def parity : Nat → BitVec 16 → Bool
  | 0, _ => false
  | n + 1, r => r.getLsbD n ^^ parity n r

theorem parity_xor (n : Nat) (r s : BitVec 16) :
    parity n (r ^^^ s) = (parity n r ^^ parity n s) := by
  induction n with
  | zero => rfl
  | succ n ih =>
    simp only [parity, ih, BitVec.getLsbD_xor, Bool.xor_assoc, Bool.xor_left_comm]

theorem parity_ushiftRight (n : Nat) (r : BitVec 16) :
    (r.getLsbD 0 ^^ parity n (r >>> 1)) = parity (n + 1) r := by
  induction n with
  | zero => rfl
  | succ n ih =>
    rw [parity, parity, ← ih, BitVec.getLsbD_ushiftRight, Nat.add_comm 1 n, Bool.xor_left_comm]

/-- **Division keeps the parity**: what falls out at the end is made up for by the divisor. -/
theorem parity_advance (r : BitVec 16) : parity 16 (advance r) = parity 16 r := by
  have hwide : parity 17 r = parity 16 r := by
    rw [parity, BitVec.getLsbD_of_ge r 16 (Nat.le_refl _), Bool.false_xor]
  have hshift := parity_ushiftRight 16 r
  have hdivisor : parity 16 divisor = true := by decide
  unfold advance
  split
  · rename_i hlow
    rw [parity_xor, hdivisor, ← hwide, ← hshift, hlow, Bool.xor_comm]
  · rename_i hlow
    rw [← hwide, ← hshift, eq_false_of_ne_true hlow, Bool.false_xor]

theorem parity_advances (n : Nat) (r : BitVec 16) : parity 16 (advances n r) = parity 16 r := by
  induction n generalizing r with
  | zero => rfl
  | succ n ih => rw [advances, ih, parity_advance]

/-- **As many bits as were flipped, as many odd remainders were added.** -/
theorem parity_syndrome (n : Nat) (bits : List Nat) :
    parity 16 (syndrome n bits) = decide (bits.length % 2 = 1) := by
  have hone : parity 16 1 = true := by decide
  induction bits with
  | nil => exact show parity 16 0 = false by decide
  | cons i bits ih =>
    rw [syndrome, List.foldr_cons, parity_xor, parity_advances, hone, ← syndrome, ih,
      List.length_cons, Bool.true_xor, ← decide_not]
    congr 1
    simp only [eq_iff_iff]
    omega

/-! ## Two bits -/

/-- The register is not one after any of the next `n` bits of division. -/
def staysAway : Nat → BitVec 16 → Bool
  | 0, _ => true
  | n + 1, r => advance r != 1 && staysAway n (advance r)

theorem advances_ne_one {n d : Nat} {r : BitVec 16} (h : staysAway n r = true) (hpos : 0 < d)
    (hd : d ≤ n) : advances d r ≠ 1 := by
  induction n generalizing d r with
  | zero => omega
  | succ n ih =>
    obtain ⟨hnext, hrest⟩ := Bool.and_eq_true_iff.1 h
    obtain ⟨d, rfl⟩ : ∃ k, d = k + 1 := ⟨d - 1, by omega⟩
    cases d with
    | zero => exact bne_iff_ne.1 hnext
    | succ d =>
      rw [advances]
      exact ih hrest (Nat.succ_pos d) (by omega)

/-- **One does not come back within the longest frame**, which has 262 bytes after its sync
word. -/
theorem staysAway_one : staysAway 2096 1 = true := by
  decide +kernel

/-- **Two places within that distance have different remainders.** -/
theorem advances_one_ne {m n : Nat} (hlt : m < n) (hn : n ≤ 2096) :
    advances m 1 ≠ advances n 1 := by
  intro h
  have hsplit : advances n 1 = advances m (advances (n - m) 1) := by
    rw [← advances_add, Nat.sub_add_cancel (Nat.le_of_lt hlt)]
  rw [hsplit, advances_inj] at h
  exact advances_ne_one staysAway_one (by omega) (by omega) h.symm

/-- **Two flipped bits or an odd number of them do not cancel**, if none of them is further from the
end than that. -/
theorem syndrome_ne_zero {n : Nat} {bits : List Nat} (hdistinct : bits.Nodup)
    (hbits : ∀ i ∈ bits, i < n ∧ n ≤ i + 2096) (hcount : bits.length = 2 ∨ bits.length % 2 = 1) :
    syndrome n bits ≠ 0 := by
  intro hzero
  rcases hcount with htwo | hodd
  · match bits, htwo with
    | [i, j], _ =>
      have heq : advances (n - i) 1 = advances (n - j) 1 := by
        simpa [syndrome] using hzero
      have hij : i ≠ j := by simpa using hdistinct
      obtain ⟨hi, hj⟩ : (i < n ∧ n ≤ i + 2096) ∧ (j < n ∧ n ≤ j + 2096) := by simpa using hbits
      rcases Nat.lt_or_gt_of_ne hij with hlt | hlt
      · exact advances_one_ne (by omega) (by omega) heq.symm
      · exact advances_one_ne (by omega) (by omega) heq
  · have hparity := parity_syndrome n bits
    rw [hzero, hodd] at hparity
    exact absurd hparity (by decide)

end Crc
end PacketRadio
