/-
# The integrity trailer: CRC-16

rflink specification, §3: CRC-16/IBM, i.e. CRC-16/ARC (reflected polynomial
`0xA001`, initial value `0x0000`).

A 16-bit register starts at zero, takes the bits of each byte with the least
significant first, and divides by `x¹⁶ + x¹⁵ + x² + 1` (`0xA001` with its
bits in the order of the register).  Nothing is added at the end, and the
register goes out with its low byte first.

Main statements: the register is linear over exclusive or (`advance_xor`,
`absorb_xor`), and the parts of a message can be taken one after another
(`ofParts_eq`).
-/

import PacketRadio.Bytes

namespace PacketRadio
namespace Crc

/-- The divisor without its leading term, in the bit order of the register. -/
def divisor : BitVec 16 := 0xA001

/-- One bit's worth of division. -/
def advance (r : BitVec 16) : BitVec 16 :=
  if r.getLsbD 0 then (r >>> 1) ^^^ divisor else r >>> 1

/-- `n` bits' worth of division. -/
def advances : Nat → BitVec 16 → BitVec 16
  | 0, r => r
  | n + 1, r => advances n (advance r)

/-- The register after one more byte. -/
def absorb (r : BitVec 16) (b : UInt8) : BitVec 16 :=
  advances 8 (r ^^^ b.toBitVec.setWidth 16)

/-- The register after more bytes. -/
def update (r : BitVec 16) (data : Bytes) : BitVec 16 :=
  data.foldl absorb r

/-- The checksum of a message. -/
def ofBytes (data : Bytes) : BitVec 16 :=
  update 0 data

/-- The checksum of a message that comes in parts. -/
def ofParts (parts : List Bytes) : BitVec 16 :=
  parts.foldl update 0

/-- The checksum as it is sent, low byte first. -/
def toBytes (r : BitVec 16) : Bytes :=
  [⟨r.setWidth 8⟩, ⟨(r >>> 8).setWidth 8⟩]

/-- The checksum that two received bytes stand for. -/
def ofTrailer (low high : UInt8) : BitVec 16 :=
  high.toBitVec ++ low.toBitVec

/-- **One bit of division is linear.** -/
theorem advance_xor (a b : BitVec 16) : advance (a ^^^ b) = advance a ^^^ advance b := by
  unfold advance
  simp only [BitVec.getLsbD_xor, BitVec.ushiftRight_xor_distrib]
  cases a.getLsbD 0 <;> cases b.getLsbD 0
  · simp
  · simp only [Bool.false_xor, ↓reduceIte, Bool.false_eq_true]; ac_rfl
  · simp only [Bool.xor_false, ↓reduceIte, Bool.false_eq_true]; ac_rfl
  · have cancel : divisor ^^^ divisor = 0 := BitVec.xor_self
    calc a >>> 1 ^^^ b >>> 1
        = a >>> 1 ^^^ b >>> 1 ^^^ (divisor ^^^ divisor) := by rw [cancel]; simp
      _ = a >>> 1 ^^^ divisor ^^^ (b >>> 1 ^^^ divisor) := by ac_rfl

/-- **Any number of bits is.** -/
theorem advances_xor (n : Nat) (a b : BitVec 16) :
    advances n (a ^^^ b) = advances n a ^^^ advances n b := by
  induction n generalizing a b with
  | zero => rfl
  | succ n ih => simp only [advances, advance_xor, ih]

theorem advances_add (m n : Nat) (r : BitVec 16) :
    advances (m + n) r = advances n (advances m r) := by
  induction m generalizing r with
  | zero => simp [advances]
  | succ m ih => rw [Nat.succ_add]; simp only [advances, ih]

/-- **Two messages of one length, added bit by bit, have their checksums added.** -/
theorem absorb_xor (r s : BitVec 16) (a b : UInt8) :
    absorb (r ^^^ s) (a ^^^ b) = absorb r a ^^^ absorb s b := by
  unfold absorb
  rw [← advances_xor]
  congr 1
  simp only [UInt8.toBitVec_xor, BitVec.setWidth_xor]
  ac_rfl

@[simp] theorem update_nil (r : BitVec 16) : update r [] = r := rfl

@[simp] theorem update_cons (r : BitVec 16) (b : UInt8) (data : Bytes) :
    update r (b :: data) = update (absorb r b) data := rfl

@[simp] theorem update_append (r : BitVec 16) (a b : Bytes) :
    update r (a ++ b) = update (update r a) b := by
  simp [update]

/-- **Parts count as the whole.** -/
theorem ofParts_eq (parts : List Bytes) : ofParts parts = ofBytes parts.flatten := by
  have key : ∀ r, parts.foldl update r = update r parts.flatten := by
    induction parts with
    | nil => intro r; rfl
    | cons p rest ih => intro r; simp [ih]
  exact key 0

@[simp] theorem length_toBytes (r : BitVec 16) : (toBytes r).length = 2 := rfl

/-- **The trailer reads back.** -/
theorem ofTrailer_toBytes (r : BitVec 16) :
    ofTrailer ⟨r.setWidth 8⟩ ⟨(r >>> 8).setWidth 8⟩ = r := by
  apply BitVec.eq_of_getLsbD_eq
  intro i hi
  simp only [ofTrailer, BitVec.getLsbD_append, BitVec.getLsbD_setWidth,
    BitVec.getLsbD_ushiftRight]
  by_cases h : i < 8
  · simp [h]
  · simp [h, show i - 8 < 8 by omega, show 8 + (i - 8) = i by omega]

/-- **Two received bytes are those of the checksum they stand for.** -/
theorem toBytes_ofTrailer (low high : UInt8) : toBytes (ofTrailer low high) = [low, high] := by
  have hlow : (ofTrailer low high).setWidth 8 = low.toBitVec := by
    apply BitVec.eq_of_getLsbD_eq
    intro i hi
    simp only [ofTrailer, BitVec.getLsbD_setWidth, BitVec.getLsbD_append]
    simp [hi]
  have hhigh : (ofTrailer low high >>> 8).setWidth 8 = high.toBitVec := by
    apply BitVec.eq_of_getLsbD_eq
    intro i hi
    simp only [ofTrailer, BitVec.getLsbD_setWidth, BitVec.getLsbD_ushiftRight,
      BitVec.getLsbD_append]
    simp [hi]
  simp only [toBytes, hlow, hhigh]

/-- **The customary check value.** -/
theorem ofBytes_check :
    ofBytes [0x31, 0x32, 0x33, 0x34, 0x35, 0x36, 0x37, 0x38, 0x39] = 0xBB3D := by
  decide +kernel

end Crc
end PacketRadio
