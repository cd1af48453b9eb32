/-
# What is written can be read

rflink specification, §4.1: the sync word is found at any offset within the
preamble window.

A receiver looks for the sync word from the first byte on, and no sync word
starts like the preamble.  So however many preamble bytes are left in front of
it, the search passes over all of them, and it fails exactly if they are more
than the receiver's own preamble has.  After the sync word only the limit on
payloads can differ between the two ends.

| what is left of the preamble | payload | a receiver of the same network |
| --- | --- | --- |
| at most the receiver's preamble | within its limit | reads the frame |
| at most the receiver's preamble | above its limit | finds a wrong length |
| more than the receiver's preamble | any | finds no sync word |

A frame with the last bit of its trailer flipped is never read, because the
trailer then stands for another checksum.

Main statements: `decode_drop` (the table) and `decode_damage`.
-/

import PacketRadio.Frame.Codec
import PacketRadio.Medium.Basic
import Mathlib.Tactic.SplitIfs

namespace PacketRadio
namespace Frame

/-! ## The sync word -/

/-- **The search skips a preamble it can reach across, and no longer one.** -/
theorem afterSync_replicate {sync : SyncWord} (hs : sync.first ≠ preambleByte) (n window : Nat)
    (body : Bytes) :
    afterSync sync window (List.replicate n preambleByte ++ sync.toBytes ++ body) =
      if n ≤ window then some body else none := by
  induction n generalizing window with
  | zero => cases window <;> simp [SyncWord.toBytes, afterSync]
  | succ n ih =>
    obtain ⟨b, rest, hrest⟩ : ∃ b rest,
        List.replicate n preambleByte ++ sync.toBytes ++ body = b :: rest := by
      cases n with
      | zero => exact ⟨_, _, rfl⟩
      | succ n => exact ⟨_, _, rfl⟩
    have hstart : List.replicate (n + 1) preambleByte ++ sync.toBytes ++ body =
        preambleByte :: b :: rest := by
      rw [List.replicate_succ, List.cons_append, List.cons_append, hrest]
    have hne : ¬(preambleByte = sync.first ∧ b = sync.second) := fun h => hs h.1.symm
    rw [hstart]
    cases window with
    | zero => simp only [afterSync, if_neg hne]; rw [if_neg (by omega)]
    | succ window =>
      simp only [afterSync, if_neg hne]
      rw [← hrest, ih]
      simp only [Nat.add_le_add_iff_right]

/-! ## What follows it -/

/-- **A header, a length and a payload with any trailer.**  The limit is looked at before the
trailer. -/
theorem parseBody_covered {f : Frame} (hf : f.payload.length ≤ lengthLimit) (limit : Nat)
    (low high : UInt8) :
    parseBody limit (f.covered ++ [low, high]) =
      if limit < f.payload.length then
        .error (.length (envelopeSize + f.payload.length) (envelopeSize + f.payload.length))
      else if Crc.ofTrailer low high ≠ Crc.ofBytes f.covered then
        .error (.checksum (Crc.ofTrailer low high) (Crc.ofBytes f.covered))
      else .ok f := by
  have hlen : (UInt8.ofNat f.payload.length).toNat = f.payload.length := by
    rw [UInt8.toNat_ofNat']
    exact Nat.mod_eq_of_lt (by unfold lengthLimit at hf; omega)
  have hshape : f.covered ++ [low, high] = f.header.dst :: f.header.src :: f.header.id ::
      f.header.flags :: UInt8.ofNat f.payload.length :: (f.payload ++ [low, high]) := by
    simp [covered, Header.toBytes]
  have htake : (f.covered ++ [low, high]).take (5 + f.payload.length) = f.covered :=
    List.take_left' (length_covered f)
  have hsize : (f.covered ++ [low, high]).length = envelopeSize + f.payload.length := by
    rw [List.length_append, length_covered]
    simp only [List.length_cons, List.length_nil, envelopeSize]
    omega
  rw [hshape] at htake hsize ⊢
  have henough : ¬(f.payload ++ [low, high]).length < 2 := by simp
  simp only [parseBody, if_neg henough, hlen, hsize, htake, ne_eq, not_true_eq_false, or_false,
    List.drop_left, List.take_left]

/-- **The bytes after the sync word are read as the frame they were written for**, if the limit
allows its payload. -/
theorem parseBody_body {f : Frame} (hf : f.payload.length ≤ lengthLimit) (limit : Nat) :
    parseBody limit f.body =
      if limit < f.payload.length then
        .error (.length (envelopeSize + f.payload.length) (envelopeSize + f.payload.length))
      else .ok f := by
  rw [body, Crc.toBytes, parseBody_covered hf, Crc.ofTrailer_toBytes]
  simp only [ne_eq, not_true_eq_false, if_false]

/-! ## Whole frames -/

theorem wire_ne_nil (c : Config) (f : Frame) : f.wire c ≠ [] := by
  simp [wire, SyncWord.toBytes]

/-- **A whole preamble with its sync word hands on what is behind it.** -/
theorem decode_front_append {c : Config} (hc : c.Valid) (rest : Bytes) :
    decode c (List.replicate c.preambleLen preambleByte ++ c.sync.toBytes ++ rest) =
      parseBody c.payloadLimit rest := by
  rw [decode, afterSync_replicate hc.sync, if_pos (Nat.le_refl _)]

/-- What is left of a frame when part of its preamble has been lost. -/
theorem drop_wire (c : Config) (f : Frame) {j : Nat} (hj : j ≤ c.preambleLen) :
    (f.wire c).drop j =
      List.replicate (c.preambleLen - j) preambleByte ++ c.sync.toBytes ++ f.body := by
  rw [wire, List.append_assoc, List.append_assoc, List.drop_append_of_le_length (by simpa using hj),
    List.drop_replicate]

/-- **A frame without part of its preamble, read under other settings of its network.** -/
theorem decode_drop_wire {c₁ : Config} (c₂ : Config) (h₁ : c₁.Valid) (hs : c₂.sync = c₁.sync)
    (f : Frame) {j : Nat} (hj : j ≤ c₁.preambleLen) :
    decode c₂ ((f.wire c₁).drop j) =
      if c₁.preambleLen - j ≤ c₂.preambleLen then parseBody c₂.payloadLimit f.body
      else .error .noSync := by
  rw [decode, drop_wire c₁ f hj, hs, afterSync_replicate h₁.sync]
  split_ifs <;> rfl

/-- **Every receiver of the network reads what was written.** -/
theorem decode_wire {c : Config} (hc : c.Valid) {f : Frame}
    (hf : f.payload.length ≤ c.payloadLimit) : decode c (f.wire c) = .ok f := by
  have hlimit : f.payload.length ≤ lengthLimit := Nat.le_trans hf (Nat.min_le_right _ _)
  have h := decode_drop_wire c hc rfl f (Nat.zero_le c.preambleLen)
  rw [List.drop_zero, Nat.sub_zero, if_pos (Nat.le_refl _), parseBody_body hlimit,
    if_neg (by omega)] at h
  exact h

/-- **What could be written is read.** -/
theorem decode_of_encode {c : Config} (hc : c.Valid) {f : Frame} {w : Bytes}
    (hw : f.encode c = .ok w) : decode c w = .ok f := by
  obtain ⟨-, hlen, rfl⟩ := (encode_eq_ok_iff c f w).1 hw
  exact decode_wire hc hlen

/-- **Reading undoes writing, across settings and for stripped preambles.**  What comes out
depends on what is left of the preamble first and on the receiver's payload limit second. -/
theorem decode_drop {c₁ : Config} (c₂ : Config) (h₁ : c₁.validate = .ok ())
    (hs : c₂.sync = c₁.sync) {f : Frame} {w : Bytes} (hw : f.encode c₁ = .ok w) {j : Nat}
    (hj : j ≤ c₁.preambleLen) :
    (c₁.preambleLen - j ≤ c₂.preambleLen → f.payload.length ≤ min c₂.maxPayload 255 →
      decode c₂ (w.drop j) = .ok f) ∧
    (c₂.preambleLen < c₁.preambleLen - j → decode c₂ (w.drop j) = .error .noSync) ∧
    (c₁.preambleLen - j ≤ c₂.preambleLen → min c₂.maxPayload 255 < f.payload.length →
      decode c₂ (w.drop j) = .error (.length (7 + f.payload.length) (7 + f.payload.length))) := by
  obtain ⟨-, hfit, rfl⟩ := (encode_eq_ok_iff c₁ f w).1 hw
  have hf : f.payload.length ≤ lengthLimit := Nat.le_trans hfit (Nat.min_le_right _ _)
  have hread := decode_drop_wire c₂ ((Config.validate_eq_ok_iff c₁).1 h₁) hs f hj
  refine ⟨fun hpre hlen => ?_, fun hpre => ?_, fun hpre hlen => ?_⟩
  · rw [hread, if_pos hpre, parseBody_body hf]
    exact if_neg (Nat.not_lt.2 hlen)
  · rw [hread, if_neg (Nat.not_le.2 hpre)]
  · rw [hread, if_pos hpre, parseBody_body hf]
    exact if_pos hlen

/-- Two of four preamble bytes are lost, and receivers with a shorter preamble or a lower payload
limit than the sender look at the rest. -/
theorem decode_drop_two :
    let f : Frame := ⟨⟨2, 1, 7, 0⟩, [0x2D, 0xD4, 0xAA]⟩
    let c₁ : Config := {}
    decode { preambleLen := 2 } ((f.wire c₁).drop 2) = .ok f ∧
      decode { preambleLen := 1 } ((f.wire c₁).drop 2) = .error .noSync ∧
      decode { preambleLen := 2, maxPayload := 2 } ((f.wire c₁).drop 2) =
        .error (.length 10 10) := by
  intro f c₁
  have h₁ : c₁.validate = .ok () := rfl
  have hw : f.encode c₁ = .ok (f.wire c₁) := rfl
  have hj : 2 ≤ c₁.preambleLen := by decide
  exact ⟨(decode_drop { preambleLen := 2 } h₁ rfl hw hj).1 (by decide) (by decide),
    (decode_drop { preambleLen := 1 } h₁ rfl hw hj).2.1 (by decide),
    (decode_drop { preambleLen := 2, maxPayload := 2 } h₁ rfl hw hj).2.2 (by decide)
      (by decide)⟩

/-! ## Damage -/

theorem damage_append (a : Bytes) (low high : UInt8) :
    Medium.damage (a ++ [low, high]) = a ++ [low, high ^^^ 1] := by
  induction a with
  | nil => rfl
  | cons b rest ih =>
    obtain ⟨d, tail, htail⟩ : ∃ d tail, rest ++ [low, high] = d :: tail := by
      cases rest with
      | nil => exact ⟨_, _, rfl⟩
      | cons d rest => exact ⟨_, _, rfl⟩
    rw [List.cons_append, List.cons_append, ← ih, htail]
    rfl

/-- Trailers with different high bytes stand for different checksums. -/
theorem ofTrailer_damaged (low high : UInt8) :
    Crc.ofTrailer low (high ^^^ 1) ≠ Crc.ofTrailer low high := by
  intro h
  have hbytes := congrArg Crc.toBytes h
  rw [Crc.toBytes_ofTrailer, Crc.toBytes_ofTrailer] at hbytes
  have hhigh : high ^^^ 1 = high := by
    simp only [List.cons.injEq, and_true, true_and] at hbytes
    exact hbytes
  have hone : (1 : UInt8) = 0 := by
    calc (1 : UInt8) = high ^^^ (high ^^^ 1) := by rw [← UInt8.xor_assoc]; simp
      _ = high ^^^ high := by rw [hhigh]
      _ = 0 := UInt8.xor_self
  exact absurd hone (by decide)

/-- **A frame that was damaged on the way is not read.** -/
theorem decode_damage {c : Config} (hc : c.Valid) {f : Frame}
    (hf : f.payload.length ≤ c.payloadLimit) :
    ∃ received computed,
      decode c (Medium.damage (f.wire c)) = .error (.checksum received computed) := by
  have hlimit : f.payload.length ≤ lengthLimit := Nat.le_trans hf (Nat.min_le_right _ _)
  obtain ⟨low, high, htrailer⟩ : ∃ low high, Crc.toBytes (Crc.ofBytes f.covered) = [low, high] :=
    ⟨_, _, rfl⟩
  have hcrc : Crc.ofTrailer low high = Crc.ofBytes f.covered := by
    have hlow := Crc.ofTrailer_toBytes (Crc.ofBytes f.covered)
    simp only [Crc.toBytes, List.cons.injEq, and_true] at htrailer
    rw [← htrailer.1, ← htrailer.2]
    exact hlow
  have hwire : Medium.damage (f.wire c) = List.replicate c.preambleLen preambleByte ++
      c.sync.toBytes ++ (f.covered ++ [low, high ^^^ 1]) := by
    rw [wire, body, htrailer, ← List.append_assoc, damage_append]
    simp only [List.append_assoc]
  refine ⟨Crc.ofTrailer low (high ^^^ 1), Crc.ofBytes f.covered, ?_⟩
  rw [decode, hwire, afterSync_replicate hc.sync, if_pos (Nat.le_refl _)]
  simp only [parseBody_covered hlimit]
  rw [if_neg (by omega), if_pos (hcrc ▸ ofTrailer_damaged low high)]

end Frame
end PacketRadio
