/-
# Flipped bits in the preamble

rflink specification, §4.1: preamble bits are not integrity-protected and are
ignored.

The preamble carries nothing, and a receiver only has to find the sync word
behind it.  A flipped bit there is harmless as long as the byte that was hit
does not look like the start of a sync word.

| the byte that was hit | the byte behind it | the receiver |
| --- | --- | --- |
| not the first of the sync word | any | passes over it |
| the first of the sync word | not the second | passes over it |
| the first of the sync word | the second | starts to read too early |

The byte behind is another preamble byte, or the sync word's own first byte
behind the last one.  A sync word of the last row is one bit away from two
preamble bytes, or has its first byte twice, one bit away from a preamble
byte.  Settings with such a sync word are valid as long as the first byte is
not a preamble byte itself, but those of groups never have one.

What is read too early is not taken for a frame.  The bytes in front of the
true start have an odd number of ones in all, so the register of the checksum
does not stay clear.

Main statements: `decode_flipBit_preamble`, and `preamble_flip_not_harmless`
for a sync word that is imitated.
-/

import PacketRadio.Proofs.Frame.Foreign

namespace PacketRadio

namespace Crc

/-! ## Odd messages -/

/-- There is an odd number of ones in the message. -/
def odd (data : Bytes) : Bool :=
  data.foldr (fun b rest => parity 16 (b.toBitVec.setWidth 16) ^^ rest) false

@[simp] theorem odd_nil : odd [] = false := rfl

@[simp] theorem odd_cons (b : UInt8) (data : Bytes) :
    odd (b :: data) = (parity 16 (b.toBitVec.setWidth 16) ^^ odd data) := rfl

@[simp] theorem odd_append (a b : Bytes) : odd (a ++ b) = (odd a ^^ odd b) := by
  induction a with
  | nil => simp
  | cons x a ih => simp only [List.cons_append, odd_cons, ih, Bool.xor_assoc]

/-- **The register has the parity of all that went in.** -/
theorem parity_update (r : BitVec 16) (data : Bytes) :
    parity 16 (update r data) = (parity 16 r ^^ odd data) := by
  induction data generalizing r with
  | nil => simp
  | cons b data ih =>
    rw [update_cons, ih, absorb, parity_advances, parity_xor, odd_cons, Bool.xor_assoc]

/-- **An odd message does not leave the register clear.** -/
theorem ofBytes_ne_zero_of_odd {data : Bytes} (h : odd data = true) : ofBytes data ≠ 0 := by
  have hclear : parity 16 0 = false := by decide
  intro hzero
  have hparity := parity_update 0 data
  rw [← ofBytes, hzero, hclear, h] at hparity
  cases hparity

end Crc

namespace Frame

/-- A preamble byte with one bit flipped. -/
def hitByte (bit : Nat) : UInt8 :=
  preambleByte ^^^ ⟨BitVec.twoPow 8 bit⟩

/-- **The flipped bit makes it odd.** -/
theorem odd_hitByte : ∀ bit < 8, Crc.odd [hitByte bit] = true := by
  decide

@[simp] theorem odd_replicate_preambleByte (n : Nat) :
    Crc.odd (List.replicate n preambleByte) = false := by
  have heven : Crc.parity 16 (preambleByte.toBitVec.setWidth 16) = false := by decide
  induction n with
  | zero => rfl
  | succ n ih => rw [List.replicate_succ, Crc.odd_cons, heven, ih, Bool.xor_false]

/-- With this bit of the preamble flipped, the byte that was hit and the byte behind it are the
sync word. -/
structure Imitates (c : Config) (i : Nat) : Prop where
  /-- The byte that was hit is the first of the sync word. -/
  first : c.sync.first = hitByte (i % 8)
  /-- The byte behind it is the second. -/
  second : c.sync.second = if i / 8 + 1 < c.preambleLen then preambleByte else c.sync.first

theorem imitates_iff {c : Config} {i : Nat} :
    Imitates c i ↔ c.sync.first = hitByte (i % 8) ∧
      c.sync.second = if i / 8 + 1 < c.preambleLen then preambleByte else c.sync.first :=
  ⟨fun h => ⟨h.first, h.second⟩, fun h => ⟨h.1, h.2⟩⟩

instance (c : Config) (i : Nat) : Decidable (Imitates c i) :=
  decidable_of_iff _ imitates_iff.symm

/-! ## The search for the sync word -/

section

variable {sync : SyncWord} {window : Nat} {data : Bytes}

/-- **The search goes on where the sync word does not stand.** -/
theorem afterSync_cons {a : UInt8} (h : ¬SyncAt sync (a :: data) 0) :
    afterSync sync (window + 1) (a :: data) = afterSync sync window data := by
  cases data with
  | nil => cases window <;> rfl
  | cons b rest => simp only [afterSync, if_neg fun hab => h ((syncAt_zero a b).2 hab)]

/-- A sync word starts with its first byte. -/
theorem SyncAt.head_eq {a : UInt8} (h : SyncAt sync (a :: data) 0) : a = sync.first := by
  cases data with
  | nil => simp [SyncAt, SyncWord.toBytes, syncSize] at h
  | cons b rest => exact ((syncAt_zero a b).1 h).1

/-- **The search passes over preamble bytes**, whatever is behind them. -/
theorem afterSync_replicate_append (hs : sync.first ≠ preambleByte) (n window : Nat)
    (data : Bytes) :
    afterSync sync (n + window) (List.replicate n preambleByte ++ data) =
      afterSync sync window data := by
  induction n with
  | zero => rw [Nat.zero_add, List.replicate_zero, List.nil_append]
  | succ n ih =>
    rw [List.replicate_succ, List.cons_append, Nat.succ_add,
      afterSync_cons fun hat => hs hat.head_eq.symm, ih]

end

variable {c : Config} {f : Frame} {i : Nat}

/-- What is on the wire with one bit of the preamble flipped. -/
theorem flipBit_wire (hi : i < 8 * c.preambleLen) :
    flipBit (f.wire c) i = List.replicate (i / 8) preambleByte ++ hitByte (i % 8) ::
      (List.replicate (c.preambleLen - (i / 8 + 1)) preambleByte ++ c.sync.toBytes ++ f.body) := by
  have hbyte : i / 8 < c.preambleLen := by omega
  have hplace : i / 8 < (f.wire c).length := by
    rw [length_wire]
    omega
  have hhit : (f.wire c)[i / 8] = preambleByte := by
    simp only [wire, List.append_assoc]
    rw [List.getElem_append_left (by simpa using hbyte), List.getElem_replicate]
  have hbefore : (f.wire c).take (i / 8) = List.replicate (i / 8) preambleByte := by
    rw [wire, List.append_assoc, List.take_append_of_le_length (by simpa using Nat.le_of_lt hbyte),
      List.take_replicate, Nat.min_eq_left (Nat.le_of_lt hbyte)]
  rw [flipBit, List.modify_eq_take_cons_drop hplace, hhit, hbefore, drop_wire c f hbyte, hitByte]

/-- **A sync word is imitated if it stands where the flipped bit is.** -/
theorem syncAt_hitByte :
    SyncAt c.sync (hitByte (i % 8) :: (List.replicate (c.preambleLen - (i / 8 + 1)) preambleByte ++
      c.sync.toBytes ++ f.body)) 0 ↔ Imitates c i := by
  rw [imitates_iff, eq_comm, eq_comm (a := c.sync.second)]
  rcases Nat.lt_or_ge (i / 8 + 1) c.preambleLen with hlater | hlast
  · obtain ⟨n, hn⟩ : ∃ n, c.preambleLen - (i / 8 + 1) = n + 1 :=
      ⟨c.preambleLen - (i / 8 + 1) - 1, by omega⟩
    rw [hn, if_pos hlater, List.replicate_succ]
    exact syncAt_zero _ _
  · have hn : c.preambleLen - (i / 8 + 1) = 0 := by omega
    rw [hn, if_neg (Nat.not_lt.2 hlast), List.replicate_zero]
    exact syncAt_zero _ _

/-- **What the search hands on** if a bit of the preamble is flipped: the body, or also what stands
in front of it behind an imitation. -/
theorem afterSync_flipBit_wire (hc : c.Valid) (hi : i < 8 * c.preambleLen) :
    afterSync c.sync c.preambleLen (flipBit (f.wire c) i) = some
      (if Imitates c i then (List.replicate (c.preambleLen - (i / 8 + 1)) preambleByte ++
        c.sync.toBytes).drop 1 ++ f.body else f.body) := by
  -- The preamble bytes behind the one that was hit.
  let later := c.preambleLen - (i / 8 + 1)
  have hreach : i / 8 + (later + 1) = c.preambleLen := by
    simp only [later]
    omega
  have hskip := afterSync_replicate_append hc.sync (i / 8) (later + 1)
    (hitByte (i % 8) :: (List.replicate later preambleByte ++ c.sync.toBytes ++ f.body))
  rw [hreach, ← flipBit_wire hi] at hskip
  rw [hskip]
  split
  · rw [afterSync_eq_some (Nat.zero_le _) (syncAt_hitByte.2 ‹_›) fun p hp =>
      absurd hp (Nat.not_lt_zero _)]
    exact congrArg some (List.drop_append_of_le_length (by simp [SyncWord.toBytes]))
  · rw [afterSync_cons (mt syncAt_hitByte.1 ‹_›), afterSync_replicate hc.sync,
      if_pos (Nat.le_refl _)]

/-! ## What is read too early -/

/-- **No frame has an odd message in front of another body.** -/
theorem parseBody_append_body {skipped : Bytes} (h : Crc.odd skipped = true) (limit : Nat) :
    ∃ d, parseBody limit (skipped ++ f.body) = .error d := by
  rcases hread : parseBody limit (skipped ++ f.body) with d | g
  · exact ⟨d, rfl⟩
  · obtain ⟨hbody, -⟩ := body_of_parse hread
    have hclear : Crc.ofBytes (skipped ++ f.body) = 0 := hbody ▸ ofBytes_body g
    have hskipped := (Crc.ofBytes_drop hclear skipped.length).1
    rw [List.drop_left, List.take_left] at hskipped
    exact absurd (hskipped (ofBytes_body f)) (Crc.ofBytes_ne_zero_of_odd h)

/-- **An imitation is an odd number of ones in front of the true start.** -/
theorem odd_of_imitates (h : Imitates c i) : Crc.odd
    ((List.replicate (c.preambleLen - (i / 8 + 1)) preambleByte ++ c.sync.toBytes).drop 1) =
      true := by
  have hodd := odd_hitByte (i % 8) (Nat.mod_lt _ (by decide))
  rw [← h.first] at hodd
  have hsecond := h.second
  rcases Nat.lt_or_ge (i / 8 + 1) c.preambleLen with hlater | hlast
  · obtain ⟨n, hn⟩ : ∃ n, c.preambleLen - (i / 8 + 1) = n + 1 :=
      ⟨c.preambleLen - (i / 8 + 1) - 1, by omega⟩
    have heven := odd_replicate_preambleByte 1
    rw [if_pos hlater] at hsecond
    rw [hn, List.replicate_succ, List.cons_append, List.drop_one, List.tail_cons, Crc.odd_append,
      odd_replicate_preambleByte, SyncWord.toBytes, hsecond, ← List.singleton_append,
      Crc.odd_append, hodd]
    exact congrArg (true ^^ ·) heven
  · have hn : c.preambleLen - (i / 8 + 1) = 0 := by omega
    rw [if_neg (Nat.not_lt.2 hlast)] at hsecond
    rw [hn, SyncWord.toBytes, hsecond]
    exact hodd

/-- The sync word of a group is more than one bit away from the preamble. -/
theorem not_imitates_ofGroup {group : UInt8} (h : c.sync = SyncWord.ofGroup group) :
    ¬Imitates c i := by
  have haway : ∀ bit < 8, SyncWord.standard.first ≠ hitByte bit := by decide
  intro himitates
  have hfirst := himitates.first
  rw [h] at hfirst
  exact haway _ (Nat.mod_lt _ (by decide)) hfirst

/-- **A flipped bit in the preamble is harmless, or the frame is lost.**  It is lost exactly if the
byte that was hit imitates the sync word together with the byte behind it, which it never does in
the network of a group, and what the receiver finds then is not taken for another frame. -/
theorem decode_flipBit_preamble {c : Config} (hc : c.validate = .ok ()) {f : Frame} {w : Bytes}
    (hw : f.encode c = .ok w) {i : Nat} (hi : i < 8 * c.preambleLen) :
    (¬Imitates c i → decode c (flipBit w i) = .ok f) ∧
    (Imitates c i → ∃ d, decode c (flipBit w i) = .error d) ∧
    (∀ group, c.sync = SyncWord.ofGroup group → decode c (flipBit w i) = .ok f) := by
  obtain ⟨-, hfit, rfl⟩ := (encode_eq_ok_iff c f w).1 hw
  have hf : f.payload.length ≤ lengthLimit := Nat.le_trans hfit (Nat.min_le_right _ _)
  have hfound := afterSync_flipBit_wire (f := f) ((Config.validate_eq_ok_iff c).1 hc) hi
  have hharmless : ¬Imitates c i → decode c (flipBit (f.wire c) i) = .ok f := by
    intro h
    rw [if_neg h] at hfound
    simp only [decode, hfound]
    rw [parseBody_body hf, if_neg (Nat.not_lt.2 hfit)]
  refine ⟨hharmless, fun h => ?_, fun group hgroup => hharmless (not_imitates_ofGroup hgroup)⟩
  rw [if_pos h] at hfound
  simp only [decode, hfound]
  exact parseBody_append_body (odd_of_imitates h) _

/-- A sync word that is one bit away from two preamble bytes. -/
def nearPreamble : Config :=
  { sync := ⟨0xAB, 0xAA⟩ }

/-- A frame whose payload is the sync word of `nearPreamble`. -/
def nearFrame : Frame :=
  ⟨⟨2, 1, 7, 0⟩, [0xAB, 0xAA]⟩

/-- The lowest bit of a preamble byte makes the sync word that is near, except in the last one, and
no other bit does.  In the network of a group none does. -/
theorem decode_flipBit_preamble_near :
    decode nearPreamble (flipBit (nearFrame.wire nearPreamble) 1) = .ok nearFrame ∧
      decode nearPreamble (flipBit (nearFrame.wire nearPreamble) 24) = .ok nearFrame ∧
      (∃ d, decode nearPreamble (flipBit (nearFrame.wire nearPreamble) 16) = .error d) ∧
      decode {} (flipBit (nearFrame.wire {}) 16) = .ok nearFrame := by
  have hc : nearPreamble.validate = .ok () := rfl
  have hw : nearFrame.encode nearPreamble = .ok (nearFrame.wire nearPreamble) := rfl
  have hgroup : nearFrame.encode {} = .ok (nearFrame.wire {}) := rfl
  exact ⟨(decode_flipBit_preamble hc hw (i := 1) (by decide)).1 (by decide),
    (decode_flipBit_preamble hc hw (i := 24) (by decide)).1 (by decide),
    (decode_flipBit_preamble hc hw (i := 16) (by decide)).2.1 (by decide),
    (decode_flipBit_preamble rfl hgroup (by decide)).2.2 0xD4 rfl⟩

/-- **A flipped bit in the preamble that is not harmless**: under valid settings, a frame is lost
by it. -/
theorem preamble_flip_not_harmless :
    ¬∀ (c : Config) (f : Frame) (w : Bytes) (i : Nat), c.validate = .ok () → f.encode c = .ok w →
      i < 8 * c.preambleLen → decode c (flipBit w i) = .ok f := by
  intro hall
  have hread := hall nearPreamble nearFrame _ 0 rfl rfl (by decide)
  have hlost : decode nearPreamble (flipBit (nearFrame.wire nearPreamble) 0) =
      .error (.length 9 13) := by
    decide +kernel
  rw [hlost] at hread
  cases hread

end Frame
end PacketRadio
