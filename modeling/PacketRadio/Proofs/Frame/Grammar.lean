/-
# What can be read, and what is wrong with the rest

rflink specification, §4.1: error priority `InvalidSync`, `LengthMismatch`,
`CrcMismatch`.

Received bytes are judged by the first place at which the sync word stands, if
that is within reach.  Everything after the sync word is the body.

| the body | is read as |
| --- | --- |
| fewer than 7 bytes | a wrong length |
| a length byte above the limit, or not the number of bytes that there are | a wrong length |
| a trailer that is not the checksum of what it follows | a wrong checksum |
| any other | a frame |

So a frame has one spelling from the sync word on: the one that it is written
in.  `Reads` is the table, and `decodeInPlace` reads by places in the data,
with every access and every sum checked, which shows that none of them can go
wrong.

Main statement: `decode_grammar`.
-/

import PacketRadio.Proofs.Frame.RoundTrip
import Mathlib.Data.List.Basic
import Mathlib.Data.Nat.Find

namespace PacketRadio
namespace Frame

/-! ## Places of the sync word -/

/-- The sync word stands at this place in the data. -/
def SyncAt (sync : SyncWord) (data : Bytes) (o : Nat) : Prop :=
  (data.drop o).take syncSize = sync.toBytes

instance (sync : SyncWord) (data : Bytes) (o : Nat) : Decidable (SyncAt sync data o) :=
  inferInstanceAs (Decidable (_ = _))

variable {c : Config} {sync : SyncWord} {data : Bytes} {o : Nat}

theorem SyncAt.le_length (h : SyncAt sync data o) : o + syncSize ≤ data.length := by
  have hlen := congrArg List.length h
  simp only [List.length_take, List.length_drop, SyncWord.toBytes, List.length_cons,
    List.length_nil, syncSize] at hlen ⊢
  omega

theorem SyncAt.exists_two (h : SyncAt sync data o) : ∃ a b rest, data = a :: b :: rest := by
  have hlen := h.le_length
  cases data with
  | nil => simp [syncSize] at hlen
  | cons a rest =>
    cases rest with
    | nil => simp [syncSize] at hlen
    | cons b rest => exact ⟨a, b, rest, rfl⟩

@[simp] theorem syncAt_succ (a : UInt8) : SyncAt sync (a :: data) (o + 1) ↔ SyncAt sync data o :=
  Iff.rfl

@[simp] theorem syncAt_zero (a b : UInt8) :
    SyncAt sync (a :: b :: data) 0 ↔ a = sync.first ∧ b = sync.second := by
  simp [SyncAt, SyncWord.toBytes, syncSize]

/-- A frame starts here: this is the first place of the sync word, and it is within reach. -/
structure Starts (c : Config) (data : Bytes) (o : Nat) : Prop where
  /-- The preamble window reaches as far. -/
  within : o ≤ c.preambleLen
  /-- The sync word stands here. -/
  sync : SyncAt c.sync data o
  /-- It stands nowhere before. -/
  first : ∀ p < o, ¬SyncAt c.sync data p

/-- **The sync word is out of reach, or it has a first place.** -/
theorem exists_starts (c : Config) (data : Bytes) :
    (∀ o ≤ c.preambleLen, ¬SyncAt c.sync data o) ∨ ∃ o, Starts c data o := by
  by_cases h : ∃ o, o ≤ c.preambleLen ∧ SyncAt c.sync data o
  · obtain ⟨hwithin, hsync⟩ := Nat.find_spec h
    refine .inr ⟨Nat.find h, hwithin, hsync, fun p hp hat => Nat.find_min h hp ⟨?_, hat⟩⟩
    omega
  · exact .inl fun o ho hat => h ⟨o, ho, hat⟩

/-- **The search fails if no place within reach holds the sync word.** -/
theorem afterSync_eq_none {window : Nat} (h : ∀ o ≤ window, ¬SyncAt sync data o) :
    afterSync sync window data = none := by
  induction data generalizing window with
  | nil => cases window <;> rfl
  | cons a rest ih =>
    cases rest with
    | nil => cases window <;> rfl
    | cons b rest =>
      have hhere : ¬(a = sync.first ∧ b = sync.second) := fun hab =>
        h 0 (Nat.zero_le _) ((syncAt_zero a b).2 hab)
      cases window with
      | zero => simp only [afterSync, if_neg hhere]
      | succ window =>
        simp only [afterSync, if_neg hhere]
        exact ih fun o ho hat => h (o + 1) (by omega) ((syncAt_succ a).2 hat)

/-- **The search stops at the first place of the sync word.** -/
theorem afterSync_eq_some {window : Nat} (hwithin : o ≤ window) (hsync : SyncAt sync data o)
    (hfirst : ∀ p < o, ¬SyncAt sync data p) :
    afterSync sync window data = some (data.drop (o + syncSize)) := by
  induction o generalizing window data with
  | zero =>
    obtain ⟨a, b, rest, rfl⟩ := hsync.exists_two
    rw [afterSync.eq_def]
    exact if_pos ((syncAt_zero a b).1 hsync)
  | succ o ih =>
    obtain ⟨a, b, rest, rfl⟩ := hsync.exists_two
    obtain ⟨window, rfl⟩ : ∃ w, window = w + 1 := ⟨window - 1, by omega⟩
    have hhere : ¬(a = sync.first ∧ b = sync.second) := fun hab =>
      hfirst 0 (Nat.succ_pos _) ((syncAt_zero a b).2 hab)
    simp only [afterSync, if_neg hhere]
    exact ih (by omega) hsync fun p hp hat => hfirst (p + 1) (by omega) ((syncAt_succ a).2 hat)

theorem decode_of_not_syncAt (h : ∀ o ≤ c.preambleLen, ¬SyncAt c.sync data o) :
    decode c data = .error .noSync := by
  rw [decode, afterSync_eq_none h]

theorem decode_of_starts (h : Starts c data o) :
    decode c data = parseBody c.payloadLimit (data.drop (o + syncSize)) := by
  rw [decode, afterSync_eq_some h.within h.sync h.first]

/-! ## Bodies -/

variable {limit : Nat} {body : Bytes}

/-- **A body without room for a header, a length and a trailer.** -/
theorem parseBody_short (h : body.length < envelopeSize) :
    parseBody limit body = .error (.length envelopeSize body.length) := by
  unfold parseBody
  split
  · rename_i dst src id flags len rest
    have hrest : rest.length < 2 := by
      simp only [List.length_cons, envelopeSize] at h
      omega
    rw [if_pos hrest]
  · rfl

/-- A body with room for them has a length byte. -/
theorem exists_length_byte (h : envelopeSize ≤ body.length) :
    ∃ dst src id flags len rest, body = dst :: src :: id :: flags :: len :: rest := by
  match body, h with
  | dst :: src :: id :: flags :: len :: rest, _ => exact ⟨_, _, _, _, _, _, rfl⟩
  | [], h | [_], h | [_, _], h | [_, _, _], h | [_, _, _, _], h => simp [envelopeSize] at h

/-- **A body whose length byte is above the limit or wrong.** -/
theorem parseBody_length {len : UInt8} (h7 : envelopeSize ≤ body.length)
    (hlen : body[4]? = some len)
    (h : limit < len.toNat ∨ body.length ≠ envelopeSize + len.toNat) :
    parseBody limit body = .error (.length (envelopeSize + len.toNat) body.length) := by
  obtain ⟨dst, src, id, flags, len', rest, rfl⟩ := exists_length_byte h7
  obtain rfl : len' = len := by simpa using hlen
  have hrest : ¬rest.length < 2 := by
    simp only [List.length_cons, envelopeSize] at h7
    omega
  unfold parseBody
  dsimp only
  rw [if_neg hrest, if_pos h]

/-- **A body that is as long as it says is that of a frame, up to its trailer.** -/
theorem exists_covered {len : UInt8} (hlen : body[4]? = some len)
    (h : body.length = envelopeSize + len.toNat) :
    ∃ f low high, body = covered f ++ [low, high] ∧ f.payload.length = len.toNat := by
  obtain ⟨dst, src, id, flags, len', rest, rfl⟩ := exists_length_byte (h ▸ Nat.le_add_right _ _)
  obtain rfl : len' = len := by simpa using hlen
  simp only [List.length_cons, envelopeSize] at h
  have htake : (rest.take len'.toNat).length = len'.toNat := by
    rw [List.length_take]
    omega
  have hdrop : (rest.drop len'.toNat).length = 2 := by
    rw [List.length_drop]
    omega
  obtain ⟨low, high, htrailer⟩ := List.length_eq_two.1 hdrop
  refine ⟨⟨⟨dst, src, id, flags⟩, rest.take len'.toNat⟩, low, high, ?_, htake⟩
  have hrest : rest = rest.take len'.toNat ++ [low, high] := by
    rw [← htrailer, List.take_append_drop]
  simp only [covered, Header.toBytes, htake, UInt8.ofNat_toNat, List.cons_append, List.nil_append,
    ← hrest]

/-! ## The table -/

/-- What data is read as, told by places in it. -/
inductive Reads (c : Config) (data : Bytes) : Except Defect Frame → Prop where
  /-- No place within reach holds the sync word. -/
  | noSync (h : ∀ o ≤ c.preambleLen, ¬SyncAt c.sync data o) : Reads c data (.error .noSync)
  /-- The body has no room for a header, a length and a trailer. -/
  | short {o : Nat} {body : Bytes} (ho : Starts c data o) (hbody : data.drop (o + 2) = body)
      (h : body.length < 7) : Reads c data (.error (.length 7 body.length))
  /-- The length byte is above the limit, or the body is not as long as it says. -/
  | length {o : Nat} {body : Bytes} {len : UInt8} (ho : Starts c data o)
      (hbody : data.drop (o + 2) = body) (h7 : 7 ≤ body.length) (hlen : body[4]? = some len)
      (h : min c.maxPayload 255 < len.toNat ∨ body.length ≠ 7 + len.toNat) :
      Reads c data (.error (.length (7 + len.toNat) body.length))
  /-- The trailer is not the checksum of the bytes before it. -/
  | checksum {o : Nat} {covered : Bytes} {len low high : UInt8} (ho : Starts c data o)
      (hbody : data.drop (o + 2) = covered ++ [low, high]) (hlen : covered[4]? = some len)
      (hsize : covered.length = 5 + len.toNat) (hlimit : len.toNat ≤ min c.maxPayload 255)
      (h : Crc.ofTrailer low high ≠ Crc.ofBytes covered) :
      Reads c data (.error (.checksum (Crc.ofTrailer low high) (Crc.ofBytes covered)))
  /-- The trailer is that checksum. -/
  | frame {o : Nat} {payload : Bytes} {dst src id flags len low high : UInt8}
      (ho : Starts c data o)
      (hbody : data.drop (o + 2) = dst :: src :: id :: flags :: len :: payload ++ [low, high])
      (hsize : payload.length = len.toNat) (hlimit : len.toNat ≤ min c.maxPayload 255)
      (h : Crc.ofTrailer low high = Crc.ofBytes (dst :: src :: id :: flags :: len :: payload)) :
      Reads c data (.ok ⟨⟨dst, src, id, flags⟩, payload⟩)

theorem payload_le_lengthLimit {f : Frame} {len : UInt8} (h : f.payload.length = len.toNat) :
    f.payload.length ≤ lengthLimit := by
  have hlen := len.toNat_lt
  rw [h, lengthLimit]
  omega

/-- The bytes that a checksum covers, from their parts. -/
theorem covered_eq {payload : Bytes} {dst src id flags len : UInt8}
    (h : payload.length = len.toNat) :
    covered ⟨⟨dst, src, id, flags⟩, payload⟩ = dst :: src :: id :: flags :: len :: payload := by
  simp [covered, Header.toBytes, h]

/-- **The table says what is read.** -/
theorem Reads.decode_eq {r : Except Defect Frame} (h : Reads c data r) : decode c data = r := by
  cases h with
  | noSync h => exact decode_of_not_syncAt h
  | short ho hbody h =>
    subst hbody
    rw [decode_of_starts ho]
    exact parseBody_short h
  | length ho hbody h7 hlen h =>
    subst hbody
    rw [decode_of_starts ho]
    exact parseBody_length h7 hlen h
  | @checksum o covered' len low high ho hbody hlen hsize hlimit h =>
    have hsplit : ∃ f low' high', covered' ++ [low, high] = covered f ++ [low', high'] ∧
        f.payload.length = len.toNat := by
      refine exists_covered (?_ : (covered' ++ [low, high])[4]? = some len) ?_
      · rw [List.getElem?_append_left (by omega), hlen]
      · rw [List.length_append, hsize]
        simp only [List.length_cons, List.length_nil, envelopeSize]
        omega
    obtain ⟨f, low', high', heq, hf⟩ := hsplit
    obtain ⟨rfl, htrailer⟩ := List.append_inj' heq rfl
    rw [decode_of_starts ho, syncSize, hbody, parseBody_covered (payload_le_lengthLimit hf),
      if_neg (Nat.not_lt.2 (hf ▸ hlimit)), if_pos h]
  | @frame o payload dst src id flags len low high ho hbody hsize hlimit h =>
    have hf : Frame.payload ⟨⟨dst, src, id, flags⟩, payload⟩ = payload := rfl
    rw [← covered_eq hsize] at hbody h
    rw [decode_of_starts ho, syncSize, hbody,
      parseBody_covered (payload_le_lengthLimit (hf ▸ hsize)),
      if_neg (Nat.not_lt.2 (hsize ▸ hlimit)), if_neg (not_not.2 h)]

/-- **Everything is in the table.** -/
theorem reads_decode (c : Config) (data : Bytes) : Reads c data (decode c data) := by
  rcases exists_starts c data with hnone | ⟨o, ho⟩
  · rw [decode_of_not_syncAt hnone]
    exact .noSync hnone
  · rw [decode_of_starts ho]
    generalize hbody : data.drop (o + syncSize) = body
    rcases Nat.lt_or_ge body.length envelopeSize with hshort | h7
    · rw [parseBody_short hshort]
      exact .short ho hbody hshort
    · obtain ⟨len, hlen⟩ : ∃ len, body[4]? = some len := by
        obtain ⟨_, _, _, _, len, _, rfl⟩ := exists_length_byte h7
        exact ⟨len, rfl⟩
      by_cases hwrong : c.payloadLimit < len.toNat ∨ body.length ≠ envelopeSize + len.toNat
      · rw [parseBody_length h7 hlen hwrong]
        exact .length ho hbody h7 hlen hwrong
      · obtain ⟨hlimit, hsize⟩ := not_or.1 hwrong
        rw [not_lt] at hlimit
        obtain ⟨f, low, high, rfl, hf⟩ := exists_covered hlen (not_not.1 hsize)
        rw [parseBody_covered (payload_le_lengthLimit hf), if_neg (Nat.not_lt.2 (hf ▸ hlimit))]
        by_cases htrailer : Crc.ofTrailer low high = Crc.ofBytes f.covered
        · rw [if_neg (not_not.2 htrailer)]
          obtain ⟨⟨dst, src, id, flags⟩, payload⟩ := f
          rw [covered_eq hf] at hbody htrailer
          exact .frame ho hbody hf hlimit htrailer
        · rw [if_pos htrailer]
          refine .checksum ho hbody ?_ (hf ▸ length_covered f) hlimit htrailer
          rw [List.getElem?_append_left (by rw [length_covered]; omega)] at hlen
          exact hlen

/-! ## One spelling -/

/-- **What is read is written in this way from the sync word on, and nothing else is.** -/
theorem decode_eq_ok_iff (c : Config) (data : Bytes) (f : Frame) :
    decode c data = .ok f ↔
      ∃ o, Starts c data o ∧ f.encode { c with preambleLen := 0 } = .ok (data.drop o) := by
  constructor
  · intro h
    rcases exists_starts c data with hnone | ⟨o, ho⟩
    · rw [decode_of_not_syncAt hnone] at h
      cases h
    · rw [decode_of_starts ho] at h
      obtain ⟨hbody, hlimit⟩ := body_of_parse h
      refine ⟨o, ho, (encode_eq_ok_iff _ _ _).2 ⟨Nat.zero_le _, hlimit, ?_⟩⟩
      calc data.drop o
          = (data.drop o).take syncSize ++ (data.drop o).drop syncSize :=
            (List.take_append_drop ..).symm
        _ = c.sync.toBytes ++ f.body := by rw [ho.sync, List.drop_drop, hbody]
        _ = f.wire { c with preambleLen := 0 } := by simp [wire]
  · rintro ⟨o, ho, hwire⟩
    obtain ⟨-, hlimit, hdrop⟩ := (encode_eq_ok_iff _ _ _).1 hwire
    have hbody : data.drop (o + syncSize) = f.body := by
      rw [← List.drop_drop, hdrop]
      simp [wire, SyncWord.toBytes, syncSize]
    have hf : f.payload.length ≤ lengthLimit := Nat.le_trans hlimit (Nat.min_le_right _ _)
    rw [decode_of_starts ho, hbody, parseBody_body hf]
    exact if_neg (Nat.not_lt.2 hlimit)

/-! ## Acknowledgments in other networks -/

/-- Damage to an acknowledgment on the wire is damage to its last byte. -/
theorem wire_ackFor {h : Header} {a : Address}
    (hdata : data = (ackFor h a).wire c ∨ data = Medium.damage ((ackFor h a).wire c)) :
    ∃ low high, data = List.replicate c.preambleLen preambleByte ++
      (c.sync.toBytes ++ ((ackFor h a).covered ++ [low, high])) := by
  obtain ⟨low, high, htrailer⟩ : ∃ low high,
      Crc.toBytes (Crc.ofBytes (ackFor h a).covered) = [low, high] := ⟨_, _, rfl⟩
  have hwire : (ackFor h a).wire c = List.replicate c.preambleLen preambleByte ++
      (c.sync.toBytes ++ (ackFor h a).covered) ++ [low, high] := by
    rw [wire, body, htrailer]
    simp only [List.append_assoc]
  rcases hdata with rfl | rfl
  · exact ⟨low, high, by rw [hwire]; simp only [List.append_assoc]⟩
  · exact ⟨low, high ^^^ 1, by rw [hwire, damage_append]; simp only [List.append_assoc]⟩

/-- **An acknowledgment is read as one or not at all**, under the settings of any network and even
if it was damaged.  No other place can be taken for its start: the bytes before it are of the
preamble, and from any place after it on there are too few. -/
theorem isAck_of_decode_ackFor (c₁ : Config) {c₂ : Config} (h₂ : c₂.Valid) {h : Header}
    {a : Address} {f : Frame}
    (hdata : data = (ackFor h a).wire c₁ ∨ data = Medium.damage ((ackFor h a).wire c₁))
    (hf : decode c₂ data = .ok f) : f.header.isAck = true := by
  obtain ⟨low, high, rfl⟩ := wire_ackFor hdata
  obtain ⟨o, ho, hwire⟩ := (decode_eq_ok_iff _ _ _).1 hf
  obtain ⟨-, -, hdrop⟩ := (encode_eq_ok_iff _ _ _).1 hwire
  have hle : o ≤ c₁.preambleLen := by
    have hlen := congrArg List.length hdrop
    rw [length_wire] at hlen
    simp only [List.length_drop, List.length_append, List.length_replicate, length_covered, ackFor,
      SyncWord.toBytes, List.length_cons, List.length_nil, syncSize, envelopeSize] at hlen
    omega
  have hge : c₁.preambleLen ≤ o := by
    by_contra hlt
    rw [not_le] at hlt
    have hfirst := congrArg (·[0]?) hdrop
    simp only [wire, SyncWord.toBytes, List.getElem?_drop, List.replicate_zero, List.nil_append,
      List.cons_append, List.getElem?_cons_zero, Nat.add_zero] at hfirst
    rw [List.getElem?_append_left (by simpa using hlt), List.getElem?_replicate_of_lt hlt] at hfirst
    exact h₂.sync (Option.some.inj hfirst).symm
  obtain rfl : o = c₁.preambleLen := Nat.le_antisymm hle hge
  rw [List.drop_left' (by simp)] at hdrop
  have hbody : (ackFor h a).covered ++ [low, high] = f.body := by
    refine (List.append_inj hdrop ?_).2
    simp [SyncWord.toBytes]
  have hflags : f.header.flags = Flag.ack := by
    simp only [covered, body, Header.toBytes, ackFor, Header.ackFor, List.cons_append,
      List.nil_append, List.cons.injEq] at hbody
    exact hbody.2.2.2.1.symm
  rw [Header.isAck, hflags]
  decide

/-! ## Reading in place -/

/-- A sum of counts, if it is still a count. -/
def sum? (a b : Nat) : Option Nat :=
  if a + b ≤ maxCount then some (a + b) else none

/-- The bytes from one place up to another, if the data has both places in this order. -/
def slice? (data : Bytes) (i j : Nat) : Option Bytes :=
  if i ≤ j ∧ j ≤ data.length then some ((data.drop i).take (j - i)) else none

/-- Looks for the sync word at so many places from `o` on.  A place without two bytes does not
hold it. -/
def seek (sync : SyncWord) (data : Bytes) : Nat → Nat → Option (Option Nat)
  | 0, _ => some none
  | places + 1, o => do
    let stop ← sum? o syncSize
    if slice? data o stop = some sync.toBytes then pure (some o) else seek sync data places (o + 1)

/-- Reads the bytes after the sync word by places in them. -/
def parseInPlace (limit : Nat) (body : Bytes) : Option (Except Defect Frame) := do
  if body.length < envelopeSize then
    pure (.error (.length envelopeSize body.length))
  else
    let len ← body[4]?
    let declared ← sum? envelopeSize len.toNat
    if limit < len.toNat ∨ body.length ≠ declared then
      pure (.error (.length declared body.length))
    else
      let covered ← slice? body 0 (← sum? 5 len.toNat)
      let trailer ← slice? body covered.length body.length
      let received := Crc.ofTrailer (← trailer[0]?) (← trailer[1]?)
      let computed := Crc.ofBytes covered
      if received ≠ computed then
        pure (.error (.checksum received computed))
      else
        let header : Header := ⟨← body[0]?, ← body[1]?, ← body[2]?, ← body[3]?⟩
        pure (.ok ⟨header, ← slice? covered 5 covered.length⟩)

/-- Reads a frame by places in the data.  There is no answer if a place is not in the data or a
sum is beyond the largest count. -/
def decodeInPlace (c : Config) (data : Bytes) : Option (Except Defect Frame) := do
  match ← seek c.sync data (min c.preambleLen (data.length - syncSize) + 1) 0 with
  | none => pure (.error .noSync)
  | some start =>
    let body ← slice? data (← sum? start syncSize) data.length
    parseInPlace c.payloadLimit body

theorem sum?_eq {a b : Nat} (h : a + b ≤ maxCount) : sum? a b = some (a + b) :=
  if_pos h

theorem slice?_to_end (h : o ≤ data.length) : slice? data o data.length = some (data.drop o) := by
  rw [slice?, if_pos ⟨h, Nat.le_refl _⟩, List.take_of_length_le]
  rw [List.length_drop]

theorem slice?_append (a b : Bytes) : slice? (a ++ b) 0 a.length = some a := by
  rw [slice?, if_pos ⟨Nat.zero_le _, by simp⟩]
  simp

theorem slice?_eq_sync :
    slice? data o (o + syncSize) = some sync.toBytes ↔ SyncAt sync data o := by
  constructor
  · intro h
    rw [slice?] at h
    split at h
    · rw [Nat.add_sub_cancel_left] at h
      exact Option.some.inj h
    · cases h
  · intro h
    rw [slice?, if_pos ⟨Nat.le_add_right _ _, h.le_length⟩, Nat.add_sub_cancel_left]
    exact congrArg some h

/-- **The search by places finds nothing where nothing is.** -/
theorem seek_eq_none {places : Nat} (hsmall : o + places + syncSize ≤ maxCount + 1)
    (h : ∀ p < o + places, ¬SyncAt sync data p) : seek sync data places o = some none := by
  induction places generalizing o with
  | zero => rfl
  | succ places ih =>
    have hhere : ¬slice? data o (o + syncSize) = some sync.toBytes := fun heq =>
      h o (by omega) (slice?_eq_sync.1 heq)
    simp only [seek, sum?_eq (show o + syncSize ≤ maxCount by omega), Option.bind_eq_bind,
      Option.bind_some, if_neg hhere]
    exact ih (by omega) fun p hp => h p (by omega)

/-- **It finds the first place that holds the sync word.** -/
theorem seek_eq_some {places p : Nat} (hsmall : o + places + syncSize ≤ maxCount + 1) (ho : o ≤ p)
    (hp : p < o + places) (hsync : SyncAt sync data p) (hfirst : ∀ q < p, ¬SyncAt sync data q) :
    seek sync data places o = some (some p) := by
  induction places generalizing o with
  | zero => omega
  | succ places ih =>
    simp only [seek, sum?_eq (show o + syncSize ≤ maxCount by omega), Option.bind_eq_bind,
      Option.bind_some]
    rcases Nat.eq_or_lt_of_le ho with rfl | hlt
    · rw [if_pos (slice?_eq_sync.2 hsync)]
      rfl
    · rw [if_neg fun heq => hfirst o hlt (slice?_eq_sync.1 heq)]
      exact ih (by omega) hlt (by omega)

/-- The places to look at are few enough to be counted. -/
theorem places_small (c : Config) (h : data.length ≤ maxCount) :
    0 + (min c.preambleLen (data.length - syncSize) + 1) + syncSize ≤ maxCount + 1 := by
  have hmax : 2 ≤ maxCount := by decide
  have hle : min c.preambleLen (data.length - syncSize) ≤ data.length - syncSize :=
    Nat.min_le_right _ _
  simp only [syncSize] at hle ⊢
  omega

theorem seek_of_not_syncAt (hdata : data.length ≤ maxCount)
    (h : ∀ o ≤ c.preambleLen, ¬SyncAt c.sync data o) :
    seek c.sync data (min c.preambleLen (data.length - syncSize) + 1) 0 = some none :=
  seek_eq_none (places_small c hdata) fun p hp => h p (by omega)

theorem seek_of_starts (hdata : data.length ≤ maxCount) (h : Starts c data o) :
    seek c.sync data (min c.preambleLen (data.length - syncSize) + 1) 0 = some (some o) := by
  have hlen := h.sync.le_length
  have hwithin := h.within
  exact seek_eq_some (places_small c hdata) (Nat.zero_le _) (by omega) h.sync h.first

/-- **Every place that is looked at in a body is there.** -/
theorem parseInPlace_eq (limit : Nat) (body : Bytes) :
    parseInPlace limit body = some (parseBody limit body) := by
  unfold parseInPlace
  rcases Nat.lt_or_ge body.length envelopeSize with hshort | h7
  · rw [if_pos hshort, parseBody_short hshort]
    rfl
  · obtain ⟨len, hlen⟩ : ∃ len, body[4]? = some len := by
      obtain ⟨_, _, _, _, len, _, rfl⟩ := exists_length_byte h7
      exact ⟨len, rfl⟩
    have hsmall := len.toNat_lt
    have hmax : 512 ≤ maxCount := by decide
    have hdeclared : sum? envelopeSize len.toNat = some (envelopeSize + len.toNat) :=
      sum?_eq (by simp only [envelopeSize]; omega)
    have hcovered : sum? 5 len.toNat = some (5 + len.toNat) := sum?_eq (by omega)
    rw [if_neg (Nat.not_lt.2 h7)]
    simp only [hlen, hdeclared, hcovered, Option.bind_eq_bind, Option.bind_some]
    by_cases hwrong : limit < len.toNat ∨ body.length ≠ envelopeSize + len.toNat
    · rw [if_pos hwrong, parseBody_length h7 hlen hwrong]
      rfl
    · obtain ⟨hlimit, hsize⟩ := not_or.1 hwrong
      obtain ⟨f, low, high, rfl, hf⟩ := exists_covered hlen (not_not.1 hsize)
      have hfront : slice? (f.covered ++ [low, high]) 0 (5 + len.toNat) = some f.covered := by
        rw [← hf, ← length_covered f]
        exact slice?_append ..
      have hback : slice? (f.covered ++ [low, high]) f.covered.length
          (f.covered ++ [low, high]).length = some [low, high] := by
        rw [slice?_to_end (by simp), List.drop_left]
      have hpayload : slice? f.covered 5 f.covered.length = some f.payload :=
        slice?_to_end (length_covered f ▸ Nat.le_add_right _ _)
      rw [if_neg hwrong, parseBody_covered (payload_le_lengthLimit hf), if_neg (hf ▸ hlimit)]
      have hheader : ∀ i < 4, (f.covered ++ [low, high])[i]? = f.header.toBytes[i]? := by
        intro i hi
        rw [covered, List.append_assoc, List.getElem?_append_left (by simpa using hi)]
      simp only [hfront, hback, hpayload, hheader, Nat.reduceLT, Header.toBytes,
        List.getElem?_cons_zero, List.getElem?_cons_succ, Option.bind_some]
      split <;> rfl

/-- **Reading in place always gets to an answer, and to the right one.** -/
theorem decodeInPlace_eq (c : Config) (hdata : data.length ≤ maxCount) :
    decodeInPlace c data = some (decode c data) := by
  unfold decodeInPlace
  rcases exists_starts c data with hnone | ⟨o, ho⟩
  · rw [seek_of_not_syncAt hdata hnone, decode_of_not_syncAt hnone]
    rfl
  · have hend := ho.sync.le_length
    rw [seek_of_starts hdata ho, decode_of_starts ho]
    simp only [sum?_eq (Nat.le_trans hend hdata), slice?_to_end hend, Option.bind_eq_bind,
      Option.bind_some, parseInPlace_eq]

/-- **Reading accepts exactly what is written in one way, and names what is wrong with the rest.**
What comes out is what the table says; a frame comes out exactly if the data from the first sync
word on is how that frame is written without a preamble; and nothing outside the data is ever
looked at. -/
theorem decode_grammar (c : Config) (data : Bytes) :
    (∀ r, decode c data = r ↔ Reads c data r) ∧
    (∀ f, decode c data = .ok f ↔
      ∃ o, Starts c data o ∧ f.encode { c with preambleLen := 0 } = .ok (data.drop o)) ∧
    (data.length ≤ maxCount → decodeInPlace c data = some (decode c data)) := by
  refine ⟨fun r => ⟨?_, Reads.decode_eq⟩, decode_eq_ok_iff c data, decodeInPlace_eq c⟩
  rintro rfl
  exact reads_decode c data

/-- The sync word may stand in several places at once: here it does so at the second and at the
third byte, under settings that are no network's, and the second byte counts. -/
theorem decode_grammar_overlap :
    let c : Config := { sync := ⟨0xAA, 0xAA⟩, preambleLen := maxCount, maxPayload := 300 }
    let data : Bytes := [0x13, 0xAA, 0xAA, 0xAA, 2, 1, 7, 0, 0x4A, 0x50]
    data.length ≤ maxCount ∧ decodeInPlace c data = some (.ok ⟨⟨0xAA, 2, 1, 7⟩, []⟩) ∧
      Reads c data (.ok ⟨⟨0xAA, 2, 1, 7⟩, []⟩) := by
  intro c data
  have hdata : data.length ≤ maxCount := by decide
  have hstarts : Starts c data 1 := ⟨by decide, by decide, by decide⟩
  have hreads : Reads c data (.ok ⟨⟨0xAA, 2, 1, 7⟩, []⟩) :=
    @Reads.frame c data 1 [] 0xAA 2 1 7 0 0x4A 0x50 hstarts rfl rfl (by decide) (by decide +kernel)
  obtain ⟨htable, -, hplace⟩ := decode_grammar c data
  exact ⟨hdata, (htable _).2 hreads ▸ hplace hdata, hreads⟩

end Frame
end PacketRadio
