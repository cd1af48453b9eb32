/-
# Frames of other networks

rflink specification, §4.1: the sync word, a part of which may be a network
group.

A receiver looks for its own sync word as far in as its own preamble would
reach.  On a frame of another network that is

| place | what stands there |
| --- | --- |
| in the sender's preamble | a preamble byte, with which no sync word starts |
| where the sender's sync word is | another sync word |
| behind it | whatever the sender's header and payload say |

So networks are separate as long as the receiver's preamble is no longer than
the sender's.  If it is longer, the search goes on into the sender's header and
payload, and what is found there can be a frame: the trailer at the end fits it
exactly if the bytes that were skipped leave the register of the checksum
clear.

Main statements: `decode_foreign`, and `foreign_not_separate` for two networks
that are not kept apart.
-/

import PacketRadio.Proofs.Frame.BitErrors

namespace PacketRadio

namespace Crc

/-- **The end of a message that leaves the register clear does so itself exactly if the beginning
does.** -/
theorem ofBytes_drop {data : Bytes} (h : ofBytes data = 0) (k : Nat) :
    ofBytes (data.drop k) = 0 ↔ ofBytes (data.take k) = 0 := by
  have hsplit : ofBytes (data.drop k) ^^^
      advances (8 * (data.drop k).length) (ofBytes (data.take k)) = 0 := by
    calc ofBytes (data.drop k) ^^^ advances (8 * (data.drop k).length) (ofBytes (data.take k))
        = update (0 ^^^ ofBytes (data.take k)) (data.drop k) := (update_xor 0 _ _).symm
      _ = ofBytes (data.take k ++ data.drop k) := by
          rw [ofBytes, ofBytes, update_append]
          simp
      _ = 0 := by rw [List.take_append_drop, h]
  rw [BitVec.xor_eq_zero_iff.1 hsplit, advances_eq_zero_iff]

end Crc

namespace Frame

variable {c₁ c₂ : Config} {f g : Frame} {o k : Nat}

/-! ## Where a foreign sync word can stand -/

/-- What stands on the wire from a place behind the preamble on. -/
theorem drop_wire_add (c : Config) (f : Frame) (k : Nat) :
    (f.wire c).drop (c.preambleLen + k) = (c.sync.toBytes ++ f.body).drop k := by
  rw [wire, List.append_assoc, ← List.drop_drop, List.drop_left' List.length_replicate]

/-- **No sync word stands in a preamble.** -/
theorem not_syncAt_of_lt {sync : SyncWord} (hs : sync.first ≠ preambleByte) (c : Config)
    (f : Frame) (ho : o < c.preambleLen) : ¬SyncAt sync (f.wire c) o := by
  intro h
  have hfirst := congrArg (·[0]?) h
  simp only [SyncWord.toBytes, List.getElem?_take_of_lt Nat.two_pos, syncSize, wire,
    List.getElem?_drop, Nat.add_zero, List.getElem?_cons_zero, List.append_assoc] at hfirst
  rw [List.getElem?_append_left (by simpa using ho), List.getElem?_replicate_of_lt ho] at hfirst
  exact hs (Option.some.inj hfirst).symm

/-- **Where one sync word stands, no other does.** -/
theorem syncAt_preambleLen (sync : SyncWord) (c : Config) (f : Frame) :
    SyncAt sync (f.wire c) c.preambleLen ↔ c.sync = sync := by
  have hbehind := drop_wire_add c f 0
  rw [Nat.add_zero, List.drop_zero] at hbehind
  have htake : (c.sync.toBytes ++ f.body).take syncSize = c.sync.toBytes := rfl
  rw [SyncAt, hbehind, htake, SyncWord.toBytes, SyncWord.toBytes]
  constructor
  · intro h
    obtain ⟨hfirst, hsecond⟩ : c.sync.first = sync.first ∧ c.sync.second = sync.second := by
      simpa using h
    exact congrArg₂ SyncWord.mk hfirst hsecond
  · rintro rfl
    rfl

/-- **A foreign sync word stands behind the sender's own.** -/
theorem lt_of_syncAt_foreign (h₂ : c₂.Valid) (hsync : c₁.sync ≠ c₂.sync)
    (h : SyncAt c₂.sync (f.wire c₁) o) : c₁.preambleLen < o := by
  rcases Nat.lt_trichotomy o c₁.preambleLen with hlt | rfl | hgt
  · exact absurd h (not_syncAt_of_lt h₂.sync c₁ f hlt)
  · exact absurd ((syncAt_preambleLen c₂.sync c₁ f).1 h) hsync
  · exact hgt

/-! ## What is found behind it -/

/-- What is behind the sync word, and behind so many bytes more. -/
theorem drop_wire_body (c : Config) (f : Frame) (k : Nat) :
    (f.wire c).drop (c.preambleLen + k + syncSize) = f.body.drop k := by
  rw [Nat.add_assoc, drop_wire_add, Nat.add_comm, ← List.drop_drop]
  rfl

/-- A frame of the network `c₂` that begins `k` bytes into a frame of the network `c₁`. -/
structure Hidden (c₁ c₂ : Config) (f g : Frame) (k : Nat) : Prop where
  /-- It begins behind the sender's sync word. -/
  behind : 0 < k
  /-- The receiver's sync word is first found there, within the reach of its own preamble. -/
  starts : Starts c₂ (f.wire c₁) (c₁.preambleLen + k)
  /-- The header, the length and the payload that follow are the last bytes of the sender's. -/
  covered : f.covered.drop k = g.covered
  /-- The checksum does not notice the bytes before them. -/
  clear : Crc.ofBytes (f.body.take k) = 0
  /-- The receiver takes payloads of this size. -/
  fits : g.payload.length ≤ c₂.payloadLimit

/-- **A hidden frame has a shorter payload than the one that it is hidden in.** -/
theorem Hidden.length_payload (h : Hidden c₁ c₂ f g k) :
    g.payload.length + k = f.payload.length := by
  have hlen := congrArg List.length h.covered
  have hcovered := length_covered g
  rw [List.length_drop, length_covered] at hlen
  omega

/-- A frame that ends where another one does is no longer than that. -/
theorem le_of_drop_body (h : f.body.drop k = g.body) : k ≤ f.payload.length := by
  have hlen := congrArg List.length h
  rw [List.length_drop, length_body, length_body, envelopeSize] at hlen
  omega

/-- **The end of a frame is a frame exactly if it says so itself and the checksum does not notice
the rest.** -/
theorem drop_body_eq_iff (hk : k ≤ f.payload.length) :
    f.body.drop k = g.body ↔
      f.covered.drop k = g.covered ∧ Crc.ofBytes (f.body.take k) = 0 := by
  obtain ⟨low, high, htrailer⟩ : ∃ low high, Crc.toBytes (Crc.ofBytes f.covered) = [low, high] :=
    ⟨_, _, rfl⟩
  have hend : f.body.drop k = f.covered.drop k ++ [low, high] := by
    rw [body, htrailer, List.drop_append_of_le_length (by rw [length_covered]; omega)]
  rw [← Crc.ofBytes_drop (ofBytes_body f)]
  constructor
  · intro h
    refine ⟨(List.append_inj' (hend.symm.trans h) rfl).1, ?_⟩
    rw [h, ofBytes_body]
  · rintro ⟨hcovered, hclear⟩
    rw [hend, hcovered] at hclear ⊢
    rw [← Crc.toBytes_ofTrailer low high, (Crc.ofBytes_append_trailer _ _ _).1 hclear, body]

/-- **A receiver of another network takes a frame for one of its own exactly if one of its own is
hidden in it.** -/
theorem decode_foreign_eq_ok_iff (h₂ : c₂.Valid) (hsync : c₁.sync ≠ c₂.sync) :
    decode c₂ (f.wire c₁) = .ok g ↔ ∃ k, Hidden c₁ c₂ f g k := by
  rw [decode_eq_ok_iff]
  constructor
  · rintro ⟨o, ho, hwire⟩
    obtain ⟨-, hfits, hdrop⟩ := (encode_eq_ok_iff _ _ _).1 hwire
    have hlt := lt_of_syncAt_foreign h₂ hsync ho.sync
    obtain ⟨k, rfl⟩ : ∃ k, o = c₁.preambleLen + k := ⟨o - c₁.preambleLen, by omega⟩
    have hbody : f.body.drop k = g.body := by
      rw [← drop_wire_body c₁, ← List.drop_drop, hdrop]
      simp [wire, SyncWord.toBytes, syncSize]
    obtain ⟨hcovered, hclear⟩ := (drop_body_eq_iff (le_of_drop_body hbody)).1 hbody
    exact ⟨k, by omega, ho, hcovered, hclear, hfits⟩
  · rintro ⟨k, h⟩
    have hk : k ≤ f.payload.length := h.length_payload ▸ Nat.le_add_left _ _
    have hbody := (drop_body_eq_iff hk).2 ⟨h.covered, h.clear⟩
    refine ⟨_, h.starts, (encode_eq_ok_iff _ _ _).2 ⟨Nat.zero_le _, h.fits, ?_⟩⟩
    calc (f.wire c₁).drop (c₁.preambleLen + k)
        = c₂.sync.toBytes ++ f.body.drop k := by
          rw [← List.take_append_drop syncSize (List.drop _ _), h.starts.sync, List.drop_drop,
            drop_wire_body]
      _ = g.wire { c₂ with preambleLen := 0 } := by simp [wire, hbody]

/-- **Networks are separate, except for frames that hide others.**  What is written under one sync
word is read under another exactly as the frames that are hidden in it.  There are none if the
receiver's preamble is no longer than the sender's, whatever the payload, and none in a frame
without payload. -/
theorem decode_foreign {c₁ c₂ : Config} (h₂ : c₂.validate = .ok ()) (hsync : c₁.sync ≠ c₂.sync)
    {f : Frame} {w : Bytes} (hw : f.encode c₁ = .ok w) :
    (∀ g, decode c₂ w = .ok g ↔ ∃ k, Hidden c₁ c₂ f g k) ∧
    (c₂.preambleLen ≤ c₁.preambleLen → decode c₂ w = .error .noSync) ∧
    (f.payload = [] → ∃ d, decode c₂ w = .error d) := by
  obtain ⟨-, -, rfl⟩ := (encode_eq_ok_iff c₁ f w).1 hw
  have hvalid := (Config.validate_eq_ok_iff c₂).1 h₂
  have hhidden := fun g => @decode_foreign_eq_ok_iff c₁ c₂ f g hvalid hsync
  refine ⟨hhidden, fun hle => decode_of_not_syncAt fun o ho hat => ?_, fun hempty => ?_⟩
  · have hlt := lt_of_syncAt_foreign hvalid hsync hat
    omega
  · rcases hread : decode c₂ (f.wire c₁) with d | g
    · exact ⟨d, rfl⟩
    · obtain ⟨k, h⟩ := (hhidden g).1 hread
      have hshorter := h.length_payload
      have hbehind := h.behind
      rw [hempty, List.length_nil] at hshorter
      omega

/-- The frame of group 45 in which a frame of group 0 is hidden. -/
def carrier : Frame :=
  ⟨⟨0, 1, 0, 2⟩, [3, 0x61, 0x62, 0x63]⟩

/-- The settings of group 45. -/
def carrierConfig : Config :=
  { sync := SyncWord.ofGroup 45 }

/-- Settings of group 0 with a preamble of five bytes. -/
def strangerConfig : Config :=
  { sync := SyncWord.ofGroup 0, preambleLen := 5 }

/-- The frame of group 0. -/
def stowaway : Frame :=
  ⟨⟨1, 0, 2, 4⟩, [0x61, 0x62, 0x63]⟩

/-- The second byte of a sync word and the first of the header behind it make another sync word.
What follows has its own length byte, and the byte that was skipped is zero, which a clear register
does not notice.  Without a payload nothing is found. -/
theorem decode_foreign_group :
    decode strangerConfig (carrier.wire carrierConfig) = .ok stowaway ∧
    ∃ d, decode strangerConfig ({ carrier with payload := [] }.wire carrierConfig) = .error d := by
  have h₂ : strangerConfig.validate = .ok () := rfl
  have hsync : carrierConfig.sync ≠ strangerConfig.sync := by decide
  have hstarts : Starts strangerConfig (carrier.wire carrierConfig) 5 :=
    ⟨by decide, by decide +kernel, by decide +kernel⟩
  have hhidden : Hidden carrierConfig strangerConfig carrier stowaway 1 :=
    ⟨by decide, hstarts, rfl, by decide +kernel, by decide⟩
  have hwritten : carrier.encode carrierConfig = .ok (carrier.wire carrierConfig) := rfl
  have hempty : Frame.encode carrierConfig { carrier with payload := [] } = .ok _ := rfl
  exact ⟨((decode_foreign h₂ hsync hwritten).1 stowaway).2 ⟨1, hhidden⟩,
    (decode_foreign h₂ hsync hempty).2.2 rfl⟩

/-- **Two networks that are not separate**: a frame that one of them writes is a frame to the other,
although both have valid settings and their sync words differ. -/
theorem foreign_not_separate :
    ¬∀ (c₁ c₂ : Config) (f : Frame) (w : Bytes), c₁.validate = .ok () → c₂.validate = .ok () →
      c₁.sync ≠ c₂.sync → f.encode c₁ = .ok w → ∃ d, decode c₂ w = .error d := by
  intro hall
  obtain ⟨d, hd⟩ := hall carrierConfig strangerConfig carrier _ rfl rfl (by decide) rfl
  have hread : decode strangerConfig (carrier.wire carrierConfig) = .ok stowaway := by
    decide +kernel
  rw [hread] at hd
  cases hd

end Frame
end PacketRadio
