/-
# Where a frame ends

rflink specification, §4.1: the declared length must match the remaining bytes
exactly.

A receiver counts the bytes behind the sync word before it looks at anything
else in them.  So a frame that was cut off is no frame, and neither is one that
runs on, whatever the payload or the bytes behind it contain.

| the bytes received | are found to have |
| --- | --- |
| end before the sync word does | no sync word |
| end before the smallest body would | a wrong length: 7 were needed |
| end before the frame does | a wrong length: the length byte asks for more |
| go on behind the frame | a wrong length: the length byte asks for fewer |

Main statement: `decode_extent`.
-/

import PacketRadio.Proofs.Frame.Foreign

namespace PacketRadio
namespace Frame

/-- A sync word that stands in the beginning of the data stands in the data. -/
theorem SyncAt.of_take {sync : SyncWord} {data : Bytes} {n o : Nat}
    (h : SyncAt sync (data.take n) o) : SyncAt sync data o := by
  have hend : o + syncSize ≤ n := by
    have hle := h.le_length
    rw [List.length_take] at hle
    omega
  rw [SyncAt, List.drop_take, List.take_take, Nat.min_eq_left (by omega)] at h
  exact h

/-- **Bytes with the length byte of a frame that are fewer or more than its own have a wrong
length**, whatever they are. -/
theorem parseBody_of_length_ne {f : Frame} (hf : f.payload.length ≤ lengthLimit) {limit : Nat}
    {body : Bytes} (hlen : envelopeSize ≤ body.length → body[4]? = f.body[4]?)
    (hne : body.length ≠ f.body.length) :
    parseBody limit body = .error (.length
      (if body.length < envelopeSize then envelopeSize else f.body.length) body.length) := by
  split
  · exact parseBody_short ‹_›
  · have h7 : envelopeSize ≤ body.length := by omega
    obtain ⟨len, hbyte, hsize⟩ := getElem?_body hf
    rw [length_body, ← hsize] at hne ⊢
    exact parseBody_length h7 ((hlen h7).trans hbyte) (.inr hne)

section

variable {c : Config} (hc : c.Valid) {f : Frame}

include hc

/-- **A preamble with half a sync word at most holds no sync word.** -/
theorem decode_take_front {n : Nat} (hn : n < c.preambleLen + syncSize) :
    decode c ((f.wire c).take n) = .error .noSync := by
  refine decode_of_not_syncAt fun o _ hat => not_syncAt_of_lt hc.sync c f ?_ hat.of_take
  have hle := hat.le_length
  rw [List.length_take] at hle
  omega

/-- **A frame that was cut off behind its sync word has a wrong length.** -/
theorem decode_take_wire (hf : f.payload.length ≤ lengthLimit) {n : Nat}
    (hn : c.preambleLen + syncSize ≤ n) (hcut : n < (f.wire c).length) :
    decode c ((f.wire c).take n) = .error (.length
      (if n < c.preambleLen + syncSize + envelopeSize then envelopeSize else f.body.length)
      (n - (c.preambleLen + syncSize))) := by
  let front := List.replicate c.preambleLen preambleByte ++ c.sync.toBytes
  have hfront : front.length = c.preambleLen + syncSize := by
    simp [front, SyncWord.toBytes, syncSize]
  have hwire : (f.wire c).length = front.length + f.body.length := List.length_append
  -- What is left of the body.
  let rest := f.body.take (n - front.length)
  have hrest : rest.length = n - front.length := by
    simp only [rest, List.length_take]
    omega
  have htake : (f.wire c).take n = front ++ rest := by
    rw [wire, List.take_append, List.take_of_length_le (hfront ▸ hn)]
  have hbyte : envelopeSize ≤ rest.length → rest[4]? = f.body[4]? := fun h7 =>
    List.getElem?_take_of_lt (by simp only [envelopeSize] at h7; omega)
  rw [htake, decode_front_append hc, parseBody_of_length_ne hf hbyte (by omega), hrest, hfront]
  congr 3
  simp only [eq_iff_iff]
  omega

/-- **A frame that runs on has a wrong length.** -/
theorem decode_wire_append (hf : f.payload.length ≤ lengthLimit) {tail : Bytes} (htail : tail ≠ []) :
    decode c (f.wire c ++ tail) =
      .error (.length f.body.length (f.body.length + tail.length)) := by
  have hmore : 0 < tail.length := List.length_pos_iff.2 htail
  have hbyte : (f.body ++ tail)[4]? = f.body[4]? :=
    List.getElem?_append_left (by rw [length_body, envelopeSize]; omega)
  have hlong : ¬(f.body ++ tail).length < envelopeSize := by simp [Nat.add_assoc]
  rw [wire, List.append_assoc, decode_front_append hc,
    parseBody_of_length_ne hf (fun _ => hbyte) (by rw [List.length_append]; omega), if_neg hlong,
    List.length_append]

end

/-- **A frame that is cut off or runs on is never read.**  Cut off before the end of its sync word
it has none, and cut off behind that or followed by anything at all, such as another frame, it has
a wrong length. -/
theorem decode_extent {c : Config} (hc : c.validate = .ok ()) {f : Frame} {w : Bytes}
    (hw : f.encode c = .ok w) :
    (∀ n < w.length, decode c (w.take n) =
      if n < c.preambleLen + 2 then .error .noSync
      else .error (.length (if n < c.preambleLen + 9 then 7 else 7 + f.payload.length)
        (n - (c.preambleLen + 2)))) ∧
    (∀ tail ≠ [], decode c (w ++ tail) =
      .error (.length (7 + f.payload.length) (7 + f.payload.length + tail.length))) := by
  obtain ⟨-, hfit, rfl⟩ := (encode_eq_ok_iff c f w).1 hw
  have hvalid := (Config.validate_eq_ok_iff c).1 hc
  have hf : f.payload.length ≤ lengthLimit := Nat.le_trans hfit (Nat.min_le_right _ _)
  have hbody : f.body.length = 7 + f.payload.length := length_body f
  rw [← hbody]
  refine ⟨fun n hn => ?_, fun tail htail => decode_wire_append hvalid hf htail⟩
  split
  · exact decode_take_front hvalid ‹_›
  · exact decode_take_wire hvalid hf (Nat.not_lt.1 ‹_›) hn

/-- A frame whose payload is a whole frame of the same network, cut off in its preamble, behind its
length byte and before its last byte, and followed by the frame in its payload. -/
theorem decode_extent_nested :
    let c : Config := {}
    let g : Frame := ⟨⟨2, 1, 8, 0⟩, [0x2D]⟩
    let f : Frame := ⟨⟨2, 1, 7, 0⟩, g.wire c⟩
    decode c ((f.wire c).take 5) = .error .noSync ∧
      decode c ((f.wire c).take 12) = .error (.length 7 6) ∧
      decode c ((f.wire c).take 26) = .error (.length 21 20) ∧
      decode c (f.wire c ++ g.wire c) = .error (.length 21 35) := by
  intro c g f
  have hc : c.validate = .ok () := rfl
  have hw : f.encode c = .ok (f.wire c) := rfl
  obtain ⟨hcut, hmore⟩ := @decode_extent c hc f _ hw
  exact ⟨hcut 5 (by decide), hcut 12 (by decide), hcut 26 (by decide), hmore _ (by decide)⟩

end Frame
end PacketRadio
