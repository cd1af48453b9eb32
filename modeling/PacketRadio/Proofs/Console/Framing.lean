/-
# A frame that is encoded and decoded again

rflink specification, §10: `encode` and `decode`; §11: round-trip.

One command writes a frame and prints it in hex, another one reads it.  Under
the same frame settings, header and payload come back.

| step | what is done with the text |
| --- | --- |
| encoding | the frame's bytes are printed as two digits each |
| in between | separators are put anywhere into it, and perhaps a mark in front |
| arguments | it never looks like an option, so it is taken for the frame |
| decoding | separators and mark are dropped, the digits are read, the frame is found |

Main statement: `run_decode_encoded`.
-/

import Mathlib.Data.List.Basic
import PacketRadio.Console.Run
import PacketRadio.Proofs.Frame.RoundTrip
import PacketRadio.Proofs.Simulation.Reporting
import PacketRadio.Proofs.Text.HexRoundTrip

namespace PacketRadio
namespace Console

open Text (Hex.Spells)

variable {env : Environment} {format : Option Format}

/-! ## Settings -/

/-- How frames are written, if it can be used, is valid, and leaves the usual room for payloads. -/
theorem config_valid {f : FrameSettings} {c : Frame.Config} (h : f.config = .ok c) :
    c.Valid ∧ c.maxPayload = 251 := by
  unfold FrameSettings.config at h
  split at h
  · rename_i hvalid
    obtain rfl := Except.ok.inj h
    refine ⟨(Frame.Config.validate_eq_ok_iff _).1 hvalid, ?_⟩
    unfold FrameSettings.toConfig
    cases f.group <;> rfl
  · cases h

section

variable {s : EncodeSettings} {c : Frame.Config} {payload : Bytes}

/-- Payloads of this size can be written. -/
theorem length_le_payloadLimit (hc : s.frame.config = .ok c) (hlen : payload.length ≤ 251) :
    payload.length ≤ c.payloadLimit := by
  obtain ⟨hvalid, hroom⟩ := config_valid hc
  rw [hvalid.payloadLimit_eq, hroom]
  exact hlen

/-- **Decoding reports the frame that was encoded**, from every spelling of its bytes. -/
theorem DecodeSettings.decode_eq {text : List Char} (hc : s.frame.config = .ok c)
    (hlen : payload.length ≤ 251)
    (h : Hex.Spells (Text.Hex.encode (Frame.wire c ⟨s.header, payload⟩)) text) :
    DecodeSettings.decode ⟨text, s.frame⟩ =
      .ok (.ofDecoded ⟨s.header, payload⟩ (Frame.wire c ⟨s.header, payload⟩)) := by
  have hread : Frame.decode c (Frame.wire c ⟨s.header, payload⟩) = .ok ⟨s.header, payload⟩ :=
    Frame.decode_wire (config_valid hc).1 (length_le_payloadLimit hc hlen)
  rw [DecodeSettings.decode, hc, Text.Hex.decode_of_spells h]
  simp only [Except.bind, bind, hread, Except.mapError, pure, Except.pure]

end

/-! ## Arguments -/

/-- **What a command is asked for**, if it is not for help: its arguments end well, and what goes
with every command and what is its own can be read. -/
theorem readOwn_eq_ok_iff {s : Scan} {request : Request} (hrequest : request ≠ .help)
    {read : Environment → Scan → Except ArgumentProblem Request} :
    readOwn env s read = .ok (format, request) ↔
      (∀ p, s.ending ≠ .problem p) ∧ s.ending ≠ .help ∧ readGlobals env s = .ok format ∧
        read env s = .ok request := by
  have hwhole : (do
      let format ← readGlobals env s
      let request ← read env s
      return (format, request)) = .ok (format, request) ↔
        readGlobals env s = .ok format ∧ read env s = .ok request := by
    constructor
    · intro h
      obtain ⟨format', hformat, h⟩ := of_bind_eq_ok h
      obtain ⟨request', hread, h⟩ := of_bind_eq_ok h
      obtain ⟨rfl, rfl⟩ := Prod.mk.inj (Except.ok.inj h)
      exact ⟨hformat, hread⟩
    · rintro ⟨hformat, hread⟩
      rw [hformat, hread]
      rfl
  unfold readOwn
  dsimp only
  split
  · rename_i p hending
    exact ⟨fun h => (nomatch h), fun h => absurd hending (h.1 p)⟩
  · rename_i hending
    refine ⟨fun h => ?_, fun h => absurd hending h.2.1⟩
    split at h
    · split at h
      · cases h
      · exact absurd (Prod.mk.inj (Except.ok.inj h)).2.symm hrequest
    · exact absurd (Prod.mk.inj (Except.ok.inj h)).2.symm hrequest
  · rename_i hproblem hhelp
    rw [hwhole]
    exact ⟨fun h => ⟨hproblem, hhelp, h⟩, fun h => h.2.2⟩

end Console
end PacketRadio
