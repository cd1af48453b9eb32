/-
# What one look at the radio takes and sends

rflink specification, §4.4: `poll` processes at most one frame; §3:
acknowledgments are never acknowledged.

On any radio, a look takes at most one frame and sends at most one.  What it
sends is the acknowledgment of the frame that it took, and a frame that is an
acknowledgment itself has none.  A look that is told to be idle took nothing,
and any other took a frame unless the radio failed.

| taken | sent |
| --- | --- |
| nothing | nothing |
| no frame, or an acknowledgment | nothing |
| a datagram | nothing, or its acknowledgment |

Main statement: `poll_traffic`.
-/

import PacketRadio.Proofs.Link.Ledger

namespace PacketRadio
namespace Link

open Link.Action

/-- The bytes that an exchange put on the air, or tried to. -/
def Exchange.sent : Exchange → Option Bytes
  | ⟨.radio call, _⟩ => call.aired
  | _ => none

/-- The radio failed in an exchange. -/
def Exchange.failed : Exchange → Bool
  | ⟨.radio _, .error _⟩ => true
  | _ => false

/-- What has gone through a radio. -/
structure Traffic where
  /-- The receptions taken. -/
  heard : List Radio.Reception := []
  /-- What was sent. -/
  sent : List Bytes := []
  /-- A call has failed. -/
  failed : Bool := false

namespace Traffic

/-- The traffic with one more exchange. -/
def note (g : Traffic) (e : Exchange) : Traffic :=
  ⟨g.heard ++ e.heard.toList, g.sent ++ e.sent.toList, g.failed || e.failed⟩

/-- A radio that is up is neither brought up nor given an address again. -/
def Permits : Request → Prop
  | .radio .init => False
  | .radio (.setAddress _ _) => False
  | _ => True

/-- The contract that looks at the radio are held to. -/
def contract : Contract Traffic :=
  ⟨note, fun _ r => Permits r⟩

section

variable (g : Traffic) (e : Exchange)

@[simp] theorem contract_note : contract.note g e = g.note e := rfl

@[simp] theorem note_heard : (g.note e).heard = g.heard ++ e.heard.toList := rfl

@[simp] theorem note_sent : (g.note e).sent = g.sent ++ e.sent.toList := rfl

@[simp] theorem note_failed : (g.note e).failed = (g.failed || e.failed) := rfl

/-- Only calls to the radio are traffic. -/
theorem note_of_not_radio {r : Request} (hr : ¬∃ call, r = .radio call) (a : r.Answer) :
    g.note ⟨r, a⟩ = g := by
  cases r with
  | radio call => exact absurd ⟨call, rfl⟩ hr
  | _ => simp [note, Exchange.heard, Exchange.sent, Exchange.failed]

end

/-- The reception is a frame that is no acknowledgment. -/
def provokes (c : Frame.Config) (r : Radio.Reception) : Bool :=
  match Frame.decode c r.bytes with
  | .ok f => !f.header.isAck
  | .error _ => false

/-- The bytes are those of an acknowledgment that a node makes. -/
def IsAck (c : Config) (bytes : Bytes) : Prop :=
  ∃ h, bytes = (Frame.ackFor h c.address).wire c.frame

/-- A node has taken nothing more and kept its configuration, and may have sent an
acknowledgment. -/
structure Answers (g : Traffic) (n : Node) (g' : Traffic) (n' : Node) : Prop where
  /-- Nothing was taken. -/
  heard : g'.heard = g.heard
  /-- The configuration is the same. -/
  config : n'.config = n.config
  /-- Nothing was sent, or an acknowledgment. -/
  sent : g'.sent = g.sent ∨ ∃ bytes, IsAck n.config bytes ∧ g'.sent = g.sent ++ [bytes]

/-- A node has not even done that. -/
structure Still (g : Traffic) (n : Node) (g' : Traffic) (n' : Node) : Prop where
  /-- Nothing was taken. -/
  heard : g'.heard = g.heard
  /-- The configuration is the same. -/
  config : n'.config = n.config
  /-- Nothing was sent. -/
  sent : g'.sent = g.sent

/-- What a look at the radio has taken and sent, and what was told of it. -/
structure Looked (c : Config) (g : Traffic) (r : Except Error PollEvent) : Prop where
  /-- At most one frame was taken. -/
  once : g.heard.length ≤ 1
  /-- If none was and the radio has not failed, the look was idle. -/
  idle : g.heard = [] → g.failed = false → r = .ok .idle
  /-- Nothing was sent, or the acknowledgment of what was taken. -/
  sent : g.sent = [] ∨ ∃ reception bytes, g.heard = [reception] ∧ provokes c.frame reception = true ∧
    IsAck c bytes ∧ g.sent = [bytes]

variable {g g' g'' : Traffic} {n n' n'' : Node}

theorem Still.refl (g : Traffic) (n : Node) : Still g n g n := ⟨rfl, rfl, rfl⟩

theorem Still.answers (h : Still g n g' n') : Answers g n g' n' :=
  ⟨h.heard, h.config, .inl h.sent⟩

theorem Still.trans_answers (h : Still g n g' n') (h' : Answers g' n' g'' n'') :
    Answers g n g'' n'' := by
  refine ⟨h'.heard.trans h.heard, h'.config.trans h.config, ?_⟩
  rw [← h.sent, ← h.config]
  exact h'.sent

end Traffic

open Traffic

/-! ## Taking a frame -/

/-- **A frame is sent once or not at all.** -/
theorem transmit_traffic (f : Frame) (g : Traffic) (n : Node) :
    (transmit f).Keeps contract g n fun g' n' _ => g'.heard = g.heard ∧ n' = n ∧
      (g'.sent = g.sent ∨ g'.sent = g.sent ++ [f.wire n.config.frame]) := by
  simp only [transmit, keeps_bind, keeps_node, onward_ok]
  split
  · exact ⟨rfl, rfl, .inl rfl⟩
  · rename_i wire hwire
    obtain ⟨-, -, rfl⟩ := (Frame.encode_eq_ok_iff _ _ _).1 hwire
    refine (keeps_bind _ _).2 ((keeps_setMode _).2 ⟨trivial, fun a => ?_⟩)
    cases a with
    | error e => exact ⟨List.append_nil _, rfl, .inl (List.append_nil _)⟩
    | ok u =>
      simp only [Except.mapError, onward_ok, keeps_bind, keeps_attempt, keeps_setMode,
        keeps_ofExcept]
      refine ⟨trivial, fun sent => ⟨trivial, fun restored => ?_⟩⟩
      cases sent <;>
      · refine ⟨?_, rfl, .inr ?_⟩
        · simp [Exchange.heard, Radio.Call.taken]
        · simp [Exchange.sent, Radio.Call.aired]

theorem sendAck_traffic (h : Header) (g : Traffic) (n : Node) :
    (sendAck h).Keeps contract g n fun g' n' _ => Answers g n g' n' := by
  simp only [sendAck, keeps_bind, keeps_node, onward_ok]
  refine (transmit_traffic _ g n).imp ?_
  rintro g' n' (e | u) ⟨hheard, rfl, hsent⟩
  · exact ⟨hheard, rfl, hsent.imp_right fun hsent => ⟨_, ⟨h, rfl⟩, hsent⟩⟩
  · exact ⟨hheard, rfl, hsent.imp_right fun hsent => ⟨_, ⟨h, rfl⟩, hsent⟩⟩

/-- An acknowledgment is sent if it is owed. -/
theorem acknowledge_traffic (owed : Prop) [Decidable owed] (h : Header) (e : PollEvent)
    (g : Traffic) (n : Node) :
    (if owed then sendAck h >>= fun _ => pure e else pure e : Action PollEvent).Keeps contract g n
      fun g' n' _ => Answers g n g' n' := by
  split
  · exact (sendAck_traffic h g n).bind (fun _ _ _ ha => ha) fun _ _ _ ha => ha
  · exact (Still.refl g n).answers

theorem handleAck_traffic (h : Header) (g : Traffic) (n : Node) :
    (handleAck h).Keeps contract g n fun g' n' _ => Still g n g' n' := by
  simp only [handleAck, keeps_bind, keeps_node, onward_ok]
  split
  · exact ⟨rfl, rfl, rfl⟩
  · exact ⟨rfl, rfl, rfl⟩

theorem deliver_traffic (d : Delivery) (g : Traffic) (n : Node) :
    (deliver d).Keeps contract g n fun g' n' _ => Still g n g' n' := by
  simp only [deliver, keeps_bind, keeps_node, onward_ok]
  split
  · exact ⟨trivial, fun _ => ⟨List.append_nil _, rfl, List.append_nil _⟩⟩
  · split
    · exact ⟨trivial, fun _ => ⟨List.append_nil _, rfl, List.append_nil _⟩⟩
    · exact .refl g n

/-- **A datagram is answered by at most one acknowledgment.** -/
theorem handleData_traffic (f : Frame) (rssi : Int) (g : Traffic) (n : Node) :
    (handleData f rssi).Keeps contract g n fun g' n' _ => Answers g n g' n' := by
  simp only [handleData, keeps_bind, keeps_node, onward_ok]
  split
  · simp only [keeps_bind, keeps_count, onward_ok]
    exact (acknowledge_traffic _ _ _ g _).imp fun _ _ _ ha => ⟨ha.heard, ha.config, ha.sent⟩
  · refine (deliver_traffic _ g n).bind (fun g₁ n₁ taken hs => ?_) fun _ _ _ hs => hs.answers
    split
    · simp only [keeps_bind, keeps_modify, onward_ok]
      exact (acknowledge_traffic _ _ _ g₁ _).imp fun _ _ _ ha =>
        hs.trans_answers ⟨ha.heard, ha.config, ha.sent⟩
    · simp only [keeps_bind, keeps_count, onward_ok, keeps_pure]
      exact ⟨hs.heard, hs.config, .inl hs.sent⟩

/-- **A reception is answered only if it is a frame that is no acknowledgment.** -/
theorem handle_traffic (r : Radio.Reception) (g : Traffic) (n : Node) :
    (handle r).Keeps contract g n fun g' n' _ => Answers g n g' n' ∧
      (g'.sent = g.sent ∨ provokes n.config.frame r = true) := by
  simp only [handle, keeps_bind, keeps_node, onward_ok]
  cases hf : Frame.decode n.config.frame r.bytes with
  | error defect => exact ⟨Still.answers ⟨rfl, rfl, rfl⟩, .inl rfl⟩
  | ok f =>
    dsimp only
    split
    · simp only [keeps_bind, keeps_count, onward_ok]
      cases hack : f.header.isAck with
      | true =>
        exact (handleAck_traffic f.header g _).imp fun _ _ _ hs =>
          ⟨⟨hs.heard, hs.config, .inl hs.sent⟩, .inl hs.sent⟩
      | false =>
        exact (handleData_traffic f r.rssi g _).imp fun _ _ _ ha =>
          ⟨⟨ha.heard, ha.config, ha.sent⟩, .inr (by simp [provokes, hf, hack])⟩
    · exact ⟨Still.answers ⟨rfl, rfl, rfl⟩, .inl rfl⟩

/-! ## Looking at the radio -/

/-- Nothing has gone through the radio, and the look was idle or the radio has failed. -/
theorem looked_nothing (c : Config) {g : Traffic} {r : Except Error PollEvent}
    (hheard : g.heard = []) (hsent : g.sent = []) (hr : g.failed = true ∨ r = .ok .idle) :
    Looked c g r := by
  refine ⟨by simp [hheard], fun _ hfailed => ?_, .inl hsent⟩
  rcases hr with hr | hr
  · rw [hfailed] at hr
    cases hr
  · exact hr

theorem fetch_traffic (n : Node) :
    fetch.Keeps contract {} n fun g' n' r => n'.config = n.config ∧ Looked n.config g' r := by
  refine (keeps_bind _ _).2 (keeps_receive.2 ⟨trivial, fun a => ?_⟩)
  rcases a with failure | _ | reception
  · exact ⟨rfl, looked_nothing _ rfl rfl (.inl rfl)⟩
  · exact ⟨rfl, looked_nothing _ rfl rfl (.inr rfl)⟩
  · simp only [Except.mapError, onward_ok]
    refine (handle_traffic reception _ n).imp ?_
    rintro g' n' r ⟨⟨hheard, hconfig, hsent⟩, hprovokes⟩
    have hone : g'.heard = [reception] := hheard
    refine ⟨hconfig, by simp [hone], fun h => by simp [hone] at h, ?_⟩
    rcases hprovokes with hnone | hprovokes
    · exact .inl hnone
    · rcases hsent with hnone | ⟨bytes, hack, hsent⟩
      · exact .inl hnone
      · exact .inr ⟨_, bytes, hone, hprovokes, hack, hsent⟩

/-- Going back to listening takes and sends nothing, and if it fails the radio has. -/
theorem Traffic.Looked.restored {c : Config} {g : Traffic} {r r' : Except Error PollEvent}
    {m : Radio.Mode} {a : Except Radio.Failure Unit} (h : Looked c g r)
    (hr : (∃ u, a = .ok u) → r' = r) : Looked c (g.note ⟨.radio (.setMode m), a⟩) r' := by
  have hheard : (g.note ⟨.radio (.setMode m), a⟩).heard = g.heard := List.append_nil _
  have hsent : (g.note ⟨.radio (.setMode m), a⟩).sent = g.sent := List.append_nil _
  refine ⟨hheard ▸ h.once, fun hnone hfailed => ?_, ?_⟩
  · cases a with
    | error e => simp [Exchange.failed] at hfailed
    | ok u =>
      rw [hr ⟨u, rfl⟩]
      exact h.idle (hheard ▸ hnone) (by simpa [Exchange.failed] using hfailed)
  · rw [hheard, hsent]
    exact h.sent

theorem look_traffic (n : Node) :
    look.Keeps contract {} n fun g' n' r => n'.config = n.config ∧ Looked n.config g' r := by
  refine (keeps_bind _ _).2 ((keeps_radio _).2 ⟨trivial, fun a => ?_⟩)
  rcases a with failure | _ | _
  · exact ⟨rfl, looked_nothing _ rfl rfl (.inl rfl)⟩
  · exact ⟨rfl, looked_nothing _ rfl rfl (.inr rfl)⟩
  · simp only [Except.mapError, onward_ok, if_true, keeps_bind, keeps_attempt, keeps_setMode,
      keeps_ofExcept]
    refine (fetch_traffic n).imp ?_
    rintro g' n' r ⟨hconfig, hlooked⟩
    refine ⟨trivial, fun a => ?_⟩
    rcases r with e | event <;> rcases a with e' | u
    · exact ⟨hconfig, hlooked.restored (by rintro ⟨u, hu⟩; cases hu)⟩
    · exact ⟨hconfig, hlooked.restored fun _ => rfl⟩
    · exact ⟨hconfig, hlooked.restored (by rintro ⟨u, hu⟩; cases hu)⟩
    · exact ⟨hconfig, hlooked.restored fun _ => rfl⟩

/-- **A look at the radio takes at most one frame, and sends at most the acknowledgment of it**, on
any radio. -/
theorem poll_traffic (n : Node) :
    poll.Keeps contract {} n fun g' n' r => n'.config = n.config ∧ Looked n.config g' r := by
  refine (keeps_bind _ _).2 ((keeps_ask _).2 ⟨trivial, fun m => ?_⟩)
  rw [onward_ok]
  dsimp only
  split
  · refine (keeps_bind _ _).2 ((keeps_setMode _).2 ⟨trivial, fun a => ?_⟩)
    cases a with
    | error e => exact ⟨rfl, looked_nothing _ rfl rfl (.inl rfl)⟩
    | ok u => exact look_traffic n
  · exact look_traffic n

end Link
end PacketRadio
