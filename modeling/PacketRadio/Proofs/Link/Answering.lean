/-
# When a node acknowledges

rflink specification, §4.4: which data is acknowledged; broadcast and sniffed
frames never are.

A reception is due an acknowledgment if it is a datagram for this node alone
that asks for one, and the node has just handed it over or has handed over its
number last of all from that sender.

| reception | is acknowledged |
| --- | --- |
| no frame, a frame for another node, an acknowledgment | never |
| a broadcast, or what was only overheard | never |
| a datagram for which there was no room | never |
| a datagram that was handed over, or comes again | if it is for this node and asks for it |

If the radio does not switch to sending, what is due is not sent; nothing else
keeps it back.

Main statement: `Life.acknowledges_due`.
-/

import PacketRadio.Proofs.Link.Stretches
import PacketRadio.Proofs.Frame.RoundTrip

namespace PacketRadio
namespace Link

open PacketRadio.Link.Action

/-! ## What is due -/

/-- The reception is a datagram that is due an acknowledgment from a node of this configuration,
which has just made these deliveries. -/
structure Node.Due (n : Node) (c : Config) (r : Radio.Reception) (handed : List Delivery)
    (f : Frame) : Prop where
  /-- It can be read. -/
  decoded : Frame.decode c.frame r.bytes = .ok f
  /-- It is no acknowledgment. -/
  data : f.header.isAck = false
  /-- It asks for one. -/
  asks : Flag.has f.header.flags Flag.noAck = false
  /-- It is for this node. -/
  here : f.header.dst = c.address
  /-- It has just been handed over, or its number was the last one from its sender. -/
  known : f.delivery r.rssi ∈ handed ∨ n.lastAccepted.get? f.header.src = some f.header.id

/-- No exchange was a failure to switch the mode. -/
def ModesHold (es : List Exchange) : Prop :=
  ∀ mode failure, ⟨.radio (.setMode mode), .error failure⟩ ∉ es

/-- What a node sends when it handles a reception. -/
structure Acknowledges (n : Node) (c : Config) (r : Radio.Reception) (es : List Exchange)
    (n' : Node) : Prop where
  /-- At most one frame is sent. -/
  once : (es.filterMap Exchange.sent).length ≤ 1
  /-- One is sent exactly if an acknowledgment is due, as long as the mode can be switched. -/
  due : ModesHold es → (es.filterMap Exchange.sent ≠ [] ↔
    ∃ f, n.Due c r (es.filterMap Exchange.handed) f)
  /-- What is sent is the acknowledgment that is due. -/
  ack : ∀ wire ∈ es.filterMap Exchange.sent, ∃ f, n.Due c r (es.filterMap Exchange.handed) f ∧
    Frame.decode c.frame wire = .ok ⟨⟨f.header.src, c.address, f.header.id, Flag.ack⟩, []⟩
  /-- What can not be read is not acknowledged. -/
  noise : ∀ defect, Frame.decode c.frame r.bytes = .error defect → es.filterMap Exchange.sent = []
  /-- Nor is what is for everyone or for another node, nor an acknowledgment. -/
  other : ∀ f, Frame.decode c.frame r.bytes = .ok f →
    f.header.dst = Address.broadcast ∨ f.header.dst ≠ c.address ∨ f.header.isAck = true →
      es.filterMap Exchange.sent = []
  /-- Nor is what is counted in any other way than as delivered or as a duplicate. -/
  counted : ∀ k, Raises (some k) n.telemetry n'.telemetry → k ≠ .delivered → k ≠ .duplicates →
    es.filterMap Exchange.sent = []

section

variable {n n' : Node} {es : List Exchange} {r : Radio.Reception} {f : Frame} {c : Config}

/-- An acknowledgment is owed for what is for the node alone and asks for it. -/
theorem Node.owesAck_iff (hn : n.config.address ≠ Address.broadcast) (h : Header) :
    n.owesAck h = true ↔
      h.isAck = false ∧ Flag.has h.flags Flag.noAck = false ∧ h.dst = n.config.address := by
  have hbroadcast : h.dst = n.config.address → h.isBroadcast = false := by
    intro hdst
    simpa [Header.isBroadcast, hdst] using hn
  simp only [Node.owesAck, AddressFilter.isLocal, Config.filter, Header.wantsAck, Bool.and_eq_true,
    Bool.not_eq_true', beq_iff_eq]
  constructor
  · rintro ⟨hdst, ⟨hack, -⟩, hno⟩
    exact ⟨hack, hno, hdst⟩
  · rintro ⟨hack, hno, hdst⟩
    exact ⟨hdst, ⟨hack, hbroadcast hdst⟩, hno⟩

/-- The acknowledgment that a node makes, as it is sent. -/
def Node.ackWire (n : Node) (h : Header) : Bytes :=
  (Frame.ackFor h n.address).wire n.config.frame

/-! ## Acknowledging -/

/-- **What is sent is the frame, or nothing.** -/
theorem Sending.sent_eq {c : Frame.Config} {result : Except Error Unit}
    (hs : Sending c f es result) :
    es.filterMap Exchange.sent = [] ∨ es.filterMap Exchange.sent = [f.wire c] := by
  cases hs with
  | unwritten hw => exact .inl rfl
  | refused hw failure => exact .inl rfl
  | aired hw sent restored =>
    obtain ⟨-, -, rfl⟩ := (Frame.encode_eq_ok_iff _ _ _).1 hw
    exact .inr rfl

/-- **What can be written is sent if the mode can be switched.** -/
theorem Sending.sent_of_modesHold {c : Frame.Config} {result : Except Error Unit}
    (hs : Sending c f es result) (hc : c.Valid) (hf : f.payload.length ≤ c.payloadLimit)
    (hmodes : ModesHold es) : es.filterMap Exchange.sent ≠ [] := by
  have hencode : f.encode c = .ok (f.wire c) :=
    (Frame.encode_eq_ok_iff _ _ _).2 ⟨hc.preamble, hf, rfl⟩
  cases hs with
  | unwritten hw => rw [hencode] at hw; cases hw
  | refused hw failure => exact absurd List.mem_cons_self (hmodes _ failure)
  | aired hw sent restored => exact List.cons_ne_nil _ _

/-- What is sent is the acknowledgment, and it was owed. -/
theorem Acknowledging.sent_eq {h : Header} {result : Except Error Unit}
    (hk : Acknowledging n h es n' result) :
    es.filterMap Exchange.sent = [] ∨
      n.owesAck h = true ∧ es.filterMap Exchange.sent = [n.ackWire h] := by
  cases hk with
  | unowed ho => exact .inl rfl
  | failed ho hs => exact hs.sent_eq.imp_right fun hsent => ⟨ho, hsent⟩
  | sent ho hs => exact hs.sent_eq.imp_right fun hsent => ⟨ho, hsent⟩

/-- What is owed is sent if the mode can be switched. -/
theorem Acknowledging.sent_of_modesHold {h : Header} {result : Except Error Unit}
    (hk : Acknowledging n h es n' result) (hc : n.config.frame.Valid) (ho : n.owesAck h = true)
    (hmodes : ModesHold es) : es.filterMap Exchange.sent ≠ [] := by
  have hlen : (Frame.ackFor h n.address).payload.length ≤ n.config.frame.payloadLimit :=
    Nat.zero_le _
  cases hk with
  | unowed hnot => rw [ho] at hnot; cases hnot
  | failed ho hs => exact hs.sent_of_modesHold hc hlen hmodes
  | sent ho hs => exact hs.sent_of_modesHold hc hlen hmodes

/-! ## Handling -/

/-- What is handed over is what was offered and taken. -/
theorem Delivering.handed_eq {d : Delivery} {taken : Bool} (hs : Delivering n d es n' taken) :
    es.filterMap Exchange.handed = if taken then [d] else [] := by
  cases hs with
  | kept hs room => rfl
  | full hs room => rfl
  | offered hs taken => cases taken <;> rfl

theorem Delivering.sent_eq {d : Delivery} {taken : Bool} (hs : Delivering n d es n' taken) :
    es.filterMap Exchange.sent = [] := by
  cases hs <;> rfl

/-- Offering a delivery counts nothing. -/
theorem Delivering.telemetry_eq {d : Delivery} {taken : Bool} (hs : Delivering n d es n' taken) :
    n'.telemetry = n.telemetry := by
  cases hs <;> rfl

theorem Node.owesAck_congr (h : n'.config = n.config) : n'.owesAck = n.owesAck := by
  funext header
  rw [Node.owesAck, Node.owesAck, h]

theorem Node.ackWire_congr (h : n'.config = n.config) : n'.ackWire = n.ackWire := by
  funext header
  rw [Node.ackWire, Node.ackWire, Node.address, Node.address, h]

/-- **What is sent when a reception is handled is due.** -/
theorem Handling.sent_eq {event : Except Error PollEvent} (hh : Handling n r es n' event)
    (ha : n.config.address ≠ Address.broadcast) :
    es.filterMap Exchange.sent = [] ∨
      ∃ f, n.Due n.config r (es.filterMap Exchange.handed) f ∧
        es.filterMap Exchange.sent = [n.ackWire f.header] := by
  cases hh with
  | dropped hf => exact .inl rfl
  | filtered hf hother => exact .inl rfl
  | matched ht hack hw => exact .inl rfl
  | ignored ht hack hw => exact .inl rfl
  | @duplicate f es n' acked ht hack hd hk =>
    refine hk.sent_eq.imp_right fun ⟨ho, hsent⟩ => ⟨f, ?_, hsent⟩
    obtain ⟨-, hno, hdst⟩ := (Node.owesAck_iff ha f.header).1 ho
    exact ⟨ht.decoded, hack, hno, hdst, .inr (by simpa [Node.isDuplicate] using hd)⟩
  | overflowed ht hack hd hs => exact .inl hs.sent_eq
  | @delivered f es es' n₁ n' acked ht hack hd hs hk =>
    have hconfig : (n₁.accept f.header).config = n.config := hs.config_eq
    simp only [List.filterMap_append, hs.sent_eq, hs.handed_eq, hk.heard.2, List.nil_append]
    refine hk.sent_eq.imp_right fun ⟨ho, hsent⟩ => ⟨f, ?_, Node.ackWire_congr hconfig ▸ hsent⟩
    rw [Node.owesAck_congr hconfig] at ho
    obtain ⟨-, hno, hdst⟩ := (Node.owesAck_iff ha f.header).1 ho
    exact ⟨ht.decoded, hack, hno, hdst, .inl (by simp)⟩

/-- **What is due is sent if the mode can be switched.** -/
theorem Handling.sent_of_due {event : Except Error PollEvent} (hh : Handling n r es n' event)
    (hc : n.config.Valid) (hdue : n.Due n.config r (es.filterMap Exchange.handed) f)
    (hmodes : ModesHold es) : es.filterMap Exchange.sent ≠ [] := by
  have howed : n.owesAck f.header = true :=
    (Node.owesAck_iff hc.address f.header).2 ⟨hdue.data, hdue.asks, hdue.here⟩
  cases hh with
  | dropped hf => rw [hdue.decoded] at hf; cases hf
  | @filtered g hf hother =>
    obtain rfl : g = f := Except.ok.inj (hf.symm.trans hdue.decoded)
    have hlocal : n.config.filter.isLocal g.header = true := by
      simp [AddressFilter.isLocal, Config.filter, hdue.here]
    rw [AddressFilter.accepts_of_isLocal hlocal] at hother
    cases hother
  | matched ht hack hw =>
    rw [ht.eq_of_decode hdue.decoded, hdue.data] at hack
    cases hack
  | ignored ht hack hw =>
    rw [ht.eq_of_decode hdue.decoded, hdue.data] at hack
    cases hack
  | duplicate ht hack hd hk =>
    obtain rfl := ht.eq_of_decode hdue.decoded
    exact hk.sent_of_modesHold hc.frame howed hmodes
  | overflowed ht hack hd hs =>
    obtain rfl := ht.eq_of_decode hdue.decoded
    rcases hdue.known with hhanded | hknown
    · simp [hs.handed_eq] at hhanded
    · simp [Node.isDuplicate, hknown] at hd
  | @delivered g es es' n₁ n' acked ht hack hd hs hk =>
    obtain rfl := ht.eq_of_decode hdue.decoded
    have hconfig : (n₁.accept g.header).config = n.config := hs.config_eq
    have hmodes' : ModesHold es' := fun mode failure he =>
      hmodes mode failure (List.mem_append_right _ he)
    have hsent := hk.sent_of_modesHold (hconfig ▸ hc.frame)
      (Node.owesAck_congr hconfig ▸ howed) hmodes'
    rwa [List.filterMap_append, hs.sent_eq, List.nil_append]

/-- A datagram that comes again is counted as a duplicate. -/
theorem Node.raises_duplicates (n : Node) (f : Frame) (rssi : Int) :
    Raises (some .duplicates) n.telemetry
      ((n.hearing f rssi).count fun t => { t with duplicates := t.duplicates + 1 }).telemetry :=
  fun k => by cases k <;> rfl

/-- A datagram that is delivered is counted as that. -/
theorem Delivering.raises_delivered {rssi : Int} {d : Delivery} {taken : Bool}
    (hs : Delivering (n.hearing f rssi) d es n' taken) (h : Header) :
    Raises (some .delivered) n.telemetry (n'.accept h).telemetry := by
  have htelemetry := hs.telemetry_eq
  intro k
  cases k <;> simp [Node.accept, Telemetry.tally, htelemetry, Node.hearing, Node.count]

/-- **What is acknowledged is counted as delivered or as a duplicate.** -/
theorem Handling.counted {event : Except Error PollEvent} (hh : Handling n r es n' event)
    (hsent : es.filterMap Exchange.sent ≠ []) :
    Raises (some .delivered) n.telemetry n'.telemetry ∨
      Raises (some .duplicates) n.telemetry n'.telemetry := by
  cases hh with
  | dropped hf => exact absurd rfl hsent
  | filtered hf hother => exact absurd rfl hsent
  | matched ht hack hw => exact absurd rfl hsent
  | ignored ht hack hw => exact absurd rfl hsent
  | duplicate ht hack hd hk =>
    exact .inr ((n.raises_duplicates _ _).trans_right hk.kept.counters)
  | overflowed ht hack hd hs => exact absurd hs.sent_eq hsent
  | delivered ht hack hd hs hk =>
    exact .inl ((hs.raises_delivered _).trans_right hk.kept.counters)

/-! ## In a stretch -/

theorem Node.Due.congr {handed : List Delivery} (h : n'.Due c r handed f)
    (hknown : n'.lastAccepted = n.lastAccepted) : n.Due c r handed f :=
  ⟨h.decoded, h.data, h.asks, h.here, hknown ▸ h.known⟩

theorem Handled.acknowledges (h : Handled n r es n') (hc : n.config.Valid) :
    Acknowledges n n.config r es n' := by
  obtain @⟨n₁, n₂, es₁, event, hbefore, hh, hafter, hpart, -, hsent, hhanded⟩ := h
  have hconfig := hbefore.config
  have hknown := hbefore.lastAccepted
  have hc₁ : n₁.config.Valid := hconfig ▸ hc
  have hout := hh.sent_eq hc₁.address
  have hack : ∀ wire ∈ es.filterMap Exchange.sent, ∃ f,
      n.Due n.config r (es.filterMap Exchange.handed) f ∧ wire = n.ackWire f.header := by
    intro wire hwire
    rw [hsent] at hwire
    rcases hout with hnone | ⟨f, hdue, hone⟩
    · rw [hnone] at hwire
      cases hwire
    · rw [hone, Node.ackWire_congr hconfig, List.mem_singleton] at hwire
      exact ⟨f, hhanded ▸ hconfig ▸ hdue.congr hknown, hwire⟩
  have hsilent : (∀ f, ¬n.Due n.config r (es.filterMap Exchange.handed) f) →
      es.filterMap Exchange.sent = [] := fun hnot =>
    List.eq_nil_iff_forall_not_mem.2 fun wire hwire =>
      let ⟨f, hdue, _⟩ := hack wire hwire
      hnot f hdue
  constructor
  case once =>
    rw [hsent]
    rcases hout with hnone | ⟨f, hdue, hone⟩
    · simp [hnone]
    · simp [hone]
  case due =>
    refine fun hmodes => ⟨fun hsome => ?_, fun ⟨f, hdue⟩ => ?_⟩
    · by_contra hnot
      exact hsome (hsilent fun f hdue => hnot ⟨f, hdue⟩)
    · have hdue₁ : n₁.Due n₁.config r (es₁.filterMap Exchange.handed) f :=
        hconfig ▸ hhanded ▸ hdue.congr hknown.symm
      rw [hsent]
      exact hh.sent_of_due hc₁ hdue₁ fun mode failure he => hmodes mode failure (hpart he)
  case ack =>
    intro wire hwire
    obtain ⟨f, hdue, rfl⟩ := hack wire hwire
    exact ⟨f, hdue, Frame.decode_wire hc.frame (Nat.zero_le _)⟩
  case noise =>
    intro defect hdefect
    refine hsilent fun f hdue => ?_
    rw [hdue.decoded] at hdefect
    cases hdefect
  case other =>
    intro f hf hother
    refine hsilent fun g hdue => ?_
    obtain rfl : g = f := Except.ok.inj (hdue.decoded.symm.trans hf)
    rcases hother with hbroadcast | helse | hisAck
    · exact hc.address (hdue.here.symm.trans hbroadcast)
    · exact helse hdue.here
    · rw [hdue.data] at hisAck
      cases hisAck
  case counted =>
    intro k hk hdelivered hduplicates
    rw [hsent]
    by_contra hsome
    rcases hh.counted hsome with hraised | hraised
    · exact hdelivered
        ((hbefore.counters.trans_left hraised).trans_right hafter.counters |>.unique hk)
    · exact hduplicates
        ((hbefore.counters.trans_left hraised).trans_right hafter.counters |>.unique hk)

end

/-! ## All its life -/

/-- **A node acknowledges what is due, and nothing else.**  This holds of every stretch of its life:
of one in which it takes a reception, whatever that is, and of one in which it takes none, where it
may only send datagrams. -/
theorem Life.acknowledges_due {c : Config} {es₀ : List Exchange} {n₀ : Node}
    (hup : Task.Path (bringUp c) es₀ (.done (.ok n₀))) {h : History} {st : Status}
    (hl : Life n₀ h st) {n : Node} (hn : st.node? = some n) {es : List Exchange}
    {result : Except Error (Turn Activity Reply)} {n' : Node} (hs : Stretch n es (result, n')) :
    (∀ r, es.filterMap Exchange.heard = [r] → Acknowledges n c r es n') ∧
      (es.filterMap Exchange.heard = [] → ∀ wire ∈ es.filterMap Exchange.sent,
        ∃ f, Frame.decode c.frame wire = .ok f ∧ f.header.isAck = false) ∧
      (es.filterMap Exchange.heard).length ≤ 1 := by
  obtain ⟨hvalid, rfl⟩ := bringUp_path hup
  obtain rfl : n.config = c := hl.visible (upheld_config c) rfl hn
  refine ⟨fun r hr => (hs.handled_of_heard hr).acknowledges hvalid, fun hnone wire hwire => ?_, ?_⟩
  · rcases hs.handled with hunheard | ⟨r, hhandled⟩
    · obtain ⟨f, hw, hf⟩ := hunheard.sent wire hwire
      exact ⟨f, Frame.decode_of_encode hvalid.frame hw, hf⟩
    · rw [hhandled.heard] at hnone
      cases hnone
  · rcases hs.handled with hunheard | ⟨r, hhandled⟩
    · simp [hunheard.heard]
    · simp [hhandled.heard]

set_option maxRecDepth 2000 in
/-- A fresh node looks at its radio and takes a datagram from node 2.  It hands it over and gives
the acknowledgment to the radio, which goes off the air over it. -/
theorem acknowledges_due_interrupted :
    ∃ (f : Frame) (es : List Exchange) (n' : Node), f = ⟨⟨1, 2, 5, 0⟩, [9]⟩ ∧
      Stretch (Node.fresh {}) es (.error (.radio .shutdown), n') ∧
      es.filterMap Exchange.sent = [(Frame.ackFor f.header 1).wire {}] ∧
      Acknowledges (Node.fresh {}) {} ⟨f.wire {}, -40⟩ es n' := by
  obtain ⟨f, hf⟩ : ∃ f : Frame, f = ⟨⟨1, 2, 5, 0⟩, [9]⟩ := ⟨_, rfl⟩
  obtain ⟨n', hpath⟩ : ∃ n', Task.Path (Operation.poll.start (Node.fresh {}))
      [⟨.mode, .receive⟩, ⟨.radio .frameReady, .ok true⟩,
        ⟨.radio .receive, .ok (some ⟨f.wire {}, -40⟩)⟩, ⟨.kept (f.delivery (-40)), ()⟩,
        ⟨.radio (.setMode .transmit), .ok ()⟩,
        ⟨.radio (.transmit ((Frame.ackFor f.header 1).wire {})), .error .shutdown⟩,
        ⟨.radio (.setMode .receive), .ok ()⟩, ⟨.radio (.setMode .receive), .ok ()⟩]
      (.done (.error (.radio .shutdown), n')) := by
    subst hf
    exact ⟨_, .step (.step (.step (.step (.step (.step (.step (.step (.here _))))))))⟩
  have hs := Stretch.start .poll hpath
  exact ⟨f, _, n', hf, hs, rfl, (Life.acknowledges_due bringUp_usual .start rfl hs).1 _ rfl⟩

end Link
end PacketRadio
