/-
# The two sides of an exchange

rflink specification, §10: `simulate` without fault injection.

The client's datagrams and the server's answers go the same way: one party
sends a datagram and waits, and the other takes it and acknowledges it.  Both
number what they send from zero, and know the number of what they took last,
so a datagram is never taken for the one before it.

| party | sends | takes |
| --- | --- | --- |
| client | the datagrams | the answers |
| server | the answers | the datagrams |

Main statements: `Standing.gets_poll_datagram`, `Standing.gets_poll_ack`, and
one rule for each kind of turn of a send and of waiting for a delivery.
-/

import PacketRadio.Proofs.Link.Ledger
import PacketRadio.Proofs.Simulation.Scene

namespace PacketRadio

/-- **There is time left** when a wait begins. -/
theorem Deadline.left_after (now : Nat) {timeout : Nat} (h : 0 < timeout) :
    ∃ rest, (Deadline.after now timeout).left now = some rest := by
  unfold Deadline.after
  split
  · exact ⟨_, if_pos (by omega)⟩
  · exact ⟨_, rfl⟩

namespace Simulation

open Link (Activity Delivery Node Operation Pending PollEvent Reply Send SendOutcome Surroundings
  Turn)
open Link.Action

/-! ## Who sends what -/

/-- The party at the other side. -/
def Party.peer : Party → Party
  | .client => .server
  | .server => .client
  | .sniffer => .sniffer

@[simp] theorem Party.peer_peer (p : Party) : p.peer.peer = p := by
  cases p <;> rfl

/-- The peer of a party that talks is another one that does. -/
theorem Party.peer_ne {p : Party} (hp : p ≠ .sniffer) : p.peer ≠ p ∧ p.peer ≠ .sniffer := by
  cases p with
  | sniffer => exact absurd rfl hp
  | _ => exact ⟨nofun, nofun⟩

/-- How long a node pauses when its radio has nothing. -/
def pollInterval : Nat := 5 * Duration.millisecond

namespace Settings

variable (s : Settings)

/-- The address of a party; of the listening node only if there is one. -/
def address : Party → Address
  | .server => s.server
  | .client => s.client
  | .sniffer => s.sniffer.getD Address.broadcast

/-- What a party sends to its peer. -/
def content : Party → Bytes
  | .client => s.payload
  | _ => replyPayload

/-- The datagram of this number that a party sends. -/
def datagram (p : Party) (i : Nat) : Frame :=
  ⟨⟨s.address p.peer, s.address p, UInt8.ofNat i, 0⟩, s.content p⟩

/-- What a party sends to acknowledge its peer's datagram of this number. -/
def ack (p : Party) (i : Nat) : Frame :=
  ⟨⟨s.address p.peer, s.address p, UInt8.ofNat i, Flag.ack⟩, []⟩

/-- The datagram as it is handed over. -/
def delivery (p : Party) (i : Nat) : Delivery :=
  (s.datagram p i).delivery (-40)

/-- The send of a datagram. -/
def send (p : Party) (i : Nat) (started : Nat) : Send :=
  { dst := s.address p.peer, id := UInt8.ofNat i, payload := s.content p,
    attempts := max (max s.retries 1) 1, timeout := s.ackTimeout, started }

/-- The send when its only copy has gone out. -/
def sent (p : Party) (i : Nat) (started deadline : Nat) : Send :=
  { s.send p i started with phase := .waiting (some deadline) }

/-- Nothing goes wrong in a simulation. -/
structure Calm : Prop where
  /-- The nodes that talk can be told from each other. -/
  distinct : s.client ≠ s.server
  /-- And from all nodes together. -/
  addressed : ∀ p ≠ .sniffer, s.address p ≠ Address.broadcast
  /-- And from the one that listens. -/
  apart : ∀ a, s.sniffer = some a → a ≠ Address.broadcast ∧ a ≠ s.server ∧ a ≠ s.client
  /-- Frames can be written and read. -/
  frame : s.frame.Valid
  /-- What is sent fits into them. -/
  fits : ∀ p, (s.content p).length ≤ s.frame.maxPayload
  /-- An acknowledgment is waited for longer than a node pauses twice. -/
  patient : 2 * pollInterval < s.ackTimeout
  /-- But not too long. -/
  timeout : s.ackTimeout ≤ Link.maxAckTimeout
  /-- There is a pause between datagrams. -/
  interval : 0 < s.interval
  /-- Answers are waited for. -/
  replyTimeout : 0 < s.replyTimeout
  /-- There are no faults. -/
  faults : s.faults = {}
  /-- The clock reaches to the end. -/
  clock : (s.count + 1) * (s.ackTimeout + s.interval) + Duration.second < Deadline.beyond

end Settings

/-! ## The nodes that talk -/

/-- The number of what was taken last. -/
def lastId : Nat → Option UInt8
  | 0 => none
  | taken + 1 => some (UInt8.ofNat taken)

theorem ofNat_succ (i : Nat) : UInt8.ofNat i + 1 = UInt8.ofNat (i + 1) := by
  simp [UInt8.ofNat_add]

/-- **Numbers wrap around, but two in a row differ.** -/
theorem lastId_ne (taken : Nat) : lastId taken ≠ some (UInt8.ofNat taken) := by
  cases taken with
  | zero => exact nofun
  | succ k =>
    intro h
    have hk : (UInt8.ofNat k).toNat = (UInt8.ofNat (k + 1)).toNat :=
      congrArg UInt8.toNat (Option.some.inj h)
    simp only [UInt8.toNat_ofNat'] at hk
    omega

/-- A node that has sent and taken so many datagrams, with this one pending and these in its
queue. -/
structure Standing (s : Settings) (p : Party) (sent taken : Nat) (pending : Option Pending)
    (waiting : List Delivery) (n : Node) : Prop where
  /-- It is the party's node. -/
  config : n.config = s.node (s.address p)
  /-- It knows what to send next. -/
  nextId : n.nextId = UInt8.ofNat sent
  /-- It knows what it took last. -/
  known : n.lastAccepted.get? (s.address p.peer) = lastId taken
  /-- What is pending. -/
  pending : n.pending = pending
  /-- Its queue. -/
  sink : n.sink = .queue 10 waiting
  /-- Nothing came twice. -/
  duplicates : n.telemetry.duplicates = 0

variable {s : Settings} {p : Party} {sent taken : Nat} {pending : Option Pending}
  {waiting : List Delivery} {n : Node} {σ : Scene} {network : Network}

namespace Standing

theorem fresh (s : Settings) (p : Party) :
    Standing s p 0 0 none [] (Node.fresh (s.node (s.address p))) :=
  ⟨rfl, rfl, rfl, rfl, rfl, rfl⟩

/-- Counting something else changes nothing of this. -/
theorem count (hn : Standing s p sent taken pending waiting n) {f : Link.Telemetry → Link.Telemetry}
    (hf : ∀ t, (f t).duplicates = t.duplicates) :
    Standing s p sent taken pending waiting (n.count f) :=
  ⟨hn.config, hn.nextId, hn.known, hn.pending, hn.sink, (hf _).trans hn.duplicates⟩

/-- The peer's next datagram has been taken. -/
theorem accept (hn : Standing s p sent taken pending waiting n) :
    Standing s p sent (taken + 1) pending (waiting ++ [s.delivery p.peer taken])
      (Node.accept { n with sink := .queue 10 (waiting ++ [s.delivery p.peer taken]) }
        (s.datagram p.peer taken).header) :=
  ⟨hn.config, hn.nextId, Link.PeerTable.get?_insert_self .., hn.pending, rfl, hn.duplicates⟩

theorem frame (hn : Standing s p sent taken pending waiting n) : n.config.frame = s.frame := by
  rw [hn.config]
  rfl

theorem address (hn : Standing s p sent taken pending waiting n) : n.address = s.address p := by
  rw [Node.address, hn.config]
  rfl

theorem isLocal (hn : Standing s p sent taken pending waiting n) {h : Header}
    (hdst : h.dst = s.address p) : n.config.filter.isLocal h = true := by
  rw [hn.config]
  simp [Link.Config.filter, AddressFilter.isLocal, Settings.node, hdst]

end Standing

/-! ## What comes in -/

theorem datagram_isAck (s : Settings) (p : Party) (i : Nat) :
    (s.datagram p i).header.isAck = false := by
  show Flag.has 0 Flag.ack = false
  decide

theorem datagram_wantsAck (hs : s.Calm) {p : Party} (hp : p ≠ .sniffer) (i : Nat) :
    (s.datagram p.peer i).header.wantsAck = true := by
  have hdst : (s.datagram p.peer i).header.isBroadcast = false := by
    refine beq_eq_false_iff_ne.2 ?_
    show s.address p.peer.peer ≠ _
    rw [p.peer_peer]
    exact hs.addressed p hp
  have hflag : Flag.has (s.datagram p.peer i).header.flags Flag.noAck = false := by
    show Flag.has 0 Flag.noAck = false
    decide
  rw [Header.wantsAck, datagram_isAck, hdst, hflag]
  rfl

theorem ackFor_datagram (s : Settings) (p : Party) (i : Nat) :
    Frame.ackFor (s.datagram p.peer i).header (s.address p) = s.ack p i := rfl

namespace Standing

open Scene (Shows)

variable (hs : s.Calm) (h : Shows s.frame σ network) (hboard : σ.aboard p = true)

include hs h hboard

/-- A party acknowledges a datagram. -/
theorem gets_sendAck (hn : Standing s p sent taken pending waiting n) (i : Nat)
    {Q : Network → Progress (Except Link.Error Unit × Node) → Prop}
    (hQ : ∀ network' n', Standing s p sent taken pending waiting n' →
      Shows s.frame (σ.air p (s.ack p i)) network' → Q network' (.done (.ok (), n'))) :
    (sendAck (s.datagram p.peer i).header).Gets (Network.surroundings p.station) network n Q := by
  simp only [sendAck, gets_bind, gets_node, proceeds_ok, hn.address, ackFor_datagram]
  refine Scene.gets_transmit h hboard hs.frame hn.frame (Nat.zero_le _) fun network₁ h₁ => ?_
  simp only [proceeds_ok, gets_count]
  exact hQ network₁ _ (hn.count fun _ => rfl) h₁

/-- A party takes a frame that is for it; its signal strength is noted first. -/
theorem gets_poll_own (hn : Standing s p sent taken pending waiting n) {f : Frame}
    (hdst : f.header.dst = s.address p) (hfits : f.payload.length ≤ s.frame.maxPayload)
    {rest : List Frame} (hinbox : σ.inbox p = f :: rest)
    {Q : Network → Progress (Except Link.Error PollEvent × Node) → Prop}
    (hQ : ∀ network' n', Standing s p sent taken pending waiting n' →
      Shows s.frame (σ.take p) network' →
      (if f.header.isAck then handleAck f.header else handleData f (-40)).Gets
        (Network.surroundings p.station) network' n' fun network' progress =>
          ∃ σ' event n', progress = .done (.ok event, n') ∧ Shows s.frame σ' network' ∧
            σ'.aboard p = true ∧
            ∀ network', Shows s.frame σ' network' → Q network' (.done (.ok event, n'))) :
    poll.Gets (Network.surroundings p.station) network n Q := by
  have hdecode := Scene.decode_reception hs.frame hn.frame hfits
  refine Scene.gets_poll_frame h hboard hinbox fun network₁ h₁ => ?_
  simp only [handle, gets_bind, gets_node, proceeds_ok, hdecode,
    AddressFilter.accepts_of_isLocal (hn.isLocal hdst), if_true, gets_count]
  exact hQ network₁ _ (hn.count fun _ => rfl) h₁

/-- **A party takes its peer's next datagram** and acknowledges it. -/
theorem gets_poll_datagram (hp : p ≠ .sniffer)
    (hn : Standing s p sent taken pending waiting n) (hroom : waiting.length < 10)
    {rest : List Frame} (hinbox : σ.inbox p = s.datagram p.peer taken :: rest)
    {Q : Network → Progress (Except Link.Error PollEvent × Node) → Prop}
    (hQ : ∀ network' event n', event ≠ .idle →
      Standing s p sent (taken + 1) pending (waiting ++ [s.delivery p.peer taken]) n' →
      Shows s.frame ((σ.take p).air p (s.ack p taken)) network' →
      Q network' (.done (.ok event, n'))) :
    poll.Gets (Network.surroundings p.station) network n Q := by
  have hdst : (s.datagram p.peer taken).header.dst = s.address p := by
    show s.address p.peer.peer = _
    rw [p.peer_peer]
  refine hn.gets_poll_own hs h hboard hdst (hs.fits p.peer) hinbox fun network₁ n₁ hn₁ h₁ => ?_
  have hnew : n₁.isDuplicate (s.datagram p.peer taken).header = false := by
    refine beq_eq_false_iff_ne.2 ?_
    show n₁.lastAccepted.get? (s.address p.peer) ≠ some (UInt8.ofNat taken)
    rw [hn₁.known]
    exact lastId_ne taken
  have howes : n₁.owesAck (s.datagram p.peer taken).header = true := by
    rw [Node.owesAck, hn₁.isLocal hdst, datagram_wantsAck hs hp]
    rfl
  simp only [datagram_isAck, Bool.false_eq_true, if_false, handleData, gets_bind, gets_node,
    proceeds_ok, hnew, deliver, hn₁.sink, if_pos hroom, gets_modify]
  refine Scene.gets_kept ?_
  simp only [proceeds_ok, gets_pure, if_true, gets_bind, gets_modify, howes]
  refine hn₁.accept.gets_sendAck hs h₁ hboard taken fun network₂ n₂ hn₂ h₂ => ?_
  exact ⟨_, _, n₂, rfl, h₂, hboard, fun network₃ h₃ => hQ network₃ _ n₂ (by simp) hn₂ h₃⟩

/-- **A party takes the acknowledgment that it waits for.** -/
theorem gets_poll_ack {i : Nat}
    (hn : Standing s p sent taken (some ⟨s.address p.peer, UInt8.ofNat i, false⟩) waiting n)
    {rest : List Frame} (hinbox : σ.inbox p = s.ack p.peer i :: rest)
    {Q : Network → Progress (Except Link.Error PollEvent × Node) → Prop}
    (hQ : ∀ network' event n', event ≠ .idle →
      Standing s p sent taken (some ⟨s.address p.peer, UInt8.ofNat i, true⟩) waiting n' →
      Shows s.frame (σ.take p) network' → Q network' (.done (.ok event, n'))) :
    poll.Gets (Network.surroundings p.station) network n Q := by
  have hdst : (s.ack p.peer i).header.dst = s.address p := by
    show s.address p.peer.peer = _
    rw [p.peer_peer]
  have hack : (s.ack p.peer i).header.isAck = true := by
    show Flag.has Flag.ack Flag.ack = true
    decide
  refine hn.gets_poll_own hs h hboard hdst (Nat.zero_le _) hinbox fun network₁ n₁ hn₁ h₁ => ?_
  have hawaits : n₁.awaits (s.ack p.peer i).header = true := by
    rw [Node.awaits, hn₁.isLocal hdst, hn₁.pending]
    simp [Settings.ack]
  simp only [hack, if_true, handleAck, gets_bind, gets_node, proceeds_ok, hawaits, gets_modify]
  refine ⟨_, _, n₁.resolve, rfl, h₁, hboard, fun network₂ h₂ => ?_⟩
  refine hQ network₂ _ _ (by simp) ?_ h₂
  exact ⟨hn₁.config, hn₁.nextId, hn₁.known, by simp [Node.resolve, hn₁.pending], hn₁.sink,
    hn₁.duplicates⟩

/-! ## Turns of a send -/

omit hboard in
/-- **A send begins.** -/
theorem gets_send (hp : p ≠ .sniffer) (hn : Standing s p sent taken none waiting n)
    {Q : Network → Progress (Except Link.Error (Turn Activity Reply) × Node) → Prop}
    (hQ : ∀ n', Standing s p (sent + 1) taken (some ⟨s.address p.peer, UInt8.ofNat sent, false⟩)
      waiting n' → Q network (.done (.ok (.again (.sending (s.send p sent σ.now))), n'))) :
    (Operation.sendReliable (s.address p.peer) (s.content p)).start.Gets
      (Network.surroundings p.station) network n Q := by
  have hfits : ¬n.config.frame.maxPayload < (s.content p).length := by
    rw [hn.frame]
    exact Nat.not_lt.2 (hs.fits p)
  have hdst : s.address p.peer ≠ Address.broadcast := hs.addressed _ (Party.peer_ne hp).2
  have hretries : n.config.attempts = max s.retries 1 := by rw [hn.config]; rfl
  have htimeout : n.config.ackTimeout = s.ackTimeout := by rw [hn.config]; rfl
  simp only [Operation.start, startSend, checkPayload, allocateId, gets_bind, gets_node,
    proceeds_ok, hfits, if_false, gets_pure, gets_modify, hdst]
  refine Scene.gets_now h ?_
  simp only [proceeds_ok, gets_pure, hretries, htimeout, hn.nextId]
  refine hQ _ ⟨hn.config, ?_, hn.known, rfl, hn.sink, hn.duplicates⟩
  exact ofNat_succ sent

/-- **The first copy goes out**, and the wait for its acknowledgment begins. -/
theorem gets_transmitting (hn : Standing s p sent taken pending waiting n) (i started : Nat)
    (hclock : σ.now + s.ackTimeout < Deadline.beyond)
    {Q : Network → Progress (Except Link.Error (Turn Activity Reply) × Node) → Prop}
    (hQ : ∀ network' n', Standing s p sent taken pending waiting n' →
      Shows s.frame (σ.air p (s.datagram p i)) network' →
      Q network'
        (.done (.ok (.again (.sending (s.sent p i started (σ.now + s.ackTimeout)))), n'))) :
    (Activity.sending (s.send p i started)).turn.Gets (Network.surroundings p.station) network n
      Q := by
  have hdeadline : Deadline.after (σ.air p (s.datagram p i)).now s.ackTimeout =
      some (σ.now + s.ackTimeout) := if_pos hclock
  simp only [Activity.turn, Send.turn, Send.step, Settings.send, Send.transmitCopy, Send.flags,
    sendData, gets_bind, gets_attempt, gets_node, proceeds_ok, ne_eq, not_true_eq_false, if_false,
    if_true, hn.address]
  refine Scene.gets_transmit (f := s.datagram p i) h hboard hs.frame hn.frame (hs.fits p)
    fun network₁ h₁ => ?_
  simp only [proceeds_ok, gets_bind, gets_count]
  refine Scene.gets_now h₁ ?_
  simp only [proceeds_ok, gets_pure, Attempted, hdeadline]
  exact hQ network₁ _ (hn.count fun _ => rfl) h₁

omit hs in
/-- **A party looks at its radio while it waits**, at most for `rest`, and pauses if nothing had
come in. -/
theorem gets_pollOrPause_idle (hn : Standing s p sent taken pending waiting n)
    (hinbox : σ.inbox p = []) {rest : Nat} (hrest : 0 < rest)
    {Q : Network → Progress (Except Link.Error Unit × Node) → Prop}
    (hQ : ∀ network', Shows s.frame σ network' →
      Q network' (.paused (min pollInterval rest) (.done (.ok (), n)))) :
    (pollOrPause rest).Gets (Network.surroundings p.station) network n Q := by
  have hpositive : 0 < min pollInterval rest := by
    have : 0 < pollInterval := by decide
    omega
  have hinterval : n.config.pollInterval = pollInterval := by rw [hn.config]; rfl
  simp only [pollOrPause, gets_bind]
  refine Scene.gets_poll_idle h hboard hinbox fun network₁ h₁ => ?_
  simp only [proceeds_ok, if_true, gets_bind, gets_node, hinterval]
  exact (gets_sleep hpositive).2 (hQ network₁ h₁)

omit hs h hboard in
/-- A party that finds something does not pause. -/
theorem gets_pollOrPause_event {rest : Nat}
    {Q : Network → Progress (Except Link.Error Unit × Node) → Prop}
    (hpoll : poll.Gets (Network.surroundings p.station) network n fun network' progress =>
      ∃ event n', progress = .done (.ok event, n') ∧ event ≠ .idle ∧
        Q network' (.done (.ok (), n'))) :
    (pollOrPause rest).Gets (Network.surroundings p.station) network n Q := by
  simp only [pollOrPause, gets_bind]
  refine hpoll.imp ?_
  rintro network₁ _ ⟨event, n₁, rfl, hevent, hQ⟩
  simp only [proceeds_ok, if_neg hevent]
  exact hQ

omit hs in
/-- A party that waits for an acknowledgment finds nothing. -/
theorem gets_waiting_idle {i started deadline : Nat}
    (hn : Standing s p sent taken (some ⟨s.address p.peer, UInt8.ofNat i, false⟩) waiting n)
    (hinbox : σ.inbox p = []) (htime : σ.now < deadline)
    {Q : Network → Progress (Except Link.Error (Turn Activity Reply) × Node) → Prop}
    (hQ : ∀ network', Shows s.frame σ network' →
      Q network' (.paused (min pollInterval (deadline - σ.now))
        (.done (.ok (.again (.sending (s.sent p i started deadline))), n)))) :
    (Activity.sending (s.sent p i started deadline)).turn.Gets (Network.surroundings p.station)
      network n Q := by
  have hleft : Deadline.left σ.now (some deadline) = some (deadline - σ.now) := if_pos htime
  simp only [Activity.turn, Send.turn, Send.step, Settings.sent, Send.await, isAcked, gets_bind,
    gets_attempt, gets_node, proceeds_ok, gets_pure, hn.pending, Option.elim_some,
    Bool.false_eq_true, if_false]
  refine Scene.gets_left h _ ?_
  simp only [proceeds_ok, hleft, gets_bind]
  exact hn.gets_pollOrPause_idle h hboard hinbox (by omega) hQ

/-- **A party that waits for an acknowledgment takes it.** -/
theorem gets_waiting_ack {i started deadline : Nat}
    (hn : Standing s p sent taken (some ⟨s.address p.peer, UInt8.ofNat i, false⟩) waiting n)
    {rest : List Frame} (hinbox : σ.inbox p = s.ack p.peer i :: rest) (htime : σ.now < deadline)
    {Q : Network → Progress (Except Link.Error (Turn Activity Reply) × Node) → Prop}
    (hQ : ∀ network' n',
      Standing s p sent taken (some ⟨s.address p.peer, UInt8.ofNat i, true⟩) waiting n' →
      Shows s.frame (σ.take p) network' →
      Q network' (.done (.ok (.again (.sending (s.sent p i started deadline))), n'))) :
    (Activity.sending (s.sent p i started deadline)).turn.Gets (Network.surroundings p.station)
      network n Q := by
  have hleft : Deadline.left σ.now (some deadline) = some (deadline - σ.now) := if_pos htime
  simp only [Activity.turn, Send.turn, Send.step, Settings.sent, Send.await, isAcked, gets_bind,
    gets_attempt, gets_node, proceeds_ok, gets_pure, hn.pending, Option.elim_some,
    Bool.false_eq_true, if_false]
  refine Scene.gets_left h _ ?_
  simp only [proceeds_ok, hleft, gets_bind]
  refine gets_pollOrPause_event (hn.gets_poll_ack hs h hboard hinbox ?_)
  exact fun network₁ event n₁ hevent hn₁ h₁ => ⟨event, n₁, rfl, hevent, hQ network₁ n₁ hn₁ h₁⟩

omit hs hboard in
/-- **A send is over once its acknowledgment has been taken.** -/
theorem gets_acked {i started deadline : Nat}
    (hn : Standing s p sent taken (some ⟨s.address p.peer, UInt8.ofNat i, true⟩) waiting n)
    {Q : Network → Progress (Except Link.Error (Turn Activity Reply) × Node) → Prop}
    (hQ : ∀ n', Standing s p sent taken none waiting n' →
      Q network (.done
        (.ok (.finish (.outcome (.acked (UInt8.ofNat i) 1 (σ.now - started)))), n'))) :
    (Activity.sending (s.sent p i started deadline)).turn.Gets (Network.surroundings p.station)
      network n Q := by
  simp only [Activity.turn, Send.turn, Send.step, Settings.sent, Send.await, isAcked, gets_bind,
    gets_attempt, gets_node, proceeds_ok, gets_pure, hn.pending, Option.elim_some, if_true]
  refine Scene.gets_now h ?_
  exact hQ _ ⟨hn.config, hn.nextId, hn.known, rfl, hn.sink, hn.duplicates⟩

/-! ## Turns of waiting for a delivery -/

omit hs hboard in
/-- **The wait for a delivery begins.** -/
theorem gets_recvTimeout (timeout : Nat)
    {Q : Network → Progress (Except Link.Error (Turn Activity Reply) × Node) → Prop}
    (hQ : Q network
      (.done (.ok (.again (.receiving (Deadline.after σ.now timeout))), n))) :
    (Operation.recvTimeout timeout).start.Gets (Network.surroundings p.station) network n Q := by
  simp only [Operation.start, gets_bind]
  exact Scene.gets_now h hQ

omit hs h hboard in
/-- **A delivery that waits is handed over.** -/
theorem gets_receiving_delivery {d : Delivery} {deadline : Deadline}
    (hn : Standing s p sent taken pending (d :: waiting) n)
    {Q : Network → Progress (Except Link.Error (Turn Activity Reply) × Node) → Prop}
    (hQ : ∀ n', Standing s p sent taken pending waiting n' →
      Q network (.done (.ok (.finish (.delivery (some d))), n'))) :
    (Activity.receiving deadline).turn.Gets (Network.surroundings p.station) network n Q := by
  simp only [Activity.turn, receiveTurn, recv, gets_bind, gets_node, gets_modify, proceeds_ok,
    gets_pure, hn.sink, Link.Sink.pop]
  exact hQ _ ⟨hn.config, hn.nextId, hn.known, hn.pending, rfl, hn.duplicates⟩

omit hs hboard in
/-- The time is up, and no delivery waits. -/
theorem gets_receiving_expired {deadline : Deadline}
    (hn : Standing s p sent taken pending [] n) (htime : deadline.left σ.now = none)
    {Q : Network → Progress (Except Link.Error (Turn Activity Reply) × Node) → Prop}
    (hQ : ∀ n', Standing s p sent taken pending [] n' →
      Q network (.done (.ok (.finish (.delivery none)), n'))) :
    (Activity.receiving deadline).turn.Gets (Network.surroundings p.station) network n Q := by
  simp only [Activity.turn, receiveTurn, recv, gets_bind, gets_node, gets_modify, proceeds_ok,
    gets_pure, hn.sink, Link.Sink.pop]
  refine Scene.gets_left h _ ?_
  rw [htime]
  exact hQ _ ⟨hn.config, hn.nextId, hn.known, hn.pending, rfl, hn.duplicates⟩

omit hs hboard in
/-- No delivery waits, and there is time to look at the radio. -/
theorem gets_receiving_look {deadline : Deadline} {rest : Nat}
    (hn : Standing s p sent taken pending [] n) (htime : deadline.left σ.now = some rest)
    {Q : Network → Progress (Except Link.Error (Turn Activity Reply) × Node) → Prop}
    (hQ : ∀ n', Standing s p sent taken pending [] n' →
      (pollOrPause rest).Gets (Network.surroundings p.station) network n'
        (Proceeds (Network.surroundings p.station)
          (fun _ => pure (Turn.again (Activity.receiving deadline))) Q)) :
    (Activity.receiving deadline).turn.Gets (Network.surroundings p.station) network n Q := by
  simp only [Activity.turn, receiveTurn, recv, gets_bind, gets_node, gets_modify, proceeds_ok,
    gets_pure, hn.sink, Link.Sink.pop]
  refine Scene.gets_left h _ ?_
  simp only [proceeds_ok, htime, gets_bind]
  have hn' : Standing s p sent taken pending [] { n with sink := .queue 10 [] } :=
    ⟨hn.config, hn.nextId, hn.known, hn.pending, rfl, hn.duplicates⟩
  refine (hQ _ hn').imp ?_
  rintro network₁ (⟨_ | u, n₁⟩ | ⟨duration, rest'⟩) hproceeds
  · exact hproceeds
  · exact hproceeds
  · refine (congrArg (fun left => Q network₁ (.paused duration left)) ?_).mp hproceeds
    rw [Link.Task.bind_assoc]
    congr 1
    funext result
    rcases result with ⟨_ | u, n₁⟩ <;> rfl

omit hs in
/-- **A party that waits for a delivery finds nothing.** -/
theorem gets_receiving_idle {deadline : Deadline} {rest : Nat}
    (hn : Standing s p sent taken pending [] n) (htime : deadline.left σ.now = some rest)
    (hinbox : σ.inbox p = [])
    {Q : Network → Progress (Except Link.Error (Turn Activity Reply) × Node) → Prop}
    (hQ : ∀ network' n', Standing s p sent taken pending [] n' → Shows s.frame σ network' →
      Q network' (.paused (min pollInterval rest)
        (.done (.ok (.again (.receiving deadline)), n')))) :
    (Activity.receiving deadline).turn.Gets (Network.surroundings p.station) network n Q :=
  hn.gets_receiving_look h htime fun n' hn' =>
    hn'.gets_pollOrPause_idle h hboard hinbox (Deadline.left_pos htime) fun network' h' =>
      hQ network' n' hn' h'

/-- **A party that waits for a delivery takes its peer's next datagram.** -/
theorem gets_receiving_datagram (hp : p ≠ .sniffer) {deadline : Deadline} {rest : Nat}
    (hn : Standing s p sent taken pending [] n) (htime : deadline.left σ.now = some rest)
    {more : List Frame} (hinbox : σ.inbox p = s.datagram p.peer taken :: more)
    {Q : Network → Progress (Except Link.Error (Turn Activity Reply) × Node) → Prop}
    (hQ : ∀ network' n', Standing s p sent (taken + 1) pending [s.delivery p.peer taken] n' →
      Shows s.frame ((σ.take p).air p (s.ack p taken)) network' →
      Q network' (.done (.ok (.again (.receiving deadline)), n'))) :
    (Activity.receiving deadline).turn.Gets (Network.surroundings p.station) network n Q := by
  refine hn.gets_receiving_look h htime fun n₁ hn₁ => ?_
  refine gets_pollOrPause_event (hn₁.gets_poll_datagram hs h hboard hp (by simp) hinbox ?_)
  exact fun network' event n' hevent hn' h' => ⟨event, n', rfl, hevent, hQ network' n' hn' h'⟩

end Standing
end Simulation
end PacketRadio
