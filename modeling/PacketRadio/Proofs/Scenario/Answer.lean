/-
# How the other node answers

rflink specification, §4.4: a duplicate is acknowledged again.

When the other node gets its chance it takes what has come in, until nothing
is left.

| what has come in | what it does |
| --- | --- |
| nothing | nothing |
| a damaged copy | nothing |
| the first copy that is not damaged | delivers and acknowledges it |
| any other such copy | acknowledges it |

Main statements: `Peer.handle_data`, and `Holds.meanwhile_nothing`,
`Holds.meanwhile_damaged` and `Holds.meanwhile_data`, one for each thing that
can have come in when the sender looks at its radio.
-/

import PacketRadio.Proofs.Scenario.Duel

namespace PacketRadio
namespace Scenario

open Link (Delivery Node PollEvent Surroundings)
open Link.Action
open Medium (View)

namespace Duel

variable (D : Duel)

/-- The flags of copy `k`, the first being copy zero. -/
def flags (k : Nat) : UInt8 :=
  if k = 0 then 0 else Flag.retry

/-- Copy `k` of the datagram. -/
def data (k : Nat) : Frame :=
  ⟨⟨D.peer.address, D.config.address, D.id, flags k⟩, D.payload⟩

/-- The datagram as the application gets it, if copy `k` is the one that was taken. -/
def delivery (k : Nat) : Delivery :=
  ⟨D.peer.address, D.config.address, D.id, flags k, D.payload, D.medium.rssiFrom D.near⟩

/-- The acknowledgment of every copy. -/
def ack : Frame :=
  ⟨⟨D.config.address, D.peer.address, D.id, Flag.ack⟩, []⟩

theorem data_not_isAck (k : Nat) : (D.data k).header.isAck = false := by
  show Flag.has (flags k) Flag.ack = false
  unfold flags
  split <;> decide

theorem data_wantsAck (k : Nat) : (D.data k).header.wantsAck = true := by
  have hdst : (D.data k).header.isBroadcast = false := beq_eq_false_iff_ne.2 D.addressed
  have hflag : Flag.has (D.data k).header.flags Flag.noAck = false := by
    show Flag.has (flags k) Flag.noAck = false
    unfold flags
    split <;> decide
  rw [Header.wantsAck, D.data_not_isAck k, hdst, hflag]
  rfl

theorem ackFor_data (k : Nat) : Frame.ackFor (D.data k).header D.peer.address = D.ack := rfl

theorem ack_fits : D.ack.payload.length ≤ D.config.frame.payloadLimit := Nat.zero_le _

/-- The other node reads the sender's frames, and the sender reads its. -/
theorem decode_wire {n : Node} (hn : n.config.frame = D.config.frame) {f : Frame}
    (hf : f.payload.length ≤ D.config.frame.payloadLimit) :
    Frame.decode n.config.frame (f.wire D.config.frame) = .ok f := by
  rw [hn]
  exact Frame.decode_wire D.valid hf

variable {D} {v : View} {now : Nat} {taken stored : Option Delivery} {b : Bench} {n : Node}
  {s : Nat} {env : Surroundings Bench}

/-! ## One reception -/

/-- **A damaged frame is dropped.** -/
theorem yields_handle_damaged (hn : n.config.frame = D.config.frame) {f : Frame}
    (hf : f.payload.length ≤ D.config.frame.payloadLimit) {rssi : Int}
    {Q : Bench → Node → Except Link.Error PollEvent → Prop}
    (hQ : ∀ count, Q b (n.count count) (.ok (.dropped .checksum))) :
    (handle ⟨Medium.damage (f.wire D.config.frame), rssi⟩).Yields env b n Q := by
  obtain ⟨received, computed, hdecode⟩ : ∃ received computed,
      Frame.decode n.config.frame (Medium.damage (f.wire D.config.frame)) =
        .error (.checksum received computed) := by
    rw [hn]
    exact Frame.decode_damage D.valid hf
  simp only [handle, yields_bind, yields_node, continues_ok, hdecode, yields_count, yields_pure]
  exact hQ _

theorem Peer.count (hn : D.Peer taken n) (f : Link.Telemetry → Link.Telemetry) :
    D.Peer taken (n.count f) :=
  ⟨hn.config, hn.knows, hn.sink⟩

theorem Peer.frame (hn : D.Peer taken n) : n.config.frame = D.config.frame := by
  rw [hn.config, D.shared]

theorem Peer.address (hn : D.Peer taken n) : n.address = D.peer.address :=
  congrArg Link.Config.address hn.config

/-- The other node has taken a datagram that it had not. -/
theorem Peer.take (hn : D.Peer none n) (k : Nat) :
    D.Peer (some (D.delivery k))
      ({ n with sink := .queue D.capacity (D.waiting ++ [D.delivery k]) }.accept
        (D.data k).header) := by
  refine ⟨hn.config, ?_, rfl⟩
  simp [Node.accept, data]

theorem Peer.isLocal (hn : D.Peer taken n) (k : Nat) :
    n.config.filter.isLocal (D.data k).header = true := by
  rw [hn.config]
  exact beq_self_eq_true _

theorem Peer.owesAck (hn : D.Peer taken n) (k : Nat) : n.owesAck (D.data k).header = true := by
  rw [Node.owesAck, hn.isLocal k, D.data_wantsAck k]
  rfl

/-- The acknowledgment goes out in the same way for every copy. -/
theorem Peer.sendAck (hn : D.Peer taken n) (h : D.Holds v now stored b)
    (hroom : (v.fifo D.near).length < D.medium.capacity) (k : Nat)
    {Q : Bench → Node → Except Link.Error Unit → Prop}
    (hQ : ∀ b' n', D.Peer taken n' →
      D.Holds ((v.air D.medium D.far (D.ack.wire D.config.frame)).setMode D.far .receive) now
        stored b' → Q b' n' (.ok ())) :
    (sendAck (D.data k).header).Yields (Bench.quiet D.far) b n Q := by
  have hnear : (v.fifo (1 - D.far)).length < D.medium.capacity := D.near_eq ▸ hroom
  simp only [Link.Action.sendAck, yields_bind, yields_node, continues_ok, hn.address, D.ackFor_data]
  refine yields_transmit (plain_quiet D.far) h D.far_lt hn.frame D.ack_fits hnear fun b' h' => ?_
  simp only [continues_ok, yields_count]
  exact hQ b' _ (hn.count _) h'

/-- There is room for the datagram. -/
theorem Peer.deliver (hn : D.Peer none n) (hp : Plain s env) {d : Delivery}
    {Q : Bench → Node → Except Link.Error Bool → Prop}
    (hQ : Q b { n with sink := .queue D.capacity (D.waiting ++ [d]) } (.ok true)) :
    (deliver d).Yields env b n Q := by
  have hsink : n.sink = .queue D.capacity D.waiting := by simpa using hn.sink
  simp only [Link.Action.deliver, yields_bind, yields_node, continues_ok, hsink, if_pos D.room,
    yields_modify]
  refine yields_kept hp ?_
  simp only [continues_ok, yields_pure]
  exact hQ

/-- Only a copy that is the first one goes to the application. -/
theorem Peer.handleData (hn : D.Peer taken n) (h : D.Holds v now stored b)
    (hroom : (v.fifo D.near).length < D.medium.capacity) (k : Nat)
    {Q : Bench → Node → Except Link.Error PollEvent → Prop}
    (hQ : ∀ b' n' event, event ≠ .idle → D.Peer (taken.or (some (D.delivery k))) n' →
      D.Holds ((v.air D.medium D.far (D.ack.wire D.config.frame)).setMode D.far .receive) now
        stored b' → Q b' n' (.ok event)) :
    (handleData (D.data k) (D.medium.rssiFrom D.near)).Yields (Bench.quiet D.far) b n Q := by
  simp only [Link.Action.handleData, yields_bind, yields_node, continues_ok]
  cases taken with
  | some d =>
    have hold : n.isDuplicate (D.data k).header = true := by
      rw [Node.isDuplicate, beq_iff_eq]
      exact hn.knows.2 rfl
    simp only [hold, if_true, yields_bind, yields_count, continues_ok, hn.owesAck k]
    refine (hn.count _).sendAck h hroom k fun b' n' hn' h' => ?_
    exact hQ b' n' _ (by simp) hn' h'
  | none =>
    have hnew : n.isDuplicate (D.data k).header = false := by
      rw [Node.isDuplicate, beq_eq_false_iff_ne]
      exact fun h => absurd (hn.knows.1 h) (by simp)
    simp only [hnew, Bool.false_eq_true, if_false, yields_bind]
    refine hn.deliver (plain_quiet D.far) ?_
    simp only [continues_ok, if_true, yields_bind, yields_modify, hn.owesAck k]
    refine (hn.take k).sendAck h hroom k fun b' n' hn' h' => ?_
    exact hQ b' n' _ (by simp) hn' h'

/-- **The other node has taken the datagram once it has looked at a copy, and acknowledges it.** -/
theorem Peer.handle_data (hn : D.Peer taken n) (h : D.Holds v now stored b)
    (hroom : (v.fifo D.near).length < D.medium.capacity) (k : Nat)
    {Q : Bench → Node → Except Link.Error PollEvent → Prop}
    (hQ : ∀ b' n' event, event ≠ .idle → D.Peer (taken.or (some (D.delivery k))) n' →
      D.Holds ((v.air D.medium D.far (D.ack.wire D.config.frame)).setMode D.far .receive) now
        stored b' → Q b' n' (.ok event)) :
    (handle ⟨(D.data k).wire D.config.frame, D.medium.rssiFrom D.near⟩).Yields
      (Bench.quiet D.far) b n Q := by
  have hfits : (D.data k).payload.length ≤ D.config.frame.payloadLimit := D.fits
  simp only [handle, yields_bind, yields_node, continues_ok, D.decode_wire hn.frame hfits,
    AddressFilter.accepts_of_isLocal (hn.isLocal k), if_true, yields_count, D.data_not_isAck,
    Bool.false_eq_true, if_false]
  exact (hn.count _).handleData h hroom k hQ

/-! ## Everything that has come in -/

variable (D) in
/-- How things stand: so many transmissions have been made, this waits at the sender and that at
the other node, and this is what the sender's radio is doing. -/
def Stands (x : Nat) (inbox outbox : List Radio.Reception) (mode : Radio.Mode) (now : Nat)
    (taken : Option Delivery) (b : Bench) : Prop :=
  ∃ v, D.Holds v now taken b ∧ v.sent = x ∧ v.fifo D.near = inbox ∧ v.fifo D.far = outbox ∧
    v.mode D.near = mode

variable {x x' : Nat} {inbox inbox' outbox : List Radio.Reception} {mode : Radio.Mode}
  {taken' : Option Delivery} {i k : Nat}

/-- A node that finds nothing stops looking. -/
theorem pollUntilIdle_of_idle {P : Node → Bench → Prop}
    (h : poll.Yields (Bench.quiet i) b n fun b' n' result => result = .ok .idle ∧ P n' b') :
    P (Bench.pollUntilIdle i (k + 1) n b).1 (Bench.pollUntilIdle i (k + 1) n b).2 := by
  unfold Link.Action.Yields at h
  rcases hrun : (poll n).run (Bench.quiet i) b with ⟨⟨result, n'⟩, b'⟩
  rw [hrun] at h
  obtain ⟨rfl, hP⟩ := h
  simpa [Bench.pollUntilIdle, hrun] using hP

/-- A node that finds something looks again. -/
theorem pollUntilIdle_of_event {P : Node → Bench → Prop}
    (h : poll.Yields (Bench.quiet i) b n fun b' n' result => ∃ event, result = .ok event ∧
      event ≠ .idle ∧ P (Bench.pollUntilIdle i k n' (b'.note (.polled i (.ok event)))).1
        (Bench.pollUntilIdle i k n' (b'.note (.polled i (.ok event)))).2) :
    P (Bench.pollUntilIdle i (k + 1) n b).1 (Bench.pollUntilIdle i (k + 1) n b).2 := by
  unfold Link.Action.Yields at h
  rcases hrun : (poll n).run (Bench.quiet i) b with ⟨⟨result, n'⟩, b'⟩
  rw [hrun] at h
  obtain ⟨event, rfl, hevent, hP⟩ := h
  simp only [Bench.pollUntilIdle, hrun]
  exact hP

/-- What the other node does with its radio is nothing to the sender's. -/
theorem mode_near (v : View) (mode : Radio.Mode) :
    (v.setMode D.far mode).mode D.near = v.mode D.near :=
  Function.update_of_ne D.far_ne.symm ..

/-- The other node has nothing to take. -/
theorem Peer.attend_nothing (hn : D.Peer taken n) (h : D.Stands x inbox [] mode now stored b) :
    D.Peer taken (Bench.pollUntilIdle D.far (k + 1) n b).1 ∧
      D.Stands x inbox [] mode now stored (Bench.pollUntilIdle D.far (k + 1) n b).2 := by
  obtain ⟨v, hv, hsent, hin, hout, hmode⟩ := h
  refine pollUntilIdle_of_idle (P := fun n' b' => D.Peer taken n' ∧
    D.Stands x inbox [] mode now stored b') ?_
  refine yields_poll (plain_quiet D.far) hv D.far_lt fun b₁ h₁ => ?_
  obtain ⟨b₂, hready, h₂⟩ := h₁.frameReady D.far_lt (View.setMode_mode ..)
  rw [View.setMode_fifo, hout] at hready
  exact yields_look_nothing hready
    ⟨rfl, hn, _, h₂, hsent, hin, hout, (mode_near v _).trans hmode⟩

/-- The other node takes what has come in and then has nothing to take. -/
theorem attend_frame {r : Radio.Reception}
    (h : D.Stands x inbox [r] mode now stored b)
    (hr : ∀ b', D.Stands x inbox [] mode now stored b' →
      (handle r).Yields (Bench.quiet D.far) b' n fun b' n' result => ∃ event,
        result = .ok event ∧ event ≠ .idle ∧ D.Peer taken' n' ∧
        D.Stands x' inbox' [] mode now stored b') :
    D.Peer taken' (Bench.pollUntilIdle D.far (k + 2) n b).1 ∧
      D.Stands x' inbox' [] mode now stored (Bench.pollUntilIdle D.far (k + 2) n b).2 := by
  obtain ⟨v, hv, hsent, hin, hout, hmode⟩ := h
  refine pollUntilIdle_of_event (P := fun n' b' => D.Peer taken' n' ∧
    D.Stands x' inbox' [] mode now stored b') ?_
  refine yields_poll (plain_quiet D.far) hv D.far_lt fun b₁ h₁ => ?_
  obtain ⟨b₂, hready, h₂⟩ := h₁.frameReady D.far_lt (View.setMode_mode ..)
  rw [View.setMode_fifo, hout] at hready
  refine yields_look_frame (plain_quiet D.far) D.far_lt hready h₂ hout fun b₃ h₃ => ?_
  have hstands : D.Stands x inbox [] mode now stored b₃ := by
    refine ⟨_, h₃, hsent, ?_, View.setFifo_fifo .., ?_⟩
    · exact (Function.update_of_ne D.far_ne.symm ..).trans hin
    · rw [mode_near, View.setFifo_mode, mode_near, hmode]
  refine (hr b₃ hstands).imp ?_
  rintro b₄ n₄ _ ⟨event, rfl, hevent, hn₄, v₄, h₄, hsent₄, hin₄, hout₄, hmode₄⟩
  refine ⟨v₄, event, rfl, h₄, fun b₅ h₅ => ⟨event, rfl, hevent, ?_⟩⟩
  refine hn₄.attend_nothing ?_
  exact ⟨_, ⟨h₅.agenda, h₅.posts, h₅.post, h₅.peer, h₅.now, h₅.between⟩, hsent₄, hin₄, hout₄,
    (mode_near v₄ _).trans hmode₄⟩

/-! ## While the sender looks at its radio -/

theorem answer_busy (i : Nat) (r : Link.Request) (b : Bench) :
    (Bench.answer i r b).2.busy = b.busy := by
  cases r with
  | radio c =>
    simp only [Bench.answer, Bench.call]
    cases b.posts[i]? with
    | none => rfl
    | some post =>
      dsimp only
      cases (Fault.strike c.name post.faults).1 <;> rfl
  | _ => rfl

theorem run_busy {α : Type} (i : Nat) (t : Link.Task α) (b : Bench) :
    (t.run (Bench.quiet i) b).2.busy = b.busy := by
  induction t generalizing b with
  | done a => rfl
  | ask r next ih => exact (ih _ _).trans (answer_busy i r b)

/-- Which node is busy does not change while another one looks for frames. -/
theorem pollUntilIdle_busy (i limit : Nat) (n : Node) (b : Bench) :
    (Bench.pollUntilIdle i limit n b).2.busy = b.busy := by
  induction limit generalizing n b with
  | zero => rfl
  | succ limit ih =>
    have hrun := run_busy i (poll n) b
    unfold Bench.pollUntilIdle
    rcases hpoll : (poll n).run (Bench.quiet i) b with ⟨⟨e | event, n'⟩, b'⟩ <;> rw [hpoll] at hrun
    · exact hrun
    · cases event with
      | idle => exact hrun
      | _ => exact (ih _ _).trans hrun

/-- The other node's place shows what has become of it. -/
theorem Holds.putNode (h : D.Holds v now stored b) (hn : D.Peer taken n) :
    D.Holds v now taken (b.putNode D.far n) := by
  obtain ⟨post, -, hpost, hautomatic, -, -⟩ := h.peer
  refine ⟨h.agenda, ?_, fun s hs => ?_, ?_, h.now, h.between⟩
  · simpa [Bench.putNode, Bench.modifyPost] using h.posts
  · obtain ⟨post', hpost', hstation, hfaults⟩ := h.post s hs
    by_cases heq : D.far = s
    · subst heq
      exact ⟨{ post' with node := some n }, by simp [Bench.putNode, Bench.modifyPost, hpost'],
        hstation, hfaults⟩
    · refine ⟨post', ?_, hstation, hfaults⟩
      simpa [Bench.putNode, Bench.modifyPost, List.getElem?_modify_ne _ _ heq] using hpost'
  · exact ⟨{ post with node := some n }, n, by simp [Bench.putNode, Bench.modifyPost, hpost],
      hautomatic, rfl, hn⟩

/-- The sender gets no chance while it is busy. -/
theorem pollAutomatic_near (hbusy : b.busy = some D.near) : b.pollAutomatic D.near = b := by
  simp [Bench.pollAutomatic, Bench.available, hbusy]

/-- The other node does. -/
theorem pollAutomatic_far (h : D.Holds v now taken b) (hbusy : b.busy = some D.near) :
    ∃ n, D.Peer taken n ∧ b.pollAutomatic D.far =
      (Bench.pollUntilIdle D.far ((v.fifo D.far).length + 1) n b).2.putNode D.far
        (Bench.pollUntilIdle D.far ((v.fifo D.far).length + 1) n b).1 := by
  obtain ⟨post, n, hpost, hautomatic, hnode, hn⟩ := h.peer
  have hfree : b.busy ≠ some D.far := by
    rw [hbusy]
    exact fun heq => D.far_ne (Option.some.inj heq).symm
  have hstation : post.station = D.far := by
    obtain ⟨post', hpost', hstation, -⟩ := h.post D.far D.far_lt
    obtain rfl := Option.some.inj (hpost.symm.trans hpost')
    exact hstation
  refine ⟨n, hn, ?_⟩
  simp only [Bench.pollAutomatic, Bench.available, if_neg hfree, hpost, hnode, hautomatic, hstation,
    h.between.pending_eq D.far_lt, Option.bind_eq_bind, Option.bind_some, Option.pure_def, if_true]

/-- Of the two only the other node gets one. -/
theorem pollAutomatic_both (hbusy : b.busy = some D.near)
    (hbusy' : (b.pollAutomatic D.far).busy = some D.near) :
    (List.range 2).foldl Bench.pollAutomatic b = b.pollAutomatic D.far := by
  have hrange : List.range 2 = [0, 1] := rfl
  have hside : D.near = 0 ∧ D.far = 1 ∨ D.near = 1 ∧ D.far = 0 := by
    have := D.near_lt
    unfold far
    omega
  rcases hside with ⟨hnear, hother⟩ | ⟨hnear, hother⟩
  · have hskip := pollAutomatic_near hbusy
    rw [hnear] at hskip
    simp only [hrange, List.foldl, hskip, hother]
  · have hskip := pollAutomatic_near hbusy'
    rw [hnear, hother] at hskip
    simp only [hrange, List.foldl, hskip, hother]

/-- **The other node gets its chance while the sender looks at its radio.** -/
theorem Stands.meanwhile (h : D.Stands x inbox outbox mode now taken b) (patience : Nat)
    (hpoll : ∀ n b', D.Peer taken n → D.Stands x inbox outbox mode now taken b' →
      D.Peer taken' (Bench.pollUntilIdle D.far (outbox.length + 1) n b').1 ∧
        D.Stands x' inbox' [] mode now taken
          (Bench.pollUntilIdle D.far (outbox.length + 1) n b').2) :
    D.Stands x' inbox' [] mode now taken' (b.meanwhile patience D.near) := by
  obtain ⟨v, hv, hsent, hin, hout, hmode⟩ := h
  have hdue : Bench.runDue patience (Bench.workload b.agenda) { b with busy := some D.near } =
      { b with busy := some D.near } := by
    rw [hv.agenda]
    rfl
  generalize hb₁ : ({ b with busy := some D.near } : Bench) = b₁ at hdue
  have hbusy : b₁.busy = some D.near := hb₁ ▸ rfl
  have hv₁ : D.Holds v now taken b₁ :=
    hb₁ ▸ ⟨hv.agenda, hv.posts, hv.post, hv.peer, hv.now, hv.between⟩
  obtain ⟨n, hn, hfar⟩ := pollAutomatic_far hv₁ hbusy
  have hlimit : (v.fifo D.far).length = outbox.length := congrArg List.length hout
  obtain ⟨hn', v', hv', hrest⟩ := hpoll n b₁ hn ⟨v, hv₁, hsent, hin, hout, hmode⟩
  rw [hlimit] at hfar
  have hdone := hv'.putNode hn'
  rw [← hfar] at hdone
  have hbusy' : (b₁.pollAutomatic D.far).busy = some D.near := by
    rw [hfar]
    exact (pollUntilIdle_busy ..).trans hbusy
  have hmeanwhile : b.meanwhile patience D.near = { b₁.pollAutomatic D.far with busy := none } := by
    simp only [Bench.meanwhile, hb₁, hdue, hv₁.posts, pollAutomatic_both hbusy hbusy']
  rw [hmeanwhile]
  exact ⟨v', ⟨hdone.agenda, hdone.posts, hdone.post, hdone.peer, hdone.now, hdone.between⟩, hrest⟩

theorem Stands.meanwhile_nothing (h : D.Stands x inbox [] mode now taken b) (patience : Nat) :
    D.Stands x inbox [] mode now taken (b.meanwhile patience D.near) :=
  h.meanwhile patience fun _ _ hn h' => hn.attend_nothing h'

/-- A copy of the datagram that was damaged on the way changes nothing. -/
theorem Stands.meanwhile_damaged {rssi : Int}
    (h : D.Stands x inbox [⟨Medium.damage ((D.data k).wire D.config.frame), rssi⟩] mode now taken b)
    (patience : Nat) : D.Stands x inbox [] mode now taken (b.meanwhile patience D.near) := by
  refine h.meanwhile patience fun n b' hn h' => attend_frame h' fun b₁ h₁ => ?_
  have hfits : (D.data k).payload.length ≤ D.config.frame.payloadLimit := D.fits
  exact yields_handle_damaged hn.frame hfits fun count => ⟨_, rfl, by simp, hn.count _, h₁⟩

/-- **A copy that was not is taken, unless one was before, and acknowledged.** -/
theorem Stands.meanwhile_data
    (h : D.Stands x inbox [⟨(D.data k).wire D.config.frame, D.medium.rssiFrom D.near⟩] mode now
      taken b) (hroom : inbox.length < D.medium.capacity) (patience : Nat) :
    D.Stands (x + 1) (inbox ++ D.medium.copies x D.far (D.ack.wire D.config.frame)) [] mode now
      (taken.or (some (D.delivery k))) (b.meanwhile patience D.near) := by
  refine h.meanwhile patience fun n b' hn h' => attend_frame h' fun b₁ h₁ => ?_
  obtain ⟨v, hv, hsent, hin, hout, hmode⟩ := h₁
  refine hn.handle_data hv (hin ▸ hroom) k fun b₂ n₂ event hevent hn₂ h₂ => ?_
  refine ⟨event, rfl, hevent, hn₂, _, h₂, ?_, ?_, ?_, ?_⟩
  · exact congrArg (· + 1) hsent
  · have hnear := v.air_fifo_other D.far D.medium (D.ack.wire D.config.frame)
    rw [← D.near_eq, hin, hsent] at hnear
    exact hnear
  · exact (v.air_fifo_self D.medium D.far_lt _).trans hout
  · rw [mode_near]
    exact (mode_near v .idle).trans hmode

end Duel
end Scenario
end PacketRadio
