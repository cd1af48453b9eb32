/-
# How an attempt goes

rflink specification, §4.4: a timeout with attempts remaining.

After a copy has gone out the sender looks at its radio until the
acknowledgment is there or the time is up.  The other node answers when the
sender looks for the first time, so whatever happens has happened then, and
all that is left is to wait.

| what arrives | the attempt |
| --- | --- |
| the copy and its acknowledgment | ends at once |
| the copy only | ends when the time is up, with the datagram taken |
| nothing | ends when the time is up |

Main statements: `Stands.answered`, `Stands.unheard` and `Stands.unanswered`,
one for each line of the table.
-/

import PacketRadio.Proofs.Scenario.Answer

namespace PacketRadio
namespace Scenario

open Link (Activity Delivery Node PollEvent Reply Send SendOutcome Surroundings)
open Link.Action
open Medium (View)

namespace Duel

variable (D : Duel)

/-- The sender while its datagram is pending. -/
structure Sender (acked : Bool) (n : Node) : Prop where
  /-- It has the configuration it had. -/
  config : n.config = D.config
  /-- The datagram is pending. -/
  pending : n.pending = some ⟨D.peer.address, D.id, acked⟩

/-- The send, with copy `k` at hand. -/
def sending (attempts timeout started k : Nat) (phase : Send.Phase) : Send where
  dst := D.peer.address
  id := D.id
  payload := D.payload
  attempts
  timeout
  started
  attempt := k + 1
  phase

variable {D} {now : Nat} {taken taken' : Option Delivery} {b : Bench} {n : Node} {acked : Bool}
  {x x' : Nat} {inbox outbox : List Radio.Reception} {mode : Radio.Mode} {patience : Nat}
  {attempts timeout started k : Nat}

/-! ## The sender's requests -/

theorem Sender.count (hn : D.Sender acked n) (f : Link.Telemetry → Link.Telemetry) :
    D.Sender acked (n.count f) :=
  ⟨hn.config, hn.pending⟩

theorem Sender.frame (hn : D.Sender acked n) : n.config.frame = D.config.frame :=
  congrArg Link.Config.frame hn.config

theorem Stands.yields_now (h : D.Stands x inbox outbox mode now taken b)
    {Q : Bench → Node → Except Link.Error Nat → Prop} (hQ : Q b n (.ok now)) :
    Link.Action.now.Yields (Bench.lively patience D.near) b n Q := by
  obtain ⟨v, hv, -⟩ := h
  exact Duel.yields_now (plain_lively patience D.near) hv hQ

theorem Stands.yields_sleep (h : D.Stands x inbox outbox mode now taken b) {duration : Nat}
    {Q : Bench → Node → Except Link.Error Unit → Prop}
    (hQ : ∀ b', D.Stands x inbox outbox mode (now + duration) taken b' → Q b' n (.ok ())) :
    (sleep duration).Yields (Bench.lively patience D.near) b n Q := by
  obtain ⟨v, hv, hrest⟩ := h
  exact Duel.yields_sleep (plain_lively patience D.near) hv fun b' h' => hQ b' ⟨v, h', hrest⟩

/-- What waits does not depend on what the sender's radio is doing. -/
theorem Stands.of_setMode {v : View} (h : D.Holds (v.setMode D.near mode) now taken b)
    (hsent : v.sent = x) (hin : v.fifo D.near = inbox) (hout : v.fifo D.far = outbox) :
    D.Stands x inbox outbox mode now taken b :=
  ⟨_, h, hsent, hin, hout, View.setMode_mode ..⟩

/-- **A copy goes out.** -/
theorem Stands.yields_transmit (h : D.Stands x [] [] mode now taken b) (hn : D.Sender acked n)
    {Q : Bench → Node → Except Link.Error Unit → Prop}
    (hQ : ∀ b', D.Stands (x + 1) [] (D.medium.copies x D.near ((D.data k).wire D.config.frame))
      .receive now taken b' → Q b' n (.ok ())) :
    (transmit (D.data k)).Yields (Bench.lively patience D.near) b n Q := by
  obtain ⟨v, hv, hsent, hin, hout, -⟩ := h
  have hroom : (v.fifo (1 - D.near)).length < D.medium.capacity := by
    have hempty : v.fifo (1 - D.near) = [] := hout
    rw [hempty]
    exact D.roomy
  refine Duel.yields_transmit (plain_lively patience D.near) hv D.near_lt hn.frame D.fits hroom
    fun b' h' => hQ b' ?_
  refine Stands.of_setMode h' (congrArg (· + 1) hsent) ?_ ?_
  · exact (v.air_fifo_self D.medium D.near_lt _).trans hin
  · have hfar := v.air_fifo_other D.near D.medium ((D.data k).wire D.config.frame)
    have hout' : v.fifo (1 - D.near) = [] := hout
    rw [hout', hsent] at hfar
    exact hfar

/-! ## One look at the radio -/

/-- What the sender's radio tells, after the other node had its chance. -/
theorem Stands.frameReady
    (h : D.Stands x inbox [] .receive now taken (b.meanwhile patience D.near)) :
    ∃ v b', (Bench.lively patience D.near).answer (.radio .frameReady) b =
      (.ok (!inbox.isEmpty), b') ∧ D.Holds v now taken b' ∧ v.sent = x ∧ v.fifo D.near = inbox ∧
        v.fifo D.far = [] ∧ v.mode D.near = .receive := by
  obtain ⟨v, hv, hsent, hin, hout, hmode⟩ := h
  obtain ⟨b', hready, h'⟩ := hv.frameReady D.near_lt hmode
  rw [hin] at hready
  exact ⟨v, b', hready, h', hsent, hin, hout, hmode⟩

/-- The sender finds nothing. -/
theorem Stands.poll_nothing (h : D.Stands x inbox outbox mode now taken b)
    (hmeanwhile : ∀ b', D.Stands x inbox outbox .receive now taken b' →
      D.Stands x' [] [] .receive now taken' (b'.meanwhile patience D.near))
    {Q : Bench → Node → Except Link.Error PollEvent → Prop}
    (hQ : ∀ b', D.Stands x' [] [] .receive now taken' b' → Q b' n (.ok .idle)) :
    poll.Yields (Bench.lively patience D.near) b n Q := by
  obtain ⟨v, hv, hsent, hin, hout, -⟩ := h
  refine yields_poll (plain_lively patience D.near) hv D.near_lt fun b₁ h₁ => ?_
  obtain ⟨v₂, b₂, hready, h₂, hrest⟩ :=
    (hmeanwhile b₁ (.of_setMode h₁ hsent hin hout)).frameReady
  exact yields_look_nothing hready (hQ b₂ ⟨v₂, h₂, hrest⟩)

/-- The sender finds a frame. -/
theorem Stands.poll_frame (h : D.Stands x inbox outbox mode now taken b) {r : Radio.Reception}
    (hmeanwhile : ∀ b', D.Stands x inbox outbox .receive now taken b' →
      D.Stands x' [r] [] .receive now taken' (b'.meanwhile patience D.near))
    {Q : Bench → Node → Except Link.Error PollEvent → Prop}
    (hQ : ∀ b', (handle r).Yields (Bench.lively patience D.near) b' n fun b'' n' result =>
      b'' = b' ∧ ∃ event, result = .ok event ∧
        ∀ b', D.Stands x' [] [] .receive now taken' b' → Q b' n' (.ok event)) :
    poll.Yields (Bench.lively patience D.near) b n Q := by
  obtain ⟨v, hv, hsent, hin, hout, -⟩ := h
  refine yields_poll (plain_lively patience D.near) hv D.near_lt fun b₁ h₁ => ?_
  obtain ⟨v₂, b₂, hready, h₂, hsent₂, hin₂, hout₂, -⟩ :=
    (hmeanwhile b₁ (.of_setMode h₁ hsent hin hout)).frameReady
  refine yields_look_frame (plain_lively patience D.near) D.near_lt hready h₂ hin₂ fun b₃ h₃ => ?_
  refine (hQ b₃).imp ?_
  rintro _ n₄ _ ⟨rfl, event, rfl, hrest⟩
  refine ⟨_, event, rfl, h₃, fun b₄ h₄ => hrest b₄ (.of_setMode h₄ hsent₂ ?_ ?_)⟩
  · exact View.setFifo_fifo ..
  · exact (Function.update_of_ne D.far_ne ..).trans hout₂

/-- **The sender has its acknowledgment once it has looked at it.** -/
theorem Sender.handle_ack (hn : D.Sender false n) {env : Surroundings Bench} {rssi : Int}
    {Q : Bench → Node → Except Link.Error PollEvent → Prop}
    (hQ : ∀ n', D.Sender true n' → Q b n' (.ok (.ackMatched D.peer.address D.id))) :
    (handle ⟨D.ack.wire D.config.frame, rssi⟩).Yields env b n Q := by
  have hlocal : n.config.filter.isLocal D.ack.header = true := by
    rw [hn.config]
    exact beq_self_eq_true _
  have hack : D.ack.header.isAck = true :=
    Header.ackFor_isAck (D.data 0).header D.peer.address
  simp only [handle, yields_bind, yields_node, continues_ok, D.decode_wire hn.frame D.ack_fits,
    AddressFilter.accepts_of_isLocal hlocal, if_true, yields_count, hack, handleAck]
  have hawaits : ∀ f, (n.count f).awaits D.ack.header = true := by
    intro f
    have hpending : (n.count f).pending = some ⟨D.peer.address, D.id, false⟩ := hn.pending
    have hlocal' : (n.count f).config.filter.isLocal D.ack.header = true := hlocal
    rw [Node.awaits, hlocal', hpending]
    simp [ack]
  simp only [hawaits, if_true, yields_bind, yields_modify, continues_ok, yields_pure]
  refine hQ _ ⟨hn.config, ?_⟩
  have hpending : n.pending = some ⟨D.peer.address, D.id, false⟩ := hn.pending
  simp [Node.resolve, Node.count, hpending]

/-- Having found nothing, the sender pauses. -/
theorem Stands.pause (h : D.Stands x inbox outbox mode now taken b)
    (hmeanwhile : ∀ b', D.Stands x inbox outbox .receive now taken b' →
      D.Stands x' [] [] .receive now taken' (b'.meanwhile patience D.near)) {limit : Nat}
    {Q : Bench → Node → Except Link.Error Unit → Prop}
    (hQ : ∀ b', D.Stands x' [] [] .receive (now + min n.config.pollInterval limit) taken' b' →
      Q b' n (.ok ())) :
    (pollOrPause limit).Yields (Bench.lively patience D.near) b n Q := by
  simp only [pollOrPause, yields_bind]
  refine h.poll_nothing hmeanwhile fun b₁ h₁ => ?_
  simp only [continues_ok, if_true, yields_bind, yields_node]
  exact h₁.yields_sleep hQ

/-- Having found a frame, it does not. -/
theorem Stands.proceed (h : D.Stands x inbox outbox mode now taken b) {r : Radio.Reception}
    (hmeanwhile : ∀ b', D.Stands x inbox outbox .receive now taken b' →
      D.Stands x' [r] [] .receive now taken' (b'.meanwhile patience D.near)) {limit : Nat}
    {Q : Bench → Node → Except Link.Error Unit → Prop}
    (hQ : ∀ b', (handle r).Yields (Bench.lively patience D.near) b' n fun b'' n' result =>
      b'' = b' ∧ ∃ event, result = .ok event ∧ event ≠ .idle ∧
        ∀ b', D.Stands x' [] [] .receive now taken' b' → Q b' n' (.ok ())) :
    (pollOrPause limit).Yields (Bench.lively patience D.near) b n Q := by
  simp only [pollOrPause, yields_bind]
  refine h.poll_frame hmeanwhile fun b₁ => (hQ b₁).imp ?_
  rintro _ n₂ _ ⟨rfl, event, rfl, hevent, hrest⟩
  refine ⟨rfl, event, rfl, fun b₃ h₃ => ?_⟩
  simp only [continues_ok, if_neg hevent, yields_pure]
  exact hrest b₃ h₃

/-! ## Steps of the send -/

section

variable {Q : Bench → Except Link.Error Reply → Prop} {deadline : Nat}

theorem Stands.sendData (h : D.Stands x [] [] mode now taken b) (hn : D.Sender false n)
    {Q : Bench → Node → Except Link.Error Unit → Prop}
    (hQ : ∀ b' n', D.Sender false n' → D.Stands (x + 1) []
      (D.medium.copies x D.near ((D.data k).wire D.config.frame)) .receive now taken b' →
      Q b' n' (.ok ())) :
    (sendData D.peer.address D.id (flags k) D.payload).Yields (Bench.lively patience D.near) b n
      Q := by
  have haddress : n.address = D.config.address := congrArg Link.Config.address hn.config
  simp only [Link.Action.sendData, yields_bind, yields_node, continues_ok, haddress]
  refine h.yields_transmit hn fun b' h' => ?_
  simp only [continues_ok, yields_count]
  exact hQ b' _ (hn.count _) h'

/-- **A copy goes out and its deadline is set.** -/
theorem Stands.transmit (h : D.Stands x [] [] mode now taken b) (hn : D.Sender false n)
    (hclock : now + timeout < Deadline.beyond)
    (hnext : ∀ b' n', D.Sender false n' → D.Stands (x + 1) []
        (D.medium.copies x D.near ((D.data k).wire D.config.frame)) .receive now taken b' →
      (Activity.sending (D.sending attempts timeout started k
        (.waiting (some (now + timeout))))).Comes (Bench.lively patience D.near) b' n' Q) :
    (Activity.sending (D.sending attempts timeout started k .transmitting)).Comes
      (Bench.lively patience D.near) b n Q := by
  have hflags : (D.sending attempts timeout started k .transmitting).flags = flags k := by
    simp [Send.flags, sending, flags]
  have wait : ∀ b' n', D.Sender false n' → D.Stands (x + 1) []
      (D.medium.copies x D.near ((D.data k).wire D.config.frame)) .receive now taken b' →
      Link.Action.now.Yields (Bench.lively patience D.near) b' n'
        (Continues (Bench.lively patience D.near)
          (fun t => pure (.again (D.sending attempts timeout started k
            (.waiting (Deadline.after t timeout)))))
          (Send.Resumes (Bench.lively patience D.near) Q)) := by
    intro b' n' hn' h'
    refine h'.yields_now ?_
    rw [continues_ok, yields_pure, Deadline.after, if_pos hclock]
    exact hnext b' n' hn' h'
  refine Send.comes ?_
  show (D.sending attempts timeout started k .transmitting).transmitCopy.Yields _ b n _
  simp only [Send.transmitCopy, hflags]
  split
  · simp only [yields_bind, yields_count, continues_ok]
    exact h.sendData (hn.count _) wait
  · simp only [yields_bind]
    exact h.sendData hn wait

theorem Stands.yields_left (h : D.Stands x inbox outbox mode now taken b)
    {Q : Bench → Node → Except Link.Error (Option Nat) → Prop}
    (hQ : Q b n (.ok (Deadline.left now (some deadline)))) :
    (left (some deadline)).Yields (Bench.lively patience D.near) b n Q := by
  show (Link.Action.now >>= fun t => result (Deadline.left t (some deadline))).Yields _ b n Q
  rw [yields_bind]
  exact h.yields_now hQ

/-- What a send does that has no acknowledgment yet. -/
theorem Stands.await (h : D.Stands x inbox outbox mode now taken b) (hn : D.Sender false n)
    (hlook : ∀ rest, Deadline.left now (some deadline) = some rest →
      (pollOrPause rest).Yields (Bench.lively patience D.near) b n fun b' n' result =>
        result = .ok () ∧ (Activity.sending (D.sending attempts timeout started k
          (.waiting (some deadline)))).Comes (Bench.lively patience D.near) b' n' Q)
    (hagain : Deadline.left now (some deadline) = none → k + 1 < attempts →
      (Activity.sending (D.sending attempts timeout started (k + 1) .transmitting)).Comes
        (Bench.lively patience D.near) b n Q)
    (hfail : Deadline.left now (some deadline) = none → ¬k + 1 < attempts →
      Q b (.ok (.outcome (.failed D.id attempts (now - started))))) :
    (Activity.sending (D.sending attempts timeout started k (.waiting (some deadline)))).Comes
      (Bench.lively patience D.near) b n Q := by
  have hpending : n.pending.elim false (·.acked) = false := by
    rw [hn.pending]
    rfl
  refine Send.comes ?_
  show ((D.sending attempts timeout started k (.waiting (some deadline))).await
    (some deadline)).Yields _ b n _
  simp only [Send.await, isAcked, yields_bind, yields_node, continues_ok, yields_pure, hpending,
    Bool.false_eq_true, if_false]
  refine h.yields_left ?_
  rw [continues_ok]
  cases hleft : Deadline.left now (some deadline) with
  | some rest =>
    simp only [yields_bind]
    refine (hlook rest hleft).imp ?_
    rintro b' n' _ ⟨rfl, hcomes⟩
    exact hcomes
  | none =>
    simp only
    split
    · rename_i hlt
      exact hagain hleft hlt
    · rename_i hlt
      simp only [yields_bind]
      exact h.yields_now (hfail hleft hlt)

/-- While there is time it looks at its radio. -/
theorem Stands.look (h : D.Stands x inbox outbox mode now taken b) (hn : D.Sender false n)
    (hlt : now < deadline)
    (hlook : (pollOrPause (deadline - now)).Yields (Bench.lively patience D.near) b n
      fun b' n' result => result = .ok () ∧ (Activity.sending (D.sending attempts timeout started k
        (.waiting (some deadline)))).Comes (Bench.lively patience D.near) b' n' Q) :
    (Activity.sending (D.sending attempts timeout started k (.waiting (some deadline)))).Comes
      (Bench.lively patience D.near) b n Q := by
  have hleft : Deadline.left now (some deadline) = some (deadline - now) := if_pos hlt
  refine h.await hn (fun rest hrest => ?_) (fun hnone => ?_) (fun hnone => ?_)
  · obtain rfl := Option.some.inj (hleft.symm.trans hrest)
    exact hlook
  · rw [hleft] at hnone
    cases hnone
  · rw [hleft] at hnone
    cases hnone

/-- **A send that has its acknowledgment is over.** -/
theorem Stands.resolved (h : D.Stands x inbox outbox mode now taken b) (hn : D.Sender true n)
    (hQ : Q b (.ok (.outcome (.acked D.id (k + 1) (now - started))))) :
    (Activity.sending (D.sending attempts timeout started k (.waiting (some deadline)))).Comes
      (Bench.lively patience D.near) b n Q := by
  have hpending : n.pending.elim false (·.acked) = true := by
    rw [hn.pending]
    rfl
  refine Send.comes ?_
  show ((D.sending attempts timeout started k (.waiting (some deadline))).await
    (some deadline)).Yields _ b n _
  simp only [Send.await, isAcked, yields_bind, yields_node, continues_ok, yields_pure, hpending,
    if_true]
  exact h.yields_now hQ

/-- What a send does whose time is up: it goes on with the next copy if there is one. -/
theorem Stands.expire (h : D.Stands x inbox outbox mode deadline taken b) (hn : D.Sender false n)
    (hagain : k + 1 < attempts →
      (Activity.sending (D.sending attempts timeout started (k + 1) .transmitting)).Comes
        (Bench.lively patience D.near) b n Q)
    (hfail : ¬k + 1 < attempts →
      Q b (.ok (.outcome (.failed D.id attempts (deadline - started))))) :
    (Activity.sending (D.sending attempts timeout started k (.waiting (some deadline)))).Comes
      (Bench.lively patience D.near) b n Q := by
  refine h.await hn (fun rest hleft => ?_) (fun _ => hagain) (fun _ => hfail)
  simp [Deadline.left] at hleft

/-- **A send that looks at its radio to no avail waits until its time is up.** -/
theorem Stands.wait (hpolls : 0 < D.config.pollInterval)
    (h : D.Stands x [] [] mode now taken b) (hn : D.Sender false n) (hle : now ≤ deadline)
    (hnext : ∀ b' n' mode', D.Sender false n' → D.Stands x [] [] mode' deadline taken b' →
      (Activity.sending (D.sending attempts timeout started k (.waiting (some deadline)))).Comes
        (Bench.lively patience D.near) b' n' Q) :
    (Activity.sending (D.sending attempts timeout started k (.waiting (some deadline)))).Comes
      (Bench.lively patience D.near) b n Q := by
  -- each pause that is not the last one leaves less time
  induction hrest : deadline - now using Nat.strongRecOn generalizing now mode b n with
  | _ rest ih =>
    rcases Nat.eq_or_lt_of_le hle with rfl | hlt
    · exact hnext b n mode hn h
    · refine h.look hn hlt ?_
      refine h.pause (fun b' h' => h'.meanwhile_nothing patience) fun b' h' => ⟨rfl, ?_⟩
      rw [hn.config] at h'
      exact ih _ (by omega) h' hn (by omega) rfl

/-! ## Whole attempts -/

/-- What waits at the sender once the other node has looked at a copy. -/
theorem meanwhile_answer
    (hcopies : D.medium.copies (x + 1) D.far (D.ack.wire D.config.frame) = inbox) (b' : Bench)
    (h : D.Stands (x + 1) [] [⟨(D.data k).wire D.config.frame, D.medium.rssiFrom D.near⟩] mode now
      taken b') :
    D.Stands (x + 2) inbox [] mode now (taken.or (some (D.delivery k)))
      (b'.meanwhile patience D.near) := by
  have hanswer := h.meanwhile_data D.roomy patience
  rw [hcopies] at hanswer
  exact hanswer

/-- **An attempt that is answered ends the send at once.** -/
theorem Stands.answered (h : D.Stands x [] [] mode now taken b) (hn : D.Sender false n)
    (htimeout : 0 < timeout) (hclock : now + timeout < Deadline.beyond)
    (hdata : D.medium.arrives x = true) (hack : D.medium.arrives (x + 1) = true)
    (hQ : ∀ b', D.Stands (x + 2) [] [] .receive now (taken.or (some (D.delivery k))) b' →
      Q b' (.ok (.outcome (.acked D.id (k + 1) (now - started))))) :
    (Activity.sending (D.sending attempts timeout started k .transmitting)).Comes
      (Bench.lively patience D.near) b n Q := by
  refine h.transmit hn hclock fun b₁ n₁ hn₁ h₁ => ?_
  rw [Medium.copies_of_arrives D.near_lt hdata] at h₁
  refine h₁.look hn₁ (by omega) ?_
  refine h₁.proceed (meanwhile_answer (Medium.copies_of_arrives D.far_lt hack _)) fun b₂ =>
    hn₁.handle_ack fun n₂ hn₂ => ?_
  exact ⟨rfl, _, rfl, by simp, fun b₃ h₃ => ⟨rfl, h₃.resolved hn₂ (hQ b₃ h₃)⟩⟩

/-- An attempt whose copy does not arrive changes nothing. -/
theorem Stands.unheard (hpolls : 0 < D.config.pollInterval)
    (h : D.Stands x [] [] mode now taken b) (hn : D.Sender false n) (htimeout : 0 < timeout)
    (hclock : now + timeout < Deadline.beyond) (hdata : D.medium.arrives x = false)
    (hnext : ∀ b' n' mode', D.Sender false n' →
      D.Stands (x + 1) [] [] mode' (now + timeout) taken b' →
      (Activity.sending (D.sending attempts timeout started k
        (.waiting (some (now + timeout))))).Comes (Bench.lively patience D.near) b' n' Q) :
    (Activity.sending (D.sending attempts timeout started k .transmitting)).Comes
      (Bench.lively patience D.near) b n Q := by
  refine h.transmit hn hclock fun b₁ n₁ hn₁ h₁ => ?_
  rcases Medium.copies_of_not_arrives D.near_lt hdata (Frame.wire_ne_nil D.config.frame (D.data k))
    with hcopies | hcopies
  · rw [hcopies] at h₁
    exact h₁.wait hpolls hn₁ (by omega) hnext
  · rw [hcopies] at h₁
    refine h₁.look hn₁ (by omega) ?_
    refine h₁.pause (fun b' h' => h'.meanwhile_damaged patience) fun b' h' => ⟨rfl, ?_⟩
    exact h'.wait hpolls hn₁ (by omega) hnext

/-- **An attempt whose acknowledgment does not arrive leaves the datagram taken.** -/
theorem Stands.unanswered (hpolls : 0 < D.config.pollInterval)
    (h : D.Stands x [] [] mode now taken b) (hn : D.Sender false n) (htimeout : 0 < timeout)
    (hclock : now + timeout < Deadline.beyond) (hdata : D.medium.arrives x = true)
    (hack : D.medium.arrives (x + 1) = false)
    (hnext : ∀ b' n' mode', D.Sender false n' →
      D.Stands (x + 2) [] [] mode' (now + timeout) (taken.or (some (D.delivery k))) b' →
      (Activity.sending (D.sending attempts timeout started k
        (.waiting (some (now + timeout))))).Comes (Bench.lively patience D.near) b' n' Q) :
    (Activity.sending (D.sending attempts timeout started k .transmitting)).Comes
      (Bench.lively patience D.near) b n Q := by
  refine h.transmit hn hclock fun b₁ n₁ hn₁ h₁ => ?_
  rw [Medium.copies_of_arrives D.near_lt hdata] at h₁
  refine h₁.look hn₁ (by omega) ?_
  rcases Medium.copies_of_not_arrives D.far_lt hack (Frame.wire_ne_nil D.config.frame D.ack)
    with hcopies | hcopies
  · refine h₁.pause (meanwhile_answer hcopies) fun b' h' => ⟨rfl, ?_⟩
    exact h'.wait hpolls hn₁ (by omega) hnext
  · refine h₁.proceed (meanwhile_answer hcopies) fun b₂ =>
      yields_handle_damaged hn₁.frame D.ack_fits fun count => ?_
    refine ⟨rfl, _, rfl, by simp, fun b₃ h₃ => ⟨rfl, ?_⟩⟩
    exact h₃.wait hpolls (hn₁.count _) (by omega) hnext

end

end Duel
end Scenario
end PacketRadio
