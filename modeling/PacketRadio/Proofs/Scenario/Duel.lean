/-
# Two nodes on a bench of their own

rflink specification, §4.4: `send_reliable` between two nodes.

One node sends a datagram and the other is automatic, there is nobody else and
nothing has been put off.  While the sender goes on, all that changes is the
medium between them, the time, and whether the other node has taken the
datagram.

Main statements: `Holds.call` (what a call does on the bench is what it does
on the medium), and one rule for each request that the two nodes make.
-/

import PacketRadio.Proofs.Frame.RoundTrip
import PacketRadio.Proofs.Link.Course
import PacketRadio.Proofs.Medium.Between
import PacketRadio.Scenario.Play

namespace PacketRadio
namespace Scenario

open Link (Delivery Node Surroundings)
open Link.Action
open Medium (Between View)

/-- Two nodes and the datagram that goes from one to the other. -/
structure Duel where
  /-- The place of the sender; the other node has the other of the first two places. -/
  near : Nat
  /-- It is one of the first two. -/
  near_lt : near < 2
  /-- The medium when the send begins. -/
  medium : Medium
  /-- The sender's configuration. -/
  config : Link.Config
  /-- The other node's configuration. -/
  peer : Link.Config
  /-- Frames can be written and read. -/
  valid : config.frame.Valid
  /-- Both nodes do so in one way. -/
  shared : peer.frame = config.frame
  /-- The other node can be told from all of them together. -/
  addressed : peer.address ≠ Address.broadcast
  /-- The sequence number of the datagram. -/
  id : UInt8
  /-- What it carries. -/
  payload : Bytes
  /-- That can be sent. -/
  fits : payload.length ≤ config.frame.payloadLimit
  /-- The most deliveries that wait at the other node. -/
  capacity : Nat
  /-- The deliveries that wait there. -/
  waiting : List Delivery
  /-- There is room for one more. -/
  room : waiting.length < capacity
  /-- A frame can wait at a station. -/
  roomy : 0 < medium.capacity

namespace Duel

variable (D : Duel)

/-- The place of the other node. -/
def far : Nat := 1 - D.near

theorem far_lt : D.far < 2 := by unfold far; omega

theorem far_ne : D.far ≠ D.near := by
  have := D.near_lt
  unfold far
  omega

theorem near_eq : D.near = 1 - D.far := by
  have := D.near_lt
  unfold far
  omega

/-- The other node, which has taken this much of the datagram. -/
structure Peer (taken : Option Delivery) (n : Node) : Prop where
  /-- It has the configuration it had. -/
  config : n.config = D.peer
  /-- It has accepted the number if it has taken the datagram, and only then. -/
  knows : n.lastAccepted.get? D.config.address = some D.id ↔ taken.isSome
  /-- What it has taken waits after what waited before. -/
  sink : n.sink = .queue D.capacity (D.waiting ++ taken.toList)

/-- What the bench is like in the course of the send. -/
structure Holds (v : View) (now : Nat) (taken : Option Delivery) (b : Bench) : Prop where
  /-- Nothing has been put off. -/
  agenda : b.agenda = []
  /-- There are two nodes. -/
  posts : b.posts.length = 2
  /-- Their radios work, and are the first two stations. -/
  post : ∀ s < 2, ∃ post, b.posts[s]? = some post ∧ post.station = s ∧ post.faults = []
  /-- The other node is automatic. -/
  peer : ∃ post n, b.posts[D.far]? = some post ∧ post.automatic = true ∧ post.node = some n ∧
    D.Peer taken n
  /-- It is this late. -/
  now : b.network.now = now
  /-- The medium has come this far. -/
  between : Between D.medium v b.network.medium

/-- All requests but one are answered with nothing happening meanwhile. -/
def Plain (s : Nat) (env : Surroundings Bench) : Prop :=
  ∀ r b, r ≠ .radio .frameReady → env.answer r b = Bench.answer s r b

theorem plain_quiet (s : Nat) : Plain s (Bench.quiet s) := fun _ _ _ => rfl

theorem plain_lively (patience s : Nat) : Plain s (Bench.lively patience s) := fun _ _ hr =>
  if_neg hr

variable {D} {v v' : View} {now : Nat} {taken : Option Delivery} {b : Bench} {n : Node}
  {s : Nat} {env : Surroundings Bench}

/-! ## Requests -/

/-- Posts that have no faults stay as they are when a call has looked for some. -/
theorem getElem?_modify_faults {posts : List Post} {i : Nat} {post : Post}
    (hi : posts[i]? = some post) (hfaults : post.faults = []) (j : Nat) :
    (posts.modify i fun post => { post with faults := [] })[j]? = posts[j]? := by
  have hsame : { post with faults := [] } = post := by rw [← hfaults]
  by_cases hj : i = j
  · subst hj
    simp [hi, hsame]
  · exact List.getElem?_modify_ne _ _ hj

/-- **What a call does on the bench is what it does on the medium.** -/
theorem Holds.call (h : D.Holds v now taken b) (hs : s < 2) {c : Radio.Call}
    {r : Except Radio.Failure c.Result} {m : Medium}
    (hc : b.network.medium.call s c = (r, m)) (hm : Between D.medium v' m) :
    ∃ b', b.call s c = (r, b') ∧ D.Holds v' now taken b' := by
  obtain ⟨post, hpost, hstation, hfaults⟩ := h.post s hs
  have hposts := getElem?_modify_faults hpost hfaults
  refine ⟨{ b.modifyPost s fun post => { post with faults := [] } with
    network := { b.network with medium := m } }, ?_, ?_⟩
  · simp only [Bench.call, hpost, hfaults, Fault.strike, hstation, Network.call]
    simp only [Bench.modifyPost, hc]
  · refine ⟨h.agenda, ?_, fun s' hs' => ?_, ?_, h.now, hm⟩
    · simpa [Bench.modifyPost] using h.posts
    · simpa only [Bench.modifyPost, hposts] using h.post s' hs'
    · simpa only [Bench.modifyPost, hposts] using h.peer

theorem Holds.station_eq (h : D.Holds v now taken b) (hs : s < 2) : b.station s = s := by
  obtain ⟨post, hpost, hstation, -⟩ := h.post s hs
  simpa [Bench.station, hpost] using hstation

section

variable (hp : Plain s env) (h : D.Holds v now taken b) (hs : s < 2)

include hp h hs

theorem yields_setMode {mode : Radio.Mode} {Q : Bench → Node → Except Link.Error Unit → Prop}
    (hQ : ∀ b', D.Holds (v.setMode s mode) now taken b' → Q b' n (.ok ())) :
    (setMode mode).Yields env b n Q := by
  obtain ⟨m, hc, hm⟩ := h.between.setMode s mode
  obtain ⟨b', hb, h'⟩ := h.call hs hc hm
  have hanswer : env.answer (.radio (.setMode mode)) b = (.ok (), b') := (hp _ _ (by simp)).trans hb
  exact (Link.Action.yields_radio hanswer).2 (hQ b' h')

theorem yields_receive {Q : Bench → Node → Except Link.Error (Option Radio.Reception) → Prop}
    (hQ : ∀ b', D.Holds ((v.setFifo s (v.fifo s).tail).setMode s .idle) now taken b' →
      Q b' n (.ok (v.fifo s).head?)) :
    receive.Yields env b n Q := by
  obtain ⟨m, hc, hm⟩ := h.between.receive hs
  obtain ⟨b', hb, h'⟩ := h.call hs hc hm
  have hanswer : env.answer (.radio .receive) b = (.ok (v.fifo s).head?, b') :=
    (hp _ _ (by simp)).trans hb
  exact (Link.Action.yields_radio hanswer).2 (hQ b' h')

theorem yields_send {bytes : Bytes} (hroom : (v.fifo (1 - s)).length < D.medium.capacity)
    {Q : Bench → Node → Except Link.Error Unit → Prop}
    (hQ : ∀ b', D.Holds (v.air D.medium s bytes) now taken b' → Q b' n (.ok ())) :
    (radio (.transmit bytes)).Yields env b n Q := by
  obtain ⟨m, hc, hm⟩ := h.between.transmit hs hroom bytes
  obtain ⟨b', hb, h'⟩ := h.call hs hc hm
  have hanswer : env.answer (.radio (.transmit bytes)) b = (.ok (), b') :=
    (hp _ _ (by simp)).trans hb
  exact (Link.Action.yields_radio hanswer).2 (hQ b' h')

theorem yields_mode {Q : Bench → Node → Except Link.Error Radio.Mode → Prop}
    (hQ : Q b n (.ok (v.mode s))) : mode.Yields env b n Q := by
  have hanswer : env.answer .mode b = (v.mode s, b) := by
    rw [hp _ _ (by simp)]
    simp only [Bench.answer, Network.answer, h.station_eq hs, h.between.mode_eq hs]
  exact (Link.Action.yields_ask hanswer).2 hQ

omit hs in
theorem yields_now {Q : Bench → Node → Except Link.Error Nat → Prop} (hQ : Q b n (.ok now)) :
    Link.Action.now.Yields env b n Q := by
  have hanswer : env.answer .now b = (now, b) := by
    rw [hp _ _ (by simp)]
    simp only [Bench.answer, Network.answer, h.now]
  exact (Link.Action.yields_ask hanswer).2 hQ

omit hs in
theorem yields_sleep {duration : Nat} {Q : Bench → Node → Except Link.Error Unit → Prop}
    (hQ : ∀ b', D.Holds v (now + duration) taken b' → Q b' n (.ok ())) :
    (sleep duration).Yields env b n Q := by
  have hanswer : env.answer (.sleep duration) b =
      ((), { b with network := { b.network with now := b.network.now + duration } }) :=
    hp _ _ (by simp)
  refine (Link.Action.yields_ask hanswer).2 (hQ _ ?_)
  exact ⟨h.agenda, h.posts, h.post, h.peer, congrArg (· + duration) h.now, h.between⟩

omit h hs in
theorem yields_kept {d : Delivery} {Q : Bench → Node → Except Link.Error Unit → Prop}
    (hQ : Q b n (.ok ())) : (ask (.kept d)).Yields env b n Q := by
  have hanswer : env.answer (.kept d) b = ((), b) := hp _ _ (by simp)
  exact (Link.Action.yields_ask hanswer).2 hQ

end

/-- **A node that sends a frame listens again afterwards.** -/
theorem yields_transmit (hp : Plain s env) (h : D.Holds v now taken b) (hs : s < 2) {f : Frame}
    (hframe : n.config.frame = D.config.frame)
    (hlen : f.payload.length ≤ D.config.frame.payloadLimit)
    (hroom : (v.fifo (1 - s)).length < D.medium.capacity)
    {Q : Bench → Node → Except Link.Error Unit → Prop}
    (hQ : ∀ b', D.Holds ((v.air D.medium s (f.wire D.config.frame)).setMode s .receive) now taken
      b' → Q b' n (.ok ())) :
    (transmit f).Yields env b n Q := by
  have henc : f.encode n.config.frame = .ok (f.wire D.config.frame) := by
    rw [hframe]
    exact (Frame.encode_eq_ok_iff _ _ _).2 ⟨D.valid.preamble, hlen, rfl⟩
  simp only [transmit, Link.Action.yields_bind, Link.Action.yields_node, Link.Action.continues_ok,
    henc]
  refine yields_setMode hp h hs fun b₁ h₁ => ?_
  simp only [Link.Action.yields_bind, Link.Action.continues_ok, Link.Action.yields_attempt]
  refine yields_send hp h₁ hs hroom fun b₂ h₂ => ?_
  refine yields_setMode hp h₂ hs fun b₃ h₃ => ?_
  rw [View.setMode_air] at h₃
  exact hQ b₃ h₃

/-! ## One look at the radio -/

/-- A radio that listens tells whether something waits for it. -/
theorem Holds.frameReady (h : D.Holds v now taken b) (hs : s < 2) (hmode : v.mode s = .receive) :
    ∃ b', Bench.answer s (.radio .frameReady) b = (.ok (!(v.fifo s).isEmpty), b') ∧
      D.Holds v now taken b' :=
  h.call hs (h.between.frameReady hs hmode) h.between

/-- **A node that is to look at its radio listens first.** -/
theorem yields_poll (hp : Plain s env) (h : D.Holds v now taken b) (hs : s < 2)
    {Q : Bench → Node → Except Link.Error Link.PollEvent → Prop}
    (hQ : ∀ b', D.Holds (v.setMode s .receive) now taken b' → look.Yields env b' n Q) :
    poll.Yields env b n Q := by
  simp only [poll, Link.Action.yields_bind]
  refine yields_mode hp h hs ?_
  simp only [Link.Action.continues_ok]
  by_cases hmode : v.mode s = .receive
  · have hsame : v.setMode s .receive = v := by
      rw [View.setMode, ← hmode, Function.update_eq_self]
    simp only [hmode, ne_eq, not_true_eq_false, if_false]
    exact hQ b (by rwa [hsame])
  · simp only [ne_eq, hmode, not_false_eq_true, if_true, Link.Action.yields_bind]
    exact yields_setMode hp h hs hQ

theorem yields_look_nothing {b' : Bench}
    (hready : env.answer (.radio .frameReady) b = (.ok false, b'))
    {Q : Bench → Node → Except Link.Error Link.PollEvent → Prop} (hQ : Q b' n (.ok .idle)) :
    look.Yields env b n Q := by
  simp only [look, Link.Action.yields_bind]
  refine (Link.Action.yields_radio hready).2 ?_
  exact hQ

/-- **A node that finds something takes it and listens again.** -/
theorem yields_look_frame (hp : Plain s env) (hs : s < 2) {b' : Bench}
    (hready : env.answer (.radio .frameReady) b = (.ok true, b')) (h : D.Holds v now taken b')
    {r : Radio.Reception} {rest : List Radio.Reception} (hfifo : v.fifo s = r :: rest)
    {Q : Bench → Node → Except Link.Error Link.PollEvent → Prop}
    (hQ : ∀ b', D.Holds ((v.setFifo s rest).setMode s .idle) now taken b' →
      (handle r).Yields env b' n fun b' n' result => ∃ v' event, result = .ok event ∧
        D.Holds v' now taken b' ∧
        ∀ b', D.Holds (v'.setMode s .receive) now taken b' → Q b' n' (.ok event)) :
    look.Yields env b n Q := by
  simp only [look, Link.Action.yields_bind]
  refine (Link.Action.yields_radio hready).2 ?_
  simp only [Except.mapError, Link.Action.continues_ok, if_true, Link.Action.yields_bind,
    Link.Action.yields_attempt, fetch]
  refine yields_receive hp h hs fun b₁ h₁ => ?_
  rw [hfifo] at h₁ ⊢
  simp only [List.head?_cons, Link.Action.continues_ok]
  refine (hQ b₁ h₁).imp ?_
  rintro b₂ n₂ _ ⟨v₂, event, rfl, h₂, hrest⟩
  refine yields_setMode hp h₂ hs fun b₃ h₃ => ?_
  exact hrest b₃ h₃

end Duel
end Scenario
end PacketRadio
