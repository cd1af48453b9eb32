/-
# The listening node's stretches when nothing goes wrong

rflink specification, §10: `simulate` without fault injection.

At a stretch the node takes all frames that wait for it.  None is for it, so it
sends nothing, but it takes every datagram in.

| frame | what the node does with it |
| --- | --- |
| acknowledgment | nothing |
| datagram, channel not full | puts it into its channel |
| datagram, channel full | nothing |

What the other parties send is numbered from zero, so as long as all of it has
come in nothing looks like a repetition before the channel is full.

Main statements: `Overhears.gets_poll`, `Sniffer.goes_on_listening` and
`Sniffer.finds_stop`.
-/

import PacketRadio.Proofs.Simulation.Serving

namespace PacketRadio
namespace Simulation

open Link (Activity Channel Delivery Node Operation PollEvent Reply Turn)
open Link.Action
open Scene (Shows)

variable {s : Settings} {σ : Scene} {network : Network} {n : Node} {a : Address}
  {heard log : List Frame} {f : Frame} {channels : List Channel}

/-! ## What there is to hear -/

/-- A frame that one of the parties that talk sends to the other. -/
inductive Spoken (s : Settings) : Frame → Prop where
  /-- A datagram. -/
  | datagram {p : Party} (hp : p ≠ .sniffer) (i : Nat) : Spoken s (s.datagram p i)
  /-- An acknowledgment. -/
  | ack {p : Party} (hp : p ≠ .sniffer) (i : Nat) : Spoken s (s.ack p i)

/-- A frame is one party's datagram. -/
def Settings.isFrom (s : Settings) (p : Party) (f : Frame) : Bool :=
  !f.header.isAck && f.header.src == s.address p

/-- The datagrams among some frames, as they are handed over. -/
def datagrams (fs : List Frame) : List Delivery :=
  (fs.filter fun f => !f.header.isAck).map fun f => f.delivery (-40)

/-- The frame can be the next one after others: a datagram has the number that its sender has come
to. -/
inductive Follows (s : Settings) (heard : List Frame) : Frame → Prop where
  /-- A datagram. -/
  | datagram {p : Party} (hp : p ≠ .sniffer) :
      Follows s heard (s.datagram p (heard.countP (s.isFrom p)))
  /-- An acknowledgment. -/
  | ack {p : Party} (hp : p ≠ .sniffer) (i : Nat) : Follows s heard (s.ack p i)

/-- Every frame can be the next one after those before it. -/
def Numbered (s : Settings) (log : List Frame) : Prop :=
  ∀ before f after, log = before ++ f :: after → Follows s before f

theorem numbered_nil : Numbered s [] := by
  intro before f after h
  simp at h

theorem Numbered.append (h : Numbered s log) (hf : Follows s log f) : Numbered s (log ++ [f]) := by
  intro before g after heq
  rcases List.eq_nil_or_concat after with rfl | ⟨after, last, rfl⟩
  · obtain ⟨rfl, hg⟩ := List.append_inj' heq rfl
    obtain rfl := List.singleton_inj.1 hg
    exact hf
  · rw [List.concat_eq_append, ← List.cons_append, ← List.append_assoc] at heq
    obtain ⟨hlog, -⟩ := List.append_inj' heq rfl
    exact h before g after hlog

/-- A party's next datagram has the number that it has come to. -/
theorem Numbered.append_datagram (h : Numbered s log) {p : Party} (hp : p ≠ .sniffer) {i : Nat}
    (hi : log.countP (s.isFrom p) = i) : Numbered s (log ++ [s.datagram p i]) := by
  subst hi
  exact h.append (.datagram hp)

theorem Numbered.follows {fs : List Frame} (h : Numbered s (heard ++ f :: fs)) :
    Follows s heard f :=
  h heard f fs rfl

theorem Numbered.before (fs : List Frame) (h : Numbered s (log ++ fs)) : Numbered s log :=
  fun before f after hlog => h before f (after ++ fs) (by rw [hlog]; simp)

theorem ack_isAck (s : Settings) (p : Party) (i : Nat) : (s.ack p i).header.isAck = true := by
  show Flag.has Flag.ack Flag.ack = true
  decide

/-- The parties that talk have two addresses. -/
theorem Settings.Calm.address_inj (hs : s.Calm) {p q : Party} (hp : p ≠ .sniffer)
    (hq : q ≠ .sniffer) (h : s.address p = s.address q) : p = q := by
  cases p <;> cases q <;> first
    | rfl
    | exact absurd rfl hp
    | exact absurd rfl hq
    | exact absurd h hs.distinct
    | exact absurd h.symm hs.distinct

theorem isFrom_ack (p q : Party) (i : Nat) : s.isFrom q (s.ack p i) = false := by
  simp [Settings.isFrom, ack_isAck]

theorem isFrom_datagram (hs : s.Calm) {p q : Party} (hp : p ≠ .sniffer) (hq : q ≠ .sniffer)
    (i : Nat) : s.isFrom q (s.datagram p i) = decide (q = p) := by
  rw [Settings.isFrom, datagram_isAck]
  by_cases h : q = p
  · subst h
    simp [Settings.datagram]
  · have haddress : s.address p ≠ s.address q := fun heq => h (hs.address_inj hp hq heq).symm
    simp [Settings.datagram, h, haddress]

/-! ## What the node has heard -/

/-- A node that listens to the others, at an address of its own. -/
structure Overhears (s : Settings) (a : Address) (n : Node) : Prop where
  /-- It takes in frames for others. -/
  config : n.config = { s.node a with promiscuous := true }
  /-- What it takes in goes into the channel. -/
  sink : n.sink = .channel snifferChannel

/-- The channel when the node has heard these frames. -/
def recording (heard : List Frame) : Channel :=
  { capacity := snifferCapacity, waiting := (datagrams heard).take snifferCapacity }

/-- The node has heard these frames, and the channel holds their datagrams as far as there is
room. -/
structure Recorded (s : Settings) (heard : List Frame) (n : Node) (channels : List Channel) :
    Prop where
  /-- The channel is full, or holds all datagrams. -/
  waiting : channels = [recording heard]
  /-- Unless the channel is full, the node knows what each party sent last. -/
  known : (datagrams heard).length < snifferCapacity → ∀ p ≠ .sniffer,
    n.lastAccepted.get? (s.address p) = lastId (heard.countP (s.isFrom p))

theorem Recorded.congr {n' : Node} (h : Recorded s heard n channels)
    (hknown : n'.lastAccepted = n.lastAccepted) : Recorded s heard n' channels :=
  ⟨h.waiting, by rw [hknown]; exact h.known⟩

theorem datagrams_ack {p : Party} (i : Nat) :
    datagrams (heard ++ [s.ack p i]) = datagrams heard := by
  simp [datagrams, ack_isAck]

theorem datagrams_datagram {p : Party} (i : Nat) :
    datagrams (heard ++ [s.datagram p i]) = datagrams heard ++ [s.delivery p i] := by
  simp [datagrams, datagram_isAck, Settings.delivery]

/-- As long as there is room, the channel holds all datagrams. -/
theorem recording_datagram {p : Party} (i : Nat)
    (hroom : (datagrams heard).length < snifferCapacity) :
    recording (heard ++ [s.datagram p i]) =
      { recording heard with waiting := datagrams heard ++ [s.delivery p i] } := by
  have hall : (datagrams heard ++ [s.delivery p i]).length ≤ snifferCapacity := by
    rw [List.length_append, List.length_singleton]
    omega
  rw [recording, datagrams_datagram, List.take_of_length_le hall]
  rfl

/-- An acknowledgment that is heard changes nothing. -/
theorem Recorded.ack {p : Party} {n' : Node} (h : Recorded s heard n channels) (i : Nat)
    (hknown : n'.lastAccepted = n.lastAccepted) :
    Recorded s (heard ++ [s.ack p i]) n' channels := by
  refine ⟨by rw [recording, datagrams_ack]; exact h.waiting, fun hroom q hq => ?_⟩
  rw [datagrams_ack] at hroom
  rw [hknown, h.known hroom q hq, List.countP_append, List.countP_singleton, isFrom_ack]
  simp

/-- A datagram that is heard when the channel is full changes nothing. -/
theorem Recorded.full {p : Party} {n' : Node} (h : Recorded s heard n channels) (i : Nat)
    (hfull : snifferCapacity ≤ (datagrams heard).length) :
    Recorded s (heard ++ [s.datagram p i]) n' channels := by
  refine ⟨?_, fun hroom => ?_⟩
  · rw [recording, datagrams_datagram, List.take_append_of_le_length hfull]
    exact h.waiting
  · rw [datagrams_datagram, List.length_append] at hroom
    omega

/-- **A datagram that is heard when the channel has room is taken in.** -/
theorem Recorded.taken (hs : s.Calm) {p : Party} (hp : p ≠ .sniffer) {n' : Node}
    (h : Recorded s heard n channels) (hroom : (datagrams heard).length < snifferCapacity)
    (hknown : n'.lastAccepted = n.lastAccepted.insert (s.address p)
      (UInt8.ofNat (heard.countP (s.isFrom p)))) :
    Recorded s (heard ++ [s.datagram p (heard.countP (s.isFrom p))]) n'
      [recording (heard ++ [s.datagram p (heard.countP (s.isFrom p))])] := by
  refine ⟨rfl, fun _ q hq => ?_⟩
  rw [hknown, List.countP_append, List.countP_singleton, isFrom_datagram hs hp hq]
  by_cases heq : q = p
  · subst heq
    rw [Link.PeerTable.get?_insert_self]
    simp [lastId]
  · have haddress : s.address q ≠ s.address p := fun h => heq (hs.address_inj hq hp h)
    rw [Link.PeerTable.get?_insert_of_ne _ _ haddress, h.known hroom q hq]
    simp [heq]

/-- **The channel takes a delivery** as long as it has room. -/
theorem Recorded.offer (h : Recorded s heard n channels) (d : Delivery) :
    Scene.offer channels snifferChannel d =
      if (datagrams heard).length < snifferCapacity then
        (true, [{ recording heard with waiting := datagrams heard ++ [d] }])
      else (false, channels) := by
  unfold Scene.offer
  rw [h.waiting]
  simp only [snifferChannel, List.getElem?_cons_zero, Option.bind_some, recording, Channel.push,
    List.length_take, Bool.true_and, decide_eq_true_eq, List.set_cons_zero]
  by_cases hroom : (datagrams heard).length < snifferCapacity
  · rw [if_pos (by omega), if_pos hroom, List.take_of_length_le (by omega)]
  · rw [if_neg (by omega), if_neg hroom]

/-- What a node keeps of some more frames that it hears. -/
def Hears (s : Settings) (fs : List Frame) (n : Node) (channels : List Channel) (n' : Node)
    (channels' : List Channel) : Prop :=
  ∀ heard, Numbered s (heard ++ fs) → Recorded s heard n channels →
    Recorded s (heard ++ fs) n' channels'

theorem hears_nil (n : Node) (channels : List Channel) : Hears s [] n channels n channels := by
  intro heard _ h
  rwa [List.append_nil]

theorem Hears.cons {n' n'' : Node} {channels' channels'' : List Channel} {fs : List Frame}
    (hf : Hears s [f] n channels n' channels') (hfs : Hears s fs n' channels' n'' channels'') :
    Hears s (f :: fs) n channels n'' channels'' := by
  intro heard hnumbered h
  rw [List.append_cons] at hnumbered ⊢
  exact hfs _ hnumbered (hf heard (hnumbered.before fs) h)

/-- An acknowledgment changes nothing. -/
theorem hears_ack (hack : f.header.isAck = true) {n' : Node}
    (hknown : n'.lastAccepted = n.lastAccepted) : Hears s [f] n channels n' channels := by
  intro heard hnumbered h
  cases hnumbered.follows with
  | datagram hp => exact absurd hack (by simp [datagram_isAck])
  | ack hp i => exact h.ack i hknown

/-- A datagram that looks like a repetition changes nothing; the channel is full then. -/
theorem hears_duplicate (hdata : f.header.isAck = false) (hdup : n.isDuplicate f.header = true)
    {n' : Node} : Hears s [f] n channels n' channels := by
  intro heard hnumbered h
  cases hnumbered.follows with
  | ack hp i => exact absurd hdata (by simp [ack_isAck])
  | @datagram p hp =>
    by_cases hroom : (datagrams heard).length < snifferCapacity
    · have hlast : n.lastAccepted.get? (s.address p) =
          some (UInt8.ofNat (heard.countP (s.isFrom p))) := beq_iff_eq.1 hdup
      rw [h.known hroom p hp] at hlast
      exact absurd hlast (lastId_ne _)
    · exact h.full _ (Nat.not_lt.1 hroom)

/-- A datagram for which the channel has no room changes nothing. -/
theorem hears_overflowed (hdata : f.header.isAck = false)
    (hoffer : (Scene.offer channels snifferChannel (f.delivery (-40))).1 = false) {n' : Node} :
    Hears s [f] n channels n' (Scene.offer channels snifferChannel (f.delivery (-40))).2 := by
  intro heard hnumbered h
  rw [h.offer] at hoffer ⊢
  cases hnumbered.follows with
  | ack hp i => exact absurd hdata (by simp [ack_isAck])
  | @datagram p hp =>
    by_cases hroom : (datagrams heard).length < snifferCapacity
    · rw [if_pos hroom] at hoffer
      cases hoffer
    · rw [if_neg hroom]
      exact h.full _ (Nat.not_lt.1 hroom)

/-- **A datagram for which the channel has room goes there.** -/
theorem hears_taken (hs : s.Calm) (hdata : f.header.isAck = false)
    (hoffer : (Scene.offer channels snifferChannel (f.delivery (-40))).1 = true) {n' : Node}
    (hknown : n'.lastAccepted = n.lastAccepted.insert f.header.src f.header.id) :
    Hears s [f] n channels n' (Scene.offer channels snifferChannel (f.delivery (-40))).2 := by
  intro heard hnumbered h
  rw [h.offer] at hoffer ⊢
  cases hnumbered.follows with
  | ack hp i => exact absurd hdata (by simp [ack_isAck])
  | @datagram p hp =>
    by_cases hroom : (datagrams heard).length < snifferCapacity
    · rw [if_pos hroom]
      show Recorded s _ n' [{ recording heard with
        waiting := datagrams heard ++ [s.delivery p (heard.countP (s.isFrom p))] }]
      rw [← recording_datagram _ hroom]
      exact h.taken hs hp hroom hknown
    · rw [if_neg hroom] at hoffer
      cases hoffer

/-! ## The node at its radio -/

theorem Spoken.fits (hs : s.Calm) (hf : Spoken s f) : f.payload.length ≤ s.frame.maxPayload := by
  cases hf with
  | @datagram p hp i => exact hs.fits p
  | ack hp i => exact Nat.zero_le _

/-- Nothing that is sent is for the node that listens. -/
theorem Spoken.dst_ne (hs : s.Calm) (ha : s.sniffer = some a) (hf : Spoken s f) :
    f.header.dst ≠ a := by
  obtain ⟨-, hserver, hclient⟩ := hs.apart a ha
  have hother : ∀ p : Party, p ≠ .sniffer → s.address p ≠ a := by
    rintro (_ | _ | _) hp
    · exact hclient.symm
    · exact hserver.symm
    · exact absurd rfl hp
  cases hf with
  | datagram hp i => exact hother _ (Party.peer_ne hp).2
  | ack hp i => exact hother _ (Party.peer_ne hp).2

theorem Overhears.frame (hn : Overhears s a n) : n.config.frame = s.frame := by
  rw [hn.config]
  rfl

theorem Overhears.accepts (hn : Overhears s a n) (h : Header) :
    n.config.filter.accepts h = true := by
  rw [hn.config]
  rfl

theorem Overhears.isLocal (hn : Overhears s a n) {h : Header} (hdst : h.dst ≠ a) :
    n.config.filter.isLocal h = false := by
  rw [hn.config]
  exact beq_eq_false_iff_ne.2 hdst

section

variable (hs : s.Calm) (h : Shows s.frame σ network)

include hs h

/-- **The node takes a datagram that is not for it.** -/
theorem Overhears.gets_handleData (hn : Overhears s a n) (hdst : f.header.dst ≠ a)
    (hdata : f.header.isAck = false)
    {Q : Network → Progress (Except Link.Error PollEvent × Node) → Prop}
    (hQ : ∀ network' event n' channels, event ≠ .idle → Overhears s a n' →
      Hears s [f] n σ.channels n' channels →
      Shows s.frame (σ.fill channels) network' →
      Q network' (.done (.ok event, n'))) :
    (handleData f (-40)).Gets (Network.surroundings Party.sniffer.station) network n Q := by
  have howes : n.owesAck f.header = false := by
    rw [Node.owesAck, hn.isLocal hdst, Bool.false_and]
  simp only [handleData, gets_bind, gets_node, proceeds_ok]
  cases hdup : n.isDuplicate f.header with
  | true =>
    simp only [if_true, gets_bind, gets_count, proceeds_ok, howes, Bool.false_eq_true, if_false,
      gets_pure]
    exact hQ network _ _ _ (by simp) ⟨hn.config, hn.sink⟩ (hears_duplicate hdata hdup) h
  | false =>
    simp only [Bool.false_eq_true, if_false, gets_bind, deliver, gets_node, proceeds_ok, hn.sink]
    refine Scene.gets_offer (d := f.delivery (-40)) h fun network₁ h₁ => ?_
    cases hoffer : (Scene.offer σ.channels snifferChannel (f.delivery (-40))).1 with
    | true =>
      simp only [proceeds_ok, if_true, gets_bind, gets_modify, howes, Bool.false_eq_true, if_false,
        gets_pure]
      exact hQ network₁ _ _ _ (by simp) ⟨hn.config, hn.sink⟩ (hears_taken hs hdata hoffer rfl) h₁
    | false =>
      simp only [proceeds_ok, Bool.false_eq_true, if_false, gets_bind, gets_count, gets_pure]
      exact hQ network₁ _ _ _ (by simp) ⟨hn.config, hn.sink⟩ (hears_overflowed hdata hoffer) h₁

variable (hboard : σ.aboard .sniffer = true) (ha : s.sniffer = some a)

include hboard ha

/-- **The node takes a frame that is not for it**, and sends nothing. -/
theorem Overhears.gets_poll (hn : Overhears s a n) (hf : Spoken s f) {rest : List Frame}
    (hinbox : σ.inbox .sniffer = f :: rest)
    {Q : Network → Progress (Except Link.Error PollEvent × Node) → Prop}
    (hQ : ∀ network' event n' channels, event ≠ .idle → Overhears s a n' →
      Hears s [f] n σ.channels n' channels →
      Shows s.frame ((σ.put .sniffer rest).fill channels) network' →
      Q network' (.done (.ok event, n'))) :
    poll.Gets (Network.surroundings Party.sniffer.station) network n Q := by
  have hdecode := Scene.decode_reception hs.frame hn.frame (hf.fits hs)
  have hdst := hf.dst_ne hs ha
  refine Scene.gets_poll_frame h hboard hinbox fun network₁ h₁ => ?_
  rw [Scene.take_of_cons _ _ hinbox] at h₁
  simp only [handle, gets_bind, gets_node, proceeds_ok, hdecode, hn.accepts, if_true, gets_count]
  generalize hn₁ : n.count _ = n₁
  have hears₁ : Overhears s a n₁ := by
    subst hn₁
    exact ⟨hn.config, hn.sink⟩
  have hknown : n₁.lastAccepted = n.lastAccepted := by
    subst hn₁
    rfl
  cases hack : f.header.isAck with
  | true =>
    have hawaits : n₁.awaits f.header = false := by
      rw [Node.awaits, hears₁.isLocal hdst, Bool.false_and]
    simp only [if_true, handleAck, gets_bind, gets_node, proceeds_ok, hawaits, Bool.false_eq_true,
      if_false, gets_count, gets_pure]
    refine ⟨_, _, _, rfl, h₁, hboard, fun network₂ h₂ => ?_⟩
    exact hQ network₂ _ _ _ (by simp) ⟨hears₁.config, hears₁.sink⟩ (hears_ack hack hknown) h₂
  | false =>
    simp only [Bool.false_eq_true, if_false]
    refine hears₁.gets_handleData hs h₁ hdst hack
      fun network₂ event n₂ channels hevent hn₂ hears h₂ => ?_
    refine ⟨_, event, n₂, rfl, h₂, hboard, fun network₃ h₃ => ?_⟩
    refine hQ network₃ event n₂ channels hevent hn₂ ?_ h₃
    exact fun heard hnumbered h => hears heard hnumbered (h.congr hknown)

end

/-! ## Whole stretches -/

/-- The node has taken all frames that waited for it. -/
structure Empties (s : Settings) (a : Address) (σ : Scene) (n : Node) (network' : Network)
    (n' : Node) (channels : List Channel) : Prop where
  /-- It still listens to the others. -/
  overhears : Overhears s a n'
  /-- What it keeps is what it keeps of these frames. -/
  hears : Hears s (σ.inbox .sniffer) n σ.channels n' channels
  /-- Nothing waits for it any more. -/
  network : Shows s.frame ((σ.put .sniffer []).fill channels) network'

theorem Empties.nil (h : Shows s.frame σ network) (hn : Overhears s a n)
    (hinbox : σ.inbox .sniffer = []) : Empties s a σ n network n σ.channels := by
  refine ⟨hn, ?_, ?_⟩
  · rw [hinbox]
    exact hears_nil n _
  · rw [← hinbox, Scene.put_inbox]
    exact h

/-- A frame is taken, and then the rest. -/
theorem Empties.cons {n₁ n' : Node} {network' : Network} {channels₁ channels' : List Channel}
    {rest : List Frame} (hinbox : σ.inbox .sniffer = f :: rest)
    (hf : Hears s [f] n σ.channels n₁ channels₁)
    (h : Empties s a ((σ.put .sniffer rest).fill channels₁) n₁ network' n' channels') :
    Empties s a σ n network' n' channels' := by
  have hrest : ((σ.put .sniffer rest).fill channels₁).inbox .sniffer = rest :=
    Scene.put_inbox_self σ .sniffer rest
  refine ⟨h.overhears, ?_, ?_⟩
  · have hears := h.hears
    rw [hrest] at hears
    rw [hinbox]
    exact hf.cons hears
  · simpa [Scene.put, Scene.fill] using h.network

namespace Sniffer

/-- The node listens, or is about to. -/
def Alert (sn : Sniffer) : Prop :=
  sn = .ready ∨ sn = .listening (.listening stopFlag)

/-- A stretch of the node comes to what its own turn leads to. -/
theorem comes {sn : Sniffer} {Q : Network → Close → Prop}
    (h : sn.turn.Gets (Network.surroundings Party.sniffer.station) network n
      (Role.Leads s .sniffer Q)) : (Role.sniffer sn).Comes s network n Q :=
  Role.Comes.of_leads rfl (fun _ => rfl) h

/-- A node that is about to listen listens. -/
theorem Alert.comes {sn : Sniffer} (hsn : sn.Alert) {Q : Network → Close → Prop}
    (h : (Role.sniffer (.listening (.listening stopFlag))).Comes s network n Q) :
    (Role.sniffer sn).Comes s network n Q := by
  rcases hsn with rfl | rfl
  · exact Sniffer.comes h
  · exact h

section

variable {Q : Network → Close → Prop} (hs : s.Calm) (h : Shows s.frame σ network)
  (hboard : σ.aboard .sniffer = true) (ha : s.sniffer = some a) (hn : Overhears s a n)
  (hspoken : ∀ f ∈ σ.inbox .sniffer, Spoken s f)

include hs h hboard ha hn hspoken

/-- **The node takes all frames that wait for it**, and pauses. -/
theorem goes_on_listening (hstopped : σ.stopped = false) {sn : Sniffer} (hsn : sn.Alert)
    (hQ : ∀ network' n' channels, Empties s a σ n network' n' channels →
      Q network' (.paused pollInterval (.sniffer (.listening (.listening stopFlag))) n')) :
    (Role.sniffer sn).Comes s network n Q := by
  refine hsn.comes ?_
  -- by induction on what waits for the node
  induction hinbox : σ.inbox .sniffer generalizing σ network n with
  | nil =>
    have hinterval : n.config.pollInterval = pollInterval := by rw [hn.config]; rfl
    refine comes ?_
    simp only [Sniffer.turn, Activity.turn, listenTurn, gets_bind]
    refine Scene.gets_stopped h ?_
    simp only [proceeds_ok, hstopped, Bool.false_eq_true, if_false, gets_bind, gets_attempt]
    refine Scene.gets_poll_idle h hboard hinbox fun network₁ h₁ => ?_
    simp only [proceeds_ok, if_true, gets_bind, gets_node, hinterval]
    refine (gets_sleep (by decide)).2 ?_
    exact ⟨_, n, rfl, hQ network₁ n _ (.nil h₁ hn hinbox)⟩
  | cons f rest ih =>
    rw [hinbox, List.forall_mem_cons] at hspoken
    have hrest (channels) : ((σ.put .sniffer rest).fill channels).inbox .sniffer = rest :=
      Scene.put_inbox_self σ .sniffer rest
    refine comes ?_
    simp only [Sniffer.turn, Activity.turn, listenTurn, gets_bind]
    refine Scene.gets_stopped h ?_
    simp only [proceeds_ok, hstopped, Bool.false_eq_true, if_false, gets_bind, gets_attempt]
    refine hn.gets_poll hs h hboard ha hspoken.1 hinbox
      fun network₁ event n₁ channels₁ hevent hn₁ hears₁ h₁ => ?_
    simp only [proceeds_ok, if_neg hevent, gets_pure, Attempted, heard]
    refine ih h₁ hboard hn₁ (by rw [hrest]; exact hspoken.2) hstopped ?_ (hrest _)
    exact fun network₂ n₂ channels₂ hempties =>
      hQ network₂ n₂ channels₂ (.cons hinbox hears₁ hempties)

/-- What the node takes once it is to stop. -/
theorem drains
    (hQ : ∀ network' n' channels, Empties s a σ n network' n' channels →
      Q network' (.finished {} n')) :
    (Role.sniffer .draining).Comes s network n Q := by
  -- by induction on what waits for the node
  induction hinbox : σ.inbox .sniffer generalizing σ network n with
  | nil =>
    refine comes ?_
    simp only [Sniffer.turn, gets_bind]
    refine Scene.gets_poll_idle h hboard hinbox fun network₁ h₁ => ?_
    simp only [proceeds_ok, if_true, gets_bind]
    refine Scene.gets_setMode h₁ hboard fun network₂ h₂ _ => ?_
    exact hQ network₂ n _ (.nil h₂ hn hinbox)
  | cons f rest ih =>
    rw [hinbox, List.forall_mem_cons] at hspoken
    have hrest (channels) : ((σ.put .sniffer rest).fill channels).inbox .sniffer = rest :=
      Scene.put_inbox_self σ .sniffer rest
    refine comes ?_
    simp only [Sniffer.turn, gets_bind]
    refine hn.gets_poll hs h hboard ha hspoken.1 hinbox
      fun network₁ event n₁ channels₁ hevent hn₁ hears₁ h₁ => ?_
    simp only [proceeds_ok, if_neg hevent]
    refine ih h₁ hboard hn₁ (by rw [hrest]; exact hspoken.2) ?_ (hrest _)
    exact fun network₂ n₂ channels₂ hempties =>
      hQ network₂ n₂ channels₂ (.cons hinbox hears₁ hempties)

/-- **The node takes all frames that wait for it**, and has finished. -/
theorem finds_stop (hstopped : σ.stopped = true) {sn : Sniffer} (hsn : sn.Alert)
    (hQ : ∀ network' n' channels, Empties s a σ n network' n' channels →
      Q network' (.finished {} n')) :
    (Role.sniffer sn).Comes s network n Q := by
  refine hsn.comes (comes ?_)
  simp only [Sniffer.turn, Activity.turn, listenTurn, gets_bind]
  refine Scene.gets_stopped h ?_
  simp only [proceeds_ok, hstopped, if_true, goIdle, gets_bind, gets_attempt]
  refine Scene.gets_setMode h hboard fun network₁ h₁ _ => ?_
  exact drains hs h₁ hboard ha hn hspoken hQ

end

end Sniffer
end Simulation
end PacketRadio
