/-
# Looking at the radio alone quiets a network

rflink specification, §3: acknowledgments are never acknowledged.

Nodes of any settings share a medium on which some frames wait.  If all they
do from then on is to look at their radios and to take deliveries, the frames
run out: a look that is not idle takes one, and what it may send in return is
an acknowledgment, which no node anywhere answers.

| a frame that waits | can make so many looks not idle |
| --- | ---: |
| one that its node would not answer | 1 |
| a datagram, with the copies of its acknowledgment at the other `N - 1` stations | `N` |

So `M` frames at `N` stations are good for at most `N * M` looks, and for at
most `M` transmissions.

Main statement: `Crowd.polls_quiet`.
-/

import PacketRadio.Network
import PacketRadio.Proofs.Frame.Grammar
import PacketRadio.Proofs.Link.Traffic
import Mathlib.Algebra.BigOperators.Group.Finset.Basic
import Mathlib.Algebra.Order.BigOperators.Group.Finset
import Mathlib.Logic.Function.Basic

namespace PacketRadio

open Link (Action Node PollEvent Request Traffic)

/-! ## One look, on a medium -/

section

variable {m : Medium} {i : Nat}

/-- **On the medium only bringing up can fail.** -/
theorem Medium.call_ok (hlive : (m.live? i).isSome) {call : Radio.Call}
    (hp : Traffic.Permits (.radio call)) : ∃ result, (m.call i call).1 = .ok result := by
  obtain ⟨s, hs⟩ := Option.isSome_iff_exists.1 hlive
  cases call with
  | init => exact hp.elim
  | setAddress address promiscuous => exact hp.elim
  | setMode mode => exact ⟨(), rfl⟩
  | frameReady =>
    simp only [Medium.call, hs]
    split
    · exact ⟨_, rfl⟩
    · exact ⟨_, rfl⟩
  | receive =>
    simp only [Medium.call, hs]
    exact ⟨_, rfl⟩
  | transmit bytes =>
    have hlive' : ((m.modify i fun s => { s with mode := .transmit }).live? i).isSome :=
      Medium.live_of_present (m.present_modify i (by exact fun _ => rfl)) hlive
    obtain ⟨s', hs'⟩ := Option.isSome_iff_exists.1 hlive'
    refine ⟨(), ?_⟩
    simp only [Medium.call, Medium.broadcast, hs']

/-- The traffic of a node says what has become of the medium, and nothing has failed. -/
def Link.Traffic.Explains (g : Traffic) (i : Nat) (m : Medium) (network : Network) : Prop :=
  Medium.Moved i g.heard g.sent m network.medium ∧ g.failed = false

/-- **Every permitted request keeps it so.** -/
theorem Link.Traffic.Explains.answer {g : Traffic} {network : Network} {r : Request}
    (h : g.Explains i m network) (hlive : (m.live? i).isSome) (hp : Traffic.Permits r) :
    (g.note ⟨r, (Network.answer i r network).1⟩).Explains i m (Network.answer i r network).2 := by
  obtain ⟨hmoved, hfailed⟩ := h
  by_cases hr : ∃ call, r = .radio call
  · obtain ⟨call, rfl⟩ := hr
    have hlive' := Medium.live_of_present hmoved.present hlive
    obtain ⟨result, hresult⟩ := Medium.call_ok hlive' hp
    refine ⟨hmoved.trans (Medium.moved_call network.medium i call), ?_⟩
    have hcall : (Network.answer i (.radio call) network).1 = .ok result := hresult
    rw [hcall]
    simp [Link.Exchange.failed, hfailed]
  · have hmedium := (Network.answer_medium i r network).resolve_left hr
    rw [Traffic.note_of_not_radio g hr, Explains, hmedium]
    exact ⟨hmoved, hfailed⟩

/-- **What a look at the radio does to the medium**: it takes at most one frame, and spreads at most
the acknowledgment of that. -/
theorem poll_moved {network : Network} (hlive : (network.medium.live? i).isSome) (n : Node) :
    ∃ g : Traffic,
      Medium.Moved i g.heard g.sent network.medium
        ((Action.poll n).run (Network.surroundings i) network).2.medium ∧
      g.failed = false ∧
      ((Action.poll n).run (Network.surroundings i) network).1.2.config = n.config ∧
      Traffic.Looked n.config g ((Action.poll n).run (Network.surroundings i) network).1.1 := by
  obtain ⟨g, ⟨hmoved, hfailed⟩, hconfig, hlooked⟩ :=
    (Link.poll_traffic n).run_with (I := fun g => g.Explains i network.medium)
      (Network.surroundings i) (fun _ _ _ hp h => h.answer hlive hp) ⟨.refl i _, rfl⟩
  exact ⟨g, hmoved, hfailed, hconfig, hlooked⟩

end

/-! ## Nodes on a medium -/

/-- Nodes and what they share. -/
structure Crowd where
  /-- The medium and all else that they share. -/
  network : Network
  /-- The node at each station that has one. -/
  node : Nat → Option Node

namespace Crowd

/-- What a node is asked for. -/
inductive Call where
  /-- To look at its radio. -/
  | poll (station : Nat)
  /-- To hand over a delivery. -/
  | recv (station : Nat)

variable (s : Crowd)

/-- The nodes have settings that they could be brought up with, and radios on the medium. -/
def Sound : Prop :=
  ∀ i n, s.node i = some n → n.config.validate = .ok () ∧ (s.network.medium.live? i).isSome

/-- The stations whose radios are on the medium. -/
def aboard : Finset Nat :=
  (Finset.range s.network.medium.present.length).filter fun i =>
    s.network.medium.present[i]? = some true

/-- The number of stations on the medium. -/
def stations : Nat :=
  s.aboard.card

/-- The number of frames that wait at all stations. -/
def waiting : Nat :=
  ∑ i ∈ s.aboard, (s.network.medium.fifo i).length

/-- The transmissions made. -/
def transmissions : Nat :=
  s.network.medium.stats.transmissions

/-- The crowd after a node and the network have changed. -/
def put (i : Nat) (n : Node) (network : Network) : Crowd :=
  ⟨network, Function.update s.node i (some n)⟩

/-- What a look at the radio resulted in, if the call was one, and the crowd after the call.  A call
to a station without a node is none. -/
def call : Call → Option (Except Link.Error PollEvent) × Crowd
  | .poll i =>
    match s.node i with
    | none => (none, s)
    | some n =>
      let ((result, n), network) := (Action.poll n).run (Network.surroundings i) s.network
      (some result, s.put i n network)
  | .recv i =>
    match s.node i with
    | none => (none, s)
    | some n =>
      let ((_, n), network) := (Action.recv n).run (Network.surroundings i) s.network
      (none, s.put i n network)

/-- A look at the radio was not idle. -/
def isBusy : Option (Except Link.Error PollEvent) → Bool
  | none => false
  | some (.ok .idle) => false
  | some _ => true

/-- The crowd after some calls. -/
def after : Crowd → List Call → Crowd
  | s, [] => s
  | s, a :: calls => (s.call a).2.after calls

/-- How many looks at the radio were not idle. -/
def busyPolls : Crowd → List Call → Nat
  | _, [] => 0
  | s, a :: calls => (isBusy (s.call a).1).toNat + (s.call a).2.busyPolls calls

/-! ## What there is left to do -/

/-- The reception is a frame that the node at a station takes for something else than an
acknowledgment. -/
def provokes (i : Nat) (r : Radio.Reception) : Bool :=
  (s.node i).any fun n => Traffic.provokes n.config.frame r

/-- The number of frames that may still be answered. -/
def provoking : Nat :=
  ∑ i ∈ s.aboard, (s.network.medium.fifo i).countP (s.provokes i)

/-- The number of looks at the radio that the frames are good for: one each, and one for each copy
of an answer. -/
def budget : Nat :=
  s.waiting + (s.stations - 1) * s.provoking

theorem mem_aboard (i : Nat) : i ∈ s.aboard ↔ (s.network.medium.live? i).isSome := by
  rw [Medium.live?_isSome, aboard, Finset.mem_filter, Finset.mem_range]
  refine ⟨And.right, fun h => ⟨?_, h⟩⟩
  obtain ⟨hlt, -⟩ := List.getElem?_eq_some_iff.1 h
  exact hlt

theorem provoking_le_waiting : s.provoking ≤ s.waiting :=
  Finset.sum_le_sum fun _ _ => List.countP_le_length

theorem budget_le : s.budget ≤ s.stations * s.waiting := by
  have hle := Nat.mul_le_mul_left (s.stations - 1) s.provoking_le_waiting
  rcases Nat.eq_zero_or_pos s.stations with hzero | hpos
  · have hempty : s.waiting = 0 := by rw [waiting, Finset.card_eq_zero.1 hzero, Finset.sum_empty]
    rw [budget, hzero, hempty]
    simp
  · obtain ⟨k, hk⟩ : ∃ k, s.stations = k + 1 := ⟨s.stations - 1, by omega⟩
    rw [budget, hk, Nat.add_sub_cancel, Nat.succ_mul]
    rw [hk, Nat.add_sub_cancel] at hle
    omega

/-- One value goes down by `a`, and no other goes up by more than `b`. -/
theorem sum_moved {places : Finset Nat} {i a b : Nat} {f f' : Nat → Nat} (hi : i ∈ places)
    (hown : a + f' i ≤ f i) (hother : ∀ j ≠ i, f' j ≤ f j + b) :
    a + ∑ j ∈ places, f' j ≤ ∑ j ∈ places, f j + (places.card - 1) * b := by
  have hsplit := fun g : Nat → Nat => Finset.add_sum_erase _ g hi
  have hrest : ∑ j ∈ places.erase i, f' j ≤
      ∑ j ∈ places.erase i, f j + (places.card - 1) * b := by
    calc ∑ j ∈ places.erase i, f' j
        ≤ ∑ j ∈ places.erase i, (f j + b) :=
          Finset.sum_le_sum fun j hj => hother j (Finset.ne_of_mem_erase hj)
      _ = ∑ j ∈ places.erase i, f j + (places.card - 1) * b := by
          rw [Finset.sum_add_distrib, Finset.sum_const_nat fun _ _ => rfl,
            Finset.card_erase_of_mem hi]
  rw [← hsplit f, ← hsplit f']
  omega

/-- What calls have led to, with so many looks at the radio that were not idle. -/
structure Progress (s : Crowd) (busy : Nat) (s' : Crowd) : Prop where
  /-- The nodes and their radios are still in order. -/
  sound : s'.Sound
  /-- The stations are the same. -/
  stations : s'.stations = s.stations
  /-- What was done is off the budget. -/
  budget : busy + s'.budget ≤ s.budget
  /-- What was sent was sent for a frame that could be answered. -/
  sends : s'.transmissions + s'.provoking ≤ s.transmissions + s.provoking

variable {s} {s' s'' : Crowd} {k k' : Nat}

theorem Progress.refl (h : s.Sound) : s.Progress 0 s :=
  ⟨h, rfl, Nat.le_of_eq (Nat.zero_add _), Nat.le_refl _⟩

theorem Progress.trans (h : s.Progress k s') (h' : s'.Progress k' s'') :
    s.Progress (k + k') s'' := by
  have hbudget := h.budget
  have hbudget' := h'.budget
  exact ⟨h'.sound, h'.stations.trans h.stations, by omega, Nat.le_trans h'.sends h.sends⟩

/-! ## One call -/

section

variable {i : Nat} {n n' : Node} {network : Network}

theorem provokes_put (hn : s.node i = some n) (hconfig : n'.config = n.config) :
    (s.put i n' network).provokes = s.provokes := by
  funext j r
  by_cases hj : j = i
  · subst hj
    simp [provokes, put, hn, hconfig]
  · simp [provokes, put, Function.update_of_ne hj]

theorem Sound.put (h : s.Sound) (hn : s.node i = some n) (hconfig : n'.config = n.config)
    (hpresent : network.medium.present = s.network.medium.present) :
    (s.put i n' network).Sound := by
  intro j nj hj
  by_cases hij : j = i
  · subst hij
    obtain rfl : n' = nj := by simpa [Crowd.put] using hj
    obtain ⟨hvalid, hlive⟩ := h j n hn
    exact ⟨hconfig ▸ hvalid, Medium.live_of_present hpresent hlive⟩
  · have hnode : s.node j = some nj := by simpa [Crowd.put, Function.update_of_ne hij] using hj
    obtain ⟨hvalid, hlive⟩ := h j nj hnode
    exact ⟨hvalid, Medium.live_of_present hpresent hlive⟩

/-- **No node answers an acknowledgment**, whoever sent it and whatever became of it. -/
theorem Sound.provokes_isAck (h : s.Sound) {c : Link.Config} {bytes : Bytes}
    (hack : Traffic.IsAck c bytes) {r : Radio.Reception} (hr : Medium.IsCopy bytes r) (j : Nat) :
    s.provokes j r = false := by
  obtain ⟨header, rfl⟩ := hack
  unfold provokes
  cases hj : s.node j with
  | none => rfl
  | some nj =>
    have hvalid := (Link.Config.validate_eq_ok_iff _).1 (h j nj hj).1
    simp only [Option.any_some, Traffic.provokes]
    split
    · rename_i f hf
      rw [Frame.isAck_of_decode_ackFor c.frame hvalid.frame hr hf]
      rfl
    · rfl

theorem aboard_put (hpresent : network.medium.present = s.network.medium.present) :
    (s.put i n' network).aboard = s.aboard := by
  simp only [aboard, Crowd.put, hpresent]

/-- **What a node took is off the budget**, and for what it sent there was an allowance. -/
theorem Sound.progress (h : s.Sound) (hn : s.node i = some n) (hconfig : n'.config = n.config)
    {taken : List Radio.Reception} {sent : List Bytes}
    (hmoved : Medium.Moved i taken sent s.network.medium network.medium)
    (hsent : sent.length ≤ taken.countP (s.provokes i))
    (hacks : ∀ bytes ∈ sent, Traffic.IsAck n.config bytes) {busy : Nat}
    (hbusy : busy ≤ taken.length) : s.Progress busy (s.put i n' network) := by
  have hi : i ∈ s.aboard := (s.mem_aboard i).2 (h i n hn).2
  have haboard : (s.put i n' network).aboard = s.aboard := aboard_put hmoved.present
  have hstations : (s.put i n' network).stations = s.stations := congrArg Finset.card haboard
  have hwaiting : taken.length + (s.put i n' network).waiting ≤
      s.waiting + (s.stations - 1) * sent.length := by
    rw [waiting, waiting, haboard]
    refine sum_moved hi ?_ fun j hj => ?_
    · rw [← hmoved.own, List.length_append]
      exact Nat.le_refl _
    · obtain ⟨rs, hrs, hlen, -⟩ := hmoved.other j hj
      show (network.medium.fifo j).length ≤ _
      rw [hrs, List.length_append]
      exact Nat.add_le_add_left hlen _
  have hprovoking : taken.countP (s.provokes i) + (s.put i n' network).provoking ≤
      s.provoking := by
    rw [provoking, provoking, haboard, provokes_put hn hconfig]
    refine sum_moved (b := 0) hi ?_ fun j hj => ?_
    · rw [← hmoved.own, List.countP_append]
      exact Nat.le_refl _
    · obtain ⟨rs, hrs, -, hcopies⟩ := hmoved.other j hj
      have hnone : rs.countP (s.provokes j) = 0 := by
        refine List.countP_eq_zero.2 fun r hr => ?_
        obtain ⟨bytes, hbytes, hcopy⟩ := hcopies r hr
        simp [h.provokes_isAck (hacks bytes hbytes) hcopy j]
      show (network.medium.fifo j).countP _ ≤ _
      rw [hrs, List.countP_append, hnone]
  refine ⟨h.put hn hconfig hmoved.present, hstations, ?_, ?_⟩
  · have hallowed := Nat.mul_le_mul_left (s.stations - 1)
      (Nat.le_trans (Nat.add_le_add_right hsent _) hprovoking)
    rw [Nat.mul_add] at hallowed
    rw [budget, budget, hstations]
    omega
  · have hcount : (s.put i n' network).transmissions ≤ s.transmissions + sent.length := hmoved.count
    omega

end

/-- **Every call makes progress**, one step of it for a look at the radio that is not idle. -/
theorem Sound.call (h : s.Sound) (a : Call) :
    s.Progress (isBusy (s.call a).1).toNat (s.call a).2 := by
  cases a with
  | poll i =>
    cases hn : s.node i with
    | none =>
      simp only [Crowd.call, hn]
      exact .refl h
    | some n =>
      simp only [Crowd.call, hn]
      obtain ⟨g, hmoved, hfailed, hconfig, hlooked⟩ := poll_moved (h i n hn).2 n
      refine h.progress hn hconfig hmoved ?_ ?_ ?_
      · rcases hlooked.sent with hnone | ⟨reception, bytes, hone, hprovokes, -, hsent⟩
        · rw [hnone]
          exact Nat.zero_le _
        · rw [hsent, hone]
          simp [provokes, hn, hprovokes]
      · rcases hlooked.sent with hnone | ⟨reception, bytes, -, -, hack, hsent⟩
        · simp [hnone]
        · simpa [hsent] using hack
      · by_cases hheard : g.heard = []
        · rw [hlooked.idle hheard hfailed]
          exact Nat.zero_le _
        · have hpos := List.length_pos_iff.2 hheard
          exact Nat.le_trans (Bool.toNat_le _) hpos
  | recv i =>
    cases hn : s.node i with
    | none =>
      simp only [Crowd.call, hn]
      exact .refl h
    | some n =>
      simp only [Crowd.call, hn]
      have hmoved : Medium.Moved i [] [] s.network.medium
          ((Action.recv n).run (Network.surroundings i) s.network).2.medium := .refl i _
      have hconfig : ((Action.recv n).run (Network.surroundings i) s.network).1.2.config =
          n.config := rfl
      exact h.progress hn hconfig hmoved (Nat.zero_le _) (by simp) (Nat.zero_le _)

/-! ## Any number of calls -/

/-- **So do any number of calls, in any order.** -/
theorem Sound.after (h : s.Sound) (calls : List Call) :
    s.Progress (s.busyPolls calls) (s.after calls) := by
  induction calls generalizing s with
  | nil => exact .refl h
  | cons a calls ih =>
    have hstep := h.call a
    exact hstep.trans (ih hstep.sound)

/-- **An acknowledgment that a node takes makes it send nothing.** -/
theorem Sound.poll_isAck (h : s.Sound) {i : Nat} {n : Node} (hn : s.node i = some n)
    {r : Radio.Reception} {rest : List Radio.Reception}
    (hfifo : s.network.medium.fifo i = r :: rest) {c : Link.Config} {bytes : Bytes}
    (hack : Traffic.IsAck c bytes) (hr : Medium.IsCopy bytes r) :
    (s.call (.poll i)).2.transmissions = s.transmissions := by
  obtain ⟨g, hmoved, -, -, hlooked⟩ := poll_moved (h i n hn).2 n
  have hquiet : g.sent = [] := by
    rcases hlooked.sent with hnone | ⟨reception, _, hone, hprovokes, -, -⟩
    · exact hnone
    · have hown := hmoved.own
      rw [hone, hfifo] at hown
      obtain ⟨rfl, -⟩ := List.cons.inj hown
      have hanswers : s.provokes i reception = true := by simpa [provokes, hn] using hprovokes
      rw [h.provokes_isAck hack hr i] at hanswers
      cases hanswers
  have hgrows := hmoved.grows
  have hcount := hmoved.count
  rw [hquiet] at hcount
  simp only [Crowd.call, hn]
  exact Nat.le_antisymm hcount hgrows

/-- **Looking at the radio alone quiets a network.**  Of any calls to the nodes, in any order, at
most as many looks are not idle as there are stations for each frame that waits, and at most as many
transmissions are made as frames wait.  At any time, what a node has sent as an acknowledgment,
damaged or not, makes no node that takes it send anything. -/
theorem polls_quiet (h : s.Sound) (calls : List Call) :
    s.busyPolls calls ≤ s.stations * s.waiting ∧
    (s.after calls).transmissions ≤ s.transmissions + s.waiting ∧
    ∀ i n, (s.after calls).node i = some n →
      ∀ r rest, (s.after calls).network.medium.fifo i = r :: rest →
        ∀ (c : Link.Config) header, Medium.IsCopy ((Frame.ackFor header c.address).wire c.frame) r →
          ((s.after calls).call (.poll i)).2.transmissions = (s.after calls).transmissions := by
  have hprogress := h.after calls
  refine ⟨?_, ?_, fun i n hn r rest hfifo c header hr => ?_⟩
  · have hbudget := hprogress.budget
    have hle := s.budget_le
    omega
  · have hsends := hprogress.sends
    have hle := s.provoking_le_waiting
    omega
  · exact hprogress.sound.poll_isAck hn hfifo ⟨header, rfl⟩ hr

/-- A datagram waits at the second of two stations, whose node acknowledges it; the first takes the
acknowledgment.  That makes two looks that are not idle, as many as one frame at two stations is good
for. -/
def answered : Crowd where
  network :=
    { medium :=
        { stations :=
            [{ address := 1, mode := .receive },
              { address := 2, mode := .receive,
                fifo := [⟨Frame.wire {} ⟨⟨2, 1, 7, 0⟩, [0x2D]⟩, -40⟩] }] } }
  node
    | 0 => some (.fresh { address := 1 })
    | 1 => some (.fresh { address := 2, promiscuous := true })
    | _ => none

theorem answered_quiet :
    answered.busyPolls [.poll 0, .poll 1, .recv 1, .poll 1, .poll 0, .poll 0] = 2 ∧
      2 ≤ answered.stations * answered.waiting ∧ answered.stations * answered.waiting = 2 ∧
      ((answered.after [.poll 1]).call (.poll 0)).2.transmissions =
        (answered.after [.poll 1]).transmissions := by
  have hsound : answered.Sound := by
    intro i n hn
    match i, hn with
    | 0, hn =>
      obtain rfl := Option.some.inj hn
      exact ⟨rfl, rfl⟩
    | 1, hn =>
      obtain rfl := Option.some.inj hn
      exact ⟨rfl, rfl⟩
  have hbusy : answered.busyPolls [.poll 0, .poll 1, .recv 1, .poll 1, .poll 0, .poll 0] = 2 := by
    decide +kernel
  have hfifo : (answered.after [.poll 1]).network.medium.fifo 0 =
      [⟨(Frame.ackFor ⟨2, 1, 7, 0⟩ 2).wire {}, -40⟩] := by
    decide +kernel
  have hnode : (answered.after [.poll 1]).node 0 = some (.fresh { address := 1 }) := by
    decide +kernel
  exact ⟨hbusy, hbusy ▸ (polls_quiet hsound _).1, rfl,
    (polls_quiet hsound [.poll 1]).2.2 0 _ hnode _ _ hfifo { address := 2 } _ (.inl rfl)⟩

end Crowd
end PacketRadio
