/-
# A simulation from one stretch to the next

rflink specification, §10: `simulate` without fault injection.

Between two stretches nobody acts.  All that matters then is the scene, what
each party that pauses is about to do and when, and what each party that has
finished has to tell.

| who wakes | next |
| --- | --- |
| pauses again | is about to do something else, later |
| has finished | has something to tell, and leaves |

If there is a time until which everybody has finished, then a simulation in
which every stretch keeps an invariant comes to its end with it.

Main statements: `Moment.Of.settle` and `Moment.Of.run`.
-/

import Mathlib.Algebra.GroupWithZero.Nat
import PacketRadio.Proofs.Simulation.Reporting
import PacketRadio.Proofs.Simulation.Scene

namespace PacketRadio
namespace Simulation

open Link (Node)
open Scene (Shows)

variable {s : Settings} {st : State} {network : Network} {p : Party} {close : Close}

/-- The party has finished, or it is the same one that pauses, and for some time. -/
def Close.Lasts (p : Party) : Close → Prop
  | .paused duration role _ => 0 < duration ∧ role.party = p
  | .finished _ _ => True

/-- What a party that pauses is about to do. -/
structure Standby where
  /-- The turn it is about to take. -/
  role : Role
  /-- Its node. -/
  node : Node
  /-- When it is to wake. -/
  wake : Nat

/-- The scene when a party has finished. -/
def Scene.leave (σ : Scene) : Party → Scene
  | .client => { σ with stopped := true }
  | p => { σ with aboard := Function.update σ.aboard p false }

/-- The others stay on the medium. -/
theorem Scene.leave_aboard (σ : Scene) {p q : Party} (h : q ≠ p) :
    (σ.leave p).aboard q = σ.aboard q := by
  cases p with
  | client => rfl
  | _ => exact Function.update_of_ne h ..

/-- **What a party does to the network when it has finished** it does to the scene. -/
theorem Scene.Shows.leave {c : Frame.Config} {σ : Scene} (h : Shows c σ network) (p : Party) :
    Shows c (σ.leave p) (Simulation.leave p network) := by
  cases p with
  | client =>
    refine ⟨?_, h.now, ?_, h.channels⟩
    · exact ⟨h.medium.station, h.medium.settings, h.medium.credit, h.medium.count⟩
    · simp [Simulation.leave, Network.stop, h.stopped, Scene.leave, stopFlag]
  | server => exact ⟨h.medium.detach .server, h.now, h.stopped, h.channels⟩
  | sniffer => exact ⟨h.medium.detach .sniffer, h.now, h.stopped, h.channels⟩

/-- What matters when nobody acts. -/
structure Moment where
  /-- The scene. -/
  scene : Scene
  /-- What each party that pauses is about to do. -/
  cast : Party → Option Standby
  /-- What each party that has finished has to tell, with its node at the end. -/
  ends : Party → Option (Findings × Node) := fun _ => none

namespace Moment

variable {m : Moment} {σ : Scene}

/-- The next moment, when a party's stretch has ended. -/
def settle (m : Moment) (p : Party) (σ : Scene) : Close → Moment
  | .paused duration role n =>
    { m with
      scene := σ
      cast := Function.update m.cast p (some ⟨role, n, σ.now + duration⟩) }
  | .finished found n =>
    { scene := σ.leave p
      cast := Function.update m.cast p none
      ends := Function.update m.ends p (some (found, n)) }

/-- What the parties in a queue are about to do. -/
structure Casts (s : Settings) (cast : Party → Option Standby) (queue : List Sleeper) : Prop where
  /-- Nobody pauses twice. -/
  nodup : (queue.map (·.party)).Nodup
  /-- Who pauses is cast for what it is about to do. -/
  awaits : ∀ a ∈ queue, ∃ b, cast a.party = some b ∧ b.wake = a.wake ∧ a.Awaits s b.role b.node
  /-- Who is cast pauses. -/
  queued : ∀ p b, cast p = some b → p ∈ queue.map (·.party)

section

variable {cast : Party → Option Standby} {queue others : List Sleeper} {a : Sleeper}

/-- Whoever wakes first is cast, and nobody who is wakes earlier. -/
theorem Casts.wakes (h : Casts s cast queue) (hnext : nextUp queue = some (a, others)) :
    ∃ b, cast a.party = some b ∧ b.wake = a.wake ∧ a.Awaits s b.role b.node ∧
      ∀ q c, cast q = some c → b.wake ≤ c.wake := by
  have hmem : a ∈ queue := (nextUp_perm hnext).mem_iff.2 List.mem_cons_self
  obtain ⟨b, hb, hwake, hawaits⟩ := h.awaits a hmem
  refine ⟨b, hb, hwake, hawaits, fun q c hc => ?_⟩
  obtain ⟨d, hd, rfl⟩ := List.mem_map.1 (h.queued q c hc)
  obtain ⟨c', hc', hwake', -⟩ := h.awaits d hd
  obtain rfl := Option.some.inj (hc.symm.trans hc')
  rw [hwake, hwake']
  exact nextUp_wake_le hnext d hd

/-- **Who has woken pauses no more**, but the others still do. -/
theorem Casts.woken (h : Casts s cast queue) (hnext : nextUp queue = some (a, others)) :
    Casts s (Function.update cast a.party none) others := by
  have hperm := nextUp_perm hnext
  obtain ⟨hnot, hnodup⟩ := List.nodup_cons.1 ((hperm.map (·.party)).nodup_iff.1 h.nodup)
  refine ⟨hnodup, fun b hb => ?_, fun q b hb => ?_⟩
  · have hne : b.party ≠ a.party := fun heq => hnot (List.mem_map.2 ⟨b, hb, heq⟩)
    rw [Function.update_of_ne hne]
    exact h.awaits b (hperm.mem_iff.2 (List.mem_cons_of_mem a hb))
  · have hne : q ≠ a.party := by
      rintro rfl
      simp at hb
    rw [Function.update_of_ne hne] at hb
    exact List.mem_of_ne_of_mem hne ((hperm.map (·.party)).mem_iff.1 (h.queued q b hb))

/-- **Who begins to pause** is the last in the queue. -/
theorem Casts.append (h : Casts s cast queue) {role : Role} (hrole : cast role.party = none)
    (n : Node) (wake : Nat) :
    Casts s (Function.update cast role.party (some ⟨role, n, wake⟩))
      (queue ++ [role.asleep n wake]) := by
  have hnot : role.party ∉ queue.map (·.party) := by
    intro hmem
    obtain ⟨b, hb, hparty⟩ := List.mem_map.1 hmem
    obtain ⟨c, hc, -⟩ := h.awaits b hb
    rw [hparty, hrole] at hc
    cases hc
  refine ⟨?_, fun b hb => ?_, fun q b hb => ?_⟩
  · rw [List.map_append, List.map_singleton]
    refine List.nodup_append.2 ⟨h.nodup, by simp, fun q hq q' hq' => ?_⟩
    obtain rfl := List.mem_singleton.1 hq'
    rintro rfl
    exact hnot hq
  · rcases List.mem_append.1 hb with hb | hb
    · have hne : b.party ≠ role.party := fun heq => hnot (List.mem_map.2 ⟨b, hb, heq⟩)
      rw [Function.update_of_ne hne]
      exact h.awaits b hb
    · obtain rfl := List.mem_singleton.1 hb
      exact ⟨_, Function.update_self .., rfl, role.asleep_awaits n wake⟩
  · rw [List.map_append]
    by_cases hq : q = role.party
    · exact List.mem_append_right _ (by simp [hq, Role.asleep])
    · rw [Function.update_of_ne hq] at hb
      exact List.mem_append_left _ (h.queued q b hb)

end

/-- The state is as the moment has it. -/
structure Of (s : Settings) (m : Moment) (st : State) : Prop where
  /-- So is the network. -/
  network : Shows s.frame m.scene st.network
  /-- So is the queue. -/
  casts : Casts s m.cast st.queue
  /-- Who pauses has not finished. -/
  pending : ∀ p b, m.cast p = some b → st.finisher p = none
  /-- Who has finished has this to tell. -/
  outcome : ∀ p, st.outcome p = .ok (m.ends p)

/-- A stretch that begins at a time leads to a moment of which the invariant holds. -/
def Becomes (s : Settings) (I : Moment → Prop) (m : Moment) (p : Party) (now : Nat)
    (network : Network) (close : Close) : Prop :=
  ∃ σ, Shows s.frame σ network ∧ σ.now = now ∧ close.Lasts p ∧ I (m.settle p σ close)

/-- **The next state is as the next moment has it.** -/
theorem Of.settle (h : m.Of s st) {a : Sleeper} {others : List Sleeper}
    (hnext : nextUp st.queue = some (a, others)) (hσ : Shows s.frame σ network)
    (hclose : close.Lasts a.party) :
    (m.settle a.party σ close).Of s (st.settle others a.party network close) := by
  obtain ⟨b, hb, -⟩ := h.casts.wakes hnext
  have hwoken := h.casts.woken hnext
  cases close with
  | paused duration role n =>
    obtain ⟨-, hrole⟩ := hclose
    refine ⟨hσ, ?_, fun q c hc => ?_, h.outcome⟩
    · have hself : Function.update m.cast a.party none role.party = none := by
        rw [hrole, Function.update_self]
      have happend := hwoken.append hself n (σ.now + duration)
      rw [hrole, Function.update_idem] at happend
      simpa only [Moment.settle, State.settle, hσ.now] using happend
    · by_cases hq : q = a.party
      · rw [hq]
        exact h.pending _ b hb
      · exact h.pending q c ((Function.update_of_ne hq ..).symm.trans hc)
  | finished found n =>
    have hfinisher : ∀ q, State.finisher (st.settle others a.party network (.finished found n)) q =
        (st.finisher q).or (if a.party = q then some ⟨a.party, .ok found, n⟩ else none) := by
      intro q
      simp only [State.finisher, State.settle, List.find?_append, List.find?_singleton, beq_iff_eq]
    refine ⟨hσ.leave a.party, hwoken, fun q c hc => ?_, fun q => ?_⟩
    · have hq : a.party ≠ q := by
        rintro rfl
        simp [Moment.settle] at hc
      rw [hfinisher, if_neg hq, Option.or_none]
      exact h.pending q c ((Function.update_of_ne hq.symm ..).symm.trans hc)
    · by_cases hq : a.party = q
      · subst hq
        have hself : State.finisher (st.settle others a.party network (.finished found n)) a.party =
            some ⟨a.party, .ok found, n⟩ := by
          rw [hfinisher, h.pending _ b hb, if_pos rfl, Option.none_or]
        rw [State.outcome_of_finisher hself rfl]
        show _ = Except.ok (Function.update m.ends a.party (some (found, n)) a.party)
        rw [Function.update_self]
      · unfold State.outcome
        rw [hfinisher, if_neg hq, Option.or_none]
        refine (h.outcome q).trans (congrArg Except.ok ?_)
        exact (Function.update_of_ne (fun heq => hq heq.symm) ..).symm

/-- How long those who pause have until a time, all together. -/
def remaining (horizon : Nat) (queue : List Sleeper) : Nat :=
  (queue.map fun a => horizon + 1 - a.wake).sum

/-- **A stretch leaves less time.** -/
theorem remaining_settle {a : Sleeper} {others : List Sleeper} {horizon : Nat}
    (hnext : nextUp st.queue = some (a, others)) (hwake : a.wake ≤ horizon)
    (hnow : network.now = a.wake) (hclose : close.Lasts p) :
    remaining horizon (st.settle others p network close).queue < remaining horizon st.queue := by
  have hqueue : remaining horizon st.queue = (horizon + 1 - a.wake) + remaining horizon others := by
    unfold remaining
    rw [((nextUp_perm hnext).map _).sum_nat, List.map_cons, List.sum_cons]
  rw [hqueue]
  cases close with
  | paused duration role n =>
    obtain ⟨hduration, -⟩ := hclose
    have hlast : remaining horizon (others ++ [role.asleep n (network.now + duration)]) =
        remaining horizon others + (horizon + 1 - (network.now + duration)) := by
      simp [remaining, Role.asleep]
    show remaining horizon (others ++ [role.asleep n (network.now + duration)]) < _
    rw [hlast]
    omega
  | finished found n =>
    show remaining horizon others < _
    omega

/-- **A simulation in which every stretch keeps an invariant comes to its end with it**, if there is
a time until which everybody has finished. -/
theorem Of.run {I : Moment → Prop} {horizon : Nat}
    (hhorizon : ∀ m, I m → ∀ p b, m.cast p = some b → b.wake ≤ horizon)
    (hI : ∀ m, I m → ∀ p b, m.cast p = some b → (∀ q c, m.cast q = some c → b.wake ≤ c.wake) →
      ∀ network, Shows s.frame (m.scene.later b.wake) network →
        b.role.Comes s network b.node (Becomes s I m p b.wake))
    (hm : I m) (h : m.Of s st) :
    ∃ patience st' m', st.wakeNext.run s patience = some { st' with acting := none } ∧ I m' ∧
      m'.Of s st' ∧ ∀ p, m'.cast p = none := by
  have hstep : ∀ st : State, (∃ m, I m ∧ m.Of s st) → st.queue ≠ [] →
      ∃ st' : State, (∃ m, I m ∧ m.Of s st') ∧
        remaining horizon st'.queue < remaining horizon st.queue ∧
        ∃ k, (State.step s)^[k] st.wakeNext = st'.wakeNext := by
    rintro st₁ ⟨m₁, hm₁, h₁⟩ hqueue
    obtain ⟨⟨a, others⟩, hnext⟩ : ∃ woken, nextUp st₁.queue = some woken :=
      Option.ne_none_iff_exists'.1 fun hnone => hqueue ((nextUp_eq_none_iff _).1 hnone)
    obtain ⟨b, hb, hwake, hawaits, hfirst⟩ := h₁.casts.wakes hnext
    have hcomes := hI m₁ hm₁ a.party b hb hfirst { st₁.network with now := a.wake }
      (hwake ▸ h₁.network.later a.wake)
    rw [hwake] at hcomes
    obtain ⟨close, network, ⟨σ, hσ, hnow, hclose, hm₂⟩, hsteps⟩ :=
      State.comes hnext hawaits hcomes
    rw [← hawaits.party] at hsteps
    refine ⟨_, ⟨_, hm₂, h₁.settle hnext hσ hclose⟩, ?_, hsteps⟩
    refine remaining_settle hnext ?_ (hσ.now.trans hnow) hclose
    rw [← hwake]
    exact hhorizon m₁ hm₁ _ b hb
  obtain ⟨patience, st', hrun, ⟨m', hm', h'⟩, hqueue⟩ := State.run_of_progress hstep ⟨m, hm, h⟩
  refine ⟨patience, st', m', hrun, hm', h', fun p => ?_⟩
  cases hp : m'.cast p with
  | none => rfl
  | some b =>
    have hpaused := h'.casts.queued p b hp
    rw [hqueue] at hpaused
    cases hpaused

end Moment
end Simulation
end PacketRadio
