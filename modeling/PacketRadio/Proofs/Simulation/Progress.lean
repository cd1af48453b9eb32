/-
# How far a party gets at a stretch

rflink specification, §10: `simulate` without fault injection.

An action of a party is followed from its first part to its last, to where it
ends or pauses.  A party takes one turn after another until one pauses or is
the last; meanwhile nobody else acts.

| a turn | and then |
| --- | --- |
| calls for another one | that one begins at once |
| pauses at its end | the party is queued, and takes another turn when it wakes |
| is the last | the party has finished |

Main statements: `Action.gets_bind`, with a rule for each part that an action
can have; `Role.Comes.turn`, by which a stretch comes to what its first turn
leads to; `State.comes`, by which a simulation comes to what the stretch of
whoever wakes leads to; and `State.run_of_progress` for whole simulations.
-/

import PacketRadio.Proofs.Simulation.Schedule
import Mathlib.Logic.Function.Iterate

namespace PacketRadio

open Link (Node Request Surroundings Turn)
open Simulation (Progress toPause)

variable {σ : Type} {env : Surroundings σ} {s : σ} {n : Node}

namespace Simulation

/-- A tree that goes on gets as far as its first part does, and further if that does not pause. -/
theorem toPause_bind {α β : Type} (env : Surroundings σ) (t : Link.Task α) (f : α → Link.Task β)
    (s : σ) : toPause env (t.bind f) s =
      match toPause env t s with
      | (.done a, s') => toPause env (f a) s'
      | (.paused duration rest, s') => (.paused duration (rest.bind f), s') := by
  induction t generalizing s with
  | done a => rfl
  | ask r next ih =>
    cases r with
    | sleep duration =>
      simp only [Link.Task.ask_bind, toPause]
      split
      · exact ih () s
      · rfl
    | _ => exact ih _ _

end Simulation

/-! ## Actions -/

namespace Link.Action

variable {α β : Type}

/-- The action gets to where the surroundings and its progress are as `Q` says. -/
def Gets (env : Surroundings σ) (x : Action α) (s : σ) (n : Node)
    (Q : σ → Progress (Except Error α × Node) → Prop) : Prop :=
  Q (toPause env (x n) s).2 (toPause env (x n) s).1

/-- What is left to show once the first part of an action has ended or paused. -/
def Proceeds (env : Surroundings σ) (f : α → Action β)
    (Q : σ → Progress (Except Error β × Node) → Prop) :
    σ → Progress (Except Error α × Node) → Prop
  | s, .done (.ok a, n) => (f a).Gets env s n Q
  | s, .done (.error e, n) => Q s (.done (.error e, n))
  | s, .paused duration rest => Q s (.paused duration (rest.bind fun
    | (.ok a, n) => f a n
    | (.error e, n) => .done (.error e, n)))

/-- What is left to show of an action whose failure is looked at. -/
def Attempted (Q : σ → Progress (Except Error (Except Error α) × Node) → Prop) :
    σ → Progress (Except Error α × Node) → Prop
  | s, .done (r, n) => Q s (.done (.ok r, n))
  | s, .paused duration rest => Q s (.paused duration (rest.bind fun (r, n) => .done (.ok r, n)))

variable {Q : σ → Progress (Except Error α × Node) → Prop}
  {Q' : σ → Progress (Except Error β × Node) → Prop}

@[simp] theorem proceeds_ok (f : α → Action β) (a : α) :
    Proceeds env f Q' s (.done (.ok a, n)) ↔ (f a).Gets env s n Q' := Iff.rfl

/-- **Less may be said of where an action gets.** -/
theorem Gets.imp {x : Action α} {P : σ → Progress (Except Error α × Node) → Prop}
    (h : x.Gets env s n P) (hQ : ∀ s p, P s p → Q s p) : x.Gets env s n Q :=
  hQ _ _ h

/-- **One action after another.** -/
@[simp] theorem gets_bind (x : Action α) (f : α → Action β) :
    (x >>= f).Gets env s n Q' ↔ x.Gets env s n (Proceeds env f Q') := by
  have hbind : toPause env ((x >>= f) n) s = _ := Simulation.toPause_bind env (x n) _ s
  unfold Gets
  rw [hbind]
  rcases toPause env (x n) s with ⟨⟨_ | _, _⟩ | _, _⟩ <;> rfl

@[simp] theorem gets_pure (a : α) :
    (pure a : Action α).Gets env s n Q ↔ Q s (.done (.ok a, n)) := Iff.rfl

@[simp] theorem gets_node {Q : σ → Progress (Except Error Node × Node) → Prop} :
    node.Gets env s n Q ↔ Q s (.done (.ok n, n)) := Iff.rfl

@[simp] theorem gets_modify (f : Node → Node)
    {Q : σ → Progress (Except Error Unit × Node) → Prop} :
    (modify f).Gets env s n Q ↔ Q s (.done (.ok (), f n)) := Iff.rfl

@[simp] theorem gets_count (f : Telemetry → Telemetry)
    {Q : σ → Progress (Except Error Unit × Node) → Prop} :
    (count f).Gets env s n Q ↔ Q s (.done (.ok (), n.count f)) := Iff.rfl

/-- **An action whose failure is looked at instead of passed on.** -/
@[simp] theorem gets_attempt (x : Action α)
    {Q : σ → Progress (Except Error (Except Error α) × Node) → Prop} :
    (attempt x).Gets env s n Q ↔ x.Gets env s n (Attempted Q) := by
  have hattempt : toPause env ((attempt x) n) s = _ := Simulation.toPause_bind env (x n) _ s
  unfold Gets
  rw [hattempt]
  rcases toPause env (x n) s with ⟨_ | _, _⟩ <;> rfl

/-- **A call to the radio is answered by the surroundings.** -/
theorem gets_radio {c : Radio.Call} {a : Except Radio.Failure c.Result} {s' : σ}
    (h : env.answer (.radio c) s = (a, s'))
    {Q : σ → Progress (Except Error c.Result × Node) → Prop} :
    (radio c).Gets env s n Q ↔ Q s' (.done (a.mapError .radio, n)) := by
  simp [Gets, radio, toPause, h]

/-- **So is any other request that is no pause.** -/
theorem gets_ask {r : Request} {a : r.Answer} {s' : σ} (hr : ∀ duration, r ≠ .sleep duration)
    (h : env.answer r s = (a, s')) {Q : σ → Progress (Except Error r.Answer × Node) → Prop} :
    (ask r).Gets env s n Q ↔ Q s' (.done (.ok a, n)) := by
  cases r with
  | sleep duration => exact absurd rfl (hr duration)
  | _ => simp [Gets, ask, toPause, h]

/-- **A pause is as far as an action gets.** -/
theorem gets_sleep {duration : Nat} (hd : 0 < duration)
    {Q : σ → Progress (Except Error Unit × Node) → Prop} :
    (sleep duration).Gets env s n Q ↔ Q s (.paused duration (.done (.ok (), n))) := by
  have hne : duration ≠ 0 := Nat.pos_iff_ne_zero.1 hd
  simp [Gets, sleep, ask, toPause, hne]

end Link.Action

/-! ## Stretches -/

namespace Simulation

open Link (Action)

variable {s : Settings}

/-- How a party ends a stretch. -/
inductive Close where
  /-- It pauses, and is about to take another turn. -/
  | paused (duration : Nat) (role : Role) (node : Node)
  /-- It has finished. -/
  | finished (found : Findings) (node : Node)

namespace Role

/-- A party that is about to take a turn ends its stretch this way, with the network as it is
then. -/
inductive Stint (s : Settings) : Role → Node → Network → Close → Network → Prop where
  /-- A turn calls for another one. -/
  | again {role role' : Role} {n n' : Node} {network network' network'' : Network} {close : Close}
      (hturn : toPause (Network.surroundings role.party.station) (role.turn s n) network =
        (.done (.ok (.again role'), n'), network'))
      (hparty : role'.party = role.party) (rest : Stint s role' n' network' close network'') :
      Stint s role n network close network''
  /-- A turn pauses. -/
  | paused {role role' : Role} {n n' : Node} {network network' : Network} {duration : Nat}
      (hturn : toPause (Network.surroundings role.party.station) (role.turn s n) network =
        (.paused duration (.done (.ok (.again role'), n')), network'))
      (hparty : role'.party = role.party) :
      Stint s role n network (.paused duration role' n') network'
  /-- A turn is the last. -/
  | finished {role : Role} {n n' : Node} {network network' : Network} {found : Findings}
      (hturn : toPause (Network.surroundings role.party.station) (role.turn s n) network =
        (.done (.ok (.finish found), n'), network')) :
      Stint s role n network (.finished found n') network'

/-- The party's stretch ends with the network and itself as `Q` says. -/
def Comes (s : Settings) (role : Role) (network : Network) (n : Node)
    (Q : Network → Close → Prop) : Prop :=
  ∃ close network', Stint s role n network close network' ∧ Q network' close

/-- What is left to show once a turn has ended or paused. -/
def Resumes (s : Settings) (party : Party) (Q : Network → Close → Prop) :
    Network → Progress (Except Link.Error (Turn Role Findings) × Node) → Prop
  | network, .done (.ok (.again role), n) => role.party = party ∧ role.Comes s network n Q
  | network, .done (.ok (.finish found), n) => Q network (.finished found n)
  | _, .done (.error _, _) => False
  | network, .paused duration rest => ∃ role n, rest = .done (.ok (.again role), n) ∧
      role.party = party ∧ Q network (.paused duration role n)

/-- **A stretch comes to what its first turn leads to.** -/
theorem Comes.turn {role : Role} {network : Network} {Q : Network → Close → Prop}
    (h : (role.turn s).Gets (Network.surroundings role.party.station) network n
      (Resumes s role.party Q)) : role.Comes s network n Q := by
  unfold Action.Gets at h
  rcases hturn : toPause (Network.surroundings role.party.station) (role.turn s n) network with
    ⟨⟨_ | turn, n'⟩ | ⟨duration, rest⟩, network'⟩
  · rw [hturn] at h
    exact h.elim
  · rw [hturn] at h
    cases turn with
    | again role' =>
      obtain ⟨hparty, close, network'', hrest, hQ⟩ := h
      exact ⟨close, network'', .again hturn hparty hrest, hQ⟩
    | finish found => exact ⟨_, _, .finished hturn, h⟩
  · rw [hturn] at h
    obtain ⟨role', n'', rfl, hparty, hQ⟩ := h
    exact ⟨_, _, .paused hturn hparty, hQ⟩

/-- What is left to show once a turn of one sort of party has ended or paused. -/
def Leads {τ : Type} (s : Settings) (wrap : τ → Role) (Q : Network → Close → Prop) :
    Network → Progress (Except Link.Error (Turn τ Findings) × Node) → Prop
  | network, .done (.ok (.again x), n) => (wrap x).Comes s network n Q
  | network, .done (.ok (.finish found), n) => Q network (.finished found n)
  | _, .done (.error _, _) => False
  | network, .paused duration rest => ∃ x n, rest = .done (.ok (.again x), n) ∧
      Q network (.paused duration (wrap x) n)

/-- **A stretch of one sort of party** comes to what its own turn leads to. -/
theorem Comes.of_leads {τ : Type} {role : Role} {wrap : τ → Role}
    {turn : Action (Turn τ Findings)} {network : Network} {Q : Network → Close → Prop}
    (hturn : role.turn s = turn >>= fun t => pure (t.map wrap id))
    (hparty : ∀ x, (wrap x).party = role.party)
    (h : turn.Gets (Network.surroundings role.party.station) network n (Leads s wrap Q)) :
    role.Comes s network n Q := by
  refine Comes.turn ?_
  rw [hturn, Action.gets_bind]
  refine h.imp ?_
  rintro network' (⟨_ | x | found, n'⟩ | ⟨duration, rest⟩) hleads
  · exact hleads.elim
  · exact ⟨hparty x, hleads⟩
  · exact hleads
  · obtain ⟨x, n', rfl, hQ⟩ := hleads
    exact ⟨wrap x, n', rfl, hparty x, hQ⟩

end Role

/-! ## Whoever wakes -/

/-- A party that pauses is about to take a turn. -/
structure Sleeper.Awaits (s : Settings) (a : Sleeper) (role : Role) (n : Node) : Prop where
  /-- It is that party. -/
  party : a.party = role.party
  /-- It has begun the turn, or only has to be called for it. -/
  rest : a.rest = role.turn s n ∨ a.rest = .done (.ok (.again role), n)

/-- A party that is about to take a turn when it wakes. -/
def Role.asleep (role : Role) (n : Node) (wake : Nat) : Sleeper :=
  ⟨role.party, wake, .done (.ok (.again role), n)⟩

theorem Role.asleep_awaits (role : Role) (n : Node) (wake : Nat) :
    (role.asleep n wake).Awaits s role n :=
  ⟨rfl, .inr rfl⟩

theorem queued_awaits (role : Role) (n : Node) : (queued s role n).Awaits s role n :=
  ⟨rfl, .inl rfl⟩

namespace State

variable {st : State}

/-- The state when a party's stretch has ended and nobody else has woken yet; the others pause. -/
def settle (st : State) (others : List Sleeper) (party : Party) (network : Network) :
    Close → State
  | .paused duration role n =>
    { st with network, queue := others ++ [role.asleep n (network.now + duration)] }
  | .finished found n =>
    { st with
      network := leave party network
      queue := others
      finished := st.finished ++ [⟨party, .ok found, n⟩] }

/-- Who acts makes no difference to who wakes. -/
theorem wakeNext_congr {st' : State} (hnetwork : st'.network = st.network)
    (hqueue : st'.queue = st.queue) (hfinished : st'.finished = st.finished) :
    st'.wakeNext = st.wakeNext := by
  obtain ⟨network, acting, queue, finished⟩ := st
  obtain ⟨network', acting', queue', finished'⟩ := st'
  obtain rfl := hnetwork
  obtain rfl := hqueue
  obtain rfl := hfinished
  simp only [wakeNext]

/-- **The steps of a stretch** lead to where somebody else wakes. -/
theorem stint_steps {role : Role} {n : Node} {network network' : Network} {close : Close}
    (h : Role.Stint s role n network close network') (hnetwork : st.network = network)
    (hacting : st.acting = some (role.party, role.turn s n)) :
    ∃ k, (State.step s)^[k] st = (st.settle st.queue role.party network' close).wakeNext := by
  induction h generalizing st with
  | @again role role' n n' network network' network'' close hturn hparty rest ih =>
    subst hnetwork
    have hstep : st.step s =
        { st with network := network', acting := some (role'.party, role'.turn s n') } := by
      simp only [State.step, hacting, hturn, hparty]
    have hnetwork' : (st.step s).network = network' := by rw [hstep]
    have hacting' : (st.step s).acting = some (role'.party, role'.turn s n') := by rw [hstep]
    obtain ⟨k, hk⟩ := ih hnetwork' hacting'
    refine ⟨k + 1, ?_⟩
    rw [Function.iterate_succ_apply, hk, hstep, hparty]
    cases close <;> exact wakeNext_congr rfl rfl rfl
  | @paused role role' n n' network network' duration hturn hparty =>
    subst hnetwork
    refine ⟨1, ?_⟩
    simp only [Function.iterate_one, State.step, hacting, hturn]
    exact wakeNext_congr rfl (by rw [settle, Role.asleep, hparty]) rfl
  | @finished role n n' network network' found hturn =>
    subst hnetwork
    refine ⟨1, ?_⟩
    simp only [Function.iterate_one, State.step, hacting, hturn]
    exact wakeNext_congr rfl rfl rfl

/-- **Whoever is to wake first does**, and the simulation comes to what that stretch leads to. -/
theorem comes {a : Sleeper} {others : List Sleeper} {role : Role} {n : Node}
    {Q : Network → Close → Prop} (hnext : nextUp st.queue = some (a, others))
    (ha : a.Awaits s role n) (h : role.Comes s { st.network with now := a.wake } n Q) :
    ∃ close network', Q network' close ∧
      ∃ k, (State.step s)^[k] st.wakeNext =
        (st.settle others role.party network' close).wakeNext := by
  obtain ⟨close, network', hstint, hQ⟩ := h
  refine ⟨close, network', hQ, ?_⟩
  obtain ⟨hparty, hrest⟩ := ha
  have hwake : st.wakeNext = { st with
      network := { st.network with now := a.wake }
      acting := some (role.party, a.rest)
      queue := others } := by
    simp only [wakeNext, hnext, hparty]
  have hsame : ∀ acting, (State.settle { st with
      network := { st.network with now := a.wake }, acting, queue := others } others role.party
        network' close).wakeNext = (st.settle others role.party network' close).wakeNext := by
    intro acting
    cases close <;> exact wakeNext_congr rfl rfl rfl
  rcases hrest with hrest | hrest
  · have hnetwork : st.wakeNext.network = { st.network with now := a.wake } := by rw [hwake]
    have hacting : st.wakeNext.acting = some (role.party, role.turn s n) := by rw [hwake, hrest]
    obtain ⟨k, hk⟩ := stint_steps hstint hnetwork hacting
    refine ⟨k, ?_⟩
    rw [hk, hwake]
    exact hsame _
  · have hcall : st.wakeNext.step s = { st with
        network := { st.network with now := a.wake }
        acting := some (role.party, role.turn s n)
        queue := others } := by
      rw [hwake, hrest]
      rfl
    have hnetwork : (st.wakeNext.step s).network = { st.network with now := a.wake } := by
      rw [hcall]
    have hacting : (st.wakeNext.step s).acting = some (role.party, role.turn s n) := by rw [hcall]
    obtain ⟨k, hk⟩ := stint_steps hstint hnetwork hacting
    refine ⟨k + 1, ?_⟩
    rw [Function.iterate_succ_apply, hk, hcall]
    exact hsame _

/-! ## To the end -/

/-- A simulation is over once nobody acts after some steps. -/
theorem run_of_iterate (k : Nat) (h : ((State.step s)^[k] st).acting = none) :
    st.run s k = some ((State.step s)^[k] st) := by
  induction k generalizing st with
  | zero =>
    have hnone : st.acting = none := h
    simp [State.run, hnone]
  | succ k ih =>
    unfold State.run
    cases hacting : st.acting with
    | none =>
      have hstuck : ∀ k, (State.step s)^[k] st = st := fun k =>
        Function.iterate_fixed (by simp [State.step, hacting]) k
      simp [hstuck]
    | some acts =>
      simp only [Option.isNone_some, Bool.false_eq_true, if_false, Function.iterate_succ_apply]
      exact ih (by rwa [Function.iterate_succ_apply] at h)

/-- **A simulation ends if whoever wakes keeps an invariant and leaves less to do**, and the
invariant holds when nobody pauses any more. -/
theorem run_of_progress {I : State → Prop} {left : State → Nat}
    (hI : ∀ st, I st → st.queue ≠ [] → ∃ st', I st' ∧ left st' < left st ∧
      ∃ k, (State.step s)^[k] st.wakeNext = st'.wakeNext) (h : I st) :
    ∃ p st', st.wakeNext.run s p = some { st' with acting := none } ∧ I st' ∧ st'.queue = [] := by
  suffices hsteps : ∃ k st', (State.step s)^[k] st.wakeNext = st'.wakeNext ∧ I st' ∧
      st'.queue = [] by
    obtain ⟨k, st', hk, hst', hqueue⟩ := hsteps
    have hover : st'.wakeNext = { st' with acting := none } := by
      simp only [wakeNext, hqueue, nextUp]
    refine ⟨k, st', ?_, hst', hqueue⟩
    rw [run_of_iterate k (by rw [hk, hover]), hk, hover]
  -- by induction on what is left to do
  induction hm : left st using Nat.strongRecOn generalizing st with
  | ind m ih =>
    by_cases hqueue : st.queue = []
    · exact ⟨0, st, rfl, h, hqueue⟩
    · obtain ⟨st₁, h₁, hless, k, hk⟩ := hI st h hqueue
      obtain ⟨k', st', hk', hst'⟩ := ih (left st₁) (hm ▸ hless) h₁ rfl
      refine ⟨k' + k, st', ?_, hst'⟩
      rw [Function.iterate_add_apply, hk, hk']

end State
end Simulation
end PacketRadio
