/-
# Parties that take turns

rflink specification, §10: `simulate` without fault injection.

Whatever a simulation is about, its parties only ever move between three
places: one may be acting, others pause in the queue, and the rest have
finished.

| step | what it moves |
| --- | --- |
| a turn that calls for another one | nothing |
| a pause | who acts into the queue, and who is to wake first out of it |
| an end | who acts to the finished, and who is to wake first out of the queue |

So nobody is lost, and once nobody acts everybody has finished.  What the turns
of each party keep to holds of all that is left to do, and of the ends.

Main statements: `Upholds.step`, `parties_step`, and `run_finished` for whole
simulations.
-/

import PacketRadio.Simulation.Report

namespace PacketRadio
namespace Simulation

open Link (Exchange Node Surroundings Turn)

/-! ## Who is to wake first -/

theorem nextUp_eq_none_iff (q : List Sleeper) : nextUp q = none ↔ q = [] := by
  cases q with
  | nil => simp [nextUp]
  | cons a rest =>
    simp only [nextUp, reduceCtorEq, iff_false]
    split
    · exact nofun
    · split <;> exact nofun

/-- **Who is to wake first is one of those who pause**, and the others still do. -/
theorem nextUp_perm {q others : List Sleeper} {a : Sleeper} (h : nextUp q = some (a, others)) :
    q.Perm (a :: others) := by
  induction q generalizing a others with
  | nil => cases h
  | cons b rest ih =>
    simp only [nextUp] at h
    split at h
    · rename_i hnone
      obtain ⟨rfl, rfl⟩ := Prod.mk.inj (Option.some.inj h)
      rw [(nextUp_eq_none_iff rest).1 hnone]
    · rename_i c others' hsome
      split at h
      · obtain ⟨rfl, rfl⟩ := Prod.mk.inj (Option.some.inj h)
        exact ((ih hsome).cons b).trans (.swap c b others')
      · obtain ⟨rfl, rfl⟩ := Prod.mk.inj (Option.some.inj h)
        exact .refl _

/-- **Nobody is to wake before them.** -/
theorem nextUp_wake_le {q others : List Sleeper} {a : Sleeper} (h : nextUp q = some (a, others)) :
    ∀ b ∈ q, a.wake ≤ b.wake := by
  induction q generalizing a others with
  | nil => cases h
  | cons b rest ih =>
    simp only [nextUp] at h
    split at h
    · rename_i hnone
      obtain ⟨rfl, rfl⟩ := Prod.mk.inj (Option.some.inj h)
      rw [(nextUp_eq_none_iff rest).1 hnone]
      simp
    · rename_i c others' hsome
      have hrest := ih hsome
      split at h
      · rename_i hlt
        obtain ⟨rfl, rfl⟩ := Prod.mk.inj (Option.some.inj h)
        intro d hd
        rcases List.mem_cons.1 hd with rfl | hd
        · exact Nat.le_of_lt hlt
        · exact hrest d hd
      · rename_i hlt
        obtain ⟨rfl, rfl⟩ := Prod.mk.inj (Option.some.inj h)
        intro d hd
        rcases List.mem_cons.1 hd with rfl | hd
        · exact Nat.le_refl _
        · exact Nat.le_trans (Nat.le_of_not_lt hlt) (hrest d hd)

/-! ## What a tree of requests comes to -/

/-- What is left to do. -/
def Progress.rest {α : Type} : Progress α → Link.Task α
  | .done a => .done a
  | .paused _ rest => rest

/-- **A tree comes to its first pause along one of its paths.** -/
theorem toPause_path {σ α : Type} (env : Surroundings σ) (t : Link.Task α) (s : σ) :
    ∃ es, Link.Task.Path t es (toPause env t s).1.rest := by
  induction t generalizing s with
  | done a => exact ⟨[], .here _⟩
  | ask r next ih =>
    have hanswered : ∀ a s', ∃ es,
        Link.Task.Path (.ask r next) es (toPause env (next a) s').1.rest :=
      fun a s' => by
        obtain ⟨es, hpath⟩ := ih a s'
        exact ⟨⟨r, a⟩ :: es, .step hpath⟩
    cases r with
    | sleep duration =>
      simp only [toPause]
      split
      · exact hanswered () s
      · exact ⟨[⟨.sleep duration, ()⟩], .step (.here _)⟩
    | _ => exact hanswered _ _

/-- The result and the node at the end are as `Q` says, whatever is answered. -/
def Remainder.Ends (rest : Remainder) (Q : Except Link.Error (Turn Role Findings) → Node → Prop) :
    Prop :=
  ∀ es r n, Link.Task.Path rest es (.done (r, n)) → Q r n

/-- What is said of the ends of a tree is said of those of what is left of it. -/
theorem Remainder.Ends.path {rest rest' : Remainder} {es : List Exchange}
    {Q : Except Link.Error (Turn Role Findings) → Node → Prop} (h : rest.Ends Q)
    (hpath : Link.Task.Path rest es rest') : rest'.Ends Q :=
  fun es' r n hpath' => h (es ++ es') r n (hpath.trans hpath')

/-! ## All parties -/

namespace State

/-- The turns and ends of each party are as `Q` says. -/
structure Upholds (Q : Party → Except Link.Error (Turn Role Findings) → Node → Prop) (st : State) :
    Prop where
  /-- Those of who acts. -/
  acting : ∀ p rest, st.acting = some (p, rest) → Remainder.Ends rest (Q p)
  /-- Those of who pauses. -/
  queue : ∀ a ∈ st.queue, a.rest.Ends (Q a.party)
  /-- Those of who has finished. -/
  finished : ∀ f ∈ st.finished, Q f.party (f.result.map .finish) f.node

/-- The parties, wherever they are. -/
def parties (st : State) : List Party :=
  (st.acting.map Prod.fst).toList ++ (st.queue.map (·.party) ++ st.finished.map (·.party))

/-- Somebody acts as long as somebody pauses. -/
def Awake (st : State) : Prop :=
  st.acting = none → st.queue = []

variable {s : Settings} {st : State}
  {Q : Party → Except Link.Error (Turn Role Findings) → Node → Prop}

/-! ## Somebody wakes -/

theorem awake_wakeNext (st : State) : st.wakeNext.Awake := by
  unfold wakeNext
  cases hnext : nextUp st.queue with
  | none => exact fun _ => (nextUp_eq_none_iff _).1 hnext
  | some woken => exact nofun

/-- **Nobody is lost when somebody wakes.** -/
theorem parties_wakeNext (st : State) :
    st.wakeNext.parties.Perm (st.queue.map (·.party) ++ st.finished.map (·.party)) := by
  unfold wakeNext
  cases hnext : nextUp st.queue with
  | none =>
    rw [(nextUp_eq_none_iff _).1 hnext]
    simp [parties]
  | some woken =>
    obtain ⟨a, others⟩ := woken
    exact (((nextUp_perm hnext).map (·.party)).append_right _).symm

theorem Upholds.wakeNext (hqueue : ∀ a ∈ st.queue, a.rest.Ends (Q a.party))
    (hfinished : ∀ f ∈ st.finished, Q f.party (f.result.map .finish) f.node) :
    st.wakeNext.Upholds Q := by
  unfold State.wakeNext
  cases hnext : nextUp st.queue with
  | none => exact ⟨nofun, hqueue, hfinished⟩
  | some woken =>
    obtain ⟨a, others⟩ := woken
    have hmem : ∀ b, b ∈ st.queue ↔ b ∈ a :: others := fun b => (nextUp_perm hnext).mem_iff
    refine ⟨?_, fun b hb => hqueue b ((hmem b).2 (List.mem_cons_of_mem a hb)), hfinished⟩
    intro p rest hacting
    obtain ⟨rfl, rfl⟩ := Prod.mk.inj (Option.some.inj hacting)
    exact hqueue a ((hmem a).2 List.mem_cons_self)

/-! ## One step -/

/-- **What the turns keep to holds after each step.** -/
theorem Upholds.step (h : st.Upholds Q)
    (hturn : ∀ p (role : Role) n, Q p (.ok (.again role)) n →
      Remainder.Ends (role.turn s n) (Q p)) :
    (st.step s).Upholds Q := by
  unfold State.step
  cases hacting : st.acting with
  | none => exact ⟨fun p rest hrest => h.acting p rest hrest, h.queue, h.finished⟩
  | some acts =>
    obtain ⟨p, rest⟩ := acts
    have hends := h.acting p rest hacting
    obtain ⟨es, hpath⟩ := toPause_path (Network.surroundings p.station) rest st.network
    dsimp only
    generalize toPause (Network.surroundings p.station) rest st.network = progress at hpath ⊢
    obtain ⟨progress, network⟩ := progress
    cases progress with
    | paused duration rest' =>
      refine Upholds.wakeNext (fun a ha => ?_) h.finished
      rcases List.mem_append.1 ha with ha | ha
      · exact h.queue a ha
      · obtain rfl := List.mem_singleton.1 ha
        exact hends.path hpath
    | done result =>
      obtain ⟨result, n⟩ := result
      have hresult := hends es result n hpath
      have hfinish : ∀ found : Except Link.Error Findings, result = found.map .finish →
          (State.finish { st with network } ⟨p, found, n⟩).Upholds Q := by
        rintro found rfl
        refine Upholds.wakeNext h.queue fun f hf => ?_
        rcases List.mem_append.1 hf with hf | hf
        · exact h.finished f hf
        · obtain rfl := List.mem_singleton.1 hf
          exact hresult
      match result with
      | .ok (.again role) =>
        refine ⟨fun p' rest' hrest' => ?_, h.queue, h.finished⟩
        obtain ⟨rfl, rfl⟩ := Prod.mk.inj (Option.some.inj hrest')
        exact hturn p role n hresult
      | .ok (.finish found) => exact hfinish (.ok found) rfl
      | .error e => exact hfinish (.error e) rfl

/-- **Nobody is lost in a step.** -/
theorem parties_step (s : Settings) (st : State) : (st.step s).parties.Perm st.parties := by
  unfold State.step
  cases hacting : st.acting with
  | none => simp [parties]
  | some acts =>
    obtain ⟨p, rest⟩ := acts
    dsimp only
    generalize toPause (Network.surroundings p.station) rest st.network = progress
    obtain ⟨progress, network⟩ := progress
    have hpause : ∀ a : Sleeper, a.party = p →
        (State.pause { st with network } a).parties.Perm st.parties := by
      rintro a rfl
      refine (parties_wakeNext _).trans ?_
      simp only [parties, hacting, List.map_append, List.append_assoc]
      exact List.perm_middle
    have hfinish : ∀ f : Finisher, f.party = p →
        (State.finish { st with network } f).parties.Perm st.parties := by
      rintro f rfl
      refine (parties_wakeNext _).trans ?_
      simp only [parties, hacting, List.map_append, ← List.append_assoc]
      exact List.perm_append_comm
    match progress with
    | .paused duration rest' => exact hpause _ rfl
    | .done (.ok (.again role), n) => simp [parties, hacting]
    | .done (.ok (.finish found), n) => exact hfinish _ rfl
    | .done (.error e, n) => exact hfinish _ rfl

theorem Awake.step (h : st.Awake) : (st.step s).Awake := by
  unfold State.step
  cases hacting : st.acting with
  | none => exact fun _ => h hacting
  | some acts =>
    obtain ⟨p, rest⟩ := acts
    dsimp only
    generalize toPause (Network.surroundings p.station) rest st.network = progress
    obtain ⟨progress, network⟩ := progress
    match progress with
    | .paused duration rest' => exact awake_wakeNext _
    | .done (.ok (.again role), n) => exact nofun
    | .done (.ok (.finish found), n) => exact awake_wakeNext _
    | .done (.error e, n) => exact awake_wakeNext _

/-! ## Whole simulations -/

/-- **What every step keeps holds at the end**, when nobody acts any more. -/
theorem run_keeps {I : State → Prop} (hI : ∀ st, I st → I (st.step s)) {p : Nat} {st' : State}
    (hrun : st.run s p = some st') (h : I st) : I st' ∧ st'.acting = none := by
  have hover : ∀ st₁ : State, st₁.acting.isNone = true → some st₁ = some st' → I st₁ →
      I st' ∧ st'.acting = none := by
    rintro st₁ hnone hst₁ h₁
    obtain rfl := Option.some.inj hst₁
    exact ⟨h₁, Option.isNone_iff_eq_none.1 hnone⟩
  induction p generalizing st with
  | zero =>
    unfold State.run at hrun
    split at hrun
    · exact hover st ‹_› hrun h
    · cases hrun
  | succ p ih =>
    unfold State.run at hrun
    split at hrun
    · exact hover st ‹_› hrun h
    · exact ih hrun (hI st h)

/-- **In the end everybody has finished**, and as their turns say. -/
theorem run_finished {p : Nat} {st' : State} (hrun : st.run s p = some st') (hawake : st.Awake)
    (h : st.Upholds Q)
    (hturn : ∀ p (role : Role) n, Q p (.ok (.again role)) n →
      Remainder.Ends (role.turn s n) (Q p)) :
    (st'.finished.map (·.party)).Perm st.parties ∧
      ∀ f ∈ st'.finished, Q f.party (f.result.map .finish) f.node := by
  obtain ⟨⟨hawake', hupholds, hparties⟩, hnone⟩ :=
    run_keeps (I := fun st₁ => st₁.Awake ∧ st₁.Upholds Q ∧ st₁.parties.Perm st.parties)
      (fun st₁ ⟨hawake₁, hupholds₁, hparties₁⟩ =>
        ⟨hawake₁.step, hupholds₁.step hturn, (parties_step s st₁).trans hparties₁⟩)
      hrun ⟨hawake, h, .refl _⟩
  rw [parties, hnone, hawake' hnone] at hparties
  exact ⟨hparties, hupholds.finished⟩

end State
end Simulation
end PacketRadio
