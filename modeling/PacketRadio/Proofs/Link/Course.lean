/-
# How actions and operations go in given surroundings

rflink specification, §4.4: the operations of the manager.

Where the answers are known, so is the course of an action: it ends in one
way, and what holds of that end is found by going through the action from its
first part to its last.  An operation ends if one of its turns does, and every
turn before it leads to the next.

Main statements: `Action.yields_bind`, `Activity.Comes.turn`, `Send.comes`, and
`Operation.enough_patience` (some patience is enough, and more changes nothing).
-/

import PacketRadio.Link.Operation

namespace PacketRadio
namespace Link

variable {σ : Type} {env : Surroundings σ} {s : σ} {n : Node}

namespace Action

variable {α β : Type}

/-- The action ends with the surroundings, the node and its result as `Q` says. -/
def Yields (env : Surroundings σ) (x : Action α) (s : σ) (n : Node)
    (Q : σ → Node → Except Error α → Prop) : Prop :=
  Q ((x n).run env s).2 ((x n).run env s).1.2 ((x n).run env s).1.1

/-- What is left to show once the first part of an action has ended. -/
def Continues (env : Surroundings σ) (f : α → Action β) (Q : σ → Node → Except Error β → Prop) :
    σ → Node → Except Error α → Prop
  | s, n, .ok a => (f a).Yields env s n Q
  | s, n, .error e => Q s n (.error e)

variable {Q : σ → Node → Except Error α → Prop} {Q' : σ → Node → Except Error β → Prop}

@[simp] theorem continues_ok (f : α → Action β) (a : α) :
    Continues env f Q' s n (.ok a) ↔ (f a).Yields env s n Q' := Iff.rfl

/-- **Less may be said of the end.** -/
theorem Yields.imp {x : Action α} {P : σ → Node → Except Error α → Prop} (h : x.Yields env s n P)
    (hQ : ∀ s n r, P s n r → Q s n r) : x.Yields env s n Q :=
  hQ _ _ _ h

/-- **One action after another.** -/
@[simp] theorem yields_bind (x : Action α) (f : α → Action β) :
    (x >>= f).Yields env s n Q' ↔ x.Yields env s n (Continues env f Q') := by
  have hbind : ((x >>= f) n).run env s = _ := Task.run_bind env (x n) _ s
  unfold Yields
  rw [hbind]
  rcases ((x n).run env s) with ⟨⟨_ | _, _⟩, _⟩ <;> rfl

@[simp] theorem yields_pure (a : α) :
    (pure a : Action α).Yields env s n Q ↔ Q s n (.ok a) := Iff.rfl

@[simp] theorem yields_node {Q : σ → Node → Except Error Node → Prop} :
    node.Yields env s n Q ↔ Q s n (.ok n) := Iff.rfl

@[simp] theorem yields_modify (f : Node → Node) {Q : σ → Node → Except Error Unit → Prop} :
    (modify f).Yields env s n Q ↔ Q s (f n) (.ok ()) := Iff.rfl

@[simp] theorem yields_count (f : Telemetry → Telemetry)
    {Q : σ → Node → Except Error Unit → Prop} :
    (count f).Yields env s n Q ↔ Q s (n.count f) (.ok ()) := Iff.rfl

/-- **An action whose failure is looked at instead of passed on.** -/
@[simp] theorem yields_attempt (x : Action α)
    {Q : σ → Node → Except Error (Except Error α) → Prop} :
    (attempt x).Yields env s n Q ↔ x.Yields env s n fun s n r => Q s n (.ok r) := by
  have hattempt : ((attempt x) n).run env s = _ := Task.run_bind env (x n) _ s
  unfold Yields
  rw [hattempt]
  rfl

/-- **A request is answered by the surroundings.** -/
theorem yields_ask {r : Request} {a : r.Answer} {s' : σ} (h : env.answer r s = (a, s'))
    {Q : σ → Node → Except Error r.Answer → Prop} :
    (ask r).Yields env s n Q ↔ Q s' n (.ok a) := by
  simp [Yields, ask, h]

/-- **So is a call to the radio.** -/
theorem yields_radio {c : Radio.Call} {a : Except Radio.Failure c.Result} {s' : σ}
    (h : env.answer (.radio c) s = (a, s')) {Q : σ → Node → Except Error c.Result → Prop} :
    (radio c).Yields env s n Q ↔ Q s' n (a.mapError .radio) := by
  simp [Yields, radio, h]

end Action

namespace Activity

variable {a a' : Activity} {Q : σ → Except Error Reply → Prop}

/-- The operation comes to an end, with the surroundings and its result as `Q` says. -/
def Comes (env : Surroundings σ) (a : Activity) (s : σ) (n : Node)
    (Q : σ → Except Error Reply → Prop) : Prop :=
  ∃ patience result n' s', a.run env patience n s = (some result, n', s') ∧ Q s' result

/-- What is left to show once a turn has ended. -/
def Resumes (env : Surroundings σ) (Q : σ → Except Error Reply → Prop) :
    σ → Node → Except Error (Turn Activity Reply) → Prop
  | s, n, .ok (.again a) => a.Comes env s n Q
  | s, _, .ok (.finish reply) => Q s (.ok reply)
  | s, _, .error e => Q s (.error e)

/-- **An operation comes to the end that its turn leads to.** -/
theorem Comes.turn (h : a.turn.Yields env s n (Resumes env Q)) : a.Comes env s n Q := by
  unfold Action.Yields at h
  rcases hrun : (a.turn n).run env s with ⟨⟨e | turn, n'⟩, s'⟩
  · rw [hrun] at h
    exact ⟨1, .error e, n', s', by simp [Activity.run, hrun], h⟩
  · rw [hrun] at h
    cases turn with
    | again a' =>
      obtain ⟨patience, result, n'', s'', hrest, hQ⟩ := h
      exact ⟨patience + 1, result, n'', s'', by simp [Activity.run, hrun, hrest], hQ⟩
    | finish reply => exact ⟨1, .ok reply, n', s', by simp [Activity.run, hrun], h⟩

end Activity

namespace Send

variable {send : Send} {Q : σ → Except Error Reply → Prop}

/-- What is left to show once a step of a reliable send has ended. -/
def Resumes (env : Surroundings σ) (Q : σ → Except Error Reply → Prop) :
    σ → Node → Except Error (Turn Send SendOutcome) → Prop
  | s, n, .ok (.again send) => (Activity.sending send).Comes env s n Q
  | s, _, .ok (.finish outcome) => Q s (.ok (.outcome outcome))
  | s, _, .error e => Q s (.error e)

/-- **A reliable send comes to the end that its step leads to.** -/
theorem comes (h : send.step.Yields env s n (Resumes env Q)) :
    (Activity.sending send).Comes env s n Q := by
  refine Activity.Comes.turn ?_
  simp only [Activity.turn, Send.turn, Action.yields_bind, Action.yields_attempt]
  refine h.imp ?_
  rintro s n (e | send | outcome) hres
  · exact hres
  · exact hres
  · cases outcome <;> exact hres

end Send

namespace Operation

variable {op : Operation} {Q : σ → Except Error Reply → Prop}

/-- **An operation that comes to an end does so with enough patience, and with any more.** -/
theorem enough_patience (h : op.start.Yields env s n (Activity.Resumes env Q)) :
    ∃ enough, ∀ patience, enough ≤ patience →
      ∃ result n' s', op.run env patience n s = (some result, n', s') ∧ Q s' result := by
  unfold Action.Yields at h
  rcases hrun : (op.start n).run env s with ⟨⟨e | turn, n'⟩, s'⟩
  · rw [hrun] at h
    exact ⟨0, fun patience _ => ⟨.error e, n', s', by simp [Operation.run, hrun], h⟩⟩
  · rw [hrun] at h
    cases turn with
    | again a =>
      obtain ⟨enough, result, n'', s'', hrest, hQ⟩ := h
      refine ⟨enough, fun patience hle => ⟨result, n'', s'', ?_, hQ⟩⟩
      simp [Operation.run, hrun, Activity.run_mono env hle hrest]
    | finish reply =>
      exact ⟨0, fun patience _ => ⟨.ok reply, n', s', by simp [Operation.run, hrun], h⟩⟩

end Operation
end Link
end PacketRadio
