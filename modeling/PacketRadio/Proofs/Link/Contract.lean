/-
# What a node may ask for, whatever it is answered

rflink specification, §4.2: the core reaches the radio through the capability
alone.

A contract keeps a record of the exchanges so far and says which requests are
permitted by it.  A tree of requests keeps a contract if every request it can
come to is permitted by the record at that point, and every result it can come
to is as wanted.  No answer is ruled out, so what is shown of a tree this way
holds on any radio, with any clock, and whatever the other nodes do between
two of its requests.

The rules follow the ways in which actions are put together, and turn a goal
about an action into one about its parts.

Main statements: `Action.Keeps.bind`, `Action.keeps_attempt`, and
`Task.Keeps.path`, by which what was shown of a tree holds wherever it leads.
-/

import PacketRadio.Link.Action

namespace PacketRadio
namespace Link

/-- What is recorded of a node's exchanges, and what it may ask for. -/
structure Contract (γ : Type) where
  /-- The record after one more exchange. -/
  note : γ → Exchange → γ
  /-- The requests that the record permits. -/
  permits : γ → Request → Prop

variable {γ : Type} {C : Contract γ} {g : γ}

namespace Task

variable {α β : Type}

/-- Every request is permitted when it is made, and the result is as `Q` says. -/
def Keeps (C : Contract γ) : Task α → γ → (γ → α → Prop) → Prop
  | .done a, g, Q => Q g a
  | .ask r next, g, Q => C.permits g r ∧ ∀ a, (next a).Keeps C (C.note g ⟨r, a⟩) Q

/-- **Less may be said of the result.** -/
theorem Keeps.imp {t : Task α} {Q Q' : γ → α → Prop} (h : t.Keeps C g Q)
    (hQ : ∀ g a, Q g a → Q' g a) : t.Keeps C g Q' := by
  induction t generalizing g with
  | done a => exact hQ g a h
  | ask r next ih => exact ⟨h.1, fun a => ih a (h.2 a)⟩

/-- **A tree that goes on keeps the contract if both parts do.** -/
theorem keeps_bind (t : Task α) (f : α → Task β) (Q : γ → β → Prop) :
    (t.bind f).Keeps C g Q ↔ t.Keeps C g fun g a => (f a).Keeps C g Q := by
  induction t generalizing g with
  | done a => rfl
  | ask r next ih => exact and_congr_right fun _ => forall_congr' fun a => ih a

/-- **What is wanted of a result holds at the end of every path**, with what was exchanged along it
on record. -/
theorem Keeps.path {t : Task α} {Q : γ → α → Prop} {es : List Exchange} {a : α}
    (h : t.Keeps C g Q) (hp : Path t es (.done a)) : Q (es.foldl C.note g) a := by
  generalize hend : Task.done a = t' at hp
  induction hp generalizing g with
  | here t =>
    subst hend
    exact h
  | step rest ih => exact ih (h.2 _) hend

/-- **What is wanted of a result holds of the result of every run.** -/
theorem Keeps.run {σ : Type} {t : Task α} {Q : γ → α → Prop} (h : t.Keeps C g Q)
    (env : Surroundings σ) (s : σ) : ∃ g', Q g' (t.run env s).1 := by
  induction t generalizing g s with
  | done a => exact ⟨g, h⟩
  | ask r next ih => exact ih _ (h.2 _) _

/-- **What the record says of the surroundings holds at the end**, if every permitted request keeps
it so. -/
theorem Keeps.run_with {σ : Type} {I : γ → σ → Prop} {t : Task α} {Q : γ → α → Prop}
    (h : t.Keeps C g Q) (env : Surroundings σ)
    (hI : ∀ g s r, C.permits g r → I g s → I (C.note g ⟨r, (env.answer r s).1⟩) (env.answer r s).2)
    {s : σ} (hs : I g s) : ∃ g', I g' (t.run env s).2 ∧ Q g' (t.run env s).1 := by
  induction t generalizing g s with
  | done a => exact ⟨g, hs, h⟩
  | ask r next ih => exact ih _ (h.2 _) (hI g s r h.1 hs)

end Task

namespace Action

variable {α β : Type} {n : Node}

/-- An action keeps the contract, and leaves the record, the node and its result as `Q` says. -/
def Keeps (C : Contract γ) (x : Action α) (g : γ) (n : Node)
    (Q : γ → Node → Except Error α → Prop) : Prop :=
  (x n).Keeps C g fun g p => Q g p.2 p.1

/-- What is left to show once the first part of an action has ended. -/
def Onward (C : Contract γ) (f : α → Action β) (Q : γ → Node → Except Error β → Prop) :
    γ → Node → Except Error α → Prop
  | g, n, .ok a => (f a).Keeps C g n Q
  | g, n, .error e => Q g n (.error e)

variable {Q : γ → Node → Except Error α → Prop} {Q' : γ → Node → Except Error β → Prop}

@[simp] theorem onward_ok (f : α → Action β) (a : α) :
    Onward C f Q' g n (.ok a) ↔ (f a).Keeps C g n Q' := Iff.rfl

/-- **Less may be said of the outcome.** -/
theorem Keeps.imp {x : Action α} {P : γ → Node → Except Error α → Prop} (h : x.Keeps C g n P)
    (hQ : ∀ g n r, P g n r → Q g n r) : x.Keeps C g n Q :=
  Task.Keeps.imp h fun g p => hQ g p.2 p.1

/-- **One action after another.** -/
@[simp] theorem keeps_bind (x : Action α) (f : α → Action β) :
    (x >>= f).Keeps C g n Q' ↔ x.Keeps C g n (Onward C f Q') := by
  refine (Task.keeps_bind (x n) _ _).trans
    ⟨fun h => Task.Keeps.imp h ?_, fun h => Task.Keeps.imp h ?_⟩
  · rintro g ⟨_ | _, _⟩ h <;> exact h
  · rintro g ⟨_ | _, _⟩ h <;> exact h

/-- **One action after another**, by what is known once the first has ended. -/
theorem Keeps.bind {x : Action α} {f : α → Action β} (hx : x.Keeps C g n Q)
    (hf : ∀ g n a, Q g n (.ok a) → (f a).Keeps C g n Q')
    (herror : ∀ g n e, Q g n (.error e) → Q' g n (.error e)) : (x >>= f).Keeps C g n Q' := by
  refine (keeps_bind x f).2 (hx.imp ?_)
  rintro g n (e | a) h
  · exact herror g n e h
  · exact hf g n a h

@[simp] theorem keeps_pure (a : α) :
    (pure a : Action α).Keeps C g n Q ↔ Q g n (.ok a) := Iff.rfl

@[simp] theorem keeps_ofExcept (x : Except Error α) :
    (ofExcept x).Keeps C g n Q ↔ Q g n x := Iff.rfl

@[simp] theorem keeps_node {Q : γ → Node → Except Error Node → Prop} :
    node.Keeps C g n Q ↔ Q g n (.ok n) := Iff.rfl

@[simp] theorem keeps_modify (f : Node → Node) {Q : γ → Node → Except Error Unit → Prop} :
    (modify f).Keeps C g n Q ↔ Q g (f n) (.ok ()) := Iff.rfl

@[simp] theorem keeps_count (f : Telemetry → Telemetry)
    {Q : γ → Node → Except Error Unit → Prop} :
    (count f).Keeps C g n Q ↔ Q g (n.count f) (.ok ()) := Iff.rfl

@[simp] theorem keeps_ask (r : Request) {Q : γ → Node → Except Error r.Answer → Prop} :
    (ask r).Keeps C g n Q ↔
      C.permits g r ∧ ∀ a : r.Answer, Q (C.note g ⟨r, a⟩) n (.ok a) := Iff.rfl

@[simp] theorem keeps_radio (call : Radio.Call) {Q : γ → Node → Except Error call.Result → Prop} :
    (radio call).Keeps C g n Q ↔
      C.permits g (.radio call) ∧ ∀ a : Except Radio.Failure call.Result,
        Q (C.note g ⟨.radio call, a⟩) n (a.mapError .radio) := Iff.rfl

@[simp] theorem keeps_now {Q : γ → Node → Except Error Nat → Prop} :
    now.Keeps C g n Q ↔ C.permits g .now ∧ ∀ t, Q (C.note g ⟨.now, t⟩) n (.ok t) := Iff.rfl

@[simp] theorem keeps_setMode (m : Radio.Mode) {Q : γ → Node → Except Error Unit → Prop} :
    (setMode m).Keeps C g n Q ↔
      C.permits g (.radio (.setMode m)) ∧ ∀ a : Except Radio.Failure Unit,
        Q (C.note g ⟨.radio (.setMode m), a⟩) n (a.mapError .radio) := Iff.rfl

@[simp] theorem keeps_receive {Q : γ → Node → Except Error (Option Radio.Reception) → Prop} :
    receive.Keeps C g n Q ↔
      C.permits g (.radio .receive) ∧ ∀ a : Except Radio.Failure (Option Radio.Reception),
        Q (C.note g ⟨.radio .receive, a⟩) n (a.mapError .radio) := Iff.rfl

/-- **An action whose failure is looked at instead of passed on.** -/
@[simp] theorem keeps_attempt (x : Action α)
    {Q : γ → Node → Except Error (Except Error α) → Prop} :
    (attempt x).Keeps C g n Q ↔ x.Keeps C g n fun g n r => Q g n (.ok r) :=
  Task.keeps_bind (x n) _ _

end Action
end Link
end PacketRadio
