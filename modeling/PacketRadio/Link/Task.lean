/-
# Protocol steps as trees of requests

rflink specification, §4.2: the core never accesses registers; §5: cooperative
polling.

A node never touches its radio, its clock or a channel itself.  It asks, and
goes on with whatever answer it gets, so what it does is a tree: an inner
node is a request with one branch for each answer, a leaf is a result.  The
same tree can be run against a simulated medium, interleaved request by
request with other nodes, or followed along arbitrary answers.

Nothing here loops.  An operation that waits is a succession of turns, each
of which is a tree and says whether another one is due.

Main statements: `Task` is a lawful monad, running follows `bind`
(`run_bind`), and `Path` relates a tree to what is left of it after some
exchanges (`Path.trans`, `path_run`).
-/

import PacketRadio.Link.Delivery
import PacketRadio.Radio.Basic

namespace PacketRadio
namespace Link

/-- What a node asks of its surroundings. -/
inductive Request where
  /-- A call to the radio. -/
  | radio (call : Radio.Call)
  /-- The mode of the radio. -/
  | mode
  /-- The time. -/
  | now
  /-- A pause. -/
  | sleep (duration : Nat)
  /-- Whether the stop flag of this number is set. -/
  | stopped (flag : Nat)
  /-- To take a delivery into the channel of this number. -/
  | offer (channel : Nat) (delivery : Delivery)
  /-- Nothing; it tells that a delivery has gone into the node's own queue. -/
  | kept (delivery : Delivery)
  deriving DecidableEq, Repr

/-- What a request is answered with. -/
@[reducible] def Request.Answer : Request → Type
  | .radio call => Except Radio.Failure call.Result
  | .mode => Radio.Mode
  | .now => Nat
  | .sleep _ => Unit
  | .stopped _ => Bool
  | .offer _ _ => Bool
  | .kept _ => Unit

/-- A tree of requests with results at its leaves. -/
inductive Task (α : Type) where
  /-- The result is at hand. -/
  | done (a : α)
  /-- The next request, and how to go on from each answer. -/
  | ask (r : Request) (next : r.Answer → Task α)

/-- A request together with the answer it got. -/
structure Exchange where
  /-- What was asked. -/
  request : Request
  /-- What was answered. -/
  answer : request.Answer

namespace Task

variable {α β γ : Type}

/-- Goes on from the result. -/
def bind : Task α → (α → Task β) → Task β
  | .done a, f => f a
  | .ask r next, f => .ask r fun a => (next a).bind f

instance : Monad Task where
  pure := .done
  bind := Task.bind

/-- A request and nothing else. -/
def request (r : Request) : Task r.Answer :=
  .ask r .done

@[simp] theorem pure_eq (a : α) : (pure a : Task α) = .done a := rfl

@[simp] theorem bind_eq (t : Task α) (f : α → Task β) : t >>= f = t.bind f := rfl

@[simp] theorem done_bind (a : α) (f : α → Task β) : (done a).bind f = f a := rfl

@[simp] theorem ask_bind (r : Request) (next : r.Answer → Task α) (f : α → Task β) :
    (ask r next).bind f = .ask r fun a => (next a).bind f := rfl

@[simp] theorem bind_done (t : Task α) : t.bind .done = t := by
  induction t with
  | done a => rfl
  | ask r next ih => simp [ih]

theorem bind_assoc (t : Task α) (f : α → Task β) (g : β → Task γ) :
    (t.bind f).bind g = t.bind fun a => (f a).bind g := by
  induction t with
  | done a => rfl
  | ask r next ih => simp [ih]

instance : LawfulMonad Task :=
  LawfulMonad.mk' Task (fun t => bind_done t) (fun _ _ => rfl) (fun t f g => bind_assoc t f g)

/-! ## Running -/

end Task

/-- Something that answers requests and changes by doing so. -/
structure Surroundings (σ : Type) where
  /-- The answer to a request and the state afterwards. -/
  answer : (r : Request) → σ → r.Answer × σ

namespace Task

variable {α β σ : Type}

/-- The result of a tree in its surroundings. -/
def run (env : Surroundings σ) : Task α → σ → α × σ
  | .done a, s => (a, s)
  | .ask r next, s =>
    let (a, s) := env.answer r s
    (next a).run env s

@[simp] theorem run_done (env : Surroundings σ) (a : α) (s : σ) :
    (done a).run env s = (a, s) := rfl

@[simp] theorem run_ask (env : Surroundings σ) (r : Request) (next : r.Answer → Task α) (s : σ) :
    (ask r next).run env s = (next (env.answer r s).1).run env (env.answer r s).2 := rfl

/-- **Running follows `bind`.** -/
theorem run_bind (env : Surroundings σ) (t : Task α) (f : α → Task β) (s : σ) :
    (t.bind f).run env s = (f (t.run env s).1).run env (t.run env s).2 := by
  induction t generalizing s with
  | done a => rfl
  | ask r next ih => simp [ih]

/-! ## Paths -/

/-- `t` has become `t'` after these exchanges, whatever answered. -/
inductive Path : Task α → List Exchange → Task α → Prop where
  /-- Nothing has been asked yet. -/
  | here (t : Task α) : Path t [] t
  /-- One request has been answered, then the others. -/
  | step {r : Request} {next : r.Answer → Task α} {a : r.Answer} {es : List Exchange} {t' : Task α}
      (rest : Path (next a) es t') : Path (.ask r next) (⟨r, a⟩ :: es) t'

/-- **Paths continue.** -/
theorem Path.trans {t t' t'' : Task α} {es es' : List Exchange} (h : Path t es t')
    (h' : Path t' es' t'') : Path t (es ++ es') t'' := by
  induction h with
  | here t => exact h'
  | step _ ih => exact .step (ih h')

/-- **A path through a tree is one through its continuation.** -/
theorem Path.bind {t t' : Task α} {es : List Exchange} (h : Path t es t') (f : α → Task β) :
    Path (t.bind f) es (t'.bind f) := by
  induction h with
  | here t => exact .here _
  | step _ ih => exact .step ih

/-- **Every run follows some path to its result.** -/
theorem path_run (env : Surroundings σ) (t : Task α) (s : σ) :
    ∃ es, Path t es (.done (t.run env s).1) := by
  induction t generalizing s with
  | done a => exact ⟨[], .here _⟩
  | ask r next ih =>
    obtain ⟨es, h⟩ := ih (env.answer r s).1 (env.answer r s).2
    exact ⟨_, .step h⟩

end Task

/-! ## Turns -/

/-- How a turn of a waiting operation ends. -/
inductive Turn (σ α : Type) where
  /-- Another turn is due. -/
  | again (s : σ)
  /-- The operation is over. -/
  | finish (a : α)
  deriving Repr

end Link
end PacketRadio
