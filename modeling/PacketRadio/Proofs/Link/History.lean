/-
# What happens at a node, on any radio

rflink specification, §4.4: the operations of the manager.

A node rests until it is asked for something.  It is then busy with one turn
after another, each a tree of requests, until the operation is over.

| from | to | what can be told from outside |
| --- | --- | --- |
| resting | busy | an operation began |
| busy, about to ask | busy | a request and its answer |
| busy, at the end of a turn that calls for another | busy | nothing |
| busy, at the end of the last turn | resting | the operation ended, with its result |

A discipline says what a node that goes on like this keeps to: which requests
and which results are in order, and what holds of the node between two turns.
It is sound if the beginning of every operation and every turn keep to it, and
then so does every run, whatever the answers were.

Main statements: `Discipline.Sound.holds` and its two readings,
`Discipline.Sound.permits` and `Discipline.Sound.concludes`; and `bringUp_keeps`, for the state
that a node begins in.
-/

import PacketRadio.Link.Operation
import PacketRadio.Proofs.Link.Contract

namespace PacketRadio
namespace Link

/-- What can be told from outside about a node. -/
inductive Occurrence where
  /-- It was asked for something. -/
  | began (op : Operation)
  /-- It made a request and got an answer. -/
  | exchanged (e : Exchange)
  /-- What it was asked for is over. -/
  | ended (result : Except Error Reply)

/-- What has happened at a node, first things first. -/
abbrev History := List Occurrence

/-- What a node is at. -/
inductive Status where
  /-- Nothing. -/
  | resting (n : Node)
  /-- A turn of an operation, of which this is left. -/
  | busy (rest : Task (Except Error (Turn Activity Reply) × Node))

/-- One step of a node, and what can be told of it. -/
inductive Status.Step : Status → Option Occurrence → Status → Prop where
  /-- An operation begins. -/
  | begin (n : Node) (op : Operation) : Step (.resting n) (some (.began op)) (.busy (op.start n))
  /-- A request is answered. -/
  | exchange (r : Request) (next) (a : r.Answer) :
      Step (.busy (.ask r next)) (some (.exchanged ⟨r, a⟩)) (.busy (next a))
  /-- The next turn begins. -/
  | turn (a : Activity) (n : Node) :
    Step (.busy (.done (.ok (.again a), n))) none (.busy (a.turn n))
  /-- The operation is over. -/
  | finish (reply : Reply) (n : Node) :
      Step (.busy (.done (.ok (.finish reply), n))) (some (.ended (.ok reply))) (.resting n)
  /-- The operation has failed. -/
  | fail (e : Error) (n : Node) :
      Step (.busy (.done (.error e, n))) (some (.ended (.error e))) (.resting n)

/-- A node that started as `n₀` has come to a status with this history, whatever it was answered. -/
inductive Run (n₀ : Node) : History → Status → Prop where
  /-- It has just been brought up. -/
  | start : Run n₀ [] (.resting n₀)
  /-- One more step. -/
  | step {h : History} {st st' : Status} {o : Option Occurrence} (before : Run n₀ h st)
      (next : st.Step o st') : Run n₀ (h ++ o.toList) st'

/-- **What happened last happened in some step.** -/
theorem Run.last {n₀ : Node} {h : History} {o : Occurrence} {st : Status}
    (hr : Run n₀ (h ++ [o]) st) : ∃ st₀ st₁, Run n₀ h st₀ ∧ st₀.Step (some o) st₁ := by
  generalize hh : h ++ [o] = h' at hr
  induction hr with
  | start => simp at hh
  | @step h' st st' o' before next ih =>
    cases o' with
    | none => exact ih (by simpa using hh)
    | some o' =>
      obtain ⟨rfl, hlast⟩ := List.append_inj' hh rfl
      obtain rfl : o = o' := by simpa using hlast
      exact ⟨st, st', before, next⟩

/-- What a node keeps to. -/
structure Discipline (γ : Type) where
  /-- The record of a node at which nothing has happened. -/
  blank : γ
  /-- The record after one more occurrence. -/
  note : γ → Occurrence → γ
  /-- The requests that are in order. -/
  permits : γ → Request → Prop
  /-- The results that are in order. -/
  concludes : γ → Except Error Reply → Prop
  /-- What holds of a node at rest. -/
  AtRest : γ → Node → Prop
  /-- What holds between two turns. -/
  UnderWay : γ → Node → Activity → Prop

namespace Discipline

variable {γ : Type} (D : Discipline γ)

/-- The contract that turns are held to. -/
def contract : Contract γ :=
  ⟨fun g e => D.note g (.exchanged e), D.permits⟩

/-- The record of a history. -/
def record (h : History) : γ :=
  h.foldl D.note D.blank

@[simp] theorem record_append_singleton (h : History) (o : Occurrence) :
    D.record (h ++ [o]) = D.note (D.record h) o := by
  simp [record]

/-- How a turn may end. -/
def Outcome : γ → Node → Except Error (Turn Activity Reply) → Prop
  | g, n, .ok (.again a) => D.UnderWay g n a
  | g, n, .ok (.finish reply) =>
    D.concludes g (.ok reply) ∧ D.AtRest (D.note g (.ended (.ok reply))) n
  | g, n, .error e => D.concludes g (.error e) ∧ D.AtRest (D.note g (.ended (.error e))) n

/-- What holds of a node whatever it is at. -/
def Holds (g : γ) : Status → Prop
  | .resting n => D.AtRest g n
  | .busy rest => rest.Keeps D.contract g fun g p => D.Outcome g p.2 p.1

/-- Operations and turns keep to the discipline. -/
structure Sound : Prop where
  /-- So does the beginning of every operation. -/
  start : ∀ g n (op : Operation), D.AtRest g n →
    op.start.Keeps D.contract (D.note g (.began op)) n D.Outcome
  /-- And every turn. -/
  turn : ∀ g n (a : Activity), D.UnderWay g n a → a.turn.Keeps D.contract g n D.Outcome

variable {D} {n₀ : Node}

/-- **Every step keeps to the discipline.** -/
theorem Sound.step (hD : D.Sound) {g : γ} {st st' : Status} {o : Option Occurrence}
    (hg : D.Holds g st) (hs : st.Step o st') : D.Holds (o.toList.foldl D.note g) st' := by
  cases hs with
  | begin n op => exact hD.start g n op hg
  | exchange r next a => exact hg.2 a
  | turn a n => exact hD.turn g n a hg
  | finish reply n => exact hg.2
  | fail e n => exact hg.2

/-- **Every run keeps to the discipline.** -/
theorem Sound.holds (hD : D.Sound) (h₀ : D.AtRest D.blank n₀) {h : History} {st : Status}
    (hr : Run n₀ h st) : D.Holds (D.record h) st := by
  induction hr with
  | start => exact h₀
  | step before next ih =>
    have := hD.step ih next
    rwa [record, List.foldl_append]

/-- **What a node is about to ask for is in order.** -/
theorem Sound.permits (hD : D.Sound) (h₀ : D.AtRest D.blank n₀) {h : History} {r : Request}
    {next} (hr : Run n₀ h (.busy (.ask r next))) : D.permits (D.record h) r :=
  (hD.holds h₀ hr).1

/-- **What an operation is about to end with is in order.** -/
theorem Sound.concludes (hD : D.Sound) (h₀ : D.AtRest D.blank n₀) {h : History}
    {result : Except Error Reply} {st st' : Status} (hr : Run n₀ h st)
    (hs : st.Step (some (.ended result)) st') : D.concludes (D.record h) result := by
  have hst := hD.holds h₀ hr
  cases hs with
  | finish reply n => exact hst.1
  | fail e n => exact hst.1

end Discipline

/-! ## Bringing up a node -/

/-- **Bringing up a node makes a fresh node, and sends nothing.** -/
theorem bringUp_keeps {γ : Type} {C : Contract γ} {c : Config} (g : γ)
    (hC : ∀ g call, call.name ≠ .transmit → C.permits g (.radio call)) :
    (Action.bringUp c).Keeps C g fun _ r => ∀ n, r = .ok n → n = Node.fresh c := by
  unfold Action.bringUp
  split
  · exact fun n hn => by cases hn
  · rw [Task.keeps_bind]
    refine ⟨hC _ _ (by decide), fun up => ?_⟩
    cases up with
    | error e => exact fun n hn => by cases hn
    | ok u =>
      refine ⟨hC _ _ (by simp [Radio.Call.name]), fun set => ?_⟩
      cases set with
      | error e => exact fun n hn => by cases hn
      | ok u =>
        refine ⟨hC _ _ (by decide), fun listening => ?_⟩
        cases listening with
        | error e => exact fun n hn => by cases hn
        | ok u => exact fun n hn => (Except.ok.inj hn).symm

end Link
end PacketRadio
