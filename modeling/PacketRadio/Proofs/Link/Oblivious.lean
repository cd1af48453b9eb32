/-
# Counters decide nothing

rflink specification, §4.5: telemetry never gates protocol behaviour.

What a node counts is there to be read, and the node itself never reads it.
Let a node meet the same circumstances twice, with other counters the second
time.  Then the same happens, step by step: it makes the same requests, ends
its operations with the same results, and is the same but for its counters,
also in the middle of a turn.

| circumstances | depend on |
| --- | --- |
| what the node is asked for when it rests | all that has happened so far |
| what its requests are answered with | the same, and the request |

Main statement: `Status.after_uncounted`.
-/

import PacketRadio.Proofs.Link.Likeness

namespace PacketRadio
namespace Link

/-! ## Circumstances -/

/-- What a node meets. -/
structure Circumstances where
  /-- What it is asked for, if it rests after all this. -/
  asked : History → Operation
  /-- What it is answered, if it makes this request after all that. -/
  answered : History → (r : Request) → r.Answer

namespace Status

/-- What can be told of the next step of a node, after this history, and what it is at then. -/
def next (w : Circumstances) (h : History) : Status → Option Occurrence × Status
  | .resting n => (some (.began (w.asked h)), .busy ((w.asked h).start n))
  | .busy (.ask r next) => (some (.exchanged ⟨r, w.answered h r⟩), .busy (next (w.answered h r)))
  | .busy (.done (.ok (.again a), n)) => (none, .busy (a.turn n))
  | .busy (.done (.ok (.finish reply), n)) => (some (.ended (.ok reply)), .resting n)
  | .busy (.done (.error e, n)) => (some (.ended (.error e)), .resting n)

/-- What has happened after so many steps, and what the node is at then. -/
def after (w : Circumstances) (st : Status) : Nat → History × Status
  | 0 => ([], st)
  | k + 1 =>
    let (h, st) := st.after w k
    let (o, st) := st.next w h
    (h ++ o.toList, st)

/-- **The next step is a step.** -/
theorem next_step (w : Circumstances) (h : History) (st : Status) :
    st.Step (st.next w h).1 (st.next w h).2 := by
  match st with
  | .resting n => exact .begin n _
  | .busy (.ask r next) => exact .exchange r next _
  | .busy (.done (.ok (.again a), n)) => exact .turn a n
  | .busy (.done (.ok (.finish reply), n)) => exact .finish reply n
  | .busy (.done (.error e, n)) => exact .fail e n

/-- **What has happened after any number of steps is a run.** -/
theorem after_run (w : Circumstances) (n : Node) (k : Nat) :
    Run n ((resting n).after w k).1 ((resting n).after w k).2 := by
  induction k with
  | zero => exact .start
  | succ k ih => exact .step ih (next_step w _ _)

end Status

/-! ## All but the counters -/

/-- The node with nothing counted. -/
def Node.uncounted (n : Node) : Node :=
  { n with telemetry := {} }

/-- The status with nothing counted, now or at the end of the turn. -/
def Status.uncounted : Status → Status
  | .resting n => .resting n.uncounted
  | .busy rest => .busy (rest.bind fun p => .done (p.1, p.2.uncounted))

namespace Likeness

/-- Runs that may differ in what is counted, and in nothing else. -/
def uncounted (frame : Frame.Config) : Likeness where
  frame := frame
  flags f f' := f' = f
  counters _ _ := True
  refl _ := rfl
  acks := by
    rintro f _ rfl
    exact ⟨rfl, rfl⟩
  counted _ _ _ _ := trivial

variable {c : Frame.Config}

theorem Deliveries.eq {d d' : Delivery} (h : (uncounted c).Deliveries d d') : d' = d := by
  obtain ⟨dst, src, id, flags, payload, rssi⟩ := d'
  obtain ⟨rfl, rfl, rfl, rfl, rfl, rfl⟩ := h
  rfl

theorem Requests.eq {r r' : Request} (h : (uncounted c).Requests r r') : r' = r := by
  cases h with
  | same r => rfl
  | offer id h => rw [h.eq]
  | kept h => rw [h.eq]

theorem Turns.eq {t t' : Turn Activity Reply} (h : (uncounted c).Turns t t') : t' = t := by
  cases h with
  | again a => rfl
  | finish h =>
    cases h with
    | same r => rfl
    | delivery h => rw [h.eq]

theorem Sinks.eq {s s' : Sink} (h : (uncounted c).Sinks s s') : s' = s := by
  cases h with
  | queue capacity h =>
    have hsame : List.Forall₂ Eq _ _ := h.imp fun d d' hd => hd.eq.symm
    rw [List.forall₂_eq_eq_eq] at hsame
    rw [hsame]
  | channel id => rfl

/-- Nodes that are alike have all but the counters in common. -/
theorem Nodes.uncounted_eq {n n' : Node} (h : (uncounted c).Nodes n n') :
    n'.uncounted = n.uncounted := by
  simp only [Node.uncounted, h.config, h.nextId, h.lastAccepted, h.pending, h.sink.eq]

/-- A node is like itself, whatever it has counted. -/
theorem Nodes.recounted (n : Node) (t : Telemetry) :
    (uncounted n.config.frame).Nodes n (n.count fun _ => t) := by
  have hsink : ∀ s : Sink, (uncounted n.config.frame).Sinks s s := by
    rintro (⟨capacity, w⟩ | id)
    · exact .queue capacity (List.forall₂_same.2 fun d _ => .refl d)
    · exact .channel id
  exact ⟨rfl, rfl, rfl, rfl, rfl, hsink n.sink, trivial⟩

/-- What is left of turns that are alike ends with the same results. -/
theorem Outcomes.turn_eq {r r' : Except Error (Turn Activity Reply)}
    (h : Outcomes (uncounted c).Turns r r') : r' = r := by
  cases h with
  | error e => rfl
  | ok h => rw [h.eq]

/-- **Turns that are alike have the same left to do**, but for what is counted. -/
theorem Tasks.uncounted_eq {rest rest' : Task (Except Error (Turn Activity Reply) × Node)}
    (h : (uncounted c).Tasks (uncounted c).Ends rest rest') :
    (Status.busy rest').uncounted = (Status.busy rest).uncounted := by
  rw [Status.uncounted, Status.uncounted, Status.busy.injEq]
  induction rest generalizing rest' with
  | done p =>
    cases rest' with
    | ask r' next' => exact h.elim
    | done p' =>
      obtain ⟨hresult, hnode⟩ : (uncounted c).Ends p p' := h
      rw [Task.done_bind, Task.done_bind, hresult.turn_eq, hnode.uncounted_eq]
  | ask r next ih =>
    cases rest' with
    | done p' => exact h.elim
    | ask r' next' =>
      obtain ⟨hrequest, hnext⟩ := h
      obtain rfl := hrequest.eq
      have hsame : ∀ a, (next' a).bind _ = (next a).bind _ := fun a => ih a (hnext a a (.same _))
      rw [Task.ask_bind, Task.ask_bind, funext hsame]

/-- **Statuses that are alike have all but the counters in common.** -/
theorem Statuses.uncounted_eq {st st' : Status} (h : (uncounted c).Statuses st st') :
    st'.uncounted = st.uncounted := by
  match st, st', h with
  | .resting n, .resting n', h => exact congrArg Status.resting (Nodes.uncounted_eq h)
  | .busy rest, .busy rest', h => exact Tasks.uncounted_eq h

/-- **In the same circumstances the same happens next.** -/
theorem Statuses.next {st st' : Status} (hst : (uncounted c).Statuses st st') (w : Circumstances)
    (h : History) : (st'.next w h).1 = (st.next w h).1 ∧
      (uncounted c).Statuses (st.next w h).2 (st'.next w h).2 := by
  rcases hst.kinds with ⟨n, n', rfl, rfl, hn⟩ | ⟨r, next, r', next', rfl, rfl, hr, hnext⟩ |
    ⟨r, n, r', n', rfl, rfl, hr, hn⟩
  · exact ⟨rfl, Actions.start (w.asked h) n n' hn⟩
  · obtain rfl := hr.eq
    exact ⟨rfl, hnext _ _ (.same _)⟩
  · obtain rfl : r' = r := hr.turn_eq
    match r' with
    | .ok (.again a) => exact ⟨rfl, Actions.turn a n n' hn⟩
    | .ok (.finish reply) => exact ⟨rfl, hn⟩
    | .error e => exact ⟨rfl, hn⟩

end Likeness

/-- **Counters decide nothing.**  Let a node, in any state, meet the same circumstances with other
counters.  After any number of steps the same has happened as would have: the same operations have
begun, the same requests have been made and answered, and the same results, times and errors have
been returned.  And the node is at the same, but for what is counted. -/
theorem Status.after_uncounted (w : Circumstances) (n : Node) (t : Telemetry) (k : Nat) :
    ((resting (n.count fun _ => t)).after w k).1 = ((resting n).after w k).1 ∧
      ((resting (n.count fun _ => t)).after w k).2.uncounted =
        ((resting n).after w k).2.uncounted := by
  have halike : ((resting (n.count fun _ => t)).after w k).1 = ((resting n).after w k).1 ∧
      (Likeness.uncounted n.config.frame).Statuses ((resting n).after w k).2
        ((resting (n.count fun _ => t)).after w k).2 := by
    induction k with
    | zero => exact ⟨rfl, Likeness.Nodes.recounted n t⟩
    | succ k ih =>
      obtain ⟨hhistory, hstatus⟩ := ih
      obtain ⟨htold, hnext⟩ := hstatus.next w ((resting n).after w k).1
      simp only [after, hhistory, htold]
      exact ⟨trivial, hnext⟩
  exact ⟨halike.1, halike.2.uncounted_eq⟩

end Link
end PacketRadio
