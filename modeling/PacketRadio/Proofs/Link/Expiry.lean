/-
# A send comes to its end in time

rflink specification, §4.4: a reliable send is acknowledged or fails.

In surroundings whose clock only the pauses of the node move, a send keeps the
pace.  It also comes to an end there, unless frames come in for ever while the
clock stands still.

| a turn that is not the last | brings nearer to the end |
| --- | --- |
| sends a copy, or finds its time over | what the send has before it |
| pauses | the end of the time of the copy at hand |
| takes a frame | the end of the frames that can be taken now |

Main statement: `Operation.sends_in_time`.
-/

import PacketRadio.Proofs.Link.Course
import PacketRadio.Proofs.Link.Failures
import PacketRadio.Proofs.Link.Pace

namespace PacketRadio
namespace Link

open PacketRadio.Link.Action

variable {σ : Type} {env : Surroundings σ} {clock load : σ → Nat} {s s' : σ}

/-! ## Surroundings with a clock -/

/-- The surroundings give these answers, and change from `s` to `s'` by that. -/
inductive Surroundings.Gives (env : Surroundings σ) : σ → List Exchange → σ → Prop where
  /-- Nothing is asked. -/
  | nothing (s : σ) : Gives env s [] s
  /-- A request is answered, then the others. -/
  | answer (r : Request) {s s' : σ} {es : List Exchange}
      (rest : Gives env (env.answer r s).2 es s') :
      Gives env s (⟨r, (env.answer r s).1⟩ :: es) s'

theorem Surroundings.Gives.trans {s'' : σ} {es es' : List Exchange} (h : env.Gives s es s')
    (h' : env.Gives s' es' s'') : env.Gives s (es ++ es') s'' := by
  induction h with
  | nothing s => exact h'
  | answer r rest ih => exact .answer r (ih h')

/-- One request is answered before the others. -/
theorem Surroundings.gives_cons {e : Exchange} {es : List Exchange} :
    env.Gives s (e :: es) s' ↔
      e.answer = (env.answer e.request s).1 ∧ env.Gives (env.answer e.request s).2 es s' := by
  constructor
  · intro h
    cases h with
    | answer r rest => exact ⟨rfl, rest⟩
  · rintro ⟨hanswer, rest⟩
    have hsame : e = ⟨e.request, (env.answer e.request s).1⟩ :=
      congrArg (Exchange.mk e.request) hanswer
    rw [hsame]
    exact .answer e.request rest

/-- Answers that are given one after another are given first to one part and then to the other. -/
theorem Surroundings.Gives.split {es es' : List Exchange} (h : env.Gives s (es ++ es') s') :
    ∃ s₁, env.Gives s es s₁ ∧ env.Gives s₁ es' s' := by
  induction es generalizing s with
  | nil => exact ⟨s, .nothing s, h⟩
  | cons e es ih =>
    cases h with
    | answer r rest =>
      obtain ⟨s₁, hfirst, hrest⟩ := ih rest
      exact ⟨s₁, .answer r hfirst, hrest⟩

/-- **A run follows the path that its surroundings give.** -/
theorem Task.run_gives {α : Type} (env : Surroundings σ) (t : Task α) (s : σ) :
    ∃ es, Path t es (.done (t.run env s).1) ∧ env.Gives s es (t.run env s).2 := by
  induction t generalizing s with
  | done a => exact ⟨[], .here _, .nothing s⟩
  | ask r next ih =>
    obtain ⟨es, hpath, hgives⟩ := ih (env.answer r s).1 (env.answer r s).2
    exact ⟨_, .step hpath, .answer r hgives⟩

/-- **A path that its surroundings give is the run.** -/
theorem Task.Path.run_eq {α : Type} {t : Task α} {es : List Exchange} {a : α}
    (h : Path t es (.done a)) (hg : env.Gives s es s') : t.run env s = (a, s') := by
  generalize hend : Task.done a = t' at h
  induction h generalizing s with
  | here t =>
    subst hend
    cases hg
    rfl
  | step rest ih =>
    obtain ⟨hanswer, hrest⟩ := Surroundings.gives_cons.1 hg
    dsimp only at hanswer hrest
    subst hanswer
    exact ih hrest hend

/-- The clock tells the time, only pauses move it, and the radio does not fail. -/
structure Orderly (env : Surroundings σ) (clock : σ → Nat) : Prop where
  /-- The clock tells the time. -/
  tells : ∀ s, (env.answer .now s).1 = clock s
  /-- A pause takes its time. -/
  passes : ∀ duration s, clock (env.answer (.sleep duration) s).2 = clock s + duration
  /-- Nothing else takes any. -/
  stands : ∀ r s, (∀ duration, r ≠ .sleep duration) → clock (env.answer r s).2 = clock s
  /-- The radio works. -/
  works : ∀ call s failure, (env.answer (.radio call) s).1 ≠ .error failure

/-- While the clock stands still, only so many frames can be taken. -/
structure RunsOut (env : Surroundings σ) (load : σ → Nat) : Prop where
  /-- There do not get more of them. -/
  stays : ∀ r s, (∀ duration, r ≠ .sleep duration) → load (env.answer r s).2 ≤ load s
  /-- With every frame that is taken there are fewer. -/
  falls : ∀ s reception, (env.answer (.radio .receive) s).1 = .ok (some reception) →
    load (env.answer (.radio .receive) s).2 < load s

namespace Orderly

/-- The clock moves by what was paused. -/
theorem clock_answer (ho : Orderly env clock) (r : Request) (s : σ) (a : r.Answer) :
    clock (env.answer r s).2 = clock s + Exchange.slept [⟨r, a⟩] := by
  cases r with
  | sleep duration => exact ho.passes duration s
  | _ => exact ho.stands _ s nofun

theorem told_answer (ho : Orderly env clock) (r : Request) (s : σ) (t : Nat)
    (ht : Exchange.told ⟨r, (env.answer r s).1⟩ = some t) : t = clock s := by
  cases r with
  | now => exact (Option.some.inj ht).symm.trans (ho.tells s)
  | _ => cases ht

theorem failed_answer (ho : Orderly env clock) (r : Request) (s : σ) :
    Exchange.failed ⟨r, (env.answer r s).1⟩ = false := by
  cases r with
  | radio call =>
    cases ha : (env.answer (.radio call) s).1 with
    | error failure => exact absurd ha (ho.works call s failure)
    | ok result => rfl
  | _ => rfl

/-- **What orderly surroundings answer is on time.** -/
theorem gives (ho : Orderly env clock) {es : List Exchange} (h : env.Gives s es s') :
    OnTime (clock s) es ∧ clock s' = clock s + Exchange.slept es ∧
      es.any Exchange.failed = false := by
  induction h with
  | nothing s => exact ⟨throughout_nil, rfl, rfl⟩
  | @answer r s s' es rest ih =>
    obtain ⟨hon, hclock, hfailed⟩ := ih
    rw [ho.clock_answer r s (env.answer r s).1] at hon hclock
    refine ⟨onTime_cons.2 ⟨ho.told_answer r s, hon⟩, ?_, ?_⟩
    · rw [hclock, Nat.add_assoc, ← Exchange.slept_append, List.singleton_append]
    · rw [List.any_cons, ho.failed_answer r s, hfailed]
      rfl

end Orderly

/-- What is taken is an answer to the call that takes. -/
theorem Exchange.eq_of_heard {e : Exchange} {reception : Radio.Reception}
    (h : e.heard = some reception) : e = ⟨.radio .receive, .ok (some reception)⟩ := by
  obtain ⟨r, a⟩ := e
  match r, a with
  | .radio .receive, .ok taken =>
    obtain rfl : taken = some reception := h
    rfl
  | .radio .receive, .error failure => cases h

/-- A request that is no pause leaves as many frames, or fewer by the one that it takes. -/
theorem RunsOut.load_answer (hr : RunsOut env load) (r : Request) (s : σ)
    (hpause : ∀ duration, r ≠ .sleep duration) :
    load (env.answer r s).2 + (Exchange.heard ⟨r, (env.answer r s).1⟩).toList.length ≤ load s := by
  cases hheard : Exchange.heard ⟨r, (env.answer r s).1⟩ with
  | none => exact hr.stays r s hpause
  | some reception =>
    obtain ⟨rfl, htaken⟩ := Exchange.mk.inj (Exchange.eq_of_heard hheard)
    exact hr.falls s reception (eq_of_heq htaken)

/-- **While the clock stands still, every frame that is taken leaves fewer.** -/
theorem RunsOut.gives (hr : RunsOut env load) {es : List Exchange} (h : env.Gives s es s')
    (hunpaused : es.filterMap Exchange.pause = []) :
    load s' + (es.filterMap Exchange.heard).length ≤ load s := by
  induction h with
  | nothing s => exact Nat.le_refl _
  | @answer r s s' es rest ih =>
    have hnone : Exchange.pause ⟨r, (env.answer r s).1⟩ = none := by
      cases hpause : Exchange.pause ⟨r, (env.answer r s).1⟩ with
      | none => rfl
      | some duration =>
        rw [List.filterMap_cons_some hpause] at hunpaused
        cases hunpaused
    rw [List.filterMap_cons_none hnone] at hunpaused
    have hfirst := hr.load_answer r s (by rintro duration rfl; cases hnone)
    have hlater := ih hunpaused
    rw [List.filterMap_cons]
    cases hheard : Exchange.heard ⟨r, (env.answer r s).1⟩ with
    | none =>
      rw [hheard] at hfirst
      exact Nat.le_trans hlater hfirst
    | some reception =>
      rw [hheard] at hfirst
      simp only [Option.toList_some, List.length_cons, List.length_nil] at hfirst ⊢
      omega

/-! ## What brings a send nearer to its end -/

/-- How a turn of a send goes on, if it does. -/
inductive Advances (s : Send) (es : List Exchange) : Send → Prop where
  /-- The copy at hand has been sent. -/
  | copied (hphase : s.phase = .transmitting) (deadline : Deadline) :
      Advances s es { s with phase := .waiting deadline }
  /-- Another copy is due. -/
  | retried {deadline : Deadline} (hphase : s.phase = .waiting deadline)
      (hmore : s.attempt < s.attempts) :
      Advances s es { s with attempt := s.attempt + 1, phase := .transmitting }
  /-- Time has passed. -/
  | paused (hpause : 0 < Exchange.slept es) : Advances s es s
  /-- A frame was taken. -/
  | taken (hunpaused : es.filterMap Exchange.pause = [])
      (hheard : es.filterMap Exchange.heard ≠ []) : Advances s es s

/-- **A turn of a send that goes on brings it nearer to its end**, if a pause takes any time. -/
theorem Pursuing.advances {n n' : Node} {send send' : Send} {es : List Exchange}
    (hp : Pursuing n send es n' (.ok (.again send'))) (hinterval : 0 < n.config.pollInterval) :
    Advances send es send' := by
  cases hp with
  | copied hphase hp t => exact .copied hphase _
  | retried hphase ha ht hmore => exact .retried hphase hmore
  | @watched deadline rest es₁ es₂ n' hphase ha ht hw =>
    cases hw with
    | taken hp he =>
      refine .taken ?_ ?_
      · rw [List.filterMap_append, ht.unpaused, hp.unpaused]
        rfl
      · rw [List.filterMap_append, ht.unheard]
        exact hp.heard he
    | paused hp =>
      have hpause : 0 < min n.config.pollInterval rest := Nat.lt_min.2 ⟨hinterval, ht.rest_pos⟩
      refine .paused (Nat.lt_of_lt_of_le hpause ?_)
      rw [Exchange.slept_append, Exchange.slept_append, Exchange.slept_sleep, ← Nat.add_assoc]
      exact Nat.le_add_left _ _

/-- So does a turn of its operation. -/
theorem Turning.advances {n n' : Node} {send send' : Send} {es : List Exchange}
    (ht : Turning n (.sending send) es n' (.ok (.again (.sending send'))))
    (hinterval : 0 < n.config.pollInterval) : Advances send es send' := by
  generalize hr : Except.ok (Turn.again (Activity.sending send')) = r at ht
  cases ht with
  | @sending _ es n' r hp =>
    rcases r with e | send'' | outcome
    · cases hr
    · cases hr
      exact hp.advances hinterval
    · cases hr

/-- How many copies and waits a send has before it. -/
def Send.ahead (s : Send) : Nat :=
  2 * (s.attempts - s.attempt) + match s.phase with
    | .transmitting => 1
    | .waiting _ => 0

/-- How far a send is from its end: what it has before it, then the time that is left to the copy
at hand, then the frames that can be taken without any time. -/
def Send.distance (timeout frames : Nat) (es : List Exchange) (s : Send) : Nat × Nat × Nat :=
  (s.ahead, s.attempt * timeout - Exchange.slept es, frames)

/-- **A send that goes on gets nearer to its end.** -/
theorem Advances.distance_lt {send send' : Send} {es es' : List Exchange}
    {timeout frames frames' : Nat} (h : Advances send es' send')
    (hwithin : Exchange.slept (es ++ es') ≤ send'.attempt * timeout)
    (hframes : es'.filterMap Exchange.pause = [] → es'.filterMap Exchange.heard ≠ [] →
      frames' < frames) :
    Prod.Lex (· < ·) (Prod.Lex (· < ·) (· < ·)) (send'.distance timeout frames' (es ++ es'))
      (send.distance timeout frames es) := by
  rw [Exchange.slept_append] at hwithin
  cases h with
  | copied hphase deadline =>
    refine .left _ _ ?_
    simp only [Send.ahead, hphase]
    omega
  | retried hphase hmore =>
    refine .left _ _ ?_
    simp only [Send.ahead, hphase]
    omega
  | paused hpause =>
    refine .right _ (.left _ _ ?_)
    rw [Exchange.slept_append]
    omega
  | taken hunpaused hheard =>
    rw [Send.distance, Exchange.slept_append, Exchange.slept_eq_zero hunpaused]
    exact .right _ (.right _ (hframes hunpaused hheard))

/-! ## A send in orderly surroundings -/

/-- An operation that began at `n₀` in the surroundings `s₀` has come to the end of a turn. -/
structure Arrived (env : Surroundings σ) (s₀ : σ) (op : Operation) (n₀ : Node)
    (es : List Exchange) (r : Except Error (Turn Activity Reply)) (n : Node) (s : σ) : Prop where
  /-- It has, after these exchanges. -/
  reaches : op.Reaches n₀ es (.done (r, n))
  /-- The surroundings have given them. -/
  gives : env.Gives s₀ es s

section

variable {s₀ : σ} {op : Operation} {n₀ n : Node} {es : List Exchange}

/-- **An operation arrives at the end of its beginning.** -/
theorem Arrived.start (env : Surroundings σ) (s₀ : σ) (op : Operation) (n₀ : Node) :
    op.start.Yields env s₀ n₀ fun s n r => ∃ es, Starting n₀ op es n r ∧
      Arrived env s₀ op n₀ es r n s := by
  obtain ⟨es, hpath, hgives⟩ := Task.run_gives env (op.start n₀) s₀
  have hreaches := Operation.Reaches.begun.path hpath
  rw [List.nil_append] at hreaches
  exact ⟨es, (start_goes op n₀).path hpath, hreaches, hgives⟩

/-- **From the end of a turn it arrives at the end of the next.** -/
theorem Arrived.turn {a : Activity} (h : Arrived env s₀ op n₀ es (.ok (.again a)) n s) :
    a.turn.Yields env s n fun s' n' r => ∃ es', Turning n a es' n' r ∧ env.Gives s es' s' ∧
      Arrived env s₀ op n₀ (es ++ es') r n' s' := by
  obtain ⟨es', hpath, hgives⟩ := Task.run_gives env (a.turn n) s
  exact ⟨es', (turn_goes a n).path hpath, hgives, h.reaches.turned.path hpath, h.gives.trans hgives⟩

/-- **What the beginning of an operation and its turns uphold holds wherever it arrives.** -/
theorem Arrived.upholds {P : List Exchange → Except Error (Turn Activity Reply) → Node → σ → Prop}
    {r : Except Error (Turn Activity Reply)} (h : Arrived env s₀ op n₀ es r n s)
    (hstart : ∀ es r n s, Starting n₀ op es n r → env.Gives s₀ es s → P es r n s)
    (hturn : ∀ es a n s es' r n' s', Arrived env s₀ op n₀ es (.ok (.again a)) n s →
      P es (.ok (.again a)) n s → Turning n a es' n' r → env.Gives s es' s' →
        P (es ++ es') r n' s') : P es r n s := by
  refine h.reaches.holds (Q := fun es r n => ∀ s, env.Gives s₀ es s → P es r n s) ?_ ?_ s h.gives
  · intro es r n hs s hgives
    exact hstart es r n s hs hgives
  · intro es a n₁ es' r n hreaches hbefore ht s hgives
    obtain ⟨s₁, hgives₁, hgives₂⟩ := hgives.split
    exact hturn es a n₁ s₁ es' r n s ⟨hreaches, hgives₁⟩ (hbefore s₁ hgives₁) ht hgives₂

/-- What is left of a run that ends arrives at its result. -/
theorem Arrived.run {a : Activity} {patience : Nat} {result : Except Error Reply} {n' : Node}
    (h : Arrived env s₀ op n₀ es (.ok (.again a)) n s)
    (hrun : a.run env patience n s = (some result, n', s')) :
    ∃ es', Arrived env s₀ op n₀ es' (result.map .finish) n' s' := by
  induction patience generalizing a es n s with
  | zero => cases hrun
  | succ patience ih =>
    have hturn := h.turn
    unfold Action.Yields at hturn
    unfold Activity.run at hrun
    obtain ⟨es', -, -, harrived⟩ := hturn
    split at hrun
    · rename_i hagain
      rw [hagain] at harrived
      exact ih harrived hrun
    · rename_i hfinish
      rw [hfinish] at harrived
      cases hrun
      exact ⟨_, harrived⟩
    · rename_i herror
      rw [herror] at harrived
      cases hrun
      exact ⟨_, harrived⟩

/-- **A run that ends arrives at its result**, in whatever surroundings. -/
theorem Operation.run_arrives {patience : Nat} {result : Except Error Reply} {n' : Node}
    (hrun : op.run env patience n₀ s₀ = (some result, n', s')) :
    ∃ es, Arrived env s₀ op n₀ es (result.map .finish) n' s' := by
  have hstart := Arrived.start env s₀ op n₀
  unfold Action.Yields at hstart
  unfold Operation.run at hrun
  obtain ⟨es, -, harrived⟩ := hstart
  split at hrun
  · rename_i hagain
    rw [hagain] at harrived
    exact harrived.run hrun
  · rename_i hfinish
    rw [hfinish] at harrived
    cases hrun
    exact ⟨es, harrived⟩
  · rename_i herror
    rw [herror] at harrived
    cases hrun
    exact ⟨es, harrived⟩

end

section

variable {n₀ n : Node} {dst : Address} {payload : Bytes} {retries timeout : Nat} {s₀ : σ}
  {es : List Exchange} {send : Send}

/-- The send has ended with an outcome. -/
def EndsWell (env : Surroundings σ) (s₀ : σ) (op : Operation) (n₀ : Node) (s : σ)
    (result : Except Error Reply) : Prop :=
  ∃ outcome es n, result = .ok (.outcome outcome) ∧
    Arrived env s₀ op n₀ es (.ok (.finish (.outcome outcome))) n s

/-- **A send comes to its end**, from wherever it has come to. -/
theorem Arrived.comes (ho : Orderly env clock) (hc : n₀.config.frame.Valid)
    (hdst : dst ≠ Address.broadcast) (hsize : payload.length ≤ n₀.config.frame.maxPayload)
    (hinterval : 0 < n₀.config.pollInterval) (hload : timeout ≠ 0 → RunsOut env load)
    (hclock : clock s₀ + max retries 1 * timeout < Deadline.beyond)
    (h : Arrived env s₀ (.sendReliableWith dst payload retries timeout) n₀ es
      (.ok (.again (.sending send))) n s) :
    (Activity.sending send).Comes env s n
      (EndsWell env s₀ (.sendReliableWith dst payload retries timeout) n₀) := by
  have hlex : WellFounded (Prod.Lex (· < ·) (Prod.Lex (· < ·) (· < ·)) :
      Nat × Nat × Nat → Nat × Nat × Nat → Prop) := WellFoundedRelation.wf
  generalize hdistance : send.distance timeout (load s) es = distance
  induction distance using hlex.induction generalizing es send n s with
  | _ distance ih =>
    subst hdistance
    refine Activity.Comes.turn (h.turn.imp fun s' n' r hr => ?_)
    obtain ⟨es', hturning, hgives, harrived⟩ := hr
    obtain ⟨hon, -, hworked⟩ := ho.gives harrived.gives
    have hpacing : Pacing n₀ dst payload _ (clock s₀) timeout (es ++ es') r n' :=
      harrived.reaches.pacing hdst hc
    have htimely := hpacing.timely hon (.inl hclock)
    rcases r with e | a | reply
    · obtain ⟨-, _, hpayload, hexceeds, -⟩ :=
        harrived.reaches.mayEnd hc (.here _) (by simpa using hworked)
      cases hpayload
      exact absurd hsize (Nat.not_le_of_lt hexceeds)
    · obtain ⟨send', rfl, hkeeping⟩ := htimely.again a rfl
      obtain ⟨hconfig, -⟩ := h.reaches.mayEnd hc (.here _)
        (by simpa using (ho.gives h.gives).2.2)
      refine ih _ ?_ harrived rfl
      refine (hturning.advances (hconfig ▸ hinterval)).distance_lt hkeeping.within ?_
      intro hunpaused hheard
      obtain ⟨reception, hreception⟩ := List.exists_mem_of_ne_nil _ hheard
      -- A frame is only taken while there is time to wait.
      have htimeout : timeout ≠ 0 := by
        rintro rfl
        obtain ⟨e, he, hsome⟩ := List.mem_filterMap.1 hreception
        have hunpolled := htimely.unpolled e (List.mem_append_right es he)
        rw [Exchange.eq_of_heard hsome] at hunpolled
        cases hunpolled
      have hfewer := (hload htimeout).gives hgives hunpaused
      have hpositive := List.length_pos_of_mem hreception
      omega
    · obtain ⟨outcome, rfl, -⟩ := htimely.ends reply rfl
      exact ⟨outcome, es ++ es', n', rfl, harrived⟩

/-- **So does one that begins.** -/
theorem Arrived.resumes (ho : Orderly env clock) (hc : n₀.config.frame.Valid)
    (hdst : dst ≠ Address.broadcast) (hsize : payload.length ≤ n₀.config.frame.maxPayload)
    (hinterval : 0 < n₀.config.pollInterval) (hload : timeout ≠ 0 → RunsOut env load)
    (hclock : clock s₀ + max retries 1 * timeout < Deadline.beyond) :
    (Operation.sendReliableWith dst payload retries timeout).start.Yields env s₀ n₀
      (Activity.Resumes env
        (EndsWell env s₀ (.sendReliableWith dst payload retries timeout) n₀)) := by
  refine (Arrived.start env s₀ _ n₀).imp fun s n r hr => ?_
  obtain ⟨es, hstarting, harrived⟩ := hr
  cases hstarting with
  | sending hop hd =>
    obtain rfl := Option.some.inj hop
    cases hd with
    | oversized hlarge => exact absurd hsize (Nat.not_le_of_lt hlarge)
    | once _ hsingle hp => simp [Errand.single, hdst] at hsingle
    | awaited _ hd _ t => exact harrived.comes ho hc hdst hsize hinterval hload hclock

end

/-- **A send with acknowledgment keeps the time exactly**, on a clock that only its own pauses move,
whatever comes in and whenever.  A copy is sent when the time of those before it is over.  The radio
is looked at only while there is time left to the copy at hand, and a pause lasts no longer than
that, nor than is configured; none comes after the acknowledgment.  The outcome tells the time that
has passed, which is all attempts times the timeout if it is given up.

With a radio that works, and unless frames come in for ever at one time, it comes to such an end.
Without any time to wait it is given up at once, and the radio never looked at. -/
theorem Operation.sends_in_time {n : Node} (hc : n.config.frame.Valid) {dst : Address}
    (hdst : dst ≠ Address.broadcast) (payload : Bytes) (retries timeout : Nat) :
    (∀ es r n' start,
      (Operation.sendReliableWith dst payload retries timeout).Reaches n es (.done (r, n')) →
      OnTime start es → InRange start (max retries 1) timeout es →
        Timely n dst (max retries 1) start timeout es r ∧
        (timeout = 0 → ∀ e ∈ es, e.looks = false)) ∧
    ∀ (σ : Type) (env : Surroundings σ) (clock : σ → Nat) (s : σ), Orderly env clock →
      payload.length ≤ n.config.frame.maxPayload → 0 < n.config.pollInterval →
      (timeout = 0 ∨ ∃ load, RunsOut env load) →
      clock s + max retries 1 * timeout < Deadline.beyond →
        ∃ enough, ∀ patience, enough ≤ patience → ∃ outcome es n₁ n' s',
          (Operation.sendReliableWith dst payload retries timeout).run env patience n s =
            (some (.ok (.outcome outcome)), n', s') ∧
          Arrived env s (.sendReliableWith dst payload retries timeout) n es
            (.ok (.finish (.outcome outcome))) n₁ s' ∧
          OnTime (clock s) es ∧ clock s' = clock s + Exchange.slept es ∧
          Lasts n.nextId (max retries 1) timeout outcome (Exchange.slept es) ∧
          (timeout = 0 → outcome = .failed n.nextId (max retries 1) 0) := by
  have htimely : ∀ {es r n' start},
      (Operation.sendReliableWith dst payload retries timeout).Reaches n es (.done (r, n')) →
      OnTime start es → InRange start (max retries 1) timeout es →
        Timely n dst (max retries 1) start timeout es r :=
    fun hreach hon hrange => (hreach.pacing hdst hc).timely hon hrange
  refine ⟨fun es r n' start hreach hon hrange => ⟨htimely hreach hon hrange, ?_⟩, ?_⟩
  · rintro rfl
    exact (htimely hreach hon hrange).unpolled
  · intro σ env clock s ho hsize hinterval hload hclock
    obtain ⟨load, hload⟩ : ∃ load, timeout ≠ 0 → RunsOut env load := by
      rcases hload with hzero | ⟨load, hload⟩
      · exact ⟨fun _ => 0, fun hnot => absurd hzero hnot⟩
      · exact ⟨load, fun _ => hload⟩
    obtain ⟨enough, henough⟩ := Operation.enough_patience
      (Arrived.resumes ho hc hdst hsize hinterval hload hclock)
    refine ⟨enough, fun patience hle => ?_⟩
    obtain ⟨_, n', s', hrun, outcome, es, n₁, rfl, harrived⟩ := henough patience hle
    obtain ⟨hon, hpassed, -⟩ := ho.gives harrived.gives
    obtain ⟨_, ⟨⟩, hlasts⟩ := (htimely harrived.reaches hon (.inl hclock)).ends _ rfl
    refine ⟨outcome, es, n₁, n', s', hrun, harrived, hon, hpassed, hlasts, ?_⟩
    rintro rfl
    exact hlasts.eq_failed

/-- Surroundings in which nothing ever comes in.  Their state is the time. -/
def Surroundings.silent : Surroundings Nat where
  answer
    | .now, t => (t, t)
    | .sleep duration, t => ((), t + duration)
    | .mode, t => (.receive, t)
    | .radio .frameReady, t => (.ok false, t)
    | .radio .receive, t => (.ok none, t)
    | .radio .init, t => (.ok (), t)
    | .radio (.setAddress _ _), t => (.ok (), t)
    | .radio (.setMode _), t => (.ok (), t)
    | .radio (.transmit _), t => (.ok (), t)
    | .stopped _, t => (false, t)
    | .offer _ _, t => (true, t)
    | .kept _, t => ((), t)

theorem Surroundings.silent_orderly : Orderly silent fun t => t where
  tells _ := rfl
  passes _ _ := rfl
  stands r s hr := by
    cases r with
    | sleep duration => exact absurd rfl (hr duration)
    | radio call => cases call <;> rfl
    | _ => rfl
  works call s failure := by cases call <;> nofun

theorem Surroundings.silent_runsOut : RunsOut silent fun _ => 0 where
  stays _ _ _ := Nat.le_refl 0
  falls _ _ h := by cases h

set_option maxRecDepth 2000 in
/-- A fresh node that pauses for 2 at most sends to node 2, with a timeout of 3.  It pauses for 2,
then for 1, sends again at 3, and takes the acknowledgment at once.  Where nothing ever comes in the
send ends too. -/
theorem sends_in_time_acked :
    (∃ (es : List Exchange) (n' : Node),
      (Operation.sendReliableWith 2 [7] 2 3).Reaches (Node.fresh { pollInterval := 2 }) es
        (.done (.ok (.finish (.outcome (.acked 0 2 3))), n')) ∧
      es.filterMap Exchange.pause = [2, 1] ∧
      Timely (Node.fresh { pollInterval := 2 }) 2 2 0 3 es
        (.ok (.finish (.outcome (.acked 0 2 3))))) ∧
    ∃ patience outcome n' elapsed,
      (Operation.sendReliableWith 2 [7] 2 3).run .silent patience
        (Node.fresh { pollInterval := 2 }) 0 = (some (.ok (.outcome outcome)), n', elapsed) ∧
      Lasts 0 2 3 outcome elapsed := by
  have hvalid : (Node.fresh { pollInterval := 2 }).config.frame.Valid :=
    (bringUp_path bringUp_usual).1.frame
  have hdst : (2 : Address) ≠ Address.broadcast := by decide
  obtain ⟨hpath, hrun⟩ := Operation.sends_in_time hvalid hdst [7] 2 3
  constructor
  · obtain ⟨es, n', hreach, hpauses, hon⟩ : ∃ es n',
        (Operation.sendReliableWith 2 [7] 2 3).Reaches (Node.fresh { pollInterval := 2 }) es
          (.done (.ok (.finish (.outcome (.acked 0 2 3))), n')) ∧
        es.filterMap Exchange.pause = [2, 1] ∧ OnTime 0 es := by
      have hbegun : (Operation.sendReliableWith 2 [7] 2 3).Reaches
        (Node.fresh { pollInterval := 2 }) [] _ := .begun
      have hstarted := (hbegun.asked (r := .now) (0 : Nat)).turned
      have hfirst := (hstarted.asked (r := .radio (.setMode .transmit)) (.ok ())).asked
        (r := .radio (.transmit _)) (.ok ())
      have hwaits := ((hfirst.asked (r := .radio (.setMode .receive)) (.ok ())).asked
        (r := .now) (0 : Nat)).turned
      have hnothing := ((hwaits.asked (r := .now) (0 : Nat)).asked (r := .mode) .receive).asked
        (r := .radio .frameReady) (.ok false)
      have hpaused := (hnothing.asked (r := .sleep 2) ()).turned
      have hstill := ((hpaused.asked (r := .now) (2 : Nat)).asked (r := .mode) .receive).asked
        (r := .radio .frameReady) (.ok false)
      have hlate := ((hstill.asked (r := .sleep 1) ()).turned.asked (r := .now) (3 : Nat)).turned
      have hsecond := (hlate.asked (r := .radio (.setMode .transmit)) (.ok ())).asked
        (r := .radio (.transmit _)) (.ok ())
      have hagain := ((hsecond.asked (r := .radio (.setMode .receive)) (.ok ())).asked
        (r := .now) (3 : Nat)).turned
      have hready := ((hagain.asked (r := .now) (3 : Nat)).asked (r := .mode) .receive).asked
        (r := .radio .frameReady) (.ok true)
      have htaken := hready.asked (r := .radio .receive)
        (.ok (some ⟨(⟨⟨1, 2, 0, Flag.ack⟩, []⟩ : Frame).wire {}, -40⟩))
      have hlooked := (htaken.asked (r := .radio (.setMode .receive)) (.ok ())).turned
      refine ⟨_, _, hlooked.asked (r := .now) (3 : Nat), rfl, ?_⟩
      simp only [List.nil_append, List.cons_append, onTime_cons, Exchange.told, Option.some.injEq,
        forall_eq', reduceCtorEq, IsEmpty.forall_iff, implies_true, true_and]
      exact ⟨rfl, rfl, rfl, rfl, rfl, rfl, rfl, throughout_nil⟩
    exact ⟨es, n', hreach, hpauses, (hpath es _ n' 0 hreach hon (.inl (by decide))).1⟩
  · obtain ⟨enough, hends⟩ := hrun Nat .silent _ 0 Surroundings.silent_orderly (by decide)
      (by decide) (.inr ⟨_, Surroundings.silent_runsOut⟩) (by decide)
    obtain ⟨outcome, es, -, n', s', hresult, -, -, hpassed, hlasts, -⟩ :=
      hends enough (Nat.le_refl _)
    refine ⟨enough, outcome, n', s', hresult, ?_⟩
    rw [hpassed, Nat.zero_add]
    exact hlasts

end Link
end PacketRadio
