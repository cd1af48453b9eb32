/-
# Waiting alone comes to an end

rflink specification, §5: a pause of `poll_interval` when idle.

A node has the medium to itself: frames may wait at its station, but no other
station acts.  Its clock may run on its own, and a pause may last longer than
it was meant to; neither goes back.  So a look at the radio uses up one of two
things.

| a look at the radio that | uses up |
| --- | --- |
| takes something | a frame that waited |
| takes nothing | a pause: the interval, or what is left to the deadline |

A deadline `T` ahead is worth `T / p` pauses of length `p`, rounded up, since
the last of them may be cut short.

Main statements: `Turning.within`, by which a turn spends what it is allowed
to, and `Arrived.within` for a whole operation.
-/

import PacketRadio.Proofs.Link.Expiry
import PacketRadio.Proofs.Network.Ownership
import Mathlib.Algebra.Order.Floor.Div

namespace PacketRadio
namespace Link

open PacketRadio.Link.Action

/-! ## Intervals -/

/-- **A pause uses up an interval**, even if it is cut short. -/
theorem ceilDiv_pause {p rest : Nat} (hp : 0 < p) (hrest : 0 < rest) :
    (rest - min p rest) ⌈/⌉ p + 1 ≤ rest ⌈/⌉ p := by
  have hcover : rest ≤ p * (rest ⌈/⌉ p) := (ceilDiv_le_iff_le_mul hp).1 (Nat.le_refl _)
  obtain ⟨k, hk⟩ : ∃ k, rest ⌈/⌉ p = k + 1 := by
    refine Nat.exists_eq_succ_of_ne_zero fun hzero => ?_
    rw [hzero, Nat.mul_zero] at hcover
    omega
  rw [hk, Nat.mul_succ] at hcover
  rw [hk, Nat.add_le_add_iff_right, ceilDiv_le_iff_le_mul hp]
  omega

/-- What is less takes no more intervals. -/
theorem ceilDiv_mono {p a b : Nat} (hab : a ≤ b) : a ⌈/⌉ p ≤ b ⌈/⌉ p := by
  simp only [Nat.ceilDiv_eq_add_pred_div]
  exact Nat.div_le_div_right (by omega)

/-! ## Looks -/

/-- The request with which a look at the radio begins. -/
def Request.isPoll : Request → Bool
  | .mode => true
  | _ => false

/-- How many looks at the radio there are among some exchanges. -/
def Exchange.polls (es : List Exchange) : Nat :=
  es.countP (·.request.isPoll)

section

variable {n n' : Node} {es es' : List Exchange}

@[simp] theorem Exchange.polls_append (es es' : List Exchange) :
    polls (es ++ es') = polls es + polls es' :=
  List.countP_append

theorem Sending.polls_eq {c : Frame.Config} {f : Frame} {r : Except Error Unit}
    (hs : Sending c f es r) : Exchange.polls es = 0 := by
  cases hs <;> rfl

theorem Acknowledging.polls_eq {h : Header} {r : Except Error Unit}
    (hk : Acknowledging n h es n' r) : Exchange.polls es = 0 := by
  cases hk with
  | unowed ho => rfl
  | failed ho hs => exact hs.polls_eq
  | sent ho hs => exact hs.polls_eq

theorem Delivering.polls_eq {d : Delivery} {taken : Bool} (hs : Delivering n d es n' taken) :
    Exchange.polls es = 0 := by
  cases hs <;> rfl

theorem Handling.polls_eq {r : Radio.Reception} {event : Except Error PollEvent}
    (hh : Handling n r es n' event) : Exchange.polls es = 0 := by
  cases hh with
  | duplicate ht hack hd hk => exact hk.polls_eq
  | overflowed ht hack hd hs => exact hs.polls_eq
  | delivered ht hack hd hs hk => rw [Exchange.polls_append, hs.polls_eq, hk.polls_eq]
  | _ => rfl

theorem Looking.polls_eq {event : Except Error PollEvent} (hl : Looking n es n' event) :
    Exchange.polls es = 0 := by
  cases hl with
  | failed failure => rfl
  | nothing => rfl
  | @ready es n' event hf restored =>
    have hfetched : Exchange.polls es = 0 := by
      cases hf with
      | failed failure => rfl
      | nothing => rfl
      | taken r hh => exact hh.polls_eq
    rw [List.cons_append, ← List.singleton_append, Exchange.polls_append, Exchange.polls_append,
      hfetched]
    rfl

/-- **A look at the radio is one.** -/
theorem Polling.polls_eq {event : Except Error PollEvent} (hp : Polling n es n' event) :
    Exchange.polls es = 1 := by
  cases hp with
  | deaf hm failure => rfl
  | @roused m hm es n' event hl =>
    have hlooked : Exchange.polls (⟨.mode, m⟩ :: ⟨.radio (.setMode .receive), .ok ()⟩ :: es) =
        Exchange.polls es + 1 := by
      simp [Exchange.polls, Request.isPoll]
    rw [hlooked, hl.polls_eq]
  | @awake es n' event hl =>
    have hlooked : Exchange.polls (⟨.mode, .receive⟩ :: es) = Exchange.polls es + 1 := by
      simp [Exchange.polls, Request.isPoll]
    rw [hlooked, hl.polls_eq]

theorem Watching.polls_eq {length : Nat} {r : Except Error Unit}
    (hw : Watching n length es n' r) : Exchange.polls es = 1 := by
  cases hw with
  | failed hp => exact hp.polls_eq
  | taken hp he => exact hp.polls_eq
  | paused hp =>
    rw [Exchange.polls_append, hp.polls_eq]
    rfl

theorem Timing.polls_eq {deadline : Deadline} {rest : Option Nat} (ht : Timing deadline es rest) :
    Exchange.polls es = 0 := by
  cases ht <;> rfl

theorem Dispatching.polls_eq {d : Errand} {r : Except Error (Turn Activity Reply)}
    (hd : Dispatching n d es n' r) : Exchange.polls es = 0 := by
  cases hd with
  | oversized hsize => rfl
  | once hsize hd hp => exact hp.sending.polls_eq
  | awaited hsize hd hdst t => rfl

end

/-! ## A medium to itself -/

/-- The radio is at station `i` of a medium on which no other station acts.  The clock tells the
time and does not go back, and a pause takes at least its time. -/
structure Alone {σ : Type} (env : Surroundings σ) (i : Nat) (medium : σ → Medium)
    (clock : σ → Nat) : Prop where
  /-- The medium answers calls to the radio. -/
  calls : ∀ call s, (env.answer (.radio call) s).1 = ((medium s).call i call).1 ∧
    medium (env.answer (.radio call) s).2 = ((medium s).call i call).2
  /-- It knows the mode. -/
  mode : ∀ s, (env.answer .mode s).1 = (medium s).mode i
  /-- Nothing else changes it. -/
  apart : ∀ r s, (∀ call, r ≠ .radio call) → medium (env.answer r s).2 = medium s
  /-- The clock tells the time. -/
  tells : ∀ s, (env.answer .now s).1 = clock s
  /-- It does not go back. -/
  forward : ∀ r s, clock s ≤ clock (env.answer r s).2
  /-- A pause takes at least its time. -/
  passes : ∀ duration s, clock s + duration ≤ clock (env.answer (.sleep duration) s).2

section

variable {σ : Type} {env : Surroundings σ} {i : Nat} {medium : σ → Medium} {clock : σ → Nat}
  {s s' : σ} {es : List Exchange}

namespace Alone

/-- What is taken had waited, no radio leaves, and time passes. -/
theorem answer (ha : Alone env i medium clock) (r : Request) (s : σ) :
    (Exchange.heard ⟨r, (env.answer r s).1⟩).toList ++ (medium (env.answer r s).2).fifo i =
        (medium s).fifo i ∧
      (medium (env.answer r s).2).present = (medium s).present ∧
      clock s + Exchange.slept [⟨r, (env.answer r s).1⟩] ≤ clock (env.answer r s).2 := by
  by_cases hradio : ∃ call, r = .radio call
  · obtain ⟨call, rfl⟩ := hradio
    obtain ⟨hanswer, hmedium⟩ := ha.calls call s
    rw [hanswer, hmedium]
    exact ⟨(medium s).fifo_call_self i call, (medium s).present_call i call, ha.forward _ s⟩
  · rw [ha.apart r s fun call hr => hradio ⟨call, hr⟩]
    have hforward := ha.forward r s
    cases r with
    | radio call => exact absurd ⟨call, rfl⟩ hradio
    | sleep duration => exact ⟨rfl, rfl, ha.passes duration s⟩
    | _ => exact ⟨rfl, rfl, hforward⟩

/-- **Every frame that is taken had waited at the beginning**, and the clock runs on by the pauses
at least. -/
theorem gives (ha : Alone env i medium clock) (h : env.Gives s es s') :
    es.filterMap Exchange.heard ++ (medium s').fifo i = (medium s).fifo i ∧
      (medium s').present = (medium s).present ∧ clock s + Exchange.slept es ≤ clock s' := by
  induction h with
  | nothing s => exact ⟨rfl, rfl, Nat.le_refl _⟩
  | @answer r s s' es rest ih =>
    obtain ⟨htaken, hpresent, hclock⟩ := ha.answer r s
    obtain ⟨htaken', hpresent', hclock'⟩ := ih
    refine ⟨?_, hpresent'.trans hpresent, ?_⟩
    · rw [← htaken, ← htaken', ← List.append_assoc, List.filterMap_cons]
      cases Exchange.heard ⟨r, (env.answer r s).1⟩ <;> rfl
    · rw [← List.singleton_append, Exchange.slept_append]
      omega

/-- There wait fewer frames by those that were taken. -/
theorem frames_eq (ha : Alone env i medium clock) (h : env.Gives s es s') :
    (es.filterMap Exchange.heard).length + ((medium s').fifo i).length =
      ((medium s).fifo i).length := by
  rw [← List.length_append, (ha.gives h).1]

/-- **Every time that is told lies between the beginning and the end.** -/
theorem told (ha : Alone env i medium clock) (h : env.Gives s es s') {t : Nat}
    (ht : t ∈ es.filterMap Exchange.told) : clock s ≤ t ∧ t ≤ clock s' := by
  induction h with
  | nothing s => cases ht
  | @answer r s s' es rest ih =>
    have hforward := ha.forward r s
    have hpassed := (ha.gives rest).2.2
    cases htold : Exchange.told ⟨r, (env.answer r s).1⟩ with
    | none =>
      rw [List.filterMap_cons_none htold] at ht
      exact ⟨hforward.trans (ih ht).1, (ih ht).2⟩
    | some t' =>
      rw [List.filterMap_cons_some htold] at ht
      rcases List.mem_cons.1 ht with rfl | hlater
      · have hclock : clock s = t := by
          cases r with
          | now => exact (ha.tells s).symm.trans (Option.some.inj htold)
          | _ => cases htold
        omega
      · exact ⟨hforward.trans (ih hlater).1, (ih hlater).2⟩

end Alone

/-! ## What a wait is allowed -/

/-- How many pauses of length `p` there are until a deadline, the last of them cut short. -/
def Deadline.pauses (p now : Nat) (deadline : Deadline) : Nat :=
  (deadline.getD 0 - now) ⌈/⌉ p

/-- There are no more until a deadline than its timeout is worth. -/
theorem Deadline.pauses_after {t now : Nat} (p timeout : Nat) (hnow : t ≤ now) :
    Deadline.pauses p now (Deadline.after t timeout) ≤ timeout ⌈/⌉ p := by
  refine ceilDiv_mono ?_
  unfold Deadline.after
  split
  · rw [Option.getD_some]
    omega
  · rw [Option.getD_none]
    omega

/-- The pauses that a send may still make: all of an attempt for every one that is left, and those
until the deadline of the copy at hand. -/
def Send.pauses (p now : Nat) (s : Send) : Nat :=
  (s.attempts - s.attempt) * (s.timeout ⌈/⌉ p) + match s.phase with
    | .transmitting => s.timeout ⌈/⌉ p
    | .waiting deadline => Deadline.pauses p now deadline

/-- The pauses that are left to an operation under way; one that listens has no deadline. -/
def Activity.pauses (p now : Nat) : Activity → Nat
  | .receiving deadline => Deadline.pauses p now deadline
  | .listening _ => 0
  | .sending s => s.pauses p now

/-- The operation waits for an instant, if it waits. -/
def Activity.Timed : Activity → Prop
  | .receiving deadline => deadline ≠ none
  | .listening _ => False
  | .sending s => s.phase ≠ .waiting none

/-- The looks at the radio that are allowed after the end of a turn, when so many frames wait: one
for each frame and one for each pause. -/
def Turn.allowance (p frames now : Nat) : Except Error (Turn Activity Reply) → Nat
  | .ok (.again a) => frames + a.pauses p now
  | _ => 0

/-- How many copies and waits an operation has before it. -/
def Activity.ahead : Activity → Nat
  | .sending s => s.ahead
  | _ => 0

section

variable {n n' : Node} {p instant : Nat}

/-- **A look at the radio takes a frame or is followed by a pause**, and leaves as much less to the
wait. -/
theorem Watching.within (ha : Alone env i medium clock) (hp : 0 < p) {rest : Nat}
    {es₁ es₂ : List Exchange} (ht : Timing (some instant) es₁ (some rest))
    (hw : Watching n (min p rest) es₂ n' (.ok ())) (hg : env.Gives s (es₁ ++ es₂) s') :
    ((medium s').fifo i).length + Deadline.pauses p (clock s') (some instant) + 1 ≤
      ((medium s).fifo i).length + Deadline.pauses p (clock s) (some instant) := by
  have hrest := ht.rest_pos
  generalize hr : some rest = r at ht
  cases ht with
  | read _ t =>
    rw [Deadline.left] at hr
    split at hr
    · obtain rfl := Option.some.inj hr
      have hframes := ha.frames_eq hg
      have hclock := (ha.gives hg).2.2
      have hfirst := (ha.told hg (List.mem_cons_self : t ∈ _)).1
      simp only [Deadline.pauses, Option.getD_some]
      cases hw with
      | taken hl he =>
        have hheard := List.length_pos_of_ne_nil (hl.heard he)
        have hpauses : (instant - clock s') ⌈/⌉ p ≤ (instant - clock s) ⌈/⌉ p :=
          ceilDiv_mono (by omega)
        rw [List.filterMap_append, List.length_append] at hframes
        omega
      | @paused es n' hl =>
        obtain ⟨s₁, hg₁, hg₂⟩ := hg.split
        have hlast := (ha.told hg₁ (List.mem_cons_self : t ∈ _)).2
        have hpassed := (ha.gives hg₂).2.2
        rw [Exchange.slept_append, Exchange.slept_sleep] at hpassed
        have hpause := ceilDiv_pause hp hrest
        have hbefore : (instant - t) ⌈/⌉ p ≤ (instant - clock s) ⌈/⌉ p :=
          ceilDiv_mono (by omega)
        have hafter : (instant - clock s') ⌈/⌉ p ≤ (instant - t - min p (instant - t)) ⌈/⌉ p :=
          ceilDiv_mono (by omega)
        omega
    · cases hr

/-- While there is time left there is a pause left. -/
theorem Timing.pauses_pos (ha : Alone env i medium clock) (hp : 0 < p) {deadline : Deadline}
    {rest : Nat} (ht : Timing deadline es (some rest)) (hdeadline : deadline ≠ none)
    (hg : env.Gives s (es ++ es') s') : 0 < Deadline.pauses p (clock s) deadline := by
  have hrest := ht.rest_pos
  generalize hr : some rest = r at ht
  cases ht with
  | endless => exact absurd rfl hdeadline
  | read instant t =>
    rw [Deadline.left] at hr
    split at hr
    · have hfirst := (ha.told hg (List.mem_cons_self : t ∈ _)).1
      have hleft : 0 < instant - clock s := by omega
      have hpause := ceilDiv_pause hp hleft
      simp only [Deadline.pauses, Option.getD_some]
      omega
    · cases hr

/-- **A turn of a send looks at the radio no more than it is allowed to.** -/
theorem Pursuing.within (ha : Alone env i medium clock) (hp : 0 < n.config.pollInterval)
    {send : Send} (htimed : send.phase ≠ .waiting none)
    {r : Except Error (Turn Send SendOutcome)} (ht : Pursuing n send es n' r)
    (hg : env.Gives s es s') :
    Exchange.polls es + Turn.allowance n.config.pollInterval ((medium s').fifo i).length (clock s')
        (r.map (Turn.map .sending .outcome)) ≤
      ((medium s).fifo i).length + send.pauses n.config.pollInterval (clock s) := by
  have hframes := ha.frames_eq hg
  cases ht with
  | @copied es n' hphase hpost t =>
    have htold : t ∈ (es ++ [(⟨.now, t⟩ : Exchange)]).filterMap Exchange.told := by
      rw [List.filterMap_append]
      exact List.mem_append_right _ List.mem_cons_self
    have hpauses := Deadline.pauses_after n.config.pollInterval send.timeout (ha.told hg htold).2
    have hpolls : Exchange.polls (es ++ [⟨.now, t⟩]) = 0 := by
      rw [Exchange.polls_append, hpost.sending.polls_eq]
      rfl
    rw [hpolls]
    simp only [Except.map, Turn.map, Turn.allowance, Activity.pauses, Send.pauses, hphase]
    omega
  | unsent hphase hpost =>
    rw [hpost.sending.polls_eq]
    exact Nat.zero_le _
  | acked hphase hacked t => exact Nat.zero_le _
  | @watched deadline rest es₁ es₂ n' hphase hunacked ht hw =>
    obtain ⟨instant, rfl⟩ : ∃ instant, deadline = some instant :=
      Option.ne_none_iff_exists'.1 fun hnone => htimed (hnone ▸ hphase)
    have hwithin := hw.within ha hp ht hg
    rw [Exchange.polls_append, ht.polls_eq, hw.polls_eq]
    simp only [Except.map, Turn.map, Turn.allowance, Activity.pauses, Send.pauses, hphase]
    omega
  | @unwatched deadline rest es₁ es₂ n' e hphase hunacked ht hw =>
    have hpause := ht.pauses_pos ha hp (fun hnone => htimed (hnone ▸ hphase)) hg
    rw [Exchange.polls_append, ht.polls_eq, hw.polls_eq]
    simp only [Except.map, Turn.allowance, Send.pauses, hphase]
    omega
  | retried hphase hunacked ht hmore =>
    have hone : send.attempts - send.attempt = (send.attempts - (send.attempt + 1)) + 1 := by omega
    rw [ht.polls_eq]
    simp only [Except.map, Turn.map, Turn.allowance, Activity.pauses, Send.pauses, hphase]
    rw [hone, Nat.succ_mul]
    omega
  | exhausted hphase hunacked ht hmore t =>
    rw [Exchange.polls_append, ht.polls_eq]
    exact Nat.zero_le _

/-- **So does a turn of any operation that does not wait for ever.** -/
theorem Turning.within (ha : Alone env i medium clock) (hp : 0 < n.config.pollInterval)
    {a : Activity} (htimed : a.Timed) {r : Except Error (Turn Activity Reply)}
    (ht : Turning n a es n' r) (hg : env.Gives s es s') :
    Exchange.polls es +
        Turn.allowance n.config.pollInterval ((medium s').fifo i).length (clock s') r ≤
      ((medium s).fifo i).length + a.pauses n.config.pollInterval (clock s) := by
  cases ht with
  | received deadline hd => exact Nat.zero_le _
  | expired hd ht =>
    rw [ht.polls_eq]
    exact Nat.zero_le _
  | @waited deadline rest es₁ es₂ n' r hd ht hw =>
    rw [Exchange.polls_append, ht.polls_eq, hw.polls_eq]
    cases r with
    | error e =>
      have hpause := ht.pauses_pos ha hp htimed hg
      simp only [Except.map, Turn.allowance, Activity.pauses]
      omega
    | ok u =>
      obtain ⟨instant, rfl⟩ := Option.ne_none_iff_exists'.1 htimed
      have hwithin := hw.within ha hp ht hg
      simp only [Except.map, Turn.allowance, Activity.pauses]
      omega
  | stopped => exact htimed.elim
  | listened => exact htimed.elim
  | broken => exact htimed.elim
  | sending hs => exact hs.within ha hp htimed hg

/-- **A turn that does not look at the radio has less before it.** -/
theorem Turning.ahead_lt {a a' : Activity} (htimed : a.Timed)
    (ht : Turning n a es n' (.ok (.again a'))) : a'.ahead < a.ahead + Exchange.polls es := by
  generalize hr : Except.ok (Turn.again a') = r at ht
  cases ht with
  | received deadline hd => cases hr
  | expired hd ht => cases hr
  | @waited deadline rest es₁ es₂ n' r hd ht hw =>
    cases r with
    | error e => cases hr
    | ok u =>
      cases hr
      rw [Exchange.polls_append, hw.polls_eq]
      exact Nat.succ_pos _
  | stopped => exact htimed.elim
  | listened => exact htimed.elim
  | broken => exact htimed.elim
  | @sending send es n' r hs =>
    cases hs with
    | copied hphase hpost t =>
      cases hr
      simp only [Activity.ahead, Send.ahead, hphase]
      omega
    | watched hphase hunacked ht hw =>
      cases hr
      rw [Exchange.polls_append, hw.polls_eq]
      exact Nat.lt_succ_of_le (Nat.le_add_right _ _)
    | retried hphase hunacked ht hmore =>
      cases hr
      simp only [Activity.ahead, Send.ahead, hphase]
      omega
    | _ => cases hr

/-! ## Whole waits -/

variable {op : Operation} {n₀ : Node} {s₀ : σ} {r : Except Error (Turn Activity Reply)}

/-- Every deadline that the operation sets is an instant that the clock can tell. -/
def Operation.Timed (env : Surroundings σ) (s₀ : σ) (op : Operation) (n₀ : Node) : Prop :=
  ∀ es a n s, Arrived env s₀ op n₀ es (.ok (.again a)) n s → a.Timed

/-- The operation may begin with so many looks at the radio before it. -/
def Operation.Allowed (env : Surroundings σ) (i : Nat) (medium : σ → Medium) (clock : σ → Nat)
    (s₀ : σ) (op : Operation) (n₀ : Node) (total : Nat) : Prop :=
  ∀ es r n s, Starting n₀ op es n r → env.Gives s₀ es s →
    Exchange.polls es + Turn.allowance n₀.config.pollInterval ((medium s).fifo i).length (clock s) r
      ≤ total

/-- A send may look once for every frame that waits, and once for every pause of every attempt. -/
theorem Alone.send_allowed (ha : Alone env i medium clock) (dst : Address) (payload : Bytes)
    (retries timeout : Nat) :
    (Operation.sendReliableWith dst payload retries timeout).Allowed env i medium clock s₀ n₀
      (((medium s₀).fifo i).length + max retries 1 * (timeout ⌈/⌉ n₀.config.pollInterval)) := by
  intro es r n s hs hg
  have hframes := ha.frames_eq hg
  cases hs with
  | sending hop hd =>
    rw [hd.polls_eq]
    obtain rfl := Option.some.inj hop
    cases hd with
    | oversized hsize => exact Nat.zero_le _
    | @once es n r hsize hd hp => cases r <;> exact Nat.zero_le _
    | awaited hsize hd hdst t =>
      obtain ⟨rfl, rfl⟩ := Prod.mk.inj (Option.some.inj hd)
      have hone : max retries 1 = max retries 1 - 1 + 1 := by omega
      simp only [Turn.allowance, Activity.pauses, Send.pauses, Errand.send]
      rw [hone, Nat.succ_mul, Nat.add_sub_cancel]
      omega

/-- A wait for a delivery may look once for every frame that waits, and once for every pause. -/
theorem Alone.receive_allowed (ha : Alone env i medium clock) (timeout : Nat) :
    (Operation.recvTimeout timeout).Allowed env i medium clock s₀ n₀
      (((medium s₀).fifo i).length + timeout ⌈/⌉ n₀.config.pollInterval) := by
  intro es r n s hs hg
  have hframes := ha.frames_eq hg
  cases hs with
  | receiving _ t =>
    have hpauses := Deadline.pauses_after n₀.config.pollInterval timeout
      (ha.told hg (List.mem_cons_self : t ∈ _)).2
    have hpolls : Exchange.polls [⟨.now, t⟩] = 0 := rfl
    simp only [Turn.allowance, Activity.pauses]
    omega
  | sending hop hd => cases hop

variable {total : Nat}

/-- **However far an operation has come, it has looked at the radio no more than it is allowed
to.** -/
theorem Arrived.within (ha : Alone env i medium clock) (hp : 0 < n₀.config.pollInterval)
    (htimed : op.Timed env s₀ n₀) (hallowed : op.Allowed env i medium clock s₀ n₀ total)
    (h : Arrived env s₀ op n₀ es r n s) :
    Exchange.polls es +
      Turn.allowance n₀.config.pollInterval ((medium s).fifo i).length (clock s) r ≤ total := by
  refine h.upholds (fun es r n s hs hg => hallowed es r n s hs hg) ?_
  intro es a n s es' r n' s' harrived hbefore ht hg
  have hconfig := harrived.reaches.config_eq
  have hwithin := ht.within ha (hconfig ▸ hp) (htimed es a n s harrived) hg
  rw [hconfig] at hwithin
  simp only [Turn.allowance] at hbefore hwithin ⊢
  rw [Exchange.polls_append]
  omega

/-- **An operation comes to an end** from wherever it has come to, if it does not wait for ever. -/
theorem Arrived.comes_alone (ha : Alone env i medium clock) (hp : 0 < n₀.config.pollInterval)
    (htimed : op.Timed env s₀ n₀) {a : Activity}
    (h : Arrived env s₀ op n₀ es (.ok (.again a)) n s) :
    a.Comes env s n fun _ _ => True := by
  generalize hleft : ((medium s).fifo i).length + a.pauses n₀.config.pollInterval (clock s) +
    a.ahead = left
  induction left using Nat.strong_induction_on generalizing a es n s with
  | _ left ih =>
    refine Activity.Comes.turn (h.turn.imp fun s' n' r hr => ?_)
    obtain ⟨es', hturning, hgives, harrived⟩ := hr
    rcases r with e | a' | reply
    · trivial
    · have hwithin := hturning.within ha (h.reaches.config_eq ▸ hp) (htimed es a n s h) hgives
      have hahead := hturning.ahead_lt (htimed es a n s h)
      rw [h.reaches.config_eq] at hwithin
      simp only [Turn.allowance] at hwithin
      exact ih _ (by omega) harrived rfl
    · trivial

/-- The operation returns, by then with so many looks at the radio at most. -/
def Operation.ReturnsWithin (env : Surroundings σ) (s₀ : σ) (op : Operation) (n₀ : Node)
    (total : Nat) : Prop :=
  ∃ enough, ∀ patience, enough ≤ patience → ∃ result n s es,
    op.run env patience n₀ s₀ = (some result, n, s) ∧
    Arrived env s₀ op n₀ es (result.map .finish) n s ∧ Exchange.polls es ≤ total

/-- **An operation that does not wait for ever returns**, and by then it has looked at the radio no
more than it was allowed to. -/
theorem Operation.returns_alone (ha : Alone env i medium clock) (hp : 0 < n₀.config.pollInterval)
    (htimed : op.Timed env s₀ n₀) (hallowed : op.Allowed env i medium clock s₀ n₀ total) :
    op.ReturnsWithin env s₀ n₀ total := by
  obtain ⟨enough, henough⟩ := Operation.enough_patience (Q := fun _ _ => True)
    ((Arrived.start env s₀ op n₀).imp fun s n r hr => by
      obtain ⟨es, -, harrived⟩ := hr
      rcases r with e | a | reply
      · trivial
      · exact harrived.comes_alone ha hp htimed
      · trivial)
  refine ⟨enough, fun patience hle => ?_⟩
  obtain ⟨result, n, s, hrun, -⟩ := henough patience hle
  obtain ⟨es, harrived⟩ := Operation.run_arrives hrun
  have hwithin := harrived.within ha hp htimed hallowed
  exact ⟨result, n, s, es, hrun, harrived, (Nat.le_add_right _ _).trans hwithin⟩

/-- A wait for a delivery sets its deadline once. -/
theorem Alone.receive_timed (ha : Alone env i medium clock) {timeout : Nat}
    (hclock : clock s₀ + timeout < Deadline.beyond) :
    (Operation.recvTimeout timeout).Timed env s₀ n₀ := by
  intro es a n s h
  have hinstant : ∃ instant, a = .receiving (some instant) := by
    refine h.upholds (P := fun _ r _ _ => ∀ a, r = .ok (.again a) → ∃ instant,
      a = .receiving (some instant)) ?_ ?_ a rfl
    · intro es r n s hs hg
      cases hs with
      | receiving _ t =>
        cases hg with
        | answer _ rest =>
          intro a hr
          cases hr
          refine ⟨clock s₀ + timeout, ?_⟩
          rw [ha.tells, Deadline.after, if_pos hclock]
      | sending hop hd => cases hop
    · intro es a n s es' r n' s' _ hbefore ht _ b hr
      obtain ⟨instant, rfl⟩ := hbefore a rfl
      cases ht with
      | received deadline hd => cases hr
      | expired hd ht => cases hr
      | @waited _ rest es₁ es₂ n' r hd ht hw =>
        cases r with
        | error e => cases hr
        | ok u =>
          cases hr
          exact ⟨instant, rfl⟩
  obtain ⟨instant, rfl⟩ := hinstant
  exact Option.some_ne_none instant

/-- On a clock that moves only by the pauses, all that surroundings answer is on time. -/
theorem Alone.onTime (ha : Alone env i medium clock)
    (hexact : ∀ r s, clock (env.answer r s).2 =
      clock s + Exchange.slept [⟨r, (env.answer r s).1⟩])
    (h : env.Gives s es s') : OnTime (clock s) es := by
  induction h with
  | nothing s => exact throughout_nil
  | @answer r s s' es rest ih =>
    rw [hexact] at ih
    refine onTime_cons.2 ⟨fun t ht => ?_, ih⟩
    cases r with
    | now => exact (Option.some.inj ht).symm.trans (ha.tells s)
    | _ => cases ht

/-- There, a send sets no deadline beyond the end of its last attempt. -/
theorem Alone.send_timed (ha : Alone env i medium clock)
    (hexact : ∀ r s, clock (env.answer r s).2 =
      clock s + Exchange.slept [⟨r, (env.answer r s).1⟩])
    (hc : n₀.config.frame.Valid) {dst : Address} (hdst : dst ≠ Address.broadcast)
    (payload : Bytes) {retries timeout : Nat}
    (hclock : clock s₀ + max retries 1 * timeout < Deadline.beyond) :
    (Operation.sendReliableWith dst payload retries timeout).Timed env s₀ n₀ := by
  intro es a n s h
  have hpacing : Pacing n₀ dst payload (max retries 1) (clock s₀) timeout es (.ok (.again a)) n :=
    h.reaches.pacing hdst hc
  have htimely := hpacing.timely (ha.onTime hexact h.gives) (.inl hclock)
  obtain ⟨send, rfl, hkeeping⟩ := htimely.again a rfl
  obtain ⟨_, hsame, hunderway⟩ := hpacing.follows
  cases hsame
  have hpaced := hkeeping.paced
  intro hphase
  replace hphase : send.phase = .waiting none := hphase
  generalize send.phase = phase at hpaced hphase
  cases hpaced with
  | transmitting sharp => cases hphase
  | waiting begun within soon =>
    have hlast : (send.attempt - 1) * timeout + timeout ≤ max retries 1 * timeout := by
      rw [sub_one_mul_add hunderway.first]
      exact Nat.mul_le_mul_right _ (hunderway.allowed ▸ hunderway.last)
    rw [Deadline.after, if_pos (by omega)] at hphase
    cases hphase

end

end

end Link

namespace Network

/-- On a network nobody acts but the node. -/
theorem alone (i : Nat) : Link.Alone (surroundings i) i (·.medium) (·.now) where
  calls call network := ⟨rfl, rfl⟩
  mode network := rfl
  apart r network hr :=
    (answer_medium i r network).resolve_left fun ⟨call, hcall⟩ => hr call hcall
  tells network := rfl
  forward r network := by
    rw [surroundings, answer_now]
    exact Nat.le_add_right _ _
  passes duration network := Nat.le_refl _

/-- Its clock moves by what was paused. -/
theorem now_answer (i : Nat) (r : Link.Request) (network : Network) :
    ((surroundings i).answer r network).2.now =
      network.now + Link.Exchange.slept [⟨r, ((surroundings i).answer r network).1⟩] := by
  rw [surroundings, answer_now]
  cases r <;> rfl

end Network
end PacketRadio
