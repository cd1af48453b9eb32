/-
# At what times a send does what it does

rflink specification, §4.4: the elapsed time on failure is about `max_retries
× ack_timeout`.

The clock of a node that only its own pauses take time is read off its
exchanges: at any of them it tells when the first one was, and how long the
pauses since then are together.  With a timeout `T` a send keeps to it as
follows.

| what | when |
| --- | --- |
| copy number `j` is sent | `(j - 1) * T` after the beginning |
| the radio is looked at | before the time of the copy at hand is up |
| a pause | until then at most, and only before the acknowledgment has come |
| it is given up | all attempts times `T` after the beginning |
| it is acknowledged after `k` copies | from `(k - 1) * T` on, before `k * T` |

Main statements: `Pursuing.timely`, by which a turn keeps the pace, and
`Operation.Reaches.pacing`.
-/

import PacketRadio.Proofs.Link.Copies
import PacketRadio.Proofs.Link.Resolution

namespace PacketRadio
namespace Link

open PacketRadio.Link.Action

/-! ## Time among exchanges -/

namespace Exchange

/-- The length of the pause that an exchange was, if it was one. -/
def pause : Exchange → Option Nat
  | ⟨.sleep duration, _⟩ => some duration
  | _ => none

/-- The time that an exchange told. -/
def told : Exchange → Option Nat
  | ⟨.now, t⟩ => some t
  | _ => none

/-- The exchange is part of a look at the radio. -/
def looks : Exchange → Bool
  | ⟨.mode, _⟩ | ⟨.radio .frameReady, _⟩ | ⟨.radio .receive, _⟩ => true
  | _ => false

/-- How long the pauses are together. -/
def slept (es : List Exchange) : Nat :=
  (es.filterMap pause).sum

@[simp] theorem slept_append (es es' : List Exchange) :
    slept (es ++ es') = slept es + slept es' := by
  simp [slept]

theorem slept_eq_zero {es : List Exchange} (h : es.filterMap pause = []) : slept es = 0 := by
  rw [slept, h]
  rfl

@[simp] theorem slept_sleep (duration : Nat) : slept [⟨.sleep duration, ()⟩] = duration :=
  Nat.add_zero duration

end Exchange

/-- What `P` says of an exchange and those before it holds of each of them. -/
def Throughout (P : List Exchange → Exchange → Prop) (es : List Exchange) : Prop :=
  ∀ pre e post, es = pre ++ e :: post → P pre e

section

variable {P : List Exchange → Exchange → Prop} {es es' : List Exchange} {e : Exchange}

@[simp] theorem throughout_nil : Throughout P [] := by
  simp [Throughout]

/-- **What holds throughout holds of the first exchange, and of the others after it.** -/
@[simp] theorem throughout_cons :
    Throughout P (e :: es) ↔ P [] e ∧ Throughout (fun pre => P (e :: pre)) es := by
  constructor
  · intro h
    exact ⟨h [] e es rfl, fun pre e' post hes => h (e :: pre) e' post (by rw [hes]; rfl)⟩
  · rintro ⟨hfirst, hrest⟩ pre e' post hes
    rcases List.cons_eq_append_iff.1 hes with ⟨rfl, hhere⟩ | ⟨pre, rfl, hlater⟩
    · obtain ⟨rfl, rfl⟩ := List.cons.inj hhere
      exact hfirst
    · exact hrest pre e' post hlater

/-- **What holds throughout holds first of some exchanges, and then of those that follow.** -/
theorem throughout_append :
    Throughout P (es ++ es') ↔ Throughout P es ∧ Throughout (fun pre => P (es ++ pre)) es' := by
  induction es generalizing P with
  | nil => simp
  | cons e es ih => simp [ih, and_assoc]

end

/-- The clock told `start` and the pauses since then. -/
def OnTime (start : Nat) (es : List Exchange) : Prop :=
  Throughout (fun pre e => ∀ t, e.told = some t → t = start + Exchange.slept pre) es

theorem onTime_append {start : Nat} {es es' : List Exchange} :
    OnTime start (es ++ es') ↔ OnTime start es ∧ OnTime (start + Exchange.slept es) es' := by
  simp only [OnTime, throughout_append, Exchange.slept_append, Nat.add_assoc]

theorem onTime_cons {start : Nat} {e : Exchange} {es : List Exchange} :
    OnTime start (e :: es) ↔
      (∀ t, e.told = some t → t = start) ∧ OnTime (start + Exchange.slept [e]) es := by
  rw [← List.singleton_append, onTime_append]
  refine and_congr_left fun _ => throughout_cons.trans ⟨fun h => h.1, fun h => ⟨h, ?_⟩⟩
  exact throughout_nil

theorem OnTime.now {start t : Nat} {es : List Exchange} (h : OnTime start (⟨.now, t⟩ :: es)) :
    t = start :=
  (onTime_cons.1 h).1 t rfl

/-! ## Looks and pauses -/

section

variable {n n' : Node} {es : List Exchange}

theorem Timing.unpaused {deadline : Deadline} {rest : Option Nat} (ht : Timing deadline es rest) :
    es.filterMap Exchange.pause = [] := by
  cases ht <;> rfl

theorem Timing.unheard {deadline : Deadline} {rest : Option Nat} (ht : Timing deadline es rest) :
    es.filterMap Exchange.heard = [] := by
  cases ht <;> rfl

theorem Sending.unpaused {c : Frame.Config} {f : Frame} {r : Except Error Unit}
    (hs : Sending c f es r) : es.filterMap Exchange.pause = [] := by
  cases hs <;> rfl

/-- What is counted is sent first. -/
theorem Posting.sending {f : Frame} {r : Except Error Unit} (hp : Posting n f es n' r) :
    Sending n.config.frame f es r := by
  cases hp <;> assumption

theorem Acknowledging.unpaused {h : Header} {r : Except Error Unit}
    (hk : Acknowledging n h es n' r) : es.filterMap Exchange.pause = [] := by
  cases hk with
  | unowed ho => rfl
  | failed ho hs => exact hs.unpaused
  | sent ho hs => exact hs.unpaused

theorem Delivering.unpaused {d : Delivery} {taken : Bool} (hs : Delivering n d es n' taken) :
    es.filterMap Exchange.pause = [] := by
  cases hs <;> rfl

theorem Handling.unpaused {r : Radio.Reception} {event : Except Error PollEvent}
    (hh : Handling n r es n' event) : es.filterMap Exchange.pause = [] := by
  cases hh with
  | duplicate ht hack hd hk => exact hk.unpaused
  | overflowed ht hack hd hs => exact hs.unpaused
  | delivered ht hack hd hs hk =>
    rw [List.filterMap_append, hs.unpaused, hk.unpaused, List.append_nil]
  | _ => rfl

theorem Looking.unpaused {event : Except Error PollEvent} (hl : Looking n es n' event) :
    es.filterMap Exchange.pause = [] := by
  cases hl with
  | failed failure => rfl
  | nothing => rfl
  | @ready es n' event hf restored =>
    have hfetching : es.filterMap Exchange.pause = [] := by
      cases hf with
      | failed failure => rfl
      | nothing => rfl
      | taken r hh => exact hh.unpaused
    rw [List.filterMap_append]
    exact congrArg (· ++ []) hfetching

/-- **A look at the radio takes no time.** -/
theorem Polling.unpaused {event : Except Error PollEvent} (hp : Polling n es n' event) :
    es.filterMap Exchange.pause = [] := by
  cases hp with
  | deaf hm failure => rfl
  | roused hm hl => exact hl.unpaused
  | awake hl => exact hl.unpaused

/-- What is handled was there. -/
theorem Handling.ne_idle {r : Radio.Reception} {event : Except Error PollEvent}
    (hh : Handling n r es n' event) : event ≠ .ok .idle := by
  cases hh with
  | @duplicate f es n' acked ht hack hd hk => cases acked <;> simp [Except.map]
  | @delivered f es es' n₁ n' acked ht hack hd hs hk => cases acked <;> simp [Except.map]
  | _ => simp

/-- **If nothing had come in, nothing is taken.** -/
theorem Polling.unheard (hp : Polling n es n' (.ok .idle)) :
    es.filterMap Exchange.heard = [] := by
  rcases hp.taking with hnone | ⟨r, hh, htold, -, -, -, -⟩
  · exact hnone.uneventful.heard
  · exact absurd (htold _ rfl) hh.ne_idle

/-- **If something had come in, it is taken.** -/
theorem Polling.heard {event : PollEvent} (hp : Polling n es n' (.ok event))
    (he : event ≠ .idle) : es.filterMap Exchange.heard ≠ [] := by
  rcases hp.taking with ⟨-, -, hidle⟩ | ⟨r, hr⟩
  · exact absurd (hidle _ rfl) he
  · rw [hr.heard]
    exact List.cons_ne_nil _ _

/-- A look at the radio takes as long as its pause. -/
theorem Watching.slept_le {length : Nat} {r : Except Error Unit}
    (hw : Watching n length es n' r) : Exchange.slept es ≤ length := by
  cases hw with
  | failed hp => exact (Exchange.slept_eq_zero hp.unpaused).symm ▸ Nat.zero_le _
  | taken hp he => exact (Exchange.slept_eq_zero hp.unpaused).symm ▸ Nat.zero_le _
  | paused hp =>
    rw [Exchange.slept_append, Exchange.slept_eq_zero hp.unpaused, Exchange.slept_sleep,
      Nat.zero_add]

/-- A look at the radio has no pause, or takes nothing. -/
theorem Watching.slept_eq_zero_or {length : Nat} {r : Except Error Unit}
    (hw : Watching n length es n' r) :
    Exchange.slept es = 0 ∨ es.filterMap Exchange.heard = [] := by
  cases hw with
  | failed hp => exact .inl (Exchange.slept_eq_zero hp.unpaused)
  | taken hp he => exact .inl (Exchange.slept_eq_zero hp.unpaused)
  | paused hp =>
    rw [List.filterMap_append, hp.unheard]
    exact .inr rfl

/-- **While there is time left, the clock has not come to the deadline**, and what is left is the
difference, unless the deadline is beyond the clock. -/
theorem Timing.ahead {now start timeout rest : Nat}
    (ht : Timing (Deadline.after start timeout) es (some rest)) (hon : OnTime now es) :
    (now < start + timeout ∧ rest = start + timeout - now) ∨
      Deadline.beyond ≤ start + timeout := by
  by_cases hreach : start + timeout < Deadline.beyond
  · refine .inl ?_
    rw [Deadline.after, if_pos hreach] at ht
    generalize hleft : some rest = left at ht
    cases ht with
    | read instant t =>
      obtain rfl := hon.now
      simp only [Deadline.left] at hleft
      split at hleft
      · rename_i hlt
        exact ⟨hlt, Option.some.inj hleft⟩
      · cases hleft
  · exact .inr (Nat.le_of_not_lt hreach)

/-- Time that is left is never nothing. -/
theorem Timing.rest_pos {deadline : Deadline} {rest : Nat} (ht : Timing deadline es (some rest)) :
    0 < rest := by
  generalize hleft : some rest = left at ht
  cases ht with
  | endless =>
    obtain rfl := Option.some.inj hleft
    decide
  | read instant t => exact Deadline.left_pos hleft.symm

/-- **When the time is up, the clock has come to the deadline.** -/
theorem Timing.passed {now start timeout : Nat}
    (ht : Timing (Deadline.after start timeout) es none) (hon : OnTime now es) :
    start + timeout ≤ now := by
  rw [Deadline.after] at ht
  split at ht
  · generalize hleft : none = left at ht
    cases ht with
    | read instant t =>
      obtain rfl := hon.now
      obtain ⟨_, hdeadline, hle⟩ := (Deadline.left_eq_none_iff _ _).1 hleft.symm
      exact Option.some.inj hdeadline ▸ hle
  · cases ht

end

/-! ## The pace -/

/-- An exchange of a send of `n₀` with this timeout comes at the right time after those before it.
As many copies as have been sent, so many timeouts are counted. -/
structure Punctual (n₀ : Node) (dst : Address) (timeout : Nat) (pre : List Exchange)
    (e : Exchange) : Prop where
  /-- A copy is sent as soon as the time of those before it is over. -/
  copy : ∀ wire, e.sent = some wire → isDatagram n₀.config.frame wire = true →
    Exchange.slept pre = (Exchange.datagrams n₀.config.frame pre).length * timeout
  /-- The radio is looked at while there is time left. -/
  look : e.looks = true →
    Exchange.slept pre < (Exchange.datagrams n₀.config.frame pre).length * timeout
  /-- A pause is as long as is configured at most, does not last longer than the time of the copies
  that have been sent, and does not come after the acknowledgment. -/
  pause : ∀ duration, e.pause = some duration → duration ≤ n₀.config.pollInterval ∧
    Exchange.slept pre + duration ≤
      (Exchange.datagrams n₀.config.frame pre).length * timeout ∧
    Exchange.acksOf n₀.config dst n₀.nextId pre = 0

/-- How a send with so many attempts ends, and how long it has taken then. -/
inductive Lasts (id : UInt8) (attempts timeout : Nat) : SendOutcome → Nat → Prop where
  /-- The acknowledgment came in the time of copy `k`. -/
  | acked {k elapsed : Nat} (first : 1 ≤ k) (last : k ≤ attempts)
      (begun : (k - 1) * timeout ≤ elapsed) (soon : elapsed < k * timeout) :
      Lasts id attempts timeout (.acked id k elapsed) elapsed
  /-- The time of all copies is over. -/
  | failed : Lasts id attempts timeout (.failed id attempts (attempts * timeout))
      (attempts * timeout)

/-- Without any time to wait, it ends in vain. -/
theorem Lasts.eq_failed {id : UInt8} {attempts elapsed : Nat} {outcome : SendOutcome}
    (h : Lasts id attempts 0 outcome elapsed) : outcome = .failed id attempts 0 := by
  cases h with
  | acked first last begun soon =>
    rw [Nat.mul_zero] at soon
    exact absurd soon (Nat.not_lt_zero _)
  | failed => rfl

/-- What a send that began at `start` is about to do, when so much time has passed and so many
acknowledgments have come. -/
inductive Send.Paced (start timeout attempt elapsed acks : Nat) : Send.Phase → Prop where
  /-- It sends a copy: the time of those before it is over. -/
  | transmitting (sharp : elapsed = (attempt - 1) * timeout) :
      Paced start timeout attempt elapsed acks .transmitting
  /-- It waits: the time of the copy at hand has begun and is not over, or just so in vain. -/
  | waiting (begun : (attempt - 1) * timeout ≤ elapsed) (within : elapsed ≤ attempt * timeout)
      (soon : acks ≠ 0 → elapsed < attempt * timeout) :
      Paced start timeout attempt elapsed acks
        (.waiting (Deadline.after (start + (attempt - 1) * timeout) timeout))

/-- A send of `n₀` that began at `start` has kept the pace. -/
structure Keeping (n₀ : Node) (dst : Address) (start timeout : Nat) (es : List Exchange)
    (s : Send) : Prop where
  /-- It began then. -/
  started : s.started = start
  /-- This is its timeout. -/
  limit : s.timeout = timeout
  /-- It is in time. -/
  paced : Send.Paced start timeout s.attempt (Exchange.slept es)
    (Exchange.acksOf n₀.config dst n₀.nextId es) s.phase
  /-- So it has been. -/
  punctual : Throughout (Punctual n₀ dst timeout) es

/-- All deadlines are in reach of the clock, or it has not yet left its range. -/
def InRange (start attempts timeout : Nat) (es : List Exchange) : Prop :=
  start + attempts * timeout < Deadline.beyond ∨ start + Exchange.slept es < Deadline.beyond

/-- How a turn of the send may end, in time. -/
structure Timely (n₀ : Node) (dst : Address) (attempts start timeout : Nat) (es : List Exchange)
    (r : Except Error (Turn Activity Reply)) : Prop where
  /-- It has been punctual. -/
  punctual : Throughout (Punctual n₀ dst timeout) es
  /-- If it goes on, it is in time. -/
  again : ∀ a, r = .ok (.again a) → ∃ s, a = .sending s ∧ Keeping n₀ dst start timeout es s
  /-- If it is over, its outcome tells the time that it took. -/
  ends : ∀ reply, r = .ok (.finish reply) → ∃ outcome, reply = .outcome outcome ∧
    Lasts n₀.nextId attempts timeout outcome (Exchange.slept es)

section

variable {n₀ n n' : Node} {dst : Address} {payload : Bytes} {attempts start timeout : Nat}
  {es es' : List Exchange} {s : Send}

theorem InRange.append (h : InRange start attempts timeout (es ++ es')) :
    InRange start attempts timeout es := by
  refine h.imp_right fun hlt => ?_
  rw [Exchange.slept_append] at hlt
  omega

/-- What is neither a copy nor a look nor a pause is always in time. -/
theorem Punctual.plain {pre : List Exchange} {e : Exchange} (hsent : e.sent = none)
    (hlooks : e.looks = false) (hpause : e.pause = none) : Punctual n₀ dst timeout pre e := by
  constructor
  · simp [hsent]
  · simp [hlooks]
  · simp [hpause]

/-- **A copy is sent in time.** -/
theorem Sending.punctual {c : Frame.Config} {f : Frame} {r : Except Error Unit}
    (hs : Sending c f es' r)
    (hsharp : Exchange.slept es = (Exchange.datagrams n₀.config.frame es).length * timeout) :
    Throughout (fun pre => Punctual n₀ dst timeout (es ++ pre)) es' := by
  cases hs with
  | unwritten hw => exact throughout_nil
  | refused hw failure => exact throughout_cons.2 ⟨.plain rfl rfl rfl, throughout_nil⟩
  | @aired wire hw sent restored =>
    have hcopy : Punctual n₀ dst timeout (es ++ [⟨.radio (.setMode .transmit), .ok ()⟩])
        ⟨.radio (.transmit wire), sent⟩ := by
      refine ⟨fun _ _ _ => ?_, nofun, nofun⟩
      rw [Exchange.slept_append, Exchange.datagrams_append]
      -- To switch to sending takes no time and sends nothing.
      exact hsharp.trans (by rw [show Exchange.datagrams _ [_] = [] from rfl, List.append_nil])
    refine throughout_cons.2 ⟨.plain rfl rfl rfl, throughout_cons.2 ⟨hcopy, ?_⟩⟩
    exact throughout_cons.2 ⟨.plain rfl rfl rfl, throughout_nil⟩

/-- To read the clock is never out of time. -/
theorem Punctual.now (t : Nat) :
    Throughout (fun pre => Punctual n₀ dst timeout (es ++ pre)) [⟨.now, t⟩] :=
  throughout_cons.2 ⟨.plain rfl rfl rfl, throughout_nil⟩

/-- Nor is it to find out how much is left. -/
theorem Timing.punctual {deadline : Deadline} {rest : Option Nat} (ht : Timing deadline es' rest) :
    Throughout (fun pre => Punctual n₀ dst timeout (es ++ pre)) es' := by
  cases ht with
  | endless => exact throughout_nil
  | read instant t => exact .now t

/-- **A look at the radio is in time** if there is time left. -/
theorem Polling.punctual {event : Except Error PollEvent} (hp : Polling n es' n' event)
    (hc : n₀.config.frame.Valid) (hn : n.config = n₀.config)
    (hsoon : Exchange.slept es < (Exchange.datagrams n₀.config.frame es).length * timeout) :
    Throughout (fun pre => Punctual n₀ dst timeout (es ++ pre)) es' := by
  have hunpaused := hp.unpaused
  have hnone := hp.tending.datagrams_eq_nil hc hn
  rintro pre e post rfl
  rw [List.filterMap_append, List.append_eq_nil_iff] at hunpaused
  rw [Exchange.datagrams_append, List.append_eq_nil_iff] at hnone
  refine ⟨fun wire hsent hcopy => ?_, fun _ => ?_, fun duration hduration => ?_⟩
  · have hack := hp.tending.acks wire (List.mem_filterMap.2 ⟨e, by simp, hsent⟩)
    rw [isDatagram_of_isAck hc (hn ▸ hack)] at hcopy
    cases hcopy
  · rw [Exchange.slept_append, Exchange.slept_eq_zero hunpaused.1, Exchange.datagrams_append,
      hnone.1, List.append_nil]
    exact hsoon
  · rw [List.filterMap_cons_some hduration] at hunpaused
    cases hunpaused.2

/-- **So is one with a pause**, if that is not longer than what is left. -/
theorem Watching.punctual {length : Nat} {r : Except Error Unit} (hw : Watching n length es' n' r)
    (hc : n₀.config.frame.Valid) (hn : n.config = n₀.config)
    (hsoon : Exchange.slept es < (Exchange.datagrams n₀.config.frame es).length * timeout)
    (hlength : length ≤ n₀.config.pollInterval)
    (hwithin : Exchange.slept (es ++ es') ≤
      (Exchange.datagrams n₀.config.frame es).length * timeout)
    (hacks : Exchange.acksOf n₀.config dst n₀.nextId es = 0) :
    Throughout (fun pre => Punctual n₀ dst timeout (es ++ pre)) es' := by
  cases hw with
  | failed hp => exact hp.punctual hc hn hsoon
  | taken hp he => exact hp.punctual hc hn hsoon
  | @paused es' n' hp =>
    refine throughout_append.2 ⟨hp.punctual hc hn hsoon, throughout_cons.2 ⟨?_, throughout_nil⟩⟩
    refine ⟨nofun, nofun, ?_⟩
    rintro _ ⟨⟩
    rw [← List.append_assoc, Exchange.slept_append, Exchange.slept_sleep] at hwithin
    rw [List.append_nil, Exchange.datagrams_append, hp.tending.datagrams_eq_nil hc hn,
      List.append_nil, Exchange.acksOf_append, hacks, Exchange.acksOf_of_unheard hp.unheard]
    exact ⟨hlength, hwithin, rfl⟩

/-! ## Turns of the send -/

/-- The acknowledgment has come exactly if the node has heeded it. -/
theorem Turned.acksOf_eq (h : Turned n₀ dst es n (.ok (.again s))) :
    Exchange.acksOf n₀.config dst n₀.nextId es = n.heeded.toNat ∧
      (s.phase = .transmitting → n.heeded = false) := by
  obtain ⟨acked, hw, hpending, -, -, hphase⟩ := h
  have hheeded : n.heeded = acked := by rw [Node.heeded, hpending]; rfl
  rw [hheeded]
  exact ⟨hw.came, hphase⟩

/-- The time of one more copy. -/
theorem sub_one_mul_add {k : Nat} (hfirst : 1 ≤ k) (timeout : Nat) :
    (k - 1) * timeout + timeout = k * timeout := by
  rw [← Nat.succ_mul, Nat.succ_eq_add_one, Nat.sub_add_cancel hfirst]

/-- **While the clock says that there is time left, there is**, for a pause that is not longer than
what is left too. -/
theorem Timing.room {k rest : Nat} (hfirst : 1 ≤ k) (hlast : k ≤ attempts) {es₁ : List Exchange}
    (ht : Timing (Deadline.after (start + (k - 1) * timeout) timeout) es₁ (some rest))
    (hon : OnTime (start + Exchange.slept es) es₁)
    (hrange : InRange start attempts timeout (es ++ es')) (hpause : Exchange.slept es' ≤ rest) :
    Exchange.slept es < k * timeout ∧ Exchange.slept (es ++ es') ≤ k * timeout := by
  have hspan := sub_one_mul_add hfirst timeout
  rw [Exchange.slept_append]
  rcases ht.ahead hon with ⟨hlt, rfl⟩ | hbeyond
  · omega
  · have hreach : k * timeout ≤ attempts * timeout := Nat.mul_le_mul_right _ hlast
    rw [InRange, Exchange.slept_append] at hrange
    omega

/-- What takes no time and takes nothing in leaves a send in time, if it is punctual. -/
theorem Keeping.still (hk : Keeping n₀ dst start timeout es s)
    (hunpaused : es'.filterMap Exchange.pause = []) (hunheard : es'.filterMap Exchange.heard = [])
    (hpunctual : Throughout (fun pre => Punctual n₀ dst timeout (es ++ pre)) es') :
    Keeping n₀ dst start timeout (es ++ es') s where
  started := hk.started
  limit := hk.limit
  paced := by
    rw [Exchange.slept_append, Exchange.slept_eq_zero hunpaused, Exchange.acksOf_append,
      Exchange.acksOf_of_unheard hunheard]
    exact hk.paced
  punctual := throughout_append.2 ⟨hk.punctual, hpunctual⟩

theorem Keeping.now (hk : Keeping n₀ dst start timeout es s) (t : Nat) :
    Keeping n₀ dst start timeout (es ++ [⟨.now, t⟩]) s :=
  hk.still rfl rfl (.now t)

/-- When a copy is due, the time of those before it is over. -/
theorem Keeping.sharp (hk : Keeping n₀ dst start timeout es s) (hphase : s.phase = .transmitting) :
    Exchange.slept es = (s.attempt - 1) * timeout := by
  have hpaced := hk.paced
  rw [hphase] at hpaced
  obtain ⟨hsharp⟩ := hpaced
  exact hsharp

/-- The time of the copy at hand is not over, or just so. -/
theorem Keeping.within (hk : Keeping n₀ dst start timeout es s) :
    Exchange.slept es ≤ s.attempt * timeout := by
  have hpaced := hk.paced
  generalize s.phase = phase at hpaced
  cases hpaced with
  | transmitting hsharp => exact hsharp ▸ Nat.mul_le_mul_right _ (Nat.sub_le _ _)
  | waiting hbegun hwithin hsoon => exact hwithin

/-- **To send a copy keeps the pace.** -/
theorem Posting.punctual {f : Frame} {m : Node} {r : Except Error Unit}
    (hp : Posting m f es' n' r) (hu : Underway n₀ dst payload attempts es s n)
    (hk : Keeping n₀ dst start timeout es s) (hphase : s.phase = .transmitting) :
    Throughout (fun pre => Punctual n₀ dst timeout (es ++ pre)) es' := by
  refine hp.sending.punctual ?_
  rw [hu.copied.length, Send.copies, hphase, hk.sharp hphase]

/-- **To look at the radio and pause keeps the pace**, if there is time left for it. -/
theorem Watching.keeps {length : Nat} {deadline : Deadline} {r : Except Error Unit}
    (hw : Watching n length es' n' r) (hu : Underway n₀ dst payload attempts es s n)
    (hk : Keeping n₀ dst start timeout es s) (hc : n₀.config.frame.Valid)
    (hphase : s.phase = .waiting deadline) (hlength : length ≤ n.config.pollInterval)
    (hacks : Exchange.acksOf n₀.config dst n₀.nextId es = 0)
    (hsoon : Exchange.slept es < s.attempt * timeout)
    (hwithin : Exchange.slept (es ++ es') ≤ s.attempt * timeout) :
    Keeping n₀ dst start timeout (es ++ es') s := by
  obtain ⟨hstarted, hlimit, hpaced, hpunctual⟩ := hk
  have hcopies : (Exchange.datagrams n₀.config.frame es).length = s.attempt := by
    rw [hu.copied.length, Send.copies, hphase]
  refine ⟨hstarted, hlimit, ?_, throughout_append.2 ⟨hpunctual, ?_⟩⟩
  · rw [hphase] at hpaced ⊢
    obtain _ | ⟨hbegun, -, -⟩ := hpaced
    refine .waiting ?_ hwithin fun hcame => ?_
    · rw [Exchange.slept_append]
      exact Nat.le_trans hbegun (Nat.le_add_right _ _)
    · rcases hw.slept_eq_zero_or with hslept | hunheard
      · rwa [Exchange.slept_append, hslept]
      · rw [Exchange.acksOf_append, hacks, Exchange.acksOf_of_unheard hunheard] at hcame
        exact absurd rfl hcame
  · rw [← hcopies] at hsoon hwithin
    exact hw.punctual hc hu.config hsoon (hu.config ▸ hlength) hwithin hacks

/-- **To wait keeps the pace**, whatever comes in and on any radio. -/
theorem Keeping.waited {deadline : Deadline} {rest : Nat} {es₁ es₂ : List Exchange}
    {r : Except Error Unit} (hk : Keeping n₀ dst start timeout es s)
    (hu : Underway n₀ dst payload attempts es s n) (hc : n₀.config.frame.Valid)
    (hphase : s.phase = .waiting deadline)
    (hacks : Exchange.acksOf n₀.config dst n₀.nextId es = 0)
    (ht : Timing deadline es₁ (some rest))
    (hw : Watching n (min n.config.pollInterval rest) es₂ n' r)
    (hon : OnTime (start + Exchange.slept es) (es₁ ++ es₂))
    (hrange : InRange start attempts timeout (es ++ (es₁ ++ es₂))) :
    Keeping n₀ dst start timeout (es ++ (es₁ ++ es₂)) s := by
  have hslept : Exchange.slept (es ++ es₁) = Exchange.slept es := by
    rw [Exchange.slept_append, Exchange.slept_eq_zero ht.unpaused, Nat.add_zero]
  have hpaced := hk.paced
  rw [hphase] at hpaced
  obtain _ | ⟨-, -, -⟩ := hpaced
  rw [← List.append_assoc] at hrange ⊢
  have hroom := ht.room hu.first (hu.allowed ▸ hu.last) (hslept.symm ▸ (onTime_append.1 hon).1)
    hrange (hw.slept_le.trans (Nat.min_le_right _ _))
  refine hw.keeps (hu.tending hc (.silent n ht.sent_eq))
    (hk.still ht.unpaused ht.unheard ht.punctual) hc hphase (Nat.min_le_left _ _) ?_ hroom.1 hroom.2
  rw [Exchange.acksOf_append, hacks, Exchange.acksOf_of_unheard ht.unheard]

/-- When the time of the copy at hand is up, just that has passed. -/
theorem Keeping.expired {deadline : Deadline} (hk : Keeping n₀ dst start timeout es s)
    (hfirst : 1 ≤ s.attempt) (hphase : s.phase = .waiting deadline) (ht : Timing deadline es' none)
    (hon : OnTime (start + Exchange.slept es) es') :
    Exchange.slept es = s.attempt * timeout := by
  have hpaced := hk.paced
  rw [hphase] at hpaced
  obtain _ | ⟨-, hwithin, -⟩ := hpaced
  have hpassed := ht.passed hon
  have hspan := sub_one_mul_add hfirst timeout
  omega

/-- **A turn of a send keeps the pace**, whatever comes in and on any radio. -/
theorem Pursuing.timely {r : Except Error (Turn Send SendOutcome)} (hp : Pursuing n s es' n' r)
    (hu : Underway n₀ dst payload attempts es s n) (hs : Turned n₀ dst es n (.ok (.again s)))
    (hk : Keeping n₀ dst start timeout es s) (hc : n₀.config.frame.Valid)
    (hon : OnTime (start + Exchange.slept es) es')
    (hrange : InRange start attempts timeout (es ++ es')) :
    Timely n₀ dst attempts start timeout (es ++ es') (r.map (Turn.map .sending .outcome)) := by
  obtain ⟨hacks, hnot⟩ := hs.acksOf_eq
  cases hp with
  | @copied es₁ n' hphase hp t =>
    have hposted :=
      (hk.still hp.sending.unpaused hp.sending.heard.1 (hp.punctual hu hk hphase)).now t
    have hsharp := hposted.sharp hphase
    have hnone : Exchange.acksOf n₀.config dst n₀.nextId (es ++ es₁ ++ [⟨.now, t⟩]) = 0 := by
      rw [Exchange.acksOf_append, Exchange.acksOf_append, hacks, hnot hphase,
        Exchange.acksOf_of_unheard hp.sending.heard.1]
      rfl
    obtain rfl : t = start + (s.attempt - 1) * timeout := by
      rw [(onTime_append.1 hon).2.now, Exchange.slept_eq_zero hp.sending.unpaused, hk.sharp hphase,
        Nat.add_zero]
    rw [← List.append_assoc]
    refine ⟨hposted.punctual, ?_, nofun⟩
    rintro _ ⟨⟩
    refine ⟨_, rfl, hk.started, hk.limit, ?_, hposted.punctual⟩
    rw [hsharp, hnone, hk.limit]
    exact .waiting (Nat.le_refl _) (Nat.mul_le_mul_right _ (Nat.sub_le _ _)) (absurd rfl)
  | unsent hphase hp =>
    exact ⟨throughout_append.2 ⟨hk.punctual, hp.punctual hu hk hphase⟩, nofun, nofun⟩
  | @acked deadline hphase ha t =>
    have hpaced := hk.paced
    rw [hphase, hacks, ha] at hpaced
    obtain _ | ⟨hbegun, -, hsoon⟩ := hpaced
    refine ⟨(hk.now t).punctual, nofun, ?_⟩
    rintro _ ⟨⟩
    refine ⟨_, rfl, ?_⟩
    rw [hon.now, hk.started, Nat.add_sub_cancel_left, hu.number, Exchange.slept_append]
    exact .acked hu.first (hu.allowed ▸ hu.last) hbegun (hsoon (by decide))
  | watched hphase ha ht hw =>
    rw [ha] at hacks
    have hkept := hk.waited hu hc hphase hacks ht hw hon hrange
    refine ⟨hkept.punctual, ?_, nofun⟩
    rintro _ ⟨⟩
    exact ⟨s, rfl, hkept⟩
  | unwatched hphase ha ht hw =>
    rw [ha] at hacks
    exact ⟨(hk.waited hu hc hphase hacks ht hw hon hrange).punctual, nofun, nofun⟩
  | retried hphase ha ht hmore =>
    have hafter := hk.still ht.unpaused ht.unheard ht.punctual
    refine ⟨hafter.punctual, ?_, nofun⟩
    rintro _ ⟨⟩
    refine ⟨_, rfl, hk.started, hk.limit, .transmitting ?_, hafter.punctual⟩
    rw [Exchange.slept_append, Exchange.slept_eq_zero ht.unpaused,
      hk.expired hu.first hphase ht hon]
    rfl
  | @exhausted deadline es' hphase ha ht hmore t =>
    have hlast : s.attempt = attempts := hu.allowed ▸ Nat.le_antisymm hu.last hmore
    have hslept : Exchange.slept es = attempts * timeout :=
      hlast ▸ hk.expired hu.first hphase ht (onTime_append.1 hon).1
    have hafter := (hk.still ht.unpaused ht.unheard ht.punctual).now t
    rw [← List.append_assoc]
    refine ⟨hafter.punctual, nofun, ?_⟩
    rintro _ ⟨⟩
    have hnow : t = start + attempts * timeout := by
      rw [(onTime_append.1 hon).2.now, Exchange.slept_eq_zero ht.unpaused, hslept, Nat.add_zero]
    refine ⟨_, rfl, ?_⟩
    rw [hu.number, hu.allowed, hk.started, hnow, Nat.add_sub_cancel_left, Exchange.slept_append,
      Exchange.slept_append, Exchange.slept_eq_zero ht.unpaused, hslept]
    exact .failed

/-- **Without any time to wait, the radio is never looked at.** -/
theorem Timely.unpolled {r : Except Error (Turn Activity Reply)}
    (h : Timely n₀ dst attempts start 0 es r) : ∀ e ∈ es, e.looks = false := by
  intro e he
  obtain ⟨pre, post, hes⟩ := List.append_of_mem he
  refine Bool.eq_false_iff.2 fun hlooks => ?_
  have hsoon := (h.punctual pre e post hes).look hlooks
  rw [Nat.mul_zero] at hsoon
  exact Nat.not_lt_zero _ hsoon

/-- **A send begins in time.** -/
theorem Starting.timely {retries : Nat} {r : Except Error (Turn Activity Reply)}
    (hs : Starting n (.sendReliableWith dst payload retries timeout) es n' r)
    (hdst : dst ≠ Address.broadcast) (hon : OnTime start es) :
    Timely n dst (max retries 1) start timeout es r := by
  cases hs with
  | sending hop hd =>
    obtain rfl := Option.some.inj hop
    cases hd with
    | oversized hsize => exact ⟨throughout_nil, by simp, by simp⟩
    | once hsize hsingle hp => simp [Errand.single, hdst] at hsingle
    | awaited hsize hd hdst t =>
      obtain ⟨rfl, rfl⟩ := Prod.mk.inj (Option.some.inj hd)
      have hnow : Throughout (Punctual n dst timeout) [⟨.now, t⟩] :=
        throughout_cons.2 ⟨.plain rfl rfl rfl, throughout_nil⟩
      refine ⟨hnow, ?_, by simp⟩
      rintro _ ⟨⟩
      exact ⟨_, rfl, hon.now, rfl, .transmitting (Nat.zero_mul _).symm, hnow⟩

/-- **A send begins to wait for its acknowledgment**, if it goes on at all. -/
theorem Starting.turned {retries : Nat} {r : Except Error (Turn Activity Reply)}
    (hs : Starting n (.sendReliableWith dst payload retries timeout) es n' r)
    (hdst : dst ≠ Address.broadcast) (hr : r = .ok (.again (.sending s))) :
    Turned n dst es n' (.ok (.again s)) := by
  cases hs with
  | sending hop hd =>
    obtain rfl := Option.some.inj hop
    cases hd with
    | oversized hsize => cases hr
    | once hsize hsingle hp => simp [Errand.single, hdst] at hsingle
    | awaited hsize hd hdst t =>
      cases hr
      exact ⟨false, ⟨rfl, rfl, rfl⟩, rfl, rfl, rfl, fun _ => rfl⟩

/-- **It goes on to wait**, as long as it goes on. -/
theorem Turned.turn {s' : Send} (h : Turned n₀ dst es n (.ok (.again s)))
    (hpath : Task.Path ((Activity.sending s).turn n) es' (.done (.ok (.again (.sending s')), n'))) :
    Turned n₀ dst (es ++ es') n' (.ok (.again s')) := by
  have hstanding : Standing (some dst) n₀ es (.ok (.again (.sending s))) n :=
    ⟨.ok (.again s), rfl, h⟩
  obtain ⟨r, hr, hturned⟩ := (Activity.turn_standing hstanding).path hpath
  rcases r with e | s'' | outcome
  · cases hr
  · cases hr
    exact hturned
  · cases hr

/-- How a turn of a send of `n₀` may end: with what it has sent, what it has taken, and in time if
the clock stands still but for its pauses. -/
structure Pacing (n₀ : Node) (dst : Address) (payload : Bytes) (attempts start timeout : Nat)
    (es : List Exchange) (r : Except Error (Turn Activity Reply)) (n : Node) : Prop where
  /-- What it has sent. -/
  follows : Follows n₀ dst payload attempts es r n
  /-- What it has taken. -/
  turned : ∀ s, r = .ok (.again (.sending s)) → Turned n₀ dst es n (.ok (.again s))
  /-- The times of both. -/
  timely : OnTime start es → InRange start attempts timeout es →
    Timely n₀ dst attempts start timeout es r

/-- **However far a send has come, it is in time.** -/
theorem Operation.Reaches.pacing {retries : Nat} {r : Except Error (Turn Activity Reply)}
    (hr : (Operation.sendReliableWith dst payload retries timeout).Reaches n es (.done (r, n')))
    (hdst : dst ≠ Address.broadcast) (hc : n.config.frame.Valid) :
    Pacing n dst payload (max retries 1) start timeout es r n' := by
  rw [← List.append_nil es]
  refine hr.upholds (fun es r n' hpath => ?_) (fun es a n₁ es' r n' hpacing hpath => ?_) (.here _)
  · have hs : Starting n _ es n' r := (start_goes _ n).path hpath
    exact ⟨hs.follows hdst, fun s => hs.turned hdst, fun hon _ => hs.timely hdst hon⟩
  · obtain ⟨s, rfl, hu⟩ := hpacing.follows
    have hturned := hpacing.turned s rfl
    refine ⟨?_, fun s' hs' => hturned.turn (hs' ▸ hpath), fun hon hrange => ?_⟩
    · cases (turn_goes _ n₁).path hpath with
      | sending hp => exact hp.follows hu hc
    · obtain ⟨hon₁, hon₂⟩ := onTime_append.1 hon
      obtain ⟨_, hsame, hk⟩ := (hpacing.timely hon₁ hrange.append).again _ rfl
      cases hsame
      cases (turn_goes _ n₁).path hpath with
      | sending hp => exact hp.timely hu hturned hk hc hon₂ hrange

end

end Link
end PacketRadio
