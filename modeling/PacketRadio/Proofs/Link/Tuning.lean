/-
# The mode in which the radio is left

rflink specification, §4.4: Receive mode is restored; §5: every exit of `run`
returns the radio to Idle.

On a radio that always switches its mode when it is told to, every operation
leaves a certain mode behind, however it ends.  Everything else may fail, and
to take a frame or to send one may leave the radio in any mode at all.

| operation | leaves the radio |
| --- | --- |
| look at the radio once | listening |
| take a delivery that is there | as it was |
| wait for a delivery | listening if it was looked at, as it was otherwise |
| listen | idle |
| send what a frame can carry | listening |
| send what none can | as it was |

A send may begin with the radio in any mode.  Its first copy makes it listen,
and it goes on listening while the send waits.

Main statement: `Operation.leaves_mode`.
-/

import PacketRadio.Proofs.Link.Expiry

namespace PacketRadio
namespace Link

open PacketRadio.Link.Action

/-! ## A radio that switches -/

/-- The request is a call after which the radio may be in any mode. -/
def Request.unsettles : Request → Bool
  | .radio .frameReady | .radio (.setMode _) => false
  | .radio _ => true
  | _ => false

/-- The radio tells its mode and switches it when it is told to.  It may fail at anything else, and
calls other than to ask for a frame may leave it in any mode. -/
structure Switches {σ : Type} (env : Surroundings σ) (mode : σ → Radio.Mode) : Prop where
  /-- The mode is told. -/
  tells : ∀ s, (env.answer .mode s).1 = mode s
  /-- It can be set. -/
  obeys : ∀ m s, (env.answer (.radio (.setMode m)) s).1 = .ok () ∧
    mode (env.answer (.radio (.setMode m)) s).2 = m
  /-- Only calls to the radio change it. -/
  stays : ∀ r s, r.unsettles = false → (∀ m, r ≠ .radio (.setMode m)) →
    mode (env.answer r s).2 = mode s

/-- The exchange can be one with such a radio, which is in these modes before and after it. -/
def Exchange.Tunes (before after : Radio.Mode) : Exchange → Prop
  | ⟨.radio (.setMode m), answer⟩ => answer = .ok () ∧ after = m
  | ⟨.radio .frameReady, _⟩ => after = before
  | ⟨.radio _, _⟩ => True
  | ⟨.mode, m⟩ => m = before ∧ after = before
  | _ => after = before

/-- The exchanges can be ones with such a radio, which is in these modes before and after them. -/
def Tuned (before : Radio.Mode) : List Exchange → Radio.Mode → Prop
  | [], after => after = before
  | e :: es, after => ∃ m, e.Tunes before m ∧ Tuned m es after

section

variable {before after m : Radio.Mode} {e : Exchange} {es es' : List Exchange}

@[simp] theorem tuned_nil : Tuned before [] after ↔ after = before := Iff.rfl

@[simp] theorem tuned_cons :
    Tuned before (e :: es) after ↔ ∃ m, e.Tunes before m ∧ Tuned m es after := Iff.rfl

theorem tuned_append :
    Tuned before (es ++ es') after ↔ ∃ m, Tuned before es m ∧ Tuned m es' after := by
  induction es generalizing before with
  | nil => simp
  | cons e es ih =>
    simp only [List.cons_append, tuned_cons, ih]
    constructor
    · rintro ⟨m₁, he, m₂, hes, hes'⟩
      exact ⟨m₂, ⟨m₁, he, hes⟩, hes'⟩
    · rintro ⟨m₂, ⟨m₁, he, hes⟩, hes'⟩
      exact ⟨m₁, he, m₂, hes, hes'⟩

/-- **What the radio was told last is what it does.** -/
theorem Tuned.switched {answer : Except Radio.Failure Unit}
    (h : Tuned before (es ++ [⟨.radio (.setMode m), answer⟩]) after) : after = m := by
  obtain ⟨m₁, -, m₂, ⟨-, rfl⟩, rfl⟩ := tuned_append.1 h
  rfl

end

/-- **A radio that switches is tuned by its exchanges.** -/
theorem Switches.gives {σ : Type} {env : Surroundings σ} {mode : σ → Radio.Mode} {s s' : σ}
    {es : List Exchange} (hs : Switches env mode) (h : env.Gives s es s') :
    Tuned (mode s) es (mode s') := by
  induction h with
  | nothing s => rfl
  | @answer r s s' es rest ih =>
    refine ⟨_, ?_, ih⟩
    cases r with
    | radio call =>
      cases call with
      | setMode m => exact hs.obeys m s
      | frameReady => exact hs.stays _ s rfl nofun
      | _ => trivial
    | mode => exact ⟨hs.tells s, hs.stays _ s rfl nofun⟩
    | _ => exact hs.stays _ s rfl nofun

/-! ## Parts -/

section

variable {n n' : Node} {before after : Radio.Mode} {es : List Exchange}

theorem Timing.tuned {deadline : Deadline} {rest : Option Nat} (ht : Timing deadline es rest)
    (h : Tuned before es after) : after = before := by
  cases ht with
  | endless => exact h
  | read instant t =>
    obtain ⟨m, rfl, rfl⟩ := h
    rfl

theorem Timing.unlooked {deadline : Deadline} {rest : Option Nat} (ht : Timing deadline es rest) :
    es.any Exchange.looks = false := by
  cases ht <;> rfl

/-- A radio that listens goes on listening when it is looked at. -/
theorem Looking.tuned {event : Except Error PollEvent} (hl : Looking n es n' event)
    (h : Tuned .receive es after) : after = .receive := by
  cases hl with
  | failed failure =>
    obtain ⟨m, rfl, rfl⟩ := h
    rfl
  | nothing =>
    obtain ⟨m, rfl, rfl⟩ := h
    rfl
  | ready hf restored => exact h.switched

/-- **A look at the radio leaves it listening**, whatever fails. -/
theorem Polling.tuned {event : Except Error PollEvent} (hp : Polling n es n' event)
    (h : Tuned before es after) : after = .receive := by
  cases hp with
  | deaf hm failure =>
    obtain ⟨m, -, m', ⟨hok, -⟩, -⟩ := h
    cases hok
  | roused hm hl =>
    obtain ⟨m, -, m', ⟨-, rfl⟩, hlooked⟩ := h
    exact hl.tuned hlooked
  | awake hl =>
    obtain ⟨m, ⟨rfl, rfl⟩, hlooked⟩ := h
    exact hl.tuned hlooked

/-- It begins with the mode. -/
theorem Polling.looked {event : Except Error PollEvent} (hp : Polling n es n' event) :
    es.any Exchange.looks = true := by
  cases hp <;> rfl

theorem Watching.tuned {length : Nat} {r : Except Error Unit} (hw : Watching n length es n' r)
    (h : Tuned before es after) : after = .receive := by
  cases hw with
  | failed hp => exact hp.tuned h
  | taken hp he => exact hp.tuned h
  | paused hp =>
    obtain ⟨m, hlooked, m', rfl, rfl⟩ := tuned_append.1 h
    exact hp.tuned hlooked

theorem Watching.looked {length : Nat} {r : Except Error Unit} (hw : Watching n length es n' r) :
    es.any Exchange.looks = true := by
  cases hw with
  | failed hp => exact hp.looked
  | taken hp he => exact hp.looked
  | paused hp => rw [List.any_append, hp.looked, Bool.true_or]

/-- **A frame that can be written leaves the radio listening**, even if it cannot be sent. -/
theorem Posting.tuned {f : Frame} {r : Except Error Unit} (hp : Posting n f es n' r)
    (hc : n.config.frame.Valid) (hf : f.payload.length ≤ n.config.frame.maxPayload)
    (h : Tuned before es after) : after = .receive := by
  have hencode : f.encode n.config.frame = .ok (f.wire n.config.frame) :=
    (Frame.encode_eq_ok_iff _ _ _).2 ⟨hc.preamble, by rwa [hc.payloadLimit_eq], rfl⟩
  cases hp.sending with
  | unwritten hw =>
    rw [hencode] at hw
    cases hw
  | refused hw failure =>
    obtain ⟨m, ⟨hok, -⟩, -⟩ := h
    cases hok
  | aired hw sent restored =>
    obtain ⟨m₁, -, m₂, -, m₃, ⟨-, rfl⟩, rfl⟩ := h
    rfl

end

/-! ## Operations -/

/-- The mode in which an operation leaves the radio that it found in the mode `before`, if it has
looked at it or not. -/
def Operation.leaves (c : Frame.Config) (looked : Bool) (before : Radio.Mode) :
    Operation → Radio.Mode
  | .poll => .receive
  | .recv => before
  | .recvTimeout _ => if looked then .receive else before
  | .listen _ => .idle
  | .sendUnreliable _ payload | .sendReliable _ payload | .sendReliableWith _ payload _ _ =>
    if payload.length ≤ c.maxPayload then .receive else before

/-- How the beginning of an operation, or a turn of it, may leave the radio. -/
def Operation.Sets (op : Operation) (c : Frame.Config) (before after : Radio.Mode)
    (looked : Bool) : Except Error (Turn Activity Reply) → Prop
  | .ok (.again (.receiving _)) =>
    (∃ timeout, op = .recvTimeout timeout) ∧ after = if looked then .receive else before
  | .ok (.again (.listening _)) => ∃ flag, op = .listen flag
  | .ok (.again (.sending s)) => op.payload? = some s.payload ∧
    s.payload.length ≤ c.maxPayload ∧ (s.phase ≠ .transmitting → after = .receive)
  | .ok (.finish _) | .error _ => after = op.leaves c looked before

section

variable {n n' : Node} {op : Operation} {before between after : Radio.Mode} {looked looked' : Bool}
  {es : List Exchange} {r : Except Error (Turn Activity Reply)}

/-- All sends leave the radio in the same mode. -/
theorem Operation.leaves_of_payload? {payload : Bytes} {c : Frame.Config}
    (h : op.payload? = some payload) :
    op.leaves c looked before = if payload.length ≤ c.maxPayload then .receive else before := by
  cases op <;> cases h <;> rfl

/-- How a send begins. -/
theorem Dispatching.tuned {d : Errand} (hd : Dispatching n d es n' r) (hc : n.config.frame.Valid)
    (hop : op.payload? = some d.payload) (h : Tuned before es after) :
    op.Sets n.config.frame before after looked r := by
  cases hd with
  | oversized hsize =>
    rw [Operation.Sets, Operation.leaves_of_payload? hop, if_neg (Nat.not_le_of_lt hsize)]
    exact h
  | @once es n' sent hsize hd hp =>
    have hafter : after = .receive := hp.tuned hc hsize h
    have hleaves : after = op.leaves n.config.frame looked before := by
      rw [Operation.leaves_of_payload? hop, if_pos hsize, hafter]
    cases sent with
    | error e => exact hleaves
    | ok u => exact hleaves
  | awaited hsize hd hdst t => exact ⟨hop, hsize, absurd rfl⟩

/-- **How an operation begins.** -/
theorem Starting.tuned (hs : Starting n op es n' r) (hc : n.config.frame.Valid)
    (h : Tuned before es after) :
    op.Sets n.config.frame before after (es.any Exchange.looks) r := by
  cases hs with
  | @polled es n' event hp =>
    have hafter : after = .receive := hp.tuned h
    cases event with
    | error e => exact hafter
    | ok event => exact hafter
  | popped => exact h
  | receiving timeout t =>
    obtain ⟨m, rfl, rfl⟩ := h
    exact ⟨⟨timeout, rfl⟩, rfl⟩
  | listening flag => exact ⟨flag, rfl⟩
  | sending hop hd => exact hd.tuned hc (Operation.payload?_of_errand hop) h

/-- How a send goes on.  Whether it has looked at the radio does not matter. -/
theorem Pursuing.tuned {s : Send} {r : Except Error (Turn Send SendOutcome)}
    (hp : Pursuing n s es n' r) (hc : n.config.frame.Valid)
    (hs : op.Sets n.config.frame before between looked (.ok (.again (.sending s))))
    (h : Tuned between es after) :
    op.Sets n.config.frame before after looked' (r.map (Turn.map .sending .outcome)) := by
  obtain ⟨hop, hsize, hphase⟩ := hs
  have hleaves : after = .receive → after = op.leaves n.config.frame looked' before := by
    rw [Operation.leaves_of_payload? hop, if_pos hsize]
    exact id
  -- While a send waits, the radio listens.
  have hwaiting : ∀ deadline, s.phase = .waiting deadline → between = .receive := by
    intro deadline hdeadline
    exact hphase (by rw [hdeadline]; nofun)
  cases hp with
  | copied htransmitting hposting t =>
    obtain ⟨m, hposted, m', rfl, rfl⟩ := tuned_append.1 h
    rw [← n.repeating_config s] at hc hsize
    exact ⟨hop, n.repeating_config s ▸ hsize, fun _ => hposting.tuned hc hsize hposted⟩
  | unsent htransmitting hposting =>
    rw [← n.repeating_config s] at hc hsize
    exact hleaves (hposting.tuned hc hsize h)
  | acked hdeadline ha t =>
    obtain ⟨m, rfl, rfl⟩ := h
    exact hleaves (hwaiting _ hdeadline)
  | watched hdeadline ha ht hw =>
    obtain ⟨m, -, hwatched⟩ := tuned_append.1 h
    exact ⟨hop, hsize, fun _ => hw.tuned hwatched⟩
  | unwatched hdeadline ha ht hw =>
    obtain ⟨m, -, hwatched⟩ := tuned_append.1 h
    exact hleaves (hw.tuned hwatched)
  | retried hdeadline ha ht hmore => exact ⟨hop, hsize, absurd rfl⟩
  | exhausted hdeadline ha ht hmore t =>
    obtain ⟨m, htimed, m', rfl, rfl⟩ := tuned_append.1 h
    exact hleaves ((ht.tuned htimed).trans (hwaiting _ hdeadline))

/-- **How an operation goes on.** -/
theorem Turning.tuned {a : Activity} (ht : Turning n a es n' r) (hc : n.config.frame.Valid)
    (hs : op.Sets n.config.frame before between looked (.ok (.again a)))
    (h : Tuned between es after) :
    op.Sets n.config.frame before after (looked || es.any Exchange.looks) r := by
  cases ht with
  | received deadline hd =>
    obtain ⟨⟨timeout, rfl⟩, rfl⟩ := hs
    rw [List.any_nil, Bool.or_false]
    exact h
  | expired hd ht =>
    obtain ⟨⟨timeout, rfl⟩, rfl⟩ := hs
    rw [ht.unlooked, Bool.or_false]
    exact ht.tuned h
  | @waited deadline rest es es' n' r hd ht hw =>
    obtain ⟨⟨timeout, rfl⟩, -⟩ := hs
    obtain ⟨m, -, hwatched⟩ := tuned_append.1 h
    have hafter : after = .receive := hw.tuned hwatched
    rw [List.any_append, hw.looked, Bool.or_true, Bool.or_true]
    cases r with
    | error e => exact hafter
    | ok u => exact ⟨⟨timeout, rfl⟩, hafter⟩
  | stopped flag idled =>
    obtain ⟨flag, rfl⟩ := hs
    obtain ⟨m₁, -, m₂, ⟨-, rfl⟩, rfl⟩ := h
    rfl
  | listened hw => exact hs
  | broken hw idled =>
    obtain ⟨flag, rfl⟩ := hs
    exact h.switched
  | sending hp => exact hp.tuned hc hs h

/-- **However far an operation has come**, the radio is in order. -/
theorem Operation.Reaches.tuned (hr : op.Reaches n es (.done (r, n')))
    (hc : n.config.frame.Valid) (h : Tuned before es after) :
    op.Sets n.config.frame before after (es.any Exchange.looks) r := by
  refine hr.holds (Q := fun es r _ => ∀ after, Tuned before es after →
    op.Sets n.config.frame before after (es.any Exchange.looks) r) ?_ ?_ after h
  · intro es r n' hs after h
    exact hs.tuned hc h
  · intro es a n₁ es' r n' hreaches hbefore ht after h
    obtain ⟨between, hes, hes'⟩ := tuned_append.1 h
    have hsets := hbefore between hes
    rw [← hreaches.config_eq] at hc hsets ⊢
    rw [List.any_append]
    exact ht.tuned hc hsets hes'

end

/-- **Every operation leaves the radio as it is meant to be left**, however it ends.  To look at the
radio and to send what a frame can carry leave it listening.  To wait for a delivery does so too if
the radio was looked at, and does not touch it otherwise.  To listen leaves it idle.

All that the radio must do is switch its mode.  It may fail at anything else, and taking a frame or
sending one may leave it in any mode. -/
theorem Operation.leaves_mode {σ : Type} {env : Surroundings σ} {mode : σ → Radio.Mode}
    (hs : Switches env mode) {n n' : Node} (hc : n.config.frame.Valid) {op : Operation}
    {patience : Nat} {s s' : σ} {result : Except Error Reply}
    (hrun : op.run env patience n s = (some result, n', s')) :
    ∃ es, Arrived env s op n es (result.map .finish) n' s' ∧
      mode s' = op.leaves n.config.frame (es.any Exchange.looks) (mode s) := by
  obtain ⟨es, harrived⟩ := Operation.run_arrives hrun
  have hsets := harrived.reaches.tuned hc (hs.gives harrived.gives)
  refine ⟨es, harrived, ?_⟩
  cases result with
  | error e => exact hsets
  | ok reply => exact hsets

/-- Surroundings with a radio that always has a frame ready, but fails to give it out and to send
anything.  When it fails it stops listening.  Their state is its mode. -/
def Surroundings.broken : Surroundings Radio.Mode where
  answer
    | .now, m => (0, m)
    | .sleep _, m => ((), m)
    | .mode, m => (m, m)
    | .radio .frameReady, m => (.ok true, m)
    | .radio .receive, _ => (.error .shutdown, .transmit)
    | .radio .init, m => (.ok (), m)
    | .radio (.setAddress _ _), m => (.ok (), m)
    | .radio (.setMode m), _ => (.ok (), m)
    | .radio (.transmit _), _ => (.error .shutdown, .transmit)
    | .stopped _, m => (false, m)
    | .offer _ _, m => (true, m)
    | .kept _, m => ((), m)

theorem Surroundings.broken_switches : Switches broken id where
  tells _ := rfl
  obeys _ _ := ⟨rfl, rfl⟩
  stays r s hr hset := by
    cases r with
    | radio call =>
      cases call with
      | frameReady => rfl
      | setMode m => exact absurd rfl (hset m)
      | _ => cases hr
    | _ => rfl

/-- With such a radio a fresh node fails to look at it, to send and to listen.  It leaves it
listening, listening and idle. -/
theorem leaves_mode_broken :
    (∃ n' m, Operation.poll.run .broken 1 (Node.fresh {}) .idle =
      (some (.error (.radio .shutdown)), n', m) ∧ m = .receive) ∧
    (∃ n' m, (Operation.sendReliable 2 [7]).run .broken 1 (Node.fresh {}) .idle =
      (some (.error (.radio .shutdown)), n', m) ∧ m = .receive) ∧
    ∃ n' m, (Operation.listen 0).run .broken 1 (Node.fresh {}) .receive =
      (some (.error (.radio .shutdown)), n', m) ∧ m = .idle := by
  have hvalid : (Node.fresh {}).config.frame.Valid := (bringUp_path bringUp_usual).1.frame
  have hswitches := Surroundings.broken_switches
  refine ⟨?_, ?_, ?_⟩
  · obtain ⟨n', m, hrun⟩ : ∃ n' m, Operation.poll.run .broken 1 (Node.fresh {}) .idle =
        (some (.error (.radio .shutdown)), n', m) := ⟨_, _, rfl⟩
    obtain ⟨es, -, hmode⟩ := Operation.leaves_mode hswitches hvalid hrun
    exact ⟨n', m, hrun, hmode⟩
  · obtain ⟨n', m, hrun⟩ : ∃ n' m, (Operation.sendReliable 2 [7]).run .broken 1 (Node.fresh {})
        .idle = (some (.error (.radio .shutdown)), n', m) := ⟨_, _, rfl⟩
    obtain ⟨es, -, hmode⟩ := Operation.leaves_mode hswitches hvalid hrun
    exact ⟨n', m, hrun, hmode⟩
  · obtain ⟨n', m, hrun⟩ : ∃ n' m, (Operation.listen 0).run .broken 1 (Node.fresh {}) .receive =
        (some (.error (.radio .shutdown)), n', m) := ⟨_, _, rfl⟩
    obtain ⟨es, -, hmode⟩ := Operation.leaves_mode hswitches hvalid hrun
    exact ⟨n', m, hrun, hmode⟩

end Link
end PacketRadio
