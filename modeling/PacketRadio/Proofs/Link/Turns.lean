/-
# What a turn does

rflink specification, §4.4: the states of a reliable send.

For each part of an operation a relation lists all that can happen, as
`Polling` does for a look at the radio: the exchanges, the node afterwards and
the result, one constructor for each case.

| relation | of |
| --- | --- |
| `Posting` | a copy of a datagram that is sent and counted |
| `Timing` | the time left to a deadline |
| `Watching` | a look at the radio, with a pause if nothing had come in |
| `Dispatching` | the beginning of a send |
| `Pursuing` | a turn of a send |
| `Starting` | the beginning of an operation |
| `Turning` | a turn of an operation |

Main statements: `start_goes` and `turn_goes`, and `Operation.Reaches.holds`, by
which what each of them upholds holds throughout an operation.
-/

import PacketRadio.Proofs.Link.Stretches

namespace PacketRadio
namespace Link

open PacketRadio.Link.Action

/-! ## Parts -/

/-- A copy of a datagram is sent, and counted if that went well. -/
inductive Posting (n : Node) (f : Frame) : List Exchange → Node → Except Error Unit → Prop where
  /-- It went wrong. -/
  | failed {es : List Exchange} {e : Error} (hs : Sending n.config.frame f es (.error e)) :
      Posting n f es n (.error e)
  /-- It went well. -/
  | posted {es : List Exchange} (hs : Sending n.config.frame f es (.ok ())) :
      Posting n f es (n.count fun t => { t with dataSent := t.dataSent + 1 }) (.ok ())

/-- The time left to a deadline is found out. -/
inductive Timing : Deadline → List Exchange → Option Nat → Prop where
  /-- The clock never comes to it. -/
  | endless : Timing none [] (some Duration.longest)
  /-- The clock is read. -/
  | read (instant t : Nat) :
      Timing (some instant) [⟨.now, t⟩] (Deadline.left t (some instant))

/-- The radio is looked at, and there is a pause of the given length if nothing had come in. -/
inductive Watching (n : Node) (length : Nat) : List Exchange → Node → Except Error Unit → Prop where
  /-- The look goes wrong. -/
  | failed {es : List Exchange} {n' : Node} {e : Error} (hp : Polling n es n' (.error e)) :
      Watching n length es n' (.error e)
  /-- Something had come in. -/
  | taken {es : List Exchange} {n' : Node} {event : PollEvent} (hp : Polling n es n' (.ok event))
      (he : event ≠ .idle) : Watching n length es n' (.ok ())
  /-- Nothing had. -/
  | paused {es : List Exchange} {n' : Node} (hp : Polling n es n' (.ok .idle)) :
      Watching n length (es ++ [⟨.sleep length, ()⟩]) n' (.ok ())

/-- The look at the radio that was part of it. -/
theorem Watching.polling {n n' : Node} {length : Nat} {es : List Exchange} {r : Except Error Unit}
    (h : Watching n length es n' r) : ∃ looked pause event, es = looked ++ pause ∧
      Polling n looked n' event ∧ ∀ e ∈ pause, e.request = .sleep length := by
  cases h with
  | failed hp => exact ⟨es, [], _, by simp, hp, by simp⟩
  | taken hp he => exact ⟨es, [], _, by simp, hp, by simp⟩
  | paused hp => exact ⟨_, _, _, rfl, hp, by simp⟩

theorem sendData_goes (dst : Address) (id flags : UInt8) (payload : Bytes) (n : Node) :
    (sendData dst id flags payload).Goes n
      (Posting n ⟨⟨dst, n.address, id, flags⟩, payload⟩) := by
  simp only [sendData, keeps_bind, keeps_node, onward_ok]
  refine (transmit_goes _ n).imp ?_
  rintro es n' (e | u) ⟨rfl, hs⟩
  · exact .failed hs
  · exact .posted hs

theorem left_goes (deadline : Deadline) (n : Node) :
    (left deadline).Goes n fun es n' r =>
      n' = n ∧ ∃ rest, r = .ok rest ∧ Timing deadline es rest := by
  cases deadline with
  | none => exact ⟨rfl, _, rfl, .endless⟩
  | some instant => exact ⟨trivial, fun t => ⟨rfl, _, rfl, .read instant t⟩⟩

/-- The radio is looked at, and what is done about nothing having come in is a pause. -/
theorem watch_goes (length : Node → Nat) (n : Node) {limit : Nat}
    (hlength : ∀ n', n'.config = n.config → length n' = limit) :
    (Action.poll >>= fun event =>
      if event = .idle then Action.node >>= fun n => sleep (length n) else pure ()).Goes n
      (Watching n limit) := by
  refine (poll_goes n).bind (fun es n' event hp => ?_) fun es n' e hp => .failed hp
  split
  · rename_i he
    subst he
    rw [← hlength n' hp.config_eq]
    exact ⟨trivial, fun _ => by
      rw [verbatim_note, List.nil_append, hlength n' hp.config_eq]
      exact .paused hp⟩
  · rename_i he
    refine (keeps_pure _).2 ?_
    rw [List.append_nil]
    exact .taken hp he

theorem pollOrPause_goes (limit : Nat) (n : Node) :
    (pollOrPause limit).Goes n (Watching n (min n.config.pollInterval limit)) :=
  watch_goes (fun n => min n.config.pollInterval limit) n fun n' hn => by rw [hn]

/-! ## Sends -/

/-- What is asked of a send. -/
structure Errand where
  /-- Whom it is for. -/
  dst : Address
  /-- What it carries. -/
  payload : Bytes
  /-- How often it is sent at most and how long is waited each time, if it is to be
  acknowledged. -/
  waits : Option (Nat × Nat)
  deriving DecidableEq, Repr

namespace Errand

/-- It is sent once, and nobody acknowledges it. -/
def single (d : Errand) : Bool :=
  d.waits.isNone || d.dst == Address.broadcast

/-- What is told at once of a datagram that is sent once. -/
def reply (d : Errand) (id : UInt8) : Reply :=
  if d.waits.isNone then .sent id else .outcome (.broadcast id)

/-- The frame that goes out once. -/
def frame (d : Errand) (src : Address) (id : UInt8) : Frame :=
  ⟨⟨d.dst, src, id, Flag.noAck⟩, d.payload⟩

/-- The send that goes on for its acknowledgment. -/
def send (d : Errand) (id : UInt8) (retries timeout started : Nat) : Send :=
  { dst := d.dst, id, payload := d.payload, attempts := max retries 1, timeout, started }

end Errand

/-- What an operation asks to be sent, at a node of this configuration. -/
def Operation.errand (c : Config) : Operation → Option Errand
  | .sendUnreliable dst payload => some ⟨dst, payload, none⟩
  | .sendReliable dst payload => some ⟨dst, payload, some (c.attempts, c.ackTimeout)⟩
  | .sendReliableWith dst payload maxRetries timeout =>
    some ⟨dst, payload, some (maxRetries, timeout)⟩
  | _ => none

namespace Node

/-- The node after it has given out its next number. -/
def numbering (n : Node) : Node :=
  { n with nextId := n.nextId + 1 }

/-- The node when a send to a peer has begun. -/
def expecting (n : Node) (dst : Address) : Node :=
  { n with nextId := n.nextId + 1, pending := some ⟨dst, n.nextId, false⟩ }

/-- The node with nothing pending. -/
def settled (n : Node) : Node :=
  { n with pending := none }

/-- The acknowledgment of the pending send has come. -/
def heeded (n : Node) : Bool :=
  n.pending.elim false (·.acked)

/-- The node about to send the copy at hand, which is a repetition unless it is the first. -/
def repeating (n : Node) (s : Send) : Node :=
  if s.attempt = 1 then n else n.count fun t => { t with retries := t.retries + 1 }

theorem repeating_address (n : Node) (s : Send) : (n.repeating s).address = n.address := by
  unfold repeating
  split <;> rfl

end Node

/-- A send begins. -/
inductive Dispatching (n : Node) (d : Errand) :
    List Exchange → Node → Except Error (Turn Activity Reply) → Prop where
  /-- There is too much to carry. -/
  | oversized (hsize : n.config.frame.maxPayload < d.payload.length) :
      Dispatching n d [] n
        (.error (.frame (.payloadTooLarge d.payload.length n.config.frame.maxPayload)))
  /-- It is sent once, and is over. -/
  | once {es : List Exchange} {n' : Node} {r : Except Error Unit}
      (hsize : d.payload.length ≤ n.config.frame.maxPayload) (hd : d.single = true)
      (hp : Posting n.numbering (d.frame n.address n.nextId) es n' r) :
      Dispatching n d es n' (r.map fun _ => .finish (d.reply n.nextId))
  /-- It waits for its acknowledgment. -/
  | awaited {retries timeout : Nat} (hsize : d.payload.length ≤ n.config.frame.maxPayload)
      (hd : d.waits = some (retries, timeout)) (hdst : d.dst ≠ Address.broadcast) (t : Nat) :
      Dispatching n d [⟨.now, t⟩] (n.expecting d.dst)
        (.ok (.again (.sending (d.send n.nextId retries timeout t))))

/-- A send takes a turn. -/
inductive Pursuing (n : Node) (s : Send) :
    List Exchange → Node → Except Error (Turn Send SendOutcome) → Prop where
  /-- The copy at hand is sent. -/
  | copied {es : List Exchange} {n' : Node} (hphase : s.phase = .transmitting)
      (hp : Posting (n.repeating s) ⟨⟨s.dst, n.address, s.id, s.flags⟩, s.payload⟩ es n' (.ok ()))
      (t : Nat) :
      Pursuing n s (es ++ [⟨.now, t⟩]) n'
        (.ok (.again { s with phase := .waiting (Deadline.after t s.timeout) }))
  /-- Sending it goes wrong. -/
  | unsent {es : List Exchange} {n' : Node} {e : Error} (hphase : s.phase = .transmitting)
      (hp : Posting (n.repeating s) ⟨⟨s.dst, n.address, s.id, s.flags⟩, s.payload⟩ es n'
        (.error e)) :
      Pursuing n s es n'.settled (.error e)
  /-- Its acknowledgment has come. -/
  | acked {deadline : Deadline} (hphase : s.phase = .waiting deadline) (ha : n.heeded = true)
      (t : Nat) :
      Pursuing n s [⟨.now, t⟩] n.settled
        (.ok (.finish (.acked s.id s.attempt (t - s.started))))
  /-- There is time left, and the radio is looked at. -/
  | watched {deadline : Deadline} {rest : Nat} {es es' : List Exchange} {n' : Node}
      (hphase : s.phase = .waiting deadline) (ha : n.heeded = false)
      (ht : Timing deadline es (some rest))
      (hw : Watching n (min n.config.pollInterval rest) es' n' (.ok ())) :
      Pursuing n s (es ++ es') n' (.ok (.again s))
  /-- That goes wrong. -/
  | unwatched {deadline : Deadline} {rest : Nat} {es es' : List Exchange} {n' : Node} {e : Error}
      (hphase : s.phase = .waiting deadline) (ha : n.heeded = false)
      (ht : Timing deadline es (some rest))
      (hw : Watching n (min n.config.pollInterval rest) es' n' (.error e)) :
      Pursuing n s (es ++ es') n'.settled (.error e)
  /-- The time is up, and another copy is due. -/
  | retried {deadline : Deadline} {es : List Exchange} (hphase : s.phase = .waiting deadline)
      (ha : n.heeded = false) (ht : Timing deadline es none) (hmore : s.attempt < s.attempts) :
      Pursuing n s es n
        (.ok (.again { s with attempt := s.attempt + 1, phase := .transmitting }))
  /-- The time is up, and so are the attempts. -/
  | exhausted {deadline : Deadline} {es : List Exchange} (hphase : s.phase = .waiting deadline)
      (ha : n.heeded = false) (ht : Timing deadline es none) (hmore : s.attempts ≤ s.attempt)
      (t : Nat) :
      Pursuing n s (es ++ [⟨.now, t⟩])
        (n.settled.count fun c => { c with failed := c.failed + 1 })
        (.ok (.finish (.failed s.id s.attempts (t - s.started))))

theorem sendUnreliable_dispatching (dst : Address) (payload : Bytes) (n : Node) :
    (Action.sendUnreliable dst payload >>= fun id => pure (.finish (.sent id))).Goes n
      (Dispatching n ⟨dst, payload, none⟩) := by
  simp only [Action.sendUnreliable, checkPayload, allocateId, keeps_bind, keeps_node, onward_ok]
  split
  · exact .oversized ‹_›
  · rename_i hsize
    simp only [keeps_pure, keeps_node, keeps_modify, keeps_bind, onward_ok]
    refine (sendData_goes dst n.nextId Flag.noAck payload n.numbering).imp fun es n' r h => ?_
    have hp : Posting n.numbering (Errand.frame ⟨dst, payload, none⟩ n.address n.nextId) es n' r :=
      h
    have honce := Dispatching.once (Nat.le_of_not_lt hsize) rfl hp
    cases r with
    | error e => exact honce
    | ok u => exact honce

theorem startSend_dispatching (dst : Address) (payload : Bytes) (maxRetries timeout : Nat)
    (n : Node) :
    (startSend dst payload maxRetries timeout >>=
      fun t => pure (t.map Activity.sending Reply.outcome)).Goes n
      (Dispatching n ⟨dst, payload, some (maxRetries, timeout)⟩) := by
  simp only [startSend, checkPayload, allocateId, keeps_bind, keeps_node, onward_ok]
  split
  · exact .oversized ‹_›
  · rename_i hsize
    simp only [keeps_pure, keeps_node, keeps_modify, keeps_bind, onward_ok]
    split
    · rename_i hdst
      subst hdst
      simp only [keeps_bind]
      refine (sendData_goes _ n.nextId Flag.noAck payload n.numbering).imp fun es n' r h => ?_
      have hp : Posting n.numbering (Errand.frame ⟨Address.broadcast, payload,
        some (maxRetries, timeout)⟩ n.address n.nextId) es n' r := h
      have honce := Dispatching.once (Nat.le_of_not_lt hsize) rfl hp
      cases r with
      | error e => exact honce
      | ok u => exact honce
    · rename_i hdst
      exact ⟨trivial, fun t => .awaited (Nat.le_of_not_lt hsize) rfl hdst t⟩

/-! ## A send under way -/

/-- What the whole turn makes of the node that its step leaves: if the send is over, nothing is
pending any more, and giving it up is counted. -/
def Send.closing (n : Node) : Except Error (Turn Send SendOutcome) → Node
  | .ok (.again _) => n
  | .ok (.finish outcome) =>
    if outcome.isFailed then n.settled.count fun t => { t with failed := t.failed + 1 }
    else n.settled
  | .error _ => n.settled

/-- A turn of a send is a step with what it makes of the node. -/
theorem sendTurn_goes_of_step {s : Send} {n : Node}
    {P : List Exchange → Node → Except Error (Turn Send SendOutcome) → Prop}
    (hstep : s.step.Goes n fun es n' r => P es (Send.closing n' r) r) : s.turn.Goes n P := by
  refine (keeps_bind _ _).2 ((keeps_attempt _).2 (hstep.imp ?_))
  rintro es n' (e | s' | outcome) h
  · exact h
  · exact h
  · simp only [onward_ok, keeps_bind, keeps_modify]
    simp only [Send.closing] at h
    split
    · rename_i hfailed
      rwa [if_pos hfailed] at h
    · rename_i hfailed
      rwa [if_neg hfailed] at h

theorem transmitCopy_goes {s : Send} (hphase : s.phase = .transmitting) (n : Node) :
    s.transmitCopy.Goes n fun es n' r => Pursuing n s es (Send.closing n' r) r := by
  have hsend : (sendData s.dst s.id s.flags s.payload >>= fun _ => now >>= fun t =>
      pure (Turn.again { s with phase := .waiting (Deadline.after t s.timeout) })).Goes
      (n.repeating s) fun es n' r => Pursuing n s es (Send.closing n' r) r := by
    refine (sendData_goes s.dst s.id s.flags s.payload (n.repeating s)).bind ?_ ?_
    · intro es n' u h
      exact ⟨trivial, fun t => .copied hphase (by rwa [n.repeating_address] at h) t⟩
    · intro es n' e h
      exact .unsent hphase (by rwa [n.repeating_address] at h)
  unfold Send.transmitCopy
  split
  · rename_i hattempt
    simp only [Node.repeating, if_neg hattempt] at hsend
    exact hsend
  · rename_i hattempt
    simp only [Node.repeating, if_pos (Decidable.not_not.1 hattempt)] at hsend
    exact hsend

theorem await_goes {s : Send} {deadline : Deadline} (hphase : s.phase = .waiting deadline)
    (n : Node) :
    (s.await deadline).Goes n fun es n' r => Pursuing n s es (Send.closing n' r) r := by
  simp only [Send.await, isAcked, keeps_bind, keeps_node, keeps_pure, onward_ok]
  split
  · rename_i ha
    exact ⟨trivial, fun t => .acked hphase ha t⟩
  · rename_i ha
    have ha : n.heeded = false := Bool.eq_false_iff.2 ha
    simp only [keeps_bind]
    refine (left_goes deadline n).imp ?_
    rintro es _ _ ⟨rfl, rest, rfl, ht⟩
    rw [onward_ok]
    cases rest with
    | some rest =>
      refine Goes.after ((pollOrPause_goes rest _).bind (fun es' n' u hw => ?_)
        fun es' n' e hw => .unwatched hphase ha ht hw)
      refine (keeps_pure _).2 ?_
      rw [List.append_nil]
      exact .watched hphase ha ht hw
    | none =>
      dsimp only
      split
      · exact .retried hphase ha ht ‹_›
      · rename_i hmore
        exact ⟨trivial, fun t => .exhausted hphase ha ht (Nat.le_of_not_lt hmore) t⟩

/-- **What a turn of a send does.** -/
theorem pursue_goes (s : Send) (n : Node) : s.turn.Goes n (Pursuing n s) := by
  refine sendTurn_goes_of_step ?_
  unfold Send.step
  split
  · exact transmitCopy_goes ‹_› n
  · exact await_goes ‹_› n

/-! ## Whole operations -/

/-- An operation begins. -/
inductive Starting (n : Node) :
    Operation → List Exchange → Node → Except Error (Turn Activity Reply) → Prop where
  /-- The radio is looked at once. -/
  | polled {es : List Exchange} {n' : Node} {event : Except Error PollEvent}
      (hp : Polling n es n' event) :
      Starting n .poll es n' (event.map fun event => .finish (.event event))
  /-- The oldest delivery is given out, if there is one. -/
  | popped :
      Starting n .recv [] { n with sink := n.sink.pop.2 } (.ok (.finish (.delivery n.sink.pop.1)))
  /-- The wait for a delivery begins. -/
  | receiving (timeout t : Nat) :
      Starting n (.recvTimeout timeout) [⟨.now, t⟩] n
        (.ok (.again (.receiving (Deadline.after t timeout))))
  /-- Listening begins. -/
  | listening (flag : Nat) : Starting n (.listen flag) [] n (.ok (.again (.listening flag)))
  /-- A send begins. -/
  | sending {op : Operation} {d : Errand} {es : List Exchange} {n' : Node}
      {r : Except Error (Turn Activity Reply)} (hop : op.errand n.config = some d)
      (hd : Dispatching n d es n' r) : Starting n op es n' r

/-- An operation under way takes a turn. -/
inductive Turning (n : Node) :
    Activity → List Exchange → Node → Except Error (Turn Activity Reply) → Prop where
  /-- A delivery is there. -/
  | received (deadline : Deadline) {d : Delivery} (hd : n.sink.pop.1 = some d) :
      Turning n (.receiving deadline) [] { n with sink := n.sink.pop.2 }
        (.ok (.finish (.delivery (some d))))
  /-- None is, and the time is up. -/
  | expired {deadline : Deadline} {es : List Exchange} (hd : n.sink.pop.1 = none)
      (ht : Timing deadline es none) :
      Turning n (.receiving deadline) es n (.ok (.finish (.delivery none)))
  /-- None is, and the radio is looked at. -/
  | waited {deadline : Deadline} {rest : Nat} {es es' : List Exchange} {n' : Node}
      {r : Except Error Unit} (hd : n.sink.pop.1 = none) (ht : Timing deadline es (some rest))
      (hw : Watching n (min n.config.pollInterval rest) es' n' r) :
      Turning n (.receiving deadline) (es ++ es') n'
        (r.map fun _ => .again (.receiving deadline))
  /-- The stop flag is set; the radio is told to be idle. -/
  | stopped (flag : Nat) (idled : Except Radio.Failure Unit) :
      Turning n (.listening flag) [⟨.stopped flag, true⟩, ⟨.radio (.setMode .idle), idled⟩] n
        (.ok (.finish .stopped))
  /-- It is not, and the radio is looked at. -/
  | listened {flag : Nat} {es : List Exchange} {n' : Node}
      (hw : Watching n n.config.pollInterval es n' (.ok ())) :
      Turning n (.listening flag) (⟨.stopped flag, false⟩ :: es) n'
        (.ok (.again (.listening flag)))
  /-- That goes wrong; the radio is told to be idle. -/
  | broken {flag : Nat} {es : List Exchange} {n' : Node} {e : Error}
      (hw : Watching n n.config.pollInterval es n' (.error e))
      (idled : Except Radio.Failure Unit) :
      Turning n (.listening flag)
        (⟨.stopped flag, false⟩ :: es ++ [⟨.radio (.setMode .idle), idled⟩]) n' (.error e)
  /-- A send takes its turn. -/
  | sending {s : Send} {es : List Exchange} {n' : Node} {r : Except Error (Turn Send SendOutcome)}
      (hs : Pursuing n s es n' r) :
      Turning n (.sending s) es n' (r.map (Turn.map .sending .outcome))

/-- **What the beginning of an operation does**, on any radio. -/
theorem start_goes (op : Operation) (n : Node) : op.start.Goes n (Starting n op) := by
  cases op with
  | poll =>
    refine (poll_goes n).bind (fun es n' event hp => ?_) fun es n' e hp => .polled hp
    refine (keeps_pure _).2 ?_
    rw [List.append_nil]
    exact .polled hp
  | recv => exact .popped
  | recvTimeout timeout => exact ⟨trivial, fun t => .receiving timeout t⟩
  | listen flag => exact .listening flag
  | sendUnreliable dst payload =>
    exact (sendUnreliable_dispatching dst payload n).imp fun _ _ _ h => .sending rfl h
  | sendReliable dst payload =>
    have hd := startSend_dispatching dst payload n.config.attempts n.config.ackTimeout n
    exact hd.imp fun es n' r h => Starting.sending rfl h
  | sendReliableWith dst payload maxRetries timeout =>
    have hd := startSend_dispatching dst payload maxRetries timeout n
    exact hd.imp fun es n' r h => Starting.sending rfl h

theorem receiving_goes (deadline : Deadline) (n : Node) :
    (Activity.receiving deadline).turn.Goes n (Turning n (.receiving deadline)) := by
  simp only [Activity.turn, receiveTurn, recv, keeps_bind, keeps_node, keeps_modify, keeps_pure,
    onward_ok]
  cases hd : n.sink.pop.1 with
  | some d => exact .received deadline hd
  | none =>
    rw [Sink.pop_eq_self hd]
    simp only [keeps_bind]
    refine (left_goes deadline n).imp ?_
    rintro es _ _ ⟨rfl, rest, rfl, ht⟩
    rw [onward_ok]
    cases rest with
    | none => exact .expired hd ht
    | some rest =>
      refine Goes.after ?_
      simp only [keeps_bind]
      refine (pollOrPause_goes rest _).imp ?_
      rintro es' n' (e | u) hw
      · exact .waited hd ht hw
      · exact .waited hd ht hw

theorem listening_goes (flag : Nat) (n : Node) :
    (Activity.listening flag).turn.Goes n (Turning n (.listening flag)) := by
  have hwatch := watch_goes (fun n => n.config.pollInterval) n fun n' hn => by rw [hn]
  simp only [Activity.turn, listenTurn, keeps_bind]
  refine (keeps_ask _).2 ⟨trivial, fun stopped => ?_⟩
  rw [onward_ok]
  cases stopped with
  | true => exact ⟨trivial, fun idled => .stopped flag idled⟩
  | false =>
    rw [if_neg Bool.false_ne_true]
    refine (keeps_bind _ _).2 ((keeps_attempt _).2 (Goes.after (hwatch.imp ?_)))
    rintro es n' (e | u) hw
    · exact ⟨trivial, fun idled => .broken hw idled⟩
    · exact .listened hw

/-- **What a turn does**, on any radio. -/
theorem turn_goes (a : Activity) (n : Node) : a.turn.Goes n (Turning n a) := by
  cases a with
  | receiving deadline => exact receiving_goes deadline n
  | listening flag => exact listening_goes flag n
  | sending s =>
    refine (pursue_goes s n).bind (fun es n' t h => ?_) fun es n' e h => .sending h
    refine (keeps_pure _).2 ?_
    rw [List.append_nil]
    exact .sending h

/-- **What a stretch does**, on any radio. -/
theorem Stretch.goes {n n' : Node} {es : List Exchange} {r : Except Error (Turn Activity Reply)}
    (h : Stretch n es (r, n')) : (∃ op, Starting n op es n' r) ∨ ∃ a, Turning n a es n' r := by
  cases h with
  | start op path => exact .inl ⟨op, (start_goes op n).path path⟩
  | turn a path => exact .inr ⟨a, (turn_goes a n).path path⟩

section

variable {op : Operation} {n n' : Node} {es : List Exchange}
  {r : Except Error (Turn Activity Reply)}

/-- **What the beginning of an operation and each of its turns uphold holds however far it has
come.** -/
theorem Operation.Reaches.holds
    {Q : List Exchange → Except Error (Turn Activity Reply) → Node → Prop}
    (hr : op.Reaches n es (.done (r, n')))
    (hstart : ∀ es r n', Starting n op es n' r → Q es r n')
    (hturn : ∀ es a n₁ es' r n', op.Reaches n es (.done (.ok (.again a), n₁)) →
      Q es (.ok (.again a)) n₁ → Turning n₁ a es' n' r → Q (es ++ es') r n') : Q es r n' := by
  have hall : op.Reaches n (es ++ []) (.done (r, n')) ∧ Q (es ++ []) r n' := by
    refine hr.upholds (Q := fun es r n' => op.Reaches n es (.done (r, n')) ∧ Q es r n') ?_ ?_
      (.here _)
    · intro es r n' hpath
      exact ⟨Operation.Reaches.begun.path hpath, hstart es r n' ((start_goes op n).path hpath)⟩
    · rintro es a n₁ es' r n' ⟨hreaches, hbefore⟩ hpath
      exact ⟨hreaches.turned.path hpath,
        hturn es a n₁ es' r n' hreaches hbefore ((turn_goes a n₁).path hpath)⟩
  rw [List.append_nil] at hall
  exact hall.2

/-- An operation changes no configuration. -/
theorem Operation.Reaches.config_eq (hr : op.Reaches n es (.done (r, n'))) :
    n'.config = n.config := by
  have hnow : Task.Path (.done (r, n')) [] (.done (r, n')) := .here _
  refine hr.upholds (Q := fun _ _ n' => n'.config = n.config) ?_ ?_ hnow
  · intro es r n' hpath
    exact (Stretch.start op hpath).config_eq
  · intro es a n₁ es' r n' hconfig hpath
    exact (Stretch.turn a hpath).config_eq.trans hconfig

end

/-! ## What a stretch takes in -/

/-- The node without what only its own sends change. -/
def Node.inward (n : Node) : Node :=
  { n with
    nextId := 0
    pending := none
    telemetry := { n.telemetry with dataSent := 0, retries := 0, failed := 0 } }

namespace Node

variable {n n' : Node}

theorem config_of_inward (h : n'.inward = n.inward) : n'.config = n.config := by
  have hconfig : n'.inward.config = n.inward.config := by rw [h]
  exact hconfig

theorem sink_of_inward (h : n'.inward = n.inward) : n'.sink = n.sink := by
  have hsink : n'.inward.sink = n.inward.sink := by rw [h]
  exact hsink

end Node

/-- Nothing is taken and nothing handed over, and if something is sent it is a datagram. -/
def Exchange.Outward (c : Frame.Config) (e : Exchange) : Prop :=
  e.request.isPlain = true ∨
    ∃ (f : Frame) (wire : Bytes),
      f.header.isAck = false ∧ f.encode c = .ok wire ∧ e.request = .radio (.transmit wire)

/-- The delivery that is given out at the end of a turn. -/
def Turn.given : Except Error (Turn Activity Reply) → Option Delivery
  | .ok (.finish (.delivery d)) => d
  | _ => none

/-- What a stretch does about frames that come in and about deliveries. -/
inductive Intake (n : Node) :
    List Exchange → Node → Except Error (Turn Activity Reply) → Prop where
  /-- Nothing. -/
  | none {es : List Exchange} {n' : Node} {r : Except Error (Turn Activity Reply)}
      (outward : ∀ e ∈ es, e.Outward n.config.frame) (same : n'.inward = n.inward)
      (hr : Turn.given r = .none) : Intake n es n' r
  /-- It gives out the oldest delivery of the node's own queue. -/
  | popped {d : Delivery} (hd : n.sink.pop.1 = some d) :
      Intake n [] { n with sink := n.sink.pop.2 } (.ok (.finish (.delivery (some d))))
  /-- It looks at the radio once. -/
  | looked {pre es post : List Exchange} {n₁ n' : Node} {event : Except Error PollEvent}
      {r : Except Error (Turn Activity Reply)} (before : ∀ e ∈ pre, e.request.isPlain = true)
      (hp : Polling n es n₁ event) (after : ∀ e ∈ post, e.request.isPlain = true)
      (same : n'.inward = n₁.inward) (hr : Turn.given r = .none) :
      Intake n (pre ++ es ++ post) n' r

section

variable {n n' : Node} {es : List Exchange}

theorem Timing.plain {deadline : Deadline} {rest : Option Nat} (h : Timing deadline es rest) :
    ∀ e ∈ es, e.request.isPlain = true := by
  cases h <;> simp [Request.isPlain]

/-- What is sent of a datagram is sent outward. -/
theorem Sending.outward {c : Frame.Config} {f : Frame} {r : Except Error Unit}
    (h : Sending c f es r) (hf : f.header.isAck = false) : ∀ e ∈ es, e.Outward c := by
  cases h with
  | unwritten hw => simp
  | refused hw failure => simp [Exchange.Outward, Request.isPlain]
  | aired hw sent restored =>
    rintro e he
    simp only [List.mem_cons, List.not_mem_nil, or_false] at he
    rcases he with rfl | rfl | rfl
    · exact .inl rfl
    · exact .inr ⟨f, _, hf, hw, rfl⟩
    · exact .inl rfl

theorem Posting.outward {f : Frame} {r : Except Error Unit} (h : Posting n f es n' r)
    (hf : f.header.isAck = false) :
    (∀ e ∈ es, e.Outward n.config.frame) ∧ n'.inward = n.inward := by
  cases h with
  | failed hs => exact ⟨hs.outward hf, rfl⟩
  | posted hs => exact ⟨hs.outward hf, rfl⟩

/-- A look at the radio, with a pause or without. -/
theorem Watching.intake {length : Nat} {r : Except Error Unit} {n₁ : Node}
    (h : Watching n length es n₁ r) (pre post : List Exchange)
    (before : ∀ e ∈ pre, e.request.isPlain = true) (after : ∀ e ∈ post, e.request.isPlain = true)
    {r' : Except Error (Turn Activity Reply)} (same : n'.inward = n₁.inward)
    (hr : Turn.given r' = none) : Intake n (pre ++ es ++ post) n' r' := by
  obtain ⟨looked, pause, event, rfl, hp, hpause⟩ := h.polling
  have hafter : ∀ e ∈ pause ++ post, e.request.isPlain = true := by
    intro e he
    rcases List.mem_append.1 he with he | he
    · rw [hpause e he]
      rfl
    · exact after e he
  rw [List.append_assoc, List.append_assoc, ← List.append_assoc]
  exact .looked before hp hafter same hr

theorem Dispatching.intake {d : Errand} {r : Except Error (Turn Activity Reply)}
    (h : Dispatching n d es n' r) : Intake n es n' r := by
  cases h with
  | oversized hsize => exact .none (by simp) rfl rfl
  | @once _ _ r hsize hd hp =>
    have hack : Flag.has Flag.noAck Flag.ack = false := by decide
    obtain ⟨houtward, hsame⟩ := hp.outward hack
    refine .none houtward hsame ?_
    cases r with
    | error e => rfl
    | ok u =>
      simp only [Except.map, Errand.reply]
      split <;> rfl
  | awaited hsize hd hdst t => exact .none (by simp [Exchange.Outward, Request.isPlain]) rfl rfl

theorem Node.repeating_inward (n : Node) (s : Send) : (n.repeating s).inward = n.inward := by
  unfold repeating
  split <;> rfl

theorem Node.repeating_config (n : Node) (s : Send) : (n.repeating s).config = n.config := by
  unfold repeating
  split <;> rfl

theorem Send.flags_not_ack (s : Send) : Flag.has s.flags Flag.ack = false := by
  unfold Send.flags
  split <;> decide

theorem Pursuing.intake {s : Send} {r : Except Error (Turn Send SendOutcome)}
    (h : Pursuing n s es n' r) : Intake n es n' (r.map (Turn.map .sending .outcome)) := by
  cases h with
  | copied hphase hp t =>
    obtain ⟨houtward, hsame⟩ := hp.outward s.flags_not_ack
    rw [n.repeating_config] at houtward
    refine .none ?_ (hsame.trans (n.repeating_inward s)) rfl
    intro e he
    rcases List.mem_append.1 he with he | he
    · exact houtward e he
    · obtain rfl := List.mem_singleton.1 he
      exact .inl rfl
  | unsent hphase hp =>
    obtain ⟨houtward, hsame⟩ := hp.outward s.flags_not_ack
    rw [n.repeating_config] at houtward
    exact .none houtward (hsame.trans (n.repeating_inward s)) rfl
  | acked hphase ha t => exact .none (by simp [Exchange.Outward, Request.isPlain]) rfl rfl
  | watched hphase ha ht hw =>
    rw [← List.append_nil (_ ++ _)]
    exact hw.intake _ [] ht.plain (by simp) rfl rfl
  | unwatched hphase ha ht hw =>
    rw [← List.append_nil (_ ++ _)]
    exact hw.intake _ [] ht.plain (by simp) rfl rfl
  | retried hphase ha ht hmore => exact .none (fun e he => .inl (ht.plain e he)) rfl rfl
  | exhausted hphase ha ht hmore t =>
    refine .none (fun e he => .inl ?_) rfl rfl
    rcases List.mem_append.1 he with he | he
    · exact ht.plain e he
    · obtain rfl := List.mem_singleton.1 he
      rfl

theorem Starting.intake {op : Operation} {r : Except Error (Turn Activity Reply)}
    (h : Starting n op es n' r) : Intake n es n' r := by
  cases h with
  | @polled es n' event hp =>
    have hr : Turn.given (event.map fun event => .finish (.event event)) = none := by
      cases event <;> rfl
    have hnone : ∀ e ∈ ([] : List Exchange), e.request.isPlain = true := by simp
    have hlooked := Intake.looked hnone hp hnone rfl hr
    rwa [List.nil_append, List.append_nil] at hlooked
  | popped =>
    cases hd : n.sink.pop.1 with
    | some d => exact .popped hd
    | none =>
      rw [Sink.pop_eq_self hd]
      exact .none (by simp) rfl rfl
  | receiving timeout t => exact .none (by simp [Exchange.Outward, Request.isPlain]) rfl rfl
  | listening flag => exact .none (by simp) rfl rfl
  | sending hop hd => exact hd.intake

theorem Turning.intake {a : Activity} {r : Except Error (Turn Activity Reply)}
    (h : Turning n a es n' r) : Intake n es n' r := by
  cases h with
  | received deadline hd => exact .popped hd
  | expired hd ht => exact .none (fun e he => .inl (ht.plain e he)) rfl rfl
  | @waited deadline rest es es' n' r hd ht hw =>
    rw [← List.append_nil (_ ++ _)]
    exact hw.intake _ [] ht.plain (by simp) rfl (by cases r <;> rfl)
  | stopped flag idled => exact .none (by simp [Exchange.Outward, Request.isPlain]) rfl rfl
  | @listened flag es n' hw =>
    rw [← List.append_nil (_ :: _), ← List.singleton_append]
    exact hw.intake _ [] (by simp [Request.isPlain]) (by simp) rfl rfl
  | broken hw idled =>
    rw [← List.singleton_append]
    exact hw.intake _ _ (by simp [Request.isPlain]) (by simp [Request.isPlain]) rfl rfl
  | sending hs => exact hs.intake

/-- **A stretch takes nothing in, gives out a delivery, or looks at the radio once.** -/
theorem Stretch.intake {r : Except Error (Turn Activity Reply)} (h : Stretch n es (r, n')) :
    Intake n es n' r := by
  rcases h.goes with ⟨op, hs⟩ | ⟨a, ht⟩
  · exact hs.intake
  · exact ht.intake

end

end Link
end PacketRadio
