/-
# Runs that are alike

rflink specification, §3: flag bits that are ignored on receive; §4.5:
telemetry never gates protocol behaviour.

Two runs of a node may differ in the flags that frames come with and in what
has been counted, and be alike in everything else.  A `Likeness` says which
flags and which counters are alike; that of headers, deliveries, nodes,
exchanges and replies follows.

Actions are alike if, begun at nodes that are alike, they make requests that
are alike, go on alike for all answers that are, and end with nodes and
results that are.  The rules follow the ways in which actions are put
together, so what holds of a whole operation is found from its parts.

A course (`Course`) is a run step by step.  What comes from outside, the
operations asked for and the answers given, is all that two courses have to
share.

Main statement: `Likeness.Statuses.course`.
-/

import PacketRadio.Proofs.Link.History
import Mathlib.Data.List.Forall2

namespace PacketRadio
namespace Link

open PacketRadio.Link.Action

/-- What may be different about two runs. -/
structure Likeness where
  /-- How frames are read. -/
  frame : Frame.Config
  /-- The flag bytes of two frames are alike. -/
  flags : UInt8 → UInt8 → Prop
  /-- The counters of two nodes are alike. -/
  counters : Telemetry → Telemetry → Prop
  /-- Every flag byte is like itself. -/
  refl : ∀ f, flags f f
  /-- Flag bytes that are alike say the same about acknowledgments. -/
  acks : ∀ {f f'}, flags f f' → Flag.has f' Flag.ack = Flag.has f Flag.ack ∧
    Flag.has f' Flag.noAck = Flag.has f Flag.noAck
  /-- Counters stay alike, whatever is counted. -/
  counted : ∀ (k : Telemetry → Telemetry) {t t'}, counters t t' → counters (k t) (k t')

namespace Likeness

variable (L : Likeness)

/-! ## What is alike -/

/-- Headers that are alike. -/
structure Headers (h h' : Header) : Prop where
  /-- They go to the same node. -/
  dst : h'.dst = h.dst
  /-- They come from the same node. -/
  src : h'.src = h.src
  /-- They have the same number. -/
  id : h'.id = h.id
  /-- Their flags are alike. -/
  flags : L.flags h.flags h'.flags

/-- Frames that are alike. -/
structure Frames (f f' : Frame) : Prop where
  /-- Their headers are alike. -/
  header : L.Headers f.header f'.header
  /-- They carry the same. -/
  payload : f'.payload = f.payload

/-- Deliveries that are alike. -/
structure Deliveries (d d' : Delivery) : Prop where
  /-- They go to the same node. -/
  dst : d'.dst = d.dst
  /-- They come from the same node. -/
  src : d'.src = d.src
  /-- They have the same number. -/
  id : d'.id = d.id
  /-- Their flags are alike. -/
  flags : L.flags d.flags d'.flags
  /-- They carry the same. -/
  payload : d'.payload = d.payload
  /-- They came in with the same signal strength. -/
  rssi : d'.rssi = d.rssi

/-- Receptions that are alike: the same, or both are frames, and these are alike. -/
structure Receptions (r r' : Radio.Reception) : Prop where
  /-- They came in with the same signal strength. -/
  rssi : r'.rssi = r.rssi
  /-- They are the same bytes or stand for frames that are alike. -/
  bytes : r'.bytes = r.bytes ∨ ∃ f f', Frame.decode L.frame r.bytes = .ok f ∧
    Frame.decode L.frame r'.bytes = .ok f' ∧ L.Frames f f'

/-- Sinks that are alike. -/
inductive Sinks : Sink → Sink → Prop where
  /-- As many deliveries wait in either queue, and they are alike. -/
  | queue (capacity : Nat) {w w' : List Delivery} (h : List.Forall₂ L.Deliveries w w') :
      Sinks (.queue capacity w) (.queue capacity w')
  /-- They are the same channel. -/
  | channel (id : Nat) : Sinks (.channel id) (.channel id)

/-- Nodes that are alike. -/
structure Nodes (n n' : Node) : Prop where
  /-- They read frames as is meant. -/
  frame : n.config.frame = L.frame
  /-- They take part in the same way. -/
  config : n'.config = n.config
  /-- Their next datagrams have the same number. -/
  nextId : n'.nextId = n.nextId
  /-- They know the same numbers. -/
  lastAccepted : n'.lastAccepted = n.lastAccepted
  /-- The same send is pending. -/
  pending : n'.pending = n.pending
  /-- Their deliveries are alike. -/
  sink : L.Sinks n.sink n'.sink
  /-- What has been counted is alike. -/
  telemetry : L.counters n.telemetry n'.telemetry

/-- Requests that are alike. -/
inductive Requests : Request → Request → Prop where
  /-- The same request. -/
  | same (r : Request) : Requests r r
  /-- Deliveries that are alike, offered to one channel. -/
  | offer (id : Nat) {d d' : Delivery} (h : L.Deliveries d d') :
      Requests (.offer id d) (.offer id d')
  /-- Deliveries that are alike, kept. -/
  | kept {d d' : Delivery} (h : L.Deliveries d d') : Requests (.kept d) (.kept d')

/-- Exchanges that are alike. -/
inductive Exchanges : Exchange → Exchange → Prop where
  /-- The same exchange. -/
  | same (e : Exchange) : Exchanges e e
  /-- Receptions that are alike. -/
  | received {r r' : Radio.Reception} (h : L.Receptions r r') :
      Exchanges ⟨.radio .receive, .ok (some r)⟩ ⟨.radio .receive, .ok (some r')⟩
  /-- One answer to deliveries that are alike. -/
  | offered (id : Nat) {d d' : Delivery} (h : L.Deliveries d d') (taken : Bool) :
      Exchanges ⟨.offer id d, taken⟩ ⟨.offer id d', taken⟩
  /-- Deliveries that are alike, kept. -/
  | kept {d d' : Delivery} (h : L.Deliveries d d') : Exchanges ⟨.kept d, ()⟩ ⟨.kept d', ()⟩

/-- Replies that are alike. -/
inductive Replies : Reply → Reply → Prop where
  /-- The same reply. -/
  | same (r : Reply) : Replies r r
  /-- Deliveries that are alike. -/
  | delivery {d d' : Delivery} (h : L.Deliveries d d') :
      Replies (.delivery (some d)) (.delivery (some d'))

/-- Ends of turns that are alike. -/
inductive Turns : Turn Activity Reply → Turn Activity Reply → Prop where
  /-- The same activity goes on. -/
  | again (a : Activity) : Turns (.again a) (.again a)
  /-- The operation is over. -/
  | finish {r r' : Reply} (h : L.Replies r r') : Turns (.finish r) (.finish r')

/-- Outcomes that are alike: the same error, or results as `R` says. -/
inductive Outcomes {α β : Type} (R : α → β → Prop) : Except Error α → Except Error β → Prop where
  /-- The same error. -/
  | error (e : Error) : Outcomes R (.error e) (.error e)
  /-- Results as wanted. -/
  | ok {a : α} {b : β} (h : R a b) : Outcomes R (.ok a) (.ok b)

variable {L}

theorem Deliveries.refl (d : Delivery) : L.Deliveries d d :=
  ⟨rfl, rfl, rfl, L.refl _, rfl, rfl⟩

/-- Only a reception can be answered in two ways that are alike. -/
theorem Exchanges.answer_eq {r : Request} (hr : r ≠ .radio .receive) {a a' : r.Answer}
    (h : L.Exchanges ⟨r, a⟩ ⟨r, a'⟩) : a' = a := by
  cases h with
  | same e => rfl
  | received h => exact absurd rfl hr
  | offered id h taken => rfl
  | kept h => rfl

/-! ## Trees and actions -/

/-- Trees that are alike, with results as `R` says. -/
def Tasks (L : Likeness) {α β : Type} (R : α → β → Prop) : Task α → Task β → Prop
  | .done a, .done b => R a b
  | .ask r next, .ask r' next' =>
    L.Requests r r' ∧ ∀ a a', L.Exchanges ⟨r, a⟩ ⟨r', a'⟩ → Tasks L R (next a) (next' a')
  | _, _ => False

/-- Actions that are alike. -/
def Actions (L : Likeness) {α β : Type} (R : α → β → Prop) (x : Action α) (x' : Action β) : Prop :=
  ∀ n n', L.Nodes n n' →
    L.Tasks (fun p p' => Outcomes R p.1 p'.1 ∧ L.Nodes p.2 p'.2) (x n) (x' n')

/-- The action is like itself, with the same results. -/
abbrev Indifferent (L : Likeness) {α : Type} (x : Action α) : Prop :=
  L.Actions Eq x x

section

variable {α β γ δ : Type} {R : α → β → Prop} {S : γ → δ → Prop}

/-- **Trees that are alike go on alike.** -/
theorem Tasks.bind {t : Task α} {t' : Task β} {f : α → Task γ} {f' : β → Task δ}
    (h : L.Tasks R t t') (hf : ∀ a b, R a b → L.Tasks S (f a) (f' b)) :
    L.Tasks S (t.bind f) (t'.bind f') := by
  induction t generalizing t' with
  | done a =>
    cases t' with
    | done b => exact hf a b h
    | ask r' next' => exact h.elim
  | ask r next ih =>
    cases t' with
    | done b => exact h.elim
    | ask r' next' => exact ⟨h.1, fun a a' he => ih a (h.2 a a' he)⟩

namespace Actions

/-- **One action after another.** -/
theorem bind {x : Action α} {x' : Action β} {f : α → Action γ} {f' : β → Action δ}
    (hx : L.Actions R x x') (hf : ∀ a b, R a b → L.Actions S (f a) (f' b)) :
    L.Actions S (x >>= f) (x' >>= f') := by
  intro n n' hn
  refine Tasks.bind (hx n n' hn) ?_
  rintro ⟨_, m⟩ ⟨_, m'⟩ ⟨hr, hm⟩
  cases hr with
  | error e => exact ⟨.error e, hm⟩
  | ok h => exact hf _ _ h m m' hm

/-- **An action that is like itself, and another after it.** -/
theorem after {x : Action α} {f : α → Action γ} {f' : α → Action δ} (hx : L.Indifferent x)
    (hf : ∀ a, L.Actions S (f a) (f' a)) : L.Actions S (x >>= f) (x >>= f') :=
  hx.bind fun a b hab => by
    subst hab
    exact hf a

theorem pure {a : α} {b : β} (h : R a b) :
    L.Actions R (Pure.pure a : Action α) (Pure.pure b : Action β) :=
  fun _ _ hn => ⟨.ok h, hn⟩

theorem fail (e : Error) : L.Actions R (Action.fail e) (Action.fail e) :=
  fun _ _ hn => ⟨.error e, hn⟩

theorem ofExcept {r : Except Error α} {r' : Except Error β} (h : Outcomes R r r') :
    L.Actions R (Action.ofExcept r) (Action.ofExcept r') :=
  fun _ _ hn => ⟨h, hn⟩

theorem node : L.Actions L.Nodes Action.node Action.node :=
  fun _ _ hn => ⟨.ok hn, hn⟩

theorem modify {f f' : Node → Node} (h : ∀ n n', L.Nodes n n' → L.Nodes (f n) (f' n')) :
    L.Actions Eq (Action.modify f) (Action.modify f') :=
  fun n n' hn => ⟨.ok rfl, h n n' hn⟩

/-- **Counting** keeps nodes alike. -/
theorem count (k : Telemetry → Telemetry) : L.Indifferent (Action.count k) :=
  modify fun _ _ hn => { hn with telemetry := L.counted k hn.telemetry }

theorem attempt {x : Action α} {x' : Action β} (hx : L.Actions R x x') :
    L.Actions (Outcomes R) (Action.attempt x) (Action.attempt x') := by
  intro n n' hn
  refine Tasks.bind (hx n n' hn) ?_
  rintro p p' ⟨hr, hm⟩
  exact ⟨.ok hr, hm⟩

/-- **A request that is no reception** is answered in one way. -/
theorem ask {r : Request} (hr : r ≠ .radio .receive) : L.Indifferent (Action.ask r) :=
  fun _ _ hn => ⟨.same r, fun _ _ he => ⟨.ok (he.answer_eq hr).symm, hn⟩⟩

/-- So is a call to the radio. -/
theorem radio {call : Radio.Call} (hcall : call ≠ .receive) :
    L.Indifferent (Action.radio call) := by
  intro n n' hn
  refine ⟨.same _, fun a a' he => ⟨?_, hn⟩⟩
  have hanswer : a' = a := he.answer_eq fun h => hcall (Request.radio.inj h)
  subst hanswer
  cases a' with
  | error failure => exact .error _
  | ok value => exact .ok rfl

theorem setMode (m : Radio.Mode) : L.Indifferent (Action.setMode m) := radio nofun

theorem now : L.Indifferent Action.now := ask nofun

theorem sleep (duration : Nat) : L.Indifferent (Action.sleep duration) := ask nofun

/-- Receptions that are alike, or none. -/
theorem receive : L.Actions (Option.Rel L.Receptions) Action.receive Action.receive := by
  have hrefl : ∀ r : Radio.Reception, L.Receptions r r := fun r => ⟨rfl, .inl rfl⟩
  intro n n' hn
  refine ⟨.same _, fun a a' he => ⟨?_, hn⟩⟩
  cases he with
  | same e =>
    rcases a with failure | _ | r
    · exact .error _
    · exact .ok .none
    · exact .ok (.some (hrefl r))
  | received h => exact .ok (.some h)

/-- The time left is the same. -/
theorem left (deadline : Deadline) : L.Indifferent (Action.left deadline) := by
  cases deadline with
  | none => exact pure rfl
  | some instant => exact now.after fun t => pure rfl

end Actions
end

/-! ## Frames that come in -/

namespace Headers

variable {h h' : Header} {n n' : Node}

theorem isAck (hh : L.Headers h h') : h'.isAck = h.isAck :=
  (L.acks hh.flags).1

theorem wantsAck (hh : L.Headers h h') : h'.wantsAck = h.wantsAck := by
  rw [Header.wantsAck, Header.wantsAck, hh.isAck, Header.isBroadcast, Header.isBroadcast, hh.dst,
    (L.acks hh.flags).2]

theorem ackFor (hh : L.Headers h h') (a : Address) : Frame.ackFor h' a = Frame.ackFor h a := by
  simp [Frame.ackFor, Header.ackFor, hh.src, hh.id]

theorem isLocal (hh : L.Headers h h') (hn : L.Nodes n n') :
    n'.config.filter.isLocal h' = n.config.filter.isLocal h := by
  rw [AddressFilter.isLocal, AddressFilter.isLocal, hh.dst, hn.config]

theorem accepts (hh : L.Headers h h') (hn : L.Nodes n n') :
    n'.config.filter.accepts h' = n.config.filter.accepts h := by
  rw [AddressFilter.accepts, AddressFilter.accepts, hh.dst, hn.config]

theorem isDuplicate (hh : L.Headers h h') (hn : L.Nodes n n') :
    n'.isDuplicate h' = n.isDuplicate h := by
  rw [Node.isDuplicate, Node.isDuplicate, hh.src, hh.id, hn.lastAccepted]

theorem owesAck (hh : L.Headers h h') (hn : L.Nodes n n') : n'.owesAck h' = n.owesAck h := by
  rw [Node.owesAck, Node.owesAck, hh.isLocal hn, hh.wantsAck]

theorem awaits (hh : L.Headers h h') (hn : L.Nodes n n') : n'.awaits h' = n.awaits h := by
  rw [Node.awaits, Node.awaits, hh.isLocal hn, hn.pending, hh.src, hh.id]

end Headers

theorem Frames.delivery {f f' : Frame} (hf : L.Frames f f') (rssi : Int) :
    L.Deliveries ⟨f.header.dst, f.header.src, f.header.id, f.header.flags, f.payload, rssi⟩
      ⟨f'.header.dst, f'.header.src, f'.header.id, f'.header.flags, f'.payload, rssi⟩ :=
  ⟨hf.header.dst, hf.header.src, hf.header.id, hf.header.flags, hf.payload, rfl⟩

namespace Actions

theorem transmit (f : Frame) : L.Indifferent (Action.transmit f) := by
  unfold Action.transmit
  refine node.bind fun n n' hn => ?_
  rw [hn.config]
  split
  · exact fail _
  · rename_i wire hw
    have hsend : L.Indifferent (Action.radio (.transmit wire)) := radio nofun
    refine (setMode .transmit).after fun _ => ?_
    refine (attempt hsend).bind fun sent sent' hsent => ?_
    refine (attempt (setMode .receive)).bind fun restored restored' hrestored => ?_
    exact (ofExcept hsent).bind fun _ _ _ => ofExcept hrestored

theorem sendAck {h h' : Header} (hh : L.Headers h h') :
    L.Actions Eq (Action.sendAck h) (Action.sendAck h') := by
  unfold Action.sendAck
  refine node.bind fun n n' hn => ?_
  have haddress : n'.address = n.address := congrArg Config.address hn.config
  rw [hh.ackFor, haddress]
  exact (transmit _).after fun _ => count _

theorem handleAck {h h' : Header} (hh : L.Headers h h') :
    L.Actions Eq (Action.handleAck h) (Action.handleAck h') := by
  unfold Action.handleAck
  refine node.bind fun n n' hn => ?_
  rw [hh.awaits hn, hh.src, hh.id]
  split
  · refine (modify fun m m' hm => ?_).bind fun _ _ _ => pure rfl
    have hpending : m'.resolve.pending = m.resolve.pending := by
      rw [Node.resolve, Node.resolve, hm.pending]
    have hcounted := L.counted (fun t => { t with acksReceived := t.acksReceived + 1 }) hm.telemetry
    exact { hm with pending := hpending, telemetry := hcounted }
  · exact (count _).after fun _ => pure rfl

/-- **Deliveries that are alike** are taken alike. -/
theorem deliver {d d' : Delivery} (hd : L.Deliveries d d') :
    L.Actions Eq (Action.deliver d) (Action.deliver d') := by
  unfold Action.deliver
  refine node.bind fun n n' hn => ?_
  have hsink := hn.sink
  generalize n.sink = s at hsink ⊢
  generalize n'.sink = s' at hsink ⊢
  cases hsink with
  | channel id =>
    -- The two offers are different requests, and have one answer.
    intro m m' hm
    refine ⟨.offer id hd, fun a a' he => ⟨?_, hm⟩⟩
    cases he with
    | same e => exact .ok rfl
    | offered id h taken => exact .ok rfl
  | @queue capacity w w' hw =>
    dsimp only
    rw [← hw.length_eq]
    split
    · have hjoined : List.Forall₂ L.Deliveries (w ++ [d]) (w' ++ [d']) :=
        List.rel_append hw (.cons hd .nil)
      refine (modify fun m m' hm => ?_).bind fun _ _ _ => ?_
      · exact { hm with sink := .queue capacity hjoined }
      intro m m' hm
      exact ⟨.kept hd, fun _ _ _ => ⟨.ok rfl, hm⟩⟩
    · exact pure rfl

/-- **Frames that are alike** are taken alike. -/
theorem handleData {f f' : Frame} (hf : L.Frames f f') (rssi : Int) :
    L.Actions Eq (Action.handleData f rssi) (Action.handleData f' rssi) := by
  have hh := hf.header
  have hacked : ∀ (owed : Bool) (event : PollEvent),
      L.Actions Eq (if owed then Action.sendAck f.header >>= fun _ => Pure.pure event
          else Pure.pure event)
        (if owed then Action.sendAck f'.header >>= fun _ => Pure.pure event
          else Pure.pure event) := by
    intro owed event
    cases owed with
    | true => exact (sendAck hh).bind fun _ _ _ => pure rfl
    | false => exact pure rfl
  have haccept : ∀ n n', L.Nodes n n' → L.Nodes (n.accept f.header) (n'.accept f'.header) := by
    intro n n' hn
    have hknown : (n'.accept f'.header).lastAccepted = (n.accept f.header).lastAccepted := by
      rw [Node.accept, Node.accept, hn.lastAccepted, hh.src, hh.id]
    have hcounted := L.counted (fun t => { t with delivered := t.delivered + 1 }) hn.telemetry
    exact { hn with lastAccepted := hknown, telemetry := hcounted }
  have hd := hf.delivery rssi
  unfold Action.handleData
  refine node.bind fun n n' hn => ?_
  dsimp only
  rw [hh.src, hh.id] at hd
  rw [hh.isDuplicate hn, hh.owesAck hn, hh.src, hh.id]
  split
  · exact (count _).after fun _ => hacked _ _
  · refine (deliver hd).bind fun taken _ htaken => ?_
    subst htaken
    split
    · exact (modify haccept).bind fun _ _ _ => hacked _ _
    · exact (count _).after fun _ => pure rfl

/-- **Receptions that are alike** are taken alike. -/
theorem handle {r r' : Radio.Reception} (hr : L.Receptions r r') :
    L.Actions Eq (Action.handle r) (Action.handle r') := by
  have hframe : ∀ {f f' : Frame} {n n' : Node}, L.Nodes n n' → L.Frames f f' →
      L.Actions Eq
        (if n.config.filter.accepts f.header then do
          Action.count fun t => { t with lastRssi := t.lastRssi.insert f.header.src r.rssi }
          if f.header.isAck then Action.handleAck f.header else Action.handleData f r.rssi
        else do
          Action.count fun t => { t with filtered := t.filtered + 1 }
          Pure.pure (.filtered f.header.dst))
        (if n'.config.filter.accepts f'.header then do
          Action.count fun t => { t with lastRssi := t.lastRssi.insert f'.header.src r'.rssi }
          if f'.header.isAck then Action.handleAck f'.header else Action.handleData f' r'.rssi
        else do
          Action.count fun t => { t with filtered := t.filtered + 1 }
          Pure.pure (.filtered f'.header.dst)) := by
    intro f f' n n' hn hf
    have hh := hf.header
    rw [hh.accepts hn, hh.isAck, hh.src, hh.dst, hr.rssi]
    split
    · refine (count _).after fun _ => ?_
      split
      · exact handleAck hh
      · exact handleData hf _
    · exact (count _).after fun _ => pure rfl
  unfold Action.handle
  refine node.bind fun n n' hn => ?_
  rw [hn.config, hn.frame]
  rcases hr.bytes with hsame | ⟨f, f', hread, hread', hf⟩
  · rw [hsame]
    split
    · exact (count _).after fun _ => pure rfl
    · rename_i f hread
      have hf : L.Frames f f := ⟨⟨rfl, rfl, rfl, L.refl _⟩, rfl⟩
      have hboth := hframe hn hf
      rw [hn.config] at hboth
      exact hboth
  · rw [hread, hread']
    have hboth := hframe hn hf
    rw [hn.config] at hboth
    exact hboth

theorem fetch : L.Indifferent Action.fetch := by
  unfold Action.fetch
  refine receive.bind fun r r' hr => ?_
  cases hr with
  | none => exact pure rfl
  | some h => exact handle h

theorem look : L.Indifferent Action.look := by
  unfold Action.look
  refine Actions.after (radio nofun) fun ready => ?_
  split
  · refine (attempt fetch).bind fun event event' hevent => ?_
    refine (attempt (setMode .receive)).bind fun restored restored' hrestored => ?_
    refine (ofExcept hevent).bind fun event event' hevent => ?_
    refine (ofExcept hrestored).bind fun _ _ _ => pure hevent
  · exact pure rfl

/-- **A look at the radio** is taken alike. -/
theorem poll : L.Indifferent Action.poll := by
  unfold Action.poll
  refine Actions.after (ask nofun) fun m => ?_
  dsimp only
  split
  · exact (setMode .receive).after fun _ => look
  · exact look

/-! ## Datagrams that go out -/

theorem sendData (dst : Address) (id flags : UInt8) (payload : Bytes) :
    L.Indifferent (Action.sendData dst id flags payload) := by
  unfold Action.sendData
  refine node.bind fun n n' hn => ?_
  have haddress : n'.address = n.address := congrArg Config.address hn.config
  rw [haddress]
  exact (transmit _).after fun _ => count _

theorem checkPayload (payload : Bytes) : L.Indifferent (Action.checkPayload payload) := by
  unfold Action.checkPayload
  refine node.bind fun n n' hn => ?_
  dsimp only
  rw [hn.config]
  split
  · exact fail _
  · exact pure rfl

theorem allocateId : L.Indifferent Action.allocateId := by
  unfold Action.allocateId
  refine node.bind fun n n' hn => ?_
  refine (modify fun m m' hm => ?_).bind fun _ _ _ => pure hn.nextId.symm
  have hnext : m'.nextId + 1 = m.nextId + 1 := by rw [hm.nextId]
  exact { hm with nextId := hnext }

theorem sendUnreliable (dst : Address) (payload : Bytes) :
    L.Indifferent (Action.sendUnreliable dst payload) := by
  unfold Action.sendUnreliable
  refine (checkPayload payload).after fun _ => allocateId.after fun id => ?_
  exact (sendData dst id _ payload).after fun _ => pure rfl

theorem startSend (dst : Address) (payload : Bytes) (maxRetries timeout : Nat) :
    L.Indifferent (Action.startSend dst payload maxRetries timeout) := by
  unfold Action.startSend
  refine (checkPayload payload).after fun _ => allocateId.after fun id => ?_
  split
  · exact (sendData dst id _ payload).after fun _ => pure rfl
  · refine (modify fun m m' hm => ?_).bind fun _ _ _ => now.after fun t => pure rfl
    exact { hm with pending := rfl }

theorem isAcked : L.Indifferent Action.isAcked := by
  unfold Action.isAcked
  refine node.bind fun n n' hn => pure ?_
  rw [hn.pending]

theorem pollOrPause (limit : Nat) : L.Indifferent (Action.pollOrPause limit) := by
  unfold Action.pollOrPause
  refine poll.after fun event => ?_
  split
  · refine node.bind fun n n' hn => ?_
    rw [hn.config]
    exact sleep _
  · exact pure rfl

theorem transmitCopy (s : Send) : L.Indifferent s.transmitCopy := by
  have hsend : L.Indifferent (Action.sendData s.dst s.id s.flags s.payload >>= fun _ =>
      Action.now >>= fun t =>
        Pure.pure (Turn.again { s with phase := .waiting (Deadline.after t s.timeout) }) :
      Action (Turn Send SendOutcome)) :=
    (sendData _ _ _ _).after fun _ => now.after fun t => pure rfl
  unfold Send.transmitCopy
  split
  · exact (count _).after fun _ => hsend
  · exact hsend

theorem await (s : Send) (deadline : Deadline) : L.Indifferent (s.await deadline) := by
  unfold Send.await
  refine isAcked.after fun acked => ?_
  split
  · exact now.after fun t => pure rfl
  · refine (left deadline).after fun rest => ?_
    cases rest with
    | some rest => exact (pollOrPause rest).after fun _ => pure rfl
    | none =>
      dsimp only
      split
      · exact pure rfl
      · exact now.after fun t => pure rfl

theorem sendTurn (s : Send) : L.Indifferent s.turn := by
  have hstep : L.Indifferent s.step := by
    unfold Send.step
    split
    · exact transmitCopy s
    · exact await s _
  have hsettle : L.Indifferent (Action.modify fun n => { n with pending := none }) :=
    modify fun m m' hm => { hm with pending := rfl }
  unfold Send.turn
  refine (attempt hstep).bind fun r r' hr => ?_
  cases hr with
  | error e => exact hsettle.bind fun _ _ _ => fail e
  | @ok t t' ht =>
    subst ht
    cases t with
    | again s => exact pure rfl
    | finish outcome =>
      refine hsettle.bind fun _ _ _ => ?_
      split
      · exact (count _).after fun _ => pure rfl
      · exact pure rfl

/-! ## Operations -/

/-- Deliveries that are alike, or none. -/
theorem recv : L.Actions (Option.Rel L.Deliveries) Action.recv Action.recv := by
  have hpop : ∀ {s s' : Sink}, L.Sinks s s' →
      Option.Rel L.Deliveries s.pop.1 s'.pop.1 ∧ L.Sinks s.pop.2 s'.pop.2 := by
    intro s s' hs
    cases hs with
    | channel id => exact ⟨.none, .channel id⟩
    | queue capacity h =>
      cases h with
      | nil => exact ⟨.none, .queue capacity .nil⟩
      | cons hd hrest => exact ⟨.some hd, .queue capacity hrest⟩
  unfold Action.recv
  refine node.bind fun n n' hn => ?_
  refine (modify fun m m' hm => ?_).bind fun _ _ _ => pure (hpop hn.sink).1
  exact { hm with sink := (hpop hm.sink).2 }

theorem receiveTurn (deadline : Deadline) :
    L.Actions (fun t t' => L.Turns (t.map .receiving .delivery) (t'.map .receiving .delivery))
      (Action.receiveTurn deadline) (Action.receiveTurn deadline) := by
  unfold Action.receiveTurn
  refine recv.bind fun d d' hd => ?_
  cases hd with
  | some h => exact pure (.finish (.delivery h))
  | none =>
    refine (left deadline).after fun rest => ?_
    cases rest with
    | none => exact pure (.finish (.same _))
    | some rest => exact (pollOrPause rest).after fun _ => pure (.again _)

theorem goIdle : L.Indifferent Action.goIdle := by
  unfold Action.goIdle
  exact (attempt (setMode .idle)).bind fun _ _ _ => pure rfl

theorem listenTurn (flag : Nat) : L.Indifferent (Action.listenTurn flag) := by
  have hwatch : L.Indifferent (Action.poll >>= fun event =>
      if event = .idle then Action.node >>= fun n => Action.sleep n.config.pollInterval
      else Pure.pure ()) := by
    refine poll.after fun event => ?_
    split
    · refine node.bind fun n n' hn => ?_
      rw [hn.config]
      exact sleep _
    · exact pure rfl
  unfold Action.listenTurn
  refine Actions.after (ask nofun) fun stopped => ?_
  split
  · exact goIdle.after fun _ => pure rfl
  · refine (attempt hwatch).bind fun looked looked' hlooked => ?_
    cases hlooked with
    | ok h => exact pure rfl
    | error e => exact goIdle.after fun _ => fail e

/-- **A turn of an operation** is taken alike. -/
theorem turn (a : Activity) : L.Actions L.Turns a.turn a.turn := by
  cases a with
  | receiving deadline => exact (receiveTurn deadline).bind fun _ _ ht => pure ht
  | listening flag =>
    refine (listenTurn flag).after fun t => ?_
    cases t with
    | again u => exact pure (.again _)
    | finish u => exact pure (.finish (.same _))
  | sending s =>
    refine (sendTurn s).after fun t => ?_
    cases t with
    | again s => exact pure (.again _)
    | finish outcome => exact pure (.finish (.same _))

/-- **An operation** begins alike. -/
theorem start (op : Operation) : L.Actions L.Turns op.start op.start := by
  have hsend : ∀ (dst : Address) (payload : Bytes) (maxRetries timeout : Nat),
      L.Actions L.Turns
        (Action.startSend dst payload maxRetries timeout >>= fun t =>
          Pure.pure (t.map Activity.sending Reply.outcome))
        (Action.startSend dst payload maxRetries timeout >>= fun t =>
          Pure.pure (t.map Activity.sending Reply.outcome)) := by
    intro dst payload maxRetries timeout
    refine (startSend dst payload maxRetries timeout).after fun t => ?_
    cases t with
    | again s => exact pure (.again _)
    | finish outcome => exact pure (.finish (.same _))
  cases op with
  | poll => exact poll.after fun event => pure (.finish (.same _))
  | recv =>
    refine recv.bind fun d d' hd => ?_
    cases hd with
    | some h => exact pure (.finish (.delivery h))
    | none => exact pure (.finish (.same _))
  | recvTimeout timeout => exact now.after fun t => pure (.again _)
  | listen flag => exact pure (.again _)
  | sendUnreliable dst payload =>
    exact (sendUnreliable dst payload).after fun id => pure (.finish (.same _))
  | sendReliable dst payload =>
    refine node.bind fun n n' hn => ?_
    rw [hn.config]
    exact hsend _ _ _ _
  | sendReliableWith dst payload maxRetries timeout => exact hsend _ _ _ _

end Actions

/-! ## Courses -/

/-- What is left of turns that are alike. -/
abbrev Ends (L : Likeness) (p p' : Except Error (Turn Activity Reply) × Node) : Prop :=
  Outcomes L.Turns p.1 p'.1 ∧ L.Nodes p.2 p'.2

/-- Statuses that are alike. -/
def Statuses (L : Likeness) : Status → Status → Prop
  | .resting n, .resting n' => L.Nodes n n'
  | .busy rest, .busy rest' => L.Tasks L.Ends rest rest'
  | _, _ => False

/-- Occurrences that are alike. -/
inductive Occurrences (L : Likeness) : Occurrence → Occurrence → Prop where
  /-- The same operation began. -/
  | began (op : Operation) : Occurrences L (.began op) (.began op)
  /-- Exchanges that are alike were made. -/
  | exchanged {e e' : Exchange} (h : L.Exchanges e e') :
      Occurrences L (.exchanged e) (.exchanged e')
  /-- An operation ended with the same error or with replies that are alike. -/
  | ended {r r' : Except Error Reply} (h : Outcomes L.Replies r r') :
      Occurrences L (.ended r) (.ended r')

/-- In one step of either run the same comes from outside: the same operation is asked for, and
requests that are alike are given answers that are. -/
structure Prompts (L : Likeness) (o o' : Option Occurrence) : Prop where
  /-- The same operation is asked for. -/
  began : ∀ op op', o = some (.began op) → o' = some (.began op') → op' = op
  /-- Requests that are alike are given answers that are. -/
  exchanged : ∀ e e', o = some (.exchanged e) → o' = some (.exchanged e') →
    L.Requests e.request e'.request → L.Exchanges e e'

end Likeness

/-- A node goes from one status to another in these steps, of each of which so much can be told. -/
inductive Status.Course : Status → List (Option Occurrence) → Status → Prop where
  /-- No step. -/
  | here (st : Status) : Course st [] st
  /-- One step, then the others. -/
  | step {st st₁ st₂ : Status} {o : Option Occurrence} {os : List (Option Occurrence)}
      (first : st.Step o st₁) (rest : Course st₁ os st₂) : Course st (o :: os) st₂

namespace Status.Course

variable {st st₁ st₂ : Status} {os os' : List (Option Occurrence)}

/-- Courses continue. -/
theorem trans (h : st.Course os st₁) (h' : st₁.Course os' st₂) : st.Course (os ++ os') st₂ := by
  induction h with
  | here st => exact h'
  | step first rest ih => exact .step first (ih h')

/-- A turn goes on, one exchange after another. -/
theorem path {rest rest' : Task (Except Error (Turn Activity Reply) × Node)} {es : List Exchange}
    (h : Task.Path rest es rest') :
    (Status.busy rest).Course (es.map fun e => some (.exchanged e)) (.busy rest') := by
  induction h with
  | here t => exact .here _
  | step rest ih => exact .step (.exchange _ _ _) ih

end Status.Course

namespace Likeness

variable {L : Likeness}

/-- What is alike has been prompted by the same. -/
theorem Prompts.of_occurrences {o o' : Option Occurrence} (h : Option.Rel L.Occurrences o o') :
    L.Prompts o o' := by
  refine ⟨fun op op' ho ho' => ?_, fun e e' ho ho' _ => ?_⟩
  · subst ho ho'
    cases h with
    | some h =>
      cases h with
      | began op => rfl
  · subst ho ho'
    cases h with
    | some h =>
      cases h with
      | exchanged h => exact h

/-- Statuses that are alike are at the same: at rest, about to ask, or at the end of a turn. -/
theorem Statuses.kinds {st st' : Status} (h : L.Statuses st st') :
    (∃ n n', st = .resting n ∧ st' = .resting n' ∧ L.Nodes n n') ∨
    (∃ r next r' next', st = .busy (.ask r next) ∧ st' = .busy (.ask r' next') ∧
      L.Requests r r' ∧
      ∀ a a', L.Exchanges ⟨r, a⟩ ⟨r', a'⟩ → L.Tasks L.Ends (next a) (next' a')) ∨
    ∃ r n r' n', st = .busy (.done (r, n)) ∧ st' = .busy (.done (r', n')) ∧
      Outcomes L.Turns r r' ∧ L.Nodes n n' := by
  cases st with
  | resting n =>
    cases st' with
    | resting n' => exact .inl ⟨n, n', rfl, rfl, h⟩
    | busy rest' => exact h.elim
  | busy rest =>
    cases st' with
    | resting n' => exact h.elim
    | busy rest' =>
      cases rest with
      | ask r next =>
        cases rest' with
        | ask r' next' => exact .inr (.inl ⟨r, next, r', next', rfl, rfl, h.1, h.2⟩)
        | done p' => exact h.elim
      | done p =>
        cases rest' with
        | ask r' next' => exact h.elim
        | done p' => exact .inr (.inr ⟨p.1, p.2, p'.1, p'.2, rfl, rfl, h.1, h.2⟩)

/-- **One step of either run** keeps them alike. -/
theorem Statuses.step {st st' st₁ st₁' : Status} {o o' : Option Occurrence}
    (h : L.Statuses st st') (hs : st.Step o st₁) (hs' : st'.Step o' st₁') (ho : L.Prompts o o') :
    Option.Rel L.Occurrences o o' ∧ L.Statuses st₁ st₁' := by
  rcases h.kinds with ⟨n, n', rfl, rfl, hn⟩ | ⟨r, next, r', next', rfl, rfl, hr, hnext⟩ |
    ⟨r, n, r', n', rfl, rfl, hr, hn⟩
  · cases hs with
    | begin n op =>
      cases hs' with
      | begin n' op' =>
        obtain rfl := ho.began op op' rfl rfl
        exact ⟨.some (.began _), Actions.start _ n n' hn⟩
  · cases hs with
    | exchange r next a =>
      cases hs' with
      | exchange r' next' a' =>
        have he := ho.exchanged ⟨r, a⟩ ⟨r', a'⟩ rfl rfl hr
        exact ⟨.some (.exchanged he), hnext a a' he⟩
  · cases hr with
    | error e =>
      cases hs with
      | fail e n =>
        cases hs' with
        | fail e n' => exact ⟨.some (.ended (.error e)), hn⟩
    | ok ht =>
      cases ht with
      | again a =>
        cases hs with
        | turn a n =>
          cases hs' with
          | turn a n' => exact ⟨.none, Actions.turn a n n' hn⟩
      | finish hreply =>
        cases hs with
        | finish reply n =>
          cases hs' with
          | finish reply' n' => exact ⟨.some (.ended (.ok hreply)), hn⟩

/-- **Two runs that are alike at first and to which the same comes from outside are alike in every
step.** -/
theorem Statuses.course {st st' st₁ st₁' : Status} {os os' : List (Option Occurrence)}
    (h : L.Statuses st st') (hc : st.Course os st₁) (hc' : st'.Course os' st₁')
    (ho : List.Forall₂ L.Prompts os os') :
    List.Forall₂ (Option.Rel L.Occurrences) os os' ∧ L.Statuses st₁ st₁' := by
  induction hc generalizing st' os' with
  | here st =>
    cases ho
    cases hc'
    exact ⟨.nil, h⟩
  | step first rest ih =>
    cases ho with
    | cons hfirst hrest =>
      cases hc' with
      | step first' rest' =>
        obtain ⟨halike, hnext⟩ := h.step first first' hfirst
        obtain ⟨hothers, hend⟩ := ih hnext rest' hrest
        exact ⟨.cons halike hothers, hend⟩

end Likeness

end Link
end PacketRadio
