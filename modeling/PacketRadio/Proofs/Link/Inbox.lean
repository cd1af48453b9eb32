/-
# What frames that come in leave behind

rflink specification, §4.4: inbound frames; §4.5: counters.

What a node keeps of the frames that came in is its inbox: the numbers it
accepted last, the signal strengths, and the counters of receptions.  A
reception changes it in one way (`Inbox.take`), makes at most one delivery
(`Inbox.news`) and is owed at most one acknowledgment (`Inbox.reply`).

The rules below record this beside the exchanges of a node.  A reception is
put on the tray when it is taken, and comes off it with the next exchange,
which says whether its delivery was taken.

| on the tray | the next request |
| --- | --- |
| a reception that makes a delivery | offers that delivery, unless the node's own queue is full |
| any other, or nothing | offers no delivery |

The rules hold on any radio and whatever the node is asked for: only the
acknowledgments that were sent need a radio that has not failed.

Main statement: `sorting_sound`.
-/

import PacketRadio.Proofs.Link.Answering
import PacketRadio.Proofs.Link.Turns

namespace PacketRadio
namespace Link

open PacketRadio.Link.Action

/-! ## The inbox -/

/-- What a node keeps of the frames that came in. -/
structure Inbox where
  /-- The number of the datagram last accepted from each peer. -/
  lastAccepted : PeerTable UInt8
  /-- The signal strength of the last frame taken in from each peer. -/
  lastRssi : PeerTable Int
  /-- Datagrams handed to the application. -/
  delivered : Nat
  /-- Datagrams recognised as repeated. -/
  duplicates : Nat
  /-- Datagrams lost because the application had no room. -/
  overflow : Nat
  /-- Frames for other nodes. -/
  filtered : Nat
  /-- Acknowledgments, whether a send was waiting for them or not. -/
  acks : Nat
  /-- Receptions that were no frames. -/
  dropped : DropCounts
  deriving DecidableEq, Repr

/-- The inbox of a node. -/
def Node.inbox (n : Node) : Inbox where
  lastAccepted := n.lastAccepted
  lastRssi := n.telemetry.lastRssi
  delivered := n.telemetry.delivered
  duplicates := n.telemetry.duplicates
  overflow := n.telemetry.deliveryOverflow
  filtered := n.telemetry.filtered
  acks := n.telemetry.acksReceived + n.telemetry.unmatchedAcks
  dropped := n.telemetry.dropped

theorem Node.inbox_of_inward {n n' : Node} (h : n'.inward = n.inward) : n'.inbox = n.inbox := by
  have hinbox : n'.inward.inbox = n.inward.inbox := by rw [h]
  exact hinbox

namespace Inbox

/-- The datagram is the one last accepted from its sender. -/
def isDuplicate (i : Inbox) (h : Header) : Bool :=
  i.lastAccepted.get? h.src == some h.id

/-- The inbox after a frame that the node takes in; `taken` says whether the sink took its
delivery. -/
def sort (i : Inbox) (h : Header) (taken : Bool) : Inbox :=
  if h.isAck then { i with acks := i.acks + 1 }
  else if i.isDuplicate h then { i with duplicates := i.duplicates + 1 }
  else if taken then
    { i with lastAccepted := i.lastAccepted.insert h.src h.id, delivered := i.delivered + 1 }
  else { i with overflow := i.overflow + 1 }

section

variable {i : Inbox} {h : Header} {taken : Bool}

theorem sort_ack (hack : h.isAck = true) : i.sort h taken = { i with acks := i.acks + 1 } := by
  simp [sort, hack]

theorem sort_duplicate (hack : h.isAck = false) (hd : i.isDuplicate h = true) :
    i.sort h taken = { i with duplicates := i.duplicates + 1 } := by
  simp [sort, hack, hd]

theorem sort_taken (hack : h.isAck = false) (hd : i.isDuplicate h = false) :
    i.sort h true = { i with
      lastAccepted := i.lastAccepted.insert h.src h.id
      delivered := i.delivered + 1 } := by
  simp [sort, hack, hd]

theorem sort_overflow (hack : h.isAck = false) (hd : i.isDuplicate h = false) :
    i.sort h false = { i with overflow := i.overflow + 1 } := by
  simp [sort, hack, hd]

end

variable (c : Config) (i : Inbox) (r : Radio.Reception)

/-- The inbox after a reception. -/
def take (taken : Bool) : Inbox :=
  match Frame.decode c.frame r.bytes with
  | .error defect => { i with dropped := i.dropped.record defect.kind }
  | .ok f =>
    if c.filter.accepts f.header then
      { i.sort f.header taken with lastRssi := i.lastRssi.insert f.header.src r.rssi }
    else { i with filtered := i.filtered + 1 }

/-- The delivery that a reception makes, if it is a new datagram. -/
def news : Option Delivery :=
  match Frame.decode c.frame r.bytes with
  | .error _ => none
  | .ok f =>
    if c.filter.accepts f.header && !f.header.isAck && !i.isDuplicate f.header then
      some (f.delivery r.rssi)
    else none

/-- The acknowledgment that a reception is owed. -/
def reply (taken : Bool) : Option Bytes :=
  match Frame.decode c.frame r.bytes with
  | .error _ => none
  | .ok f =>
    if c.filter.isLocal f.header && f.header.wantsAck && (i.isDuplicate f.header || taken) then
      some ((Frame.ackFor f.header c.address).wire c.frame)
    else none

end Inbox

/-! ## The tray -/

/-- The delivery that a request offers. -/
def Request.delivery? : Request → Option Delivery
  | .offer _ d => some d
  | .kept d => some d
  | _ => none

/-- The acknowledgment that an exchange put on the air, or tried to. -/
def Exchange.ackSent (c : Frame.Config) (e : Exchange) : Option Bytes :=
  e.sent.filter fun wire =>
    match Frame.decode c wire with
    | .ok f => f.header.isAck
    | .error _ => false

/-- The sink of the same kind that holds these deliveries; a channel holds none of them itself. -/
def Sink.holding : Sink → List Delivery → Sink
  | .queue capacity _, waiting => .queue capacity waiting
  | .channel id, _ => .channel id

namespace Sink

theorem holding_eq_queue {s : Sink} {w waiting : List Delivery} {capacity : Nat}
    (h : s.holding w = .queue capacity waiting) : (∃ w', s = .queue capacity w') ∧ w = waiting := by
  cases s with
  | queue capacity' w' =>
    obtain ⟨rfl, rfl⟩ := Sink.queue.inj h
    exact ⟨⟨w', rfl⟩, rfl⟩
  | channel id => cases h

theorem holding_eq_channel {s : Sink} {w : List Delivery} {id : Nat}
    (h : s.holding w = .channel id) : s = .channel id := by
  cases s with
  | queue capacity w' => cases h
  | channel id' => exact h

end Sink

/-- What is recorded of a node and the frames that came in. -/
structure Tray where
  /-- Its inbox, without the reception at hand. -/
  inbox : Inbox
  /-- The deliveries that were taken and not given out by the node. -/
  queue : List Delivery
  /-- The reception at hand. -/
  held : Option Radio.Reception := none
  /-- The acknowledgments that were owed. -/
  owed : List Bytes := []
  /-- Those that were sent. -/
  acked : List Bytes := []
  /-- A call to the radio has failed. -/
  failed : Bool := false

namespace Tray

variable (c : Config) (s : Sink) (g : Tray)

/-- The delivery that the reception at hand makes. -/
def calls : Option Delivery :=
  g.held.bind (g.inbox.news c)

/-- The tray after the reception at hand. -/
def settle (taken : Bool) : Tray :=
  match g.held with
  | none => g
  | some r =>
    { g with
      inbox := g.inbox.take c r taken
      queue := g.queue ++ if taken then (g.inbox.news c r).toList else []
      held := none
      owed := g.owed ++ (g.inbox.reply c r taken).toList }

/-- The tray after one more exchange. -/
def exchange (e : Exchange) : Tray :=
  { g.settle c e.handed.isSome with
    held := e.heard
    acked := g.acked ++ (e.ackSent c.frame).toList
    failed := g.failed || e.failed }

/-- The tray after one more occurrence. -/
def note : Occurrence → Tray
  | .exchanged e => g.exchange c e
  | .ended (.ok (.delivery (some _))) => { g with queue := g.queue.tail }
  | _ => g

/-- The requests that are in order. -/
def Permits (r : Request) : Prop :=
  match g.calls c with
  | none => r.delivery? = none
  | some d =>
    match s with
    | .channel id => r = .offer id d
    | .queue capacity _ =>
      if g.queue.length < capacity then r = .kept d else r.delivery? = none

/-- The results that are in order: what is given out was the oldest delivery of the node's own
queue. -/
def Concludes (r : Except Error Reply) : Prop :=
  ∀ d, r = .ok (.delivery (some d)) →
    ∃ capacity waiting, s = .queue capacity waiting ∧ g.queue.head? = some d

/-- The node is as its tray has it. -/
structure Shows (n : Node) : Prop where
  /-- It has its configuration. -/
  config : n.config = c
  /-- It has its inbox. -/
  inbox : n.inbox = g.inbox
  /-- Its deliveries wait where they should. -/
  sink : n.sink = s.holding g.queue
  /-- No reception is at hand. -/
  held : g.held = none
  /-- What was owed has been sent, unless the radio has failed. -/
  acked : g.failed = false → g.acked = g.owed

end Tray

/-- The contract that turns are held to. -/
def Tray.contract (c : Config) (s : Sink) : Contract Tray :=
  ⟨Tray.exchange c, Tray.Permits c s⟩

/-- The rules for a node of this configuration and kind of sink. -/
def sorting (c : Config) (s : Sink) (blank : Tray) : Discipline Tray where
  blank := blank
  note := Tray.note c
  permits := Tray.Permits c s
  concludes := Tray.Concludes s
  AtRest := Tray.Shows c s
  UnderWay g n _ := g.Shows c s n

/-! ## Contracts along a list of exchanges -/

section

variable {γ : Type} (C : Contract γ)

/-- Every request in the list is permitted when it is made. -/
def Contract.Admits : γ → List Exchange → Prop
  | _, [] => True
  | g, e :: es => C.permits g e.request ∧ Contract.Admits (C.note g e) es

theorem Contract.admits_append (g : γ) (es es' : List Exchange) :
    C.Admits g (es ++ es') ↔ C.Admits g es ∧ C.Admits (es.foldl C.note g) es' := by
  induction es generalizing g with
  | nil => simp [Contract.Admits]
  | cons e es ih => simp [Contract.Admits, ih, and_assoc]

theorem Request.answer_nonempty (r : Request) : Nonempty r.Answer := by
  match r with
  | .radio call => exact ⟨.error .shutdown⟩
  | .mode => exact ⟨.receive⟩
  | .now => exact ⟨(0 : Nat)⟩
  | .sleep _ => exact ⟨()⟩
  | .stopped _ => exact ⟨true⟩
  | .offer _ _ => exact ⟨true⟩
  | .kept _ => exact ⟨()⟩

/-- Every tree can be answered to its end. -/
theorem Task.exists_path {α : Type} (t : Task α) : ∃ es a, Task.Path t es (.done a) := by
  induction t with
  | done a => exact ⟨[], a, .here _⟩
  | ask r next ih =>
    obtain ⟨answer⟩ := r.answer_nonempty
    obtain ⟨es, a, hpath⟩ := ih answer
    exact ⟨_, a, .step hpath⟩

/-- **What holds along every path is kept.** -/
theorem Task.Keeps.of_paths {α : Type} {C : Contract γ} {t : Task α} {g : γ} {Q : γ → α → Prop}
    (h : ∀ es a, Task.Path t es (.done a) → C.Admits g es ∧ Q (es.foldl C.note g) a) :
    t.Keeps C g Q := by
  induction t generalizing g with
  | done a => exact (h [] a (.here _)).2
  | ask r next ih =>
    refine ⟨?_, fun answer => ih answer fun es a hpath => ?_⟩
    · obtain ⟨es, a, hpath⟩ := (Task.ask r next).exists_path
      cases hpath with
      | step rest => exact (h _ a (.step rest)).1.1
    · obtain ⟨⟨-, hadmits⟩, hQ⟩ := h _ a (.step hpath)
      exact ⟨hadmits, hQ⟩

end

/-! ## Exchanges that take nothing -/

/-- Nothing is taken, and no delivery is offered. -/
structure Exchange.Quiet (e : Exchange) : Prop where
  /-- Nothing is taken. -/
  heard : e.heard = none
  /-- No delivery is offered. -/
  delivery : e.request.delivery? = none

section

variable {c : Config} {s : Sink} {g : Tray} {e : Exchange} {es : List Exchange}

/-- What is not offered is not handed over. -/
theorem Exchange.handed_of_delivery? (h : e.request.delivery? = none) : e.handed = none := by
  obtain ⟨request, a⟩ := e
  cases request with
  | offer channel d => cases h
  | kept d => cases h
  | _ => rfl

theorem Exchange.Quiet.of_isPlain (h : e.request.isPlain = true) : e.Quiet := by
  obtain ⟨request, a⟩ := e
  match request with
  | .radio .receive | .radio (.transmit _) | .offer _ _ | .kept _ => cases h
  | .radio .init | .radio (.setAddress _ _) | .radio (.setMode _) | .radio .frameReady =>
    exact ⟨rfl, rfl⟩
  | .mode | .now | .sleep _ | .stopped _ => exact ⟨rfl, rfl⟩

/-- What is plain is no acknowledgment. -/
theorem Exchange.ackSent_of_isPlain {c : Frame.Config} (h : e.request.isPlain = true) :
    e.ackSent c = none := by
  obtain ⟨request, a⟩ := e
  match request with
  | .radio .receive | .radio (.transmit _) | .offer _ _ | .kept _ => cases h
  | .radio .init | .radio (.setAddress _ _) | .radio (.setMode _) | .radio .frameReady => rfl
  | .mode | .now | .sleep _ | .stopped _ => rfl

/-- What is sent outward takes nothing, and is no acknowledgment. -/
theorem Exchange.Outward.quiet {c : Frame.Config} (hc : c.Valid) (h : e.Outward c) :
    e.Quiet ∧ e.ackSent c = none := by
  rcases h with hplain | ⟨f, wire, hack, hw, hrequest⟩
  · exact ⟨.of_isPlain hplain, ackSent_of_isPlain hplain⟩
  · obtain ⟨request, a⟩ := e
    obtain rfl : request = .radio (.transmit wire) := hrequest
    refine ⟨⟨rfl, rfl⟩, ?_⟩
    simp [ackSent, sent, Radio.Call.aired, Frame.decode_of_encode hc hw, hack]

namespace Tray

theorem settle_of_unheld (hg : g.held = none) (taken : Bool) : g.settle c taken = g := by
  simp [settle, hg]

theorem permits_of_unheld (hg : g.held = none) {r : Request} :
    g.Permits c s r ↔ r.delivery? = none := by
  simp [Permits, calls, hg]

/-- **Exchanges that take nothing leave an empty tray empty**; only what is sent and whether the
radio has failed is noted. -/
theorem foldl_quiet (hg : g.held = none) (hes : ∀ e ∈ es, e.Quiet) :
    (contract c s).Admits g es ∧ es.foldl (exchange c) g =
      { g with
        acked := g.acked ++ es.filterMap (Exchange.ackSent c.frame)
        failed := g.failed || es.any Exchange.failed } := by
  induction es generalizing g with
  | nil => simp [Contract.Admits]
  | cons e es ih =>
    have he := hes e List.mem_cons_self
    have hnote : g.exchange c e =
        { g with
          acked := g.acked ++ (e.ackSent c.frame).toList
          failed := g.failed || e.failed } := by
      rw [exchange, settle_of_unheld hg, he.heard, hg]
    obtain ⟨hadmits, hfold⟩ := ih (g := g.exchange c e) (by rw [hnote]; exact hg)
      fun e' he' => hes e' (List.mem_cons_of_mem _ he')
    refine ⟨⟨(permits_of_unheld hg).2 he.delivery, hadmits⟩, ?_⟩
    rw [List.foldl_cons, hfold, hnote]
    cases hsent : e.ackSent c.frame <;> simp [hsent, Bool.or_assoc]

/-- A reception that comes off the tray without its delivery being taken does so before the next
exchange. -/
theorem foldl_settle (hcalls : ∀ r, r.delivery? = none → g.Permits c s r) (hne : es ≠ [])
    (hes : ∀ e ∈ es, e.Quiet) :
    ((contract c s).Admits (g.settle c false) es → (contract c s).Admits g es) ∧
      es.foldl (exchange c) g = es.foldl (exchange c) (g.settle c false) := by
  cases es with
  | nil => exact absurd rfl hne
  | cons e es =>
    have he := hes e List.mem_cons_self
    have hsettled : (g.settle c false).held = none := by
      unfold settle
      split
      · assumption
      · rfl
    have hnote : g.exchange c e = (g.settle c false).exchange c e := by
      have hacked : (g.settle c false).acked = g.acked ∧ (g.settle c false).failed = g.failed := by
        unfold settle
        split <;> exact ⟨rfl, rfl⟩
      rw [exchange, exchange, settle_of_unheld hsettled, Exchange.handed_of_delivery? he.delivery,
        hacked.1, hacked.2]
      rfl
    refine ⟨fun h => ⟨hcalls _ he.delivery, ?_⟩, ?_⟩
    · have hrest := h.2
      rwa [show (contract c s).note (g.settle c false) e = g.exchange c e from hnote.symm] at hrest
    · rw [List.foldl_cons, List.foldl_cons, hnote]

end Tray
end

/-! ## A reception on the tray -/

section

variable {c : Config} {s : Sink} {g : Tray} {n n' : Node} {r : Radio.Reception}
  {es : List Exchange} {f : Frame}

namespace Tray

/-- The tray with a reception on it. -/
def hold (g : Tray) (r : Radio.Reception) : Tray :=
  { g with held := some r }

theorem settle_hold (taken : Bool) : (g.hold r).settle c taken =
    { g with
      inbox := g.inbox.take c r taken
      queue := g.queue ++ if taken then (g.inbox.news c r).toList else []
      held := none
      owed := g.owed ++ (g.inbox.reply c r taken).toList } := rfl

/-- **Once a reception is off the tray**, what is owed for it is sent unless the radio fails. -/
theorem Shows.settled (hg : g.Shows c s n) {taken : Bool} (hes : ∀ e ∈ es, e.Quiet)
    (hacks : es.any Exchange.failed = false →
      es.filterMap (Exchange.ackSent c.frame) = (g.inbox.reply c r taken).toList)
    (hconfig : n'.config = c) (hinbox : n'.inbox = g.inbox.take c r taken)
    (hsink : n'.sink = s.holding (g.queue ++ if taken then (g.inbox.news c r).toList else [])) :
    (contract c s).Admits ((g.hold r).settle c taken) es ∧
      (es.foldl (exchange c) ((g.hold r).settle c taken)).Shows c s n' := by
  have hheld : ((g.hold r).settle c taken).held = none := rfl
  obtain ⟨hadmits, hfold⟩ := foldl_quiet (c := c) (s := s) hheld hes
  refine ⟨hadmits, ?_⟩
  rw [hfold]
  refine ⟨hconfig, hinbox, hsink, rfl, fun hfailed => ?_⟩
  obtain ⟨hbefore, hafter⟩ := Bool.or_eq_false_iff.1 hfailed
  simp only [settle_hold] at hbefore ⊢
  rw [hg.acked hbefore, hacks hafter]

/-- A reception that makes no delivery, or for which the node's own queue has no room. -/
theorem Shows.untaken (hg : g.Shows c s n)
    (hcalls : ∀ q : Request, q.delivery? = none → (g.hold r).Permits c s q) (hne : es ≠ [])
    (hes : ∀ e ∈ es, e.Quiet)
    (hacks : es.any Exchange.failed = false →
      es.filterMap (Exchange.ackSent c.frame) = (g.inbox.reply c r false).toList)
    (hconfig : n'.config = c) (hinbox : n'.inbox = g.inbox.take c r false)
    (hsink : n'.sink = n.sink) :
    (contract c s).Admits (g.hold r) es ∧ (es.foldl (exchange c) (g.hold r)).Shows c s n' := by
  have hheld : n'.sink = s.holding (g.queue ++ []) := by
    rw [hsink, hg.sink, List.append_nil]
  obtain ⟨hadmits, hshows⟩ := hg.settled hes hacks hconfig hinbox hheld
  obtain ⟨hlift, hfold⟩ := foldl_settle hcalls hne hes
  exact ⟨hlift hadmits, hfold ▸ hshows⟩

/-- A reception whose delivery is offered. -/
theorem Shows.offered (hg : g.Shows c s n) {e : Exchange}
    (hpermits : (g.hold r).Permits c s e.request) (he : e.request.delivery?.isSome)
    (hes : ∀ e ∈ es, e.Quiet)
    (hacks : es.any Exchange.failed = false →
      es.filterMap (Exchange.ackSent c.frame) = (g.inbox.reply c r e.handed.isSome).toList)
    (hconfig : n'.config = c) (hinbox : n'.inbox = g.inbox.take c r e.handed.isSome)
    (hsink : n'.sink =
      s.holding (g.queue ++ if e.handed.isSome then (g.inbox.news c r).toList else [])) :
    (contract c s).Admits (g.hold r) (e :: es) ∧
      ((e :: es).foldl (exchange c) (g.hold r)).Shows c s n' := by
  have hplain : e.heard = none ∧ e.ackSent c.frame = none ∧ e.failed = false := by
    obtain ⟨request, a⟩ := e
    cases request with
    | offer channel d => exact ⟨rfl, rfl, rfl⟩
    | kept d => exact ⟨rfl, rfl, rfl⟩
    | _ => cases he
  have hnote : (g.hold r).exchange c e = (g.hold r).settle c e.handed.isSome := by
    rw [exchange, hplain.1, hplain.2.1, hplain.2.2, settle_hold]
    simp [hold]
  obtain ⟨hadmits, hshows⟩ := hg.settled hes hacks hconfig hinbox hsink
  rw [← hnote] at hadmits hshows
  exact ⟨⟨hpermits, hadmits⟩, hshows⟩

end Tray

/-! ## Acknowledging -/

theorem Sending.quiet {c : Frame.Config} {result : Except Error Unit}
    (hs : Sending c f es result) : ∀ e ∈ es, e.Quiet := by
  cases hs with
  | unwritten hw => simp
  | refused hw failure => exact fun e he => List.mem_singleton.1 he ▸ ⟨rfl, rfl⟩
  | aired hw sent restored =>
    intro e he
    simp only [List.mem_cons, List.not_mem_nil, or_false] at he
    rcases he with rfl | rfl | rfl <;> exact ⟨rfl, rfl⟩

theorem Acknowledging.quiet {h : Header} {result : Except Error Unit}
    (hk : Acknowledging n h es n' result) : ∀ e ∈ es, e.Quiet := by
  cases hk with
  | unowed ho => simp
  | failed ho hs => exact hs.quiet
  | sent ho hs => exact hs.quiet

theorem Acknowledging.inbox_eq {h : Header} {result : Except Error Unit}
    (hk : Acknowledging n h es n' result) : n'.inbox = n.inbox ∧ n'.sink = n.sink := by
  cases hk <;> exact ⟨rfl, rfl⟩

/-- What can be written and does not fail is sent. -/
theorem Sending.ackSent {c : Frame.Config} {result : Except Error Unit}
    (hs : Sending c f es result) (hc : c.Valid) (hf : f.payload.length ≤ c.payloadLimit)
    (hack : f.header.isAck = true) (hfailed : es.any Exchange.failed = false) :
    es.filterMap (Exchange.ackSent c) = [f.wire c] := by
  have hencode : f.encode c = .ok (f.wire c) :=
    (Frame.encode_eq_ok_iff _ _ _).2 ⟨hc.preamble, hf, rfl⟩
  cases hs with
  | unwritten hw => rw [hencode] at hw; cases hw
  | refused hw failure => cases hfailed
  | aired hw sent restored =>
    obtain rfl := Except.ok.inj (hencode.symm.trans hw)
    have hair : Exchange.ackSent c ⟨.radio (.transmit (f.wire c)), sent⟩ = some (f.wire c) := by
      simp [Exchange.ackSent, Exchange.sent, Radio.Call.aired, Frame.decode_wire hc hf, hack]
    rw [List.filterMap_cons_none rfl, List.filterMap_cons_some hair, List.filterMap_cons_none rfl,
      List.filterMap_nil]

/-- **What is owed is sent unless the radio fails.** -/
theorem Acknowledging.ackSent {h : Header} {result : Except Error Unit}
    (hk : Acknowledging n h es n' result) (hc : n.config.frame.Valid)
    (hfailed : es.any Exchange.failed = false) :
    es.filterMap (Exchange.ackSent n.config.frame) =
      if n.owesAck h then [n.ackWire h] else [] := by
  have hlen : (Frame.ackFor h n.address).payload.length ≤ n.config.frame.payloadLimit :=
    Nat.zero_le _
  cases hk with
  | unowed ho => rw [ho]; rfl
  | failed ho hs => rw [ho]; exact hs.ackSent hc hlen (Header.ackFor_isAck _ _) hfailed
  | sent ho hs => rw [ho]; exact hs.ackSent hc hlen (Header.ackFor_isAck _ _) hfailed

/-! ## Handling -/

theorem Node.TakesIn.take_eq (ht : n.TakesIn r f) (i : Inbox) (taken : Bool) :
    i.take n.config r taken =
      { i.sort f.header taken with
        lastRssi := i.lastRssi.insert f.header.src r.rssi } := by
  simp [Inbox.take, ht.decoded, ht.accepted]

theorem Node.TakesIn.news_eq (ht : n.TakesIn r f) (i : Inbox) :
    i.news n.config r =
      if !f.header.isAck && !i.isDuplicate f.header then some (f.delivery r.rssi) else none := by
  simp [Inbox.news, ht.decoded, ht.accepted]

theorem Node.TakesIn.reply_eq (ht : n.TakesIn r f) (i : Inbox) (taken : Bool) :
    i.reply n.config r taken =
      if n.owesAck f.header && (i.isDuplicate f.header || taken) then some (n.ackWire f.header)
      else none := by
  simp [Inbox.reply, ht.decoded, Node.owesAck, Node.ackWire, Node.address]

/-- An acknowledgment is not acknowledged. -/
theorem Node.owesAck_of_isAck {h : Header} (hack : h.isAck = true) : n.owesAck h = false := by
  simp [Node.owesAck, Header.wantsAck, hack]

namespace Tray

theorem permits_of_news (hnews : g.inbox.news c r = none) (q : Request) :
    (g.hold r).Permits c s q ↔ q.delivery? = none := by
  have hcalls : (g.hold r).calls c = none := hnews
  simp [Permits, hcalls]

/-- A delivery for which the node's own queue has no room is not offered. -/
theorem permits_of_full {capacity : Nat} {w : List Delivery} (hs : s = .queue capacity w)
    (hroom : capacity ≤ g.queue.length) {q : Request} (hq : q.delivery? = none) :
    (g.hold r).Permits c s q := by
  subst hs
  unfold Permits
  split
  · exact hq
  · have hfull : ¬(g.hold r).queue.length < capacity := Nat.not_lt.2 hroom
    simpa only [if_neg hfull] using hq

/-- A delivery is offered to the channel, or kept if there is room. -/
theorem permits_of_delivering {d : Delivery} {n₁ : Node} {taken : Bool} {e : Exchange}
    (hsink : n.sink = s.holding g.queue) (hnews : g.inbox.news c r = some d)
    (hd : Delivering n d [e] n₁ taken) : (g.hold r).Permits c s e.request ∧
      e.request.delivery?.isSome ∧ e.handed.isSome = taken ∧
        n₁.sink = s.holding (g.queue ++ if taken then [d] else []) := by
  have hcalls : (g.hold r).calls c = some d := hnews
  cases hd with
  | kept hs room =>
    obtain ⟨⟨w, rfl⟩, hqueue⟩ := Sink.holding_eq_queue (hsink.symm.trans hs)
    subst hqueue
    have hroom : (g.hold r).queue.length < _ := room
    refine ⟨?_, rfl, rfl, rfl⟩
    simp only [Permits, hcalls, if_pos hroom]
  | offered hs taken =>
    obtain rfl := Sink.holding_eq_channel (hsink.symm.trans hs)
    refine ⟨?_, rfl, by cases taken <;> rfl, hs⟩
    simp only [Permits, hcalls]

end Tray

/-- The radio is told to listen again. -/
def Exchange.restoring (restored : Except Radio.Failure Unit) : Exchange :=
  ⟨.radio (.setMode .receive), restored⟩

/-- What is sent while a reception is handled, and the mode that is restored after it. -/
theorem ackSent_restored {c : Frame.Config} {wires : List Bytes}
    (restored : Except Radio.Failure Unit)
    (hacks : es.any Exchange.failed = false → es.filterMap (Exchange.ackSent c) = wires) :
    (es ++ [Exchange.restoring restored]).any Exchange.failed = false →
      (es ++ [Exchange.restoring restored]).filterMap (Exchange.ackSent c) = wires := by
  intro hfailed
  rw [List.any_append, Bool.or_eq_false_iff] at hfailed
  rw [List.filterMap_append, hacks hfailed.1]
  exact List.append_nil _

theorem quiet_restored (restored : Except Radio.Failure Unit) (hes : ∀ e ∈ es, e.Quiet) :
    ∀ e ∈ es ++ [Exchange.restoring restored], e.Quiet := by
  intro e he
  rcases List.mem_append.1 he with he | he
  · exact hes e he
  · exact List.mem_singleton.1 he ▸ ⟨rfl, rfl⟩

/-- What is sent of an acknowledgment is what is owed. -/
theorem Acknowledging.ackSent_eq {h : Header} {result : Except Error Unit}
    (hk : Acknowledging n h es n' result) (hc : n.config.frame.Valid) {wire : Option Bytes}
    (hwire : wire = if n.owesAck h then some (n.ackWire h) else none) :
    es.any Exchange.failed = false →
      es.filterMap (Exchange.ackSent n.config.frame) = wire.toList := by
  intro hfailed
  rw [hk.ackSent hc hfailed, hwire]
  split <;> rfl

/-- A new datagram is offered, and there is no room for it. -/
theorem Tray.Shows.overflowed (hg : g.Shows n.config s n) (ht : n.TakesIn r f)
    (hack : f.header.isAck = false) (hd : n.isDuplicate f.header = false)
    (hs : Delivering (n.hearing f r.rssi) (f.delivery r.rssi) es n' false)
    (restored : Except Radio.Failure Unit) :
    (contract n.config s).Admits (g.hold r) (es ++ [Exchange.restoring restored]) ∧
      ((es ++ [Exchange.restoring restored]).foldl (exchange n.config) (g.hold r)).Shows n.config s
        (n'.count fun t => { t with deliveryOverflow := t.deliveryOverflow + 1 }) := by
  have hdup : g.inbox.isDuplicate f.header = false := hg.inbox ▸ hd
  have hnews : g.inbox.news n.config r = some (f.delivery r.rssi) := by
    simp [ht.news_eq, hack, hdup]
  have hreply : g.inbox.reply n.config r false = none := by
    simp [ht.reply_eq, hdup]
  have htake : ((n.hearing f r.rssi).count fun t =>
      { t with deliveryOverflow := t.deliveryOverflow + 1 }).inbox =
        g.inbox.take n.config r false := by
    rw [ht.take_eq, Inbox.sort_overflow hack hdup, ← hg.inbox]
    rfl
  have hnothing : ∀ e ∈ ([] : List Exchange), e.Quiet := by simp
  have hacks := ackSent_restored restored fun _ =>
    (rfl : List.filterMap (Exchange.ackSent n.config.frame) [] = [])
  cases hs with
  | full hs room =>
    obtain ⟨⟨w, hqueue⟩, hwaiting⟩ := Sink.holding_eq_queue (hg.sink.symm.trans hs)
    refine hg.untaken (fun q => permits_of_full hqueue (hwaiting ▸ room)) (by simp)
      (quiet_restored restored hnothing) ?_ rfl htake rfl
    rw [hreply]
    exact hacks
  | offered hs =>
    have hsink₁ : (n.hearing f r.rssi).sink = s.holding g.queue := hg.sink
    obtain ⟨hpermits, hsome, htaken, hsink⟩ :=
      permits_of_delivering hsink₁ hnews (.offered hs false)
    refine hg.offered hpermits hsome (quiet_restored restored hnothing) ?_ rfl ?_ ?_
    · rw [htaken, hreply]
      exact hacks
    · rw [htaken]
      exact htake
    · rw [htaken]
      exact hsink

/-- A new datagram is offered and taken, and perhaps acknowledged. -/
theorem Tray.Shows.delivered {n₁ : Node} {es' : List Exchange} {acked : Except Error Unit}
    (hg : g.Shows n.config s n) (hc : n.config.frame.Valid) (ht : n.TakesIn r f)
    (hack : f.header.isAck = false) (hd : n.isDuplicate f.header = false)
    (hs : Delivering (n.hearing f r.rssi) (f.delivery r.rssi) es n₁ true)
    (hk : Acknowledging (n₁.accept f.header) f.header es' n' acked)
    (restored : Except Radio.Failure Unit) :
    (contract n.config s).Admits (g.hold r) (es ++ es' ++ [Exchange.restoring restored]) ∧
      ((es ++ es' ++ [Exchange.restoring restored]).foldl (exchange n.config) (g.hold r)).Shows
        n.config s n' := by
  have hdup : g.inbox.isDuplicate f.header = false := hg.inbox ▸ hd
  have hnews : g.inbox.news n.config r = some (f.delivery r.rssi) := by
    simp [ht.news_eq, hack, hdup]
  have hconfig : (n₁.accept f.header).config = n.config := hs.config_eq
  have hreply : g.inbox.reply n.config r true = if (n₁.accept f.header).owesAck f.header then
      some ((n₁.accept f.header).ackWire f.header) else none := by
    rw [Node.owesAck_congr hconfig, Node.ackWire_congr hconfig]
    simp [ht.reply_eq]
  have hacks := hk.ackSent_eq (by rwa [hconfig]) hreply
  rw [hconfig] at hacks
  have htake : n'.inbox = g.inbox.take n.config r true := by
    rw [hk.inbox_eq.1, ht.take_eq, Inbox.sort_taken hack hdup, ← hg.inbox]
    cases hs <;> rfl
  obtain ⟨e, rfl⟩ : ∃ e, es = [e] := by cases hs <;> exact ⟨_, rfl⟩
  have hsink₁ : (n.hearing f r.rssi).sink = s.holding g.queue := hg.sink
  obtain ⟨hpermits, hsome, htaken, hsink⟩ := permits_of_delivering hsink₁ hnews hs
  refine hg.offered hpermits hsome (quiet_restored restored hk.quiet) ?_
    (hk.config_eq.trans hconfig) ?_ ?_
  · rw [htaken]
    exact ackSent_restored restored hacks
  · rw [htaken]
    exact htake
  · rw [htaken, hk.inbox_eq.2, hnews]
    exact hsink

/-- **A reception that is handled goes from the tray into the inbox.** -/
theorem Handling.sorted {event : Except Error PollEvent} (hc : n.config.frame.Valid)
    (hg : g.Shows n.config s n) (hh : Handling n r es n' event)
    (restored : Except Radio.Failure Unit) :
    (Tray.contract n.config s).Admits (g.hold r) (es ++ [Exchange.restoring restored]) ∧
      ((es ++ [Exchange.restoring restored]).foldl (Tray.exchange n.config) (g.hold r)).Shows
        n.config s n' := by
  have hinbox := hg.inbox
  have hnothing : ∀ e ∈ ([] : List Exchange), e.Quiet := by simp
  -- Without a delivery nothing is offered.
  have hnone : ∀ {n' : Node} {es : List Exchange}, g.inbox.news n.config r = none →
      (∀ e ∈ es, e.Quiet) →
      (es.any Exchange.failed = false → es.filterMap (Exchange.ackSent n.config.frame) =
        (g.inbox.reply n.config r false).toList) →
      n'.config = n.config → n'.inbox = g.inbox.take n.config r false → n'.sink = n.sink → _ :=
    fun hnews hes hacks hconfig hinbox hsink =>
      hg.untaken (fun q => (Tray.permits_of_news hnews q).2) (by simp)
        (quiet_restored restored hes) (ackSent_restored restored hacks) hconfig hinbox hsink
  cases hh with
  | dropped hf =>
    refine hnone ?_ hnothing ?_ rfl ?_ rfl
    · simp [Inbox.news, hf]
    · simp [Inbox.reply, hf]
    · rw [← hinbox, Inbox.take, hf]
      rfl
  | @filtered f hf ha =>
    have hlocal : n.config.filter.isLocal f.header = false := by
      refine Bool.eq_false_iff.2 fun hlocal => ?_
      rw [AddressFilter.accepts_of_isLocal hlocal] at ha
      cases ha
    refine hnone ?_ hnothing ?_ rfl ?_ rfl
    · simp [Inbox.news, hf, ha]
    · simp [Inbox.reply, hf, hlocal]
    · simp only [← hinbox, Inbox.take, hf, ha]
      rfl
  | @matched f ht hack hw =>
    refine hnone ?_ hnothing ?_ rfl ?_ rfl
    · simp [ht.news_eq, hack]
    · simp [ht.reply_eq, Node.owesAck_of_isAck hack]
    · rw [ht.take_eq, Inbox.sort_ack hack, ← hinbox]
      simp only [Node.inbox, Node.resolve, Node.hearing, Node.count, Nat.add_right_comm]
  | @ignored f ht hack hw =>
    refine hnone ?_ hnothing ?_ rfl ?_ rfl
    · simp [ht.news_eq, hack]
    · simp [ht.reply_eq, Node.owesAck_of_isAck hack]
    · rw [ht.take_eq, Inbox.sort_ack hack, ← hinbox]
      rfl
  | @duplicate f es n' acked ht hack hd hk =>
    have hdup : g.inbox.isDuplicate f.header = true := hinbox ▸ hd
    have hreply : g.inbox.reply n.config r false =
        if n.owesAck f.header then some (n.ackWire f.header) else none := by
      simp [ht.reply_eq, hdup]
    refine hnone ?_ hk.quiet (hk.ackSent_eq hc hreply) hk.config_eq ?_ hk.inbox_eq.2
    · simp [ht.news_eq, hdup]
    · rw [hk.inbox_eq.1, ht.take_eq, Inbox.sort_duplicate hack hdup, ← hinbox]
      rfl
  | overflowed ht hack hd hs => exact hg.overflowed ht hack hd hs restored
  | delivered ht hack hd hs hk => exact hg.delivered hc ht hack hd hs hk restored

/-! ## Turns -/

/-- The exchanges are in order, and lead from one node to the other. -/
def Brings (c : Config) (s : Sink) (n : Node) (es : List Exchange) (n' : Node) : Prop :=
  ∀ g : Tray, g.Shows c s n →
    (Tray.contract c s).Admits g es ∧ (es.foldl (Tray.exchange c) g).Shows c s n'

namespace Brings

theorem trans {n'' : Node} {es' : List Exchange} (h : Brings c s n es n')
    (h' : Brings c s n' es' n'') : Brings c s n (es ++ es') n'' := by
  intro g hg
  obtain ⟨hadmits, hshows⟩ := h g hg
  obtain ⟨hadmits', hshows'⟩ := h' _ hshows
  refine ⟨(Contract.admits_append _ _ _ _).2 ⟨hadmits, hadmits'⟩, ?_⟩
  rw [List.foldl_append]
  exact hshows'

/-- Exchanges that take nothing and acknowledge nothing change nothing. -/
theorem quiet (hes : ∀ e ∈ es, e.Quiet ∧ e.ackSent c.frame = none)
    (hsame : n'.inward = n.inward) : Brings c s n es n' := by
  intro g hg
  obtain ⟨hadmits, hfold⟩ := Tray.foldl_quiet (c := c) (s := s) hg.held fun e he => (hes e he).1
  have hacks : es.filterMap (Exchange.ackSent c.frame) = [] :=
    List.filterMap_eq_nil_iff.2 fun e he => (hes e he).2
  refine ⟨hadmits, ?_⟩
  rw [hfold, hacks]
  have hconfig : n'.config = n.config := Node.config_of_inward hsame
  have hinbox : n'.inbox = n.inbox := Node.inbox_of_inward hsame
  have hsink : n'.sink = n.sink := Node.sink_of_inward hsame
  refine ⟨hconfig.trans hg.config, hinbox.trans hg.inbox, hsink.trans hg.sink, hg.held, ?_⟩
  intro hfailed
  rw [List.append_nil]
  exact hg.acked (Bool.or_eq_false_iff.1 hfailed).1

theorem plain (hes : ∀ e ∈ es, e.request.isPlain = true) (hsame : n'.inward = n.inward) :
    Brings c s n es n' :=
  quiet (fun e he => ⟨.of_isPlain (hes e he), Exchange.ackSent_of_isPlain (hes e he)⟩) hsame

end Brings

theorem Fetching.brings {event : Except Error PollEvent} (hc : c.frame.Valid)
    (hf : Fetching n es n' event) (restored : Except Radio.Failure Unit) :
    Brings c s n (es ++ [Exchange.restoring restored]) n' := by
  have hrestored : Brings c s n' [Exchange.restoring restored] n' := by
    refine .plain (fun e he => ?_) rfl
    rw [List.mem_singleton.1 he]
    rfl
  -- Nothing was received.
  have hmissed : ∀ a : Except Radio.Failure (Option Radio.Reception),
      Exchange.heard ⟨.radio .receive, a⟩ = none →
        Brings c s n' [⟨.radio .receive, a⟩] n' := by
    refine fun a ha => .quiet (fun e he => ?_) rfl
    rw [List.mem_singleton.1 he]
    exact ⟨⟨ha, rfl⟩, rfl⟩
  cases hf with
  | failed failure => exact (hmissed _ rfl).trans hrestored
  | nothing => exact (hmissed _ rfl).trans hrestored
  | @taken r es n' event hh =>
    intro g hg
    obtain rfl := hg.config
    have hhold : g.exchange n.config ⟨.radio .receive, .ok (some r)⟩ = g.hold r := by
      rw [Tray.exchange, Tray.settle_of_unheld hg.held]
      simp [Tray.hold, Exchange.heard, Radio.Call.taken, Exchange.ackSent, Exchange.sent,
        Radio.Call.aired, Exchange.failed]
    obtain ⟨hadmits, hshows⟩ := hh.sorted hc hg restored
    rw [← hhold] at hadmits hshows
    exact ⟨⟨(Tray.permits_of_unheld hg.held).2 rfl, hadmits⟩, hshows⟩

theorem Looking.brings {event : Except Error PollEvent} (hc : c.frame.Valid)
    (hl : Looking n es n' event) : Brings c s n es n' := by
  cases hl with
  | failed failure => exact .plain (by simp [Request.isPlain]) rfl
  | nothing => exact .plain (by simp [Request.isPlain]) rfl
  | @ready es n' event hf restored =>
    have hready : Brings c s n [⟨.radio .frameReady, .ok true⟩] n :=
      .plain (by simp [Request.isPlain]) rfl
    exact hready.trans (hf.brings hc restored)

theorem Polling.brings {event : Except Error PollEvent} (hc : c.frame.Valid)
    (hp : Polling n es n' event) : Brings c s n es n' := by
  cases hp with
  | deaf hm failure => exact .plain (by simp [Request.isPlain]) rfl
  | @roused m hm es n' event hl =>
    have hroused : Brings c s n [⟨.mode, m⟩, ⟨.radio (.setMode .receive), .ok ()⟩] n :=
      .plain (by simp [Request.isPlain]) rfl
    exact hroused.trans (hl.brings hc)
  | awake hl =>
    have hawake : Brings c s n [⟨.mode, .receive⟩] n := .plain (by simp [Request.isPlain]) rfl
    exact hawake.trans (hl.brings hc)

/-- What is given out at the end of a turn was the oldest delivery of the node's own queue. -/
theorem Tray.Shows.outcome {blank : Tray} (hg : g.Shows c s n)
    {r : Except Error (Turn Activity Reply)} (hr : Turn.given r = none) :
    (sorting c s blank).Outcome g n r := by
  rcases r with e | a | reply
  · exact ⟨nofun, hg⟩
  · exact hg
  · cases reply with
    | delivery d =>
      obtain rfl : d = none := hr
      exact ⟨nofun, hg⟩
    | _ => exact ⟨nofun, hg⟩

/-- **A stretch is in order**, and ends as it should. -/
theorem Stretch.sorted {blank : Tray} {r : Except Error (Turn Activity Reply)}
    (hc : c.frame.Valid) (hg : g.Shows c s n) (h : Stretch n es (r, n')) :
    (sorting c s blank).contract.Admits g es ∧
      (sorting c s blank).Outcome (es.foldl (sorting c s blank).contract.note g) n' r := by
  cases h.intake with
  | none outward same hr =>
    have houtward : ∀ e ∈ es, e.Quiet ∧ e.ackSent c.frame = none := fun e he =>
      (hg.config ▸ outward e he).quiet hc
    obtain ⟨hadmits, hshows⟩ := Brings.quiet houtward same g hg
    exact ⟨hadmits, hshows.outcome hr⟩
  | @popped d hd =>
    obtain ⟨capacity, waiting, hsink⟩ : ∃ capacity waiting,
        n.sink = .queue capacity (d :: waiting) := by
      cases hsink : n.sink with
      | queue capacity waiting =>
        rw [hsink] at hd
        cases waiting with
        | nil => cases hd
        | cons d' waiting =>
          obtain rfl : d' = d := Option.some.inj hd
          exact ⟨capacity, waiting, rfl⟩
      | channel id =>
        rw [hsink] at hd
        cases hd
    obtain ⟨⟨w, hqueue⟩, hwaiting⟩ := Sink.holding_eq_queue (hg.sink.symm.trans hsink)
    refine ⟨trivial, ?_, ?_⟩
    · rintro d' hd'
      obtain rfl : d = d' := by simpa using hd'
      refine ⟨capacity, w, hqueue, ?_⟩
      rw [List.foldl_nil, hwaiting]
      rfl
    · refine ⟨hg.config, hg.inbox, ?_, hg.held, hg.acked⟩
      show n.sink.pop.2 = s.holding g.queue.tail
      rw [hsink, hqueue, hwaiting]
      rfl
  | looked before hp after same hr =>
    have hbefore : Brings c s n _ n := .plain before rfl
    have hafter : Brings c s _ _ n' := .plain after same
    obtain ⟨hadmits, hshows⟩ := (hbefore.trans (hp.brings hc)).trans hafter g hg
    exact ⟨hadmits, hshows.outcome hr⟩

/-- **Every operation and every turn is in order**, on any radio. -/
theorem sorting_sound (hc : c.frame.Valid) (blank : Tray) : (sorting c s blank).Sound where
  start g _ op hg := Task.Keeps.of_paths fun _ _ hpath =>
    Stretch.sorted (g := g) hc hg (.start op hpath)
  turn g _ a hg := Task.Keeps.of_paths fun _ _ hpath =>
    Stretch.sorted (g := g) hc hg (.turn a hpath)

end

end Link
end PacketRadio
