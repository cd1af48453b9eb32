/-
# What a node sends and hands over, and why

rflink specification, §3: sequence numbers and the per-peer receive state;
§4.4: data and acknowledgments.

The ledger of a node lists the datagrams it was asked to send, the receptions
it took off its radio, and the deliveries it handed to its sink.  Three rules
tie them together.

| a node | only if |
| --- | --- |
| sends a datagram | it is the one it was asked for and is still at |
| acknowledges a datagram | it is the last it has handed over from that sender |
| hands over a delivery | the reception at hand stands for it, and its number is a new one |

The datagrams of a node are numbered from zero, and the numbers come round
again after 256.  A send that ends as acknowledged has heard an acknowledgment
of its own number since it began.

The rules hold on any radio: `PacketRadio.Proofs.Link.Bookkeeping` shows that
a node keeps to them whatever it is answered.

Main statements: `Run.orderly` (what is handed over is a selection of what
came in, in which no two deliveries in a row from one sender have one number).
-/

import PacketRadio.Frame.Codec
import PacketRadio.Proofs.Link.History
import PacketRadio.Proofs.Medium.Queues
import Mathlib.Data.List.Chain

namespace PacketRadio

/-- The delivery that a frame amounts to. -/
def Frame.delivery (f : Frame) (rssi : Int) : Link.Delivery :=
  ⟨f.header.dst, f.header.src, f.header.id, f.header.flags, f.payload, rssi⟩

namespace Link

/-! ## What is listed -/

/-- A datagram as the application hands it to its node. -/
structure Datagram where
  /-- Whom it is for. -/
  dst : Address
  /-- What it carries. -/
  payload : Bytes
  deriving DecidableEq, Repr

/-- The datagram that a node is asked to send, if its payload is within the limit. -/
def Operation.datagram (limit : Nat) : Operation → Option Datagram
  | .sendUnreliable dst payload => if payload.length ≤ limit then some ⟨dst, payload⟩ else none
  | .sendReliable dst payload => if payload.length ≤ limit then some ⟨dst, payload⟩ else none
  | .sendReliableWith dst payload _ _ =>
    if payload.length ≤ limit then some ⟨dst, payload⟩ else none
  | _ => none

/-- The reception that an exchange brought. -/
def Exchange.heard : Exchange → Option Radio.Reception
  | ⟨.radio call, a⟩ => call.taken a
  | _ => none

/-- The delivery that an exchange handed to the sink. -/
def Exchange.handed : Exchange → Option Delivery
  | ⟨.kept d, _⟩ => some d
  | ⟨.offer _ d, true⟩ => some d
  | _ => none

/-- The datagram that a node was asked to send. -/
def Occurrence.datagram (limit : Nat) : Occurrence → Option Datagram
  | .began op => op.datagram limit
  | _ => none

/-- The reception that a node took. -/
def Occurrence.heard : Occurrence → Option Radio.Reception
  | .exchanged e => e.heard
  | _ => none

/-- The delivery that a node handed to its sink. -/
def Occurrence.handed : Occurrence → Option Delivery
  | .exchanged e => e.handed
  | _ => none

/-- The delivery that a reception stands for, unless it is an acknowledgment or no frame. -/
def arrival (c : Frame.Config) (r : Radio.Reception) : Option Delivery :=
  match Frame.decode c r.bytes with
  | .ok f => if f.header.isAck then none else some (f.delivery r.rssi)
  | .error _ => none

/-- The deliveries that receptions stand for. -/
def arrivals (c : Frame.Config) (rs : List Radio.Reception) : List Delivery :=
  rs.filterMap (arrival c)

/-- The numbers of the deliveries from an address. -/
def idsFrom (a : Address) (ds : List Delivery) : List UInt8 :=
  (ds.filter (·.src = a)).map (·.id)

/-- What is listed of a node. -/
structure Ledger where
  /-- The datagrams it was asked to send. -/
  calls : List Datagram := []
  /-- The one of them that it is at, if it is at any. -/
  current : Option Datagram := none
  /-- The receptions it took. -/
  heard : List Radio.Reception := []
  /-- Those it took since it was last asked for something. -/
  news : List Radio.Reception := []
  /-- The deliveries it handed over. -/
  handed : List Delivery := []

namespace Ledger

/-- The ledger after a reception, if there was one. -/
def hear (g : Ledger) : Option Radio.Reception → Ledger
  | some r => { g with heard := g.heard ++ [r], news := g.news ++ [r] }
  | none => g

/-- The ledger after a delivery, if there was one. -/
def hand (g : Ledger) : Option Delivery → Ledger
  | some d => { g with handed := g.handed ++ [d] }
  | none => g

/-- The ledger after an operation has begun. -/
def ask (g : Ledger) (limit : Nat) (op : Operation) : Ledger :=
  { g with
    calls := g.calls ++ (op.datagram limit).toList
    current := op.datagram limit
    news := [] }

/-- The ledger after one more occurrence. -/
def note (limit : Nat) (g : Ledger) : Occurrence → Ledger
  | .began op => g.ask limit op
  | .exchanged e => (g.hear e.heard).hand e.handed
  | .ended _ => g

/-- The number of the datagram that the node was asked for last. -/
def number (g : Ledger) : UInt8 :=
  UInt8.ofNat (g.calls.length - 1)

/-! ## The rules -/

/-- The frame is a copy of the datagram that the node is at. -/
def Carries (g : Ledger) (f : Frame) : Prop :=
  f.header.isAck = false ∧ f.header.id = g.number ∧ g.current = some ⟨f.header.dst, f.payload⟩

/-- The frame acknowledges the datagram that the node has handed over last from that sender. -/
def Answers (g : Ledger) (f : Frame) : Prop :=
  f.header.isAck = true ∧ (idsFrom f.header.dst g.handed).getLast? = some f.header.id

/-- The node may put these bytes on the air. -/
def Airs (c : Config) (g : Ledger) (wire : Bytes) : Prop :=
  ∃ f : Frame, wire = f.wire c.frame ∧ f.payload.length ≤ c.frame.payloadLimit ∧
    f.header.src = c.address ∧ (g.Carries f ∨ g.Answers f)

/-- The delivery is what came in last, and there is room for it in what came in. -/
def AtHand (c : Config) (g : Ledger) (d : Delivery) : Prop :=
  (∃ r, g.heard.getLast? = some r ∧ arrival c.frame r = some d) ∧
    (g.handed ++ [d]).Sublist (arrivals c.frame g.heard)

/-- The node may hand over this delivery. -/
def Takes (c : Config) (g : Ledger) (d : Delivery) : Prop :=
  g.AtHand c d ∧ (idsFrom d.src g.handed).getLast? ≠ some d.id

/-- The peer has acknowledged the number since the node was last asked for something. -/
def Heeded (c : Config) (g : Ledger) (peer : Address) (id : UInt8) : Prop :=
  ∃ r ∈ g.news, ∃ f, Frame.decode c.frame r.bytes = .ok f ∧
    f.header.isAck = true ∧ f.header = ⟨c.address, peer, id, f.header.flags⟩

/-- The request is in order. -/
def Permits (c : Config) (g : Ledger) : Request → Prop
  | .radio (.transmit wire) => g.Airs c wire
  | .kept d => g.Takes c d
  | .offer _ d => g.Takes c d
  | _ => True

/-- **What was handed over in order could be taken.** -/
theorem Permits.takes {c : Config} {g : Ledger} {e : Exchange} {d : Delivery}
    (h : g.Permits c e.request) (hd : e.handed = some d) : g.Takes c d := by
  obtain ⟨r, a⟩ := e
  cases r with
  | kept d' =>
    obtain rfl : d' = d := Option.some.inj hd
    exact h
  | offer channel d' =>
    cases a with
    | true =>
      obtain rfl : d' = d := Option.some.inj hd
      exact h
    | false => cases hd
  | _ => cases hd

/-- The result is in order: what was sent has the number it should have, and what is said to be
acknowledged has been. -/
def Concludes (c : Config) (g : Ledger) : Except Error Reply → Prop
  | .ok (.sent id) => g.current.isSome ∧ id = g.number
  | .ok (.outcome outcome) =>
    g.current.isSome ∧ outcome.id = g.number ∧
      (outcome.isAcked = true → ∃ call, g.current = some call ∧ g.Heeded c call.dst g.number)
  | _ => True

/-! ## The node beside its ledger -/

/-- The node is as its ledger has it. -/
structure Matches (c : Config) (g : Ledger) (n : Node) : Prop where
  /-- It has the configuration it was brought up with. -/
  config : n.config = c
  /-- It knows the latest number from each peer. -/
  table : ∀ a, n.lastAccepted.get? a = (idsFrom a g.handed).getLast?
  /-- It has handed over a selection of what came in. -/
  handed : g.handed.Sublist (arrivals c.frame g.heard)

/-- The node's next number comes after those of all it was asked to send. -/
def Numbered (g : Ledger) (n : Node) : Prop :=
  n.nextId = UInt8.ofNat g.calls.length

/-- The send is that of the datagram the node is at. -/
structure Sends (c : Config) (g : Ledger) (n : Node) (s : Send) : Prop where
  /-- It goes where it should and carries what it should. -/
  call : g.current = some ⟨s.dst, s.payload⟩
  /-- It has the number it should have. -/
  id : s.id = g.number
  /-- Its payload can be sent. -/
  payload : s.payload.length ≤ c.frame.maxPayload
  /-- It is the one that waits for its acknowledgment, and says so truly if that has come. -/
  pending : ∃ acked, n.pending = some ⟨s.dst, s.id, acked⟩ ∧
    (acked = true → g.Heeded c s.dst s.id)

/-- What holds of an operation between two turns. -/
def UnderWay (c : Config) (g : Ledger) (n : Node) : Activity → Prop
  | .sending s => g.Matches c n ∧ g.Numbered n ∧ g.Sends c n s
  | _ => g.Matches c n ∧ g.Numbered n

end Ledger

/-- The rules for a node of this configuration. -/
def bookkeeping (c : Config) : Discipline Ledger where
  blank := {}
  note := Ledger.note c.frame.maxPayload
  permits := Ledger.Permits c
  concludes := Ledger.Concludes c
  AtRest g n := g.Matches c n ∧ g.Numbered n
  UnderWay := Ledger.UnderWay c

/-! ## What follows for the ledger -/

namespace Ledger

variable {limit : Nat} {os : List Occurrence}

/-- Exchanges change nothing about what is sent. -/
theorem calls_foldl_exchanged (hos : ∀ o ∈ os, ∃ e, o = .exchanged e) (g : Ledger) :
    (os.foldl (note limit) g).calls = g.calls ∧
      (os.foldl (note limit) g).current = g.current := by
  induction os generalizing g with
  | nil => exact ⟨rfl, rfl⟩
  | cons o os ih =>
    obtain ⟨e, rfl⟩ := hos o (List.mem_cons_self ..)
    rw [List.foldl_cons]
    have hrest := ih (fun o ho => hos o (List.mem_cons_of_mem _ ho))
      (g.note limit (.exchanged e))
    have hnote : (g.note limit (.exchanged e)).calls = g.calls ∧
        (g.note limit (.exchanged e)).current = g.current := by
      cases hheard : e.heard <;> cases hhanded : e.handed <;>
        simp [note, hear, hand, hheard, hhanded]
    exact ⟨hrest.1.trans hnote.1, hrest.2.trans hnote.2⟩

/-- **The calls of a ledger are those of the history.** -/
theorem calls_foldl (limit : Nat) (os : List Occurrence) (g : Ledger) :
    (os.foldl (note limit) g).calls = g.calls ++ os.filterMap (Occurrence.datagram limit) := by
  induction os generalizing g with
  | nil => simp
  | cons o os ih =>
    have hone : (g.note limit o).calls = g.calls ++ (o.datagram limit).toList := by
      cases o with
      | began op => rfl
      | ended result => exact (List.append_nil _).symm
      | exchanged e =>
        have hsame := (@calls_foldl_exchanged limit [.exchanged e] (by simp) g).1
        exact hsame.trans (List.append_nil _).symm
    rw [List.foldl_cons, ih, hone, List.filterMap_cons]
    cases o.datagram limit <;> simp

end Ledger

theorem arrivals_append (c : Frame.Config) (rs rs' : List Radio.Reception) :
    arrivals c (rs ++ rs') = arrivals c rs ++ arrivals c rs' :=
  List.filterMap_append

/-- **A reception stands for a delivery if it is a frame, but no acknowledgment.** -/
theorem arrival_eq_some_iff {c : Frame.Config} {r : Radio.Reception} {d : Delivery} :
    arrival c r = some d ↔
      ∃ f, Frame.decode c r.bytes = .ok f ∧ f.header.isAck = false ∧ f.delivery r.rssi = d := by
  unfold arrival
  cases Frame.decode c r.bytes with
  | error defect => simp
  | ok f => cases hack : f.header.isAck <;> simp [hack]

@[simp] theorem idsFrom_append (a : Address) (ds ds' : List Delivery) :
    idsFrom a (ds ++ ds') = idsFrom a ds ++ idsFrom a ds' := by
  simp [idsFrom]

/-- The number of the last delivery from an address is that of a delivery from there. -/
theorem mem_of_getLast?_idsFrom {a : Address} {ds : List Delivery} {id : UInt8}
    (h : (idsFrom a ds).getLast? = some id) : ∃ d ∈ ds, d.src = a ∧ d.id = id := by
  obtain ⟨d, hd, hid⟩ := List.mem_map.1 (List.mem_of_getLast? h)
  obtain ⟨hd, hsrc⟩ := List.mem_filter.1 hd
  exact ⟨d, hd, of_decide_eq_true hsrc, hid⟩

theorem idsFrom_singleton (a : Address) (d : Delivery) :
    idsFrom a [d] = if d.src = a then [d.id] else [] := by
  by_cases h : d.src = a <;> simp [idsFrom, h]

/-- **A delivery with another number than the last from its sender** leaves no number twice in a
row. -/
theorem idsFrom_isChain_concat {ds : List Delivery} {d : Delivery}
    (h : ∀ a, (idsFrom a ds).IsChain (· ≠ ·)) (hd : (idsFrom d.src ds).getLast? ≠ some d.id)
    (a : Address) : (idsFrom a (ds ++ [d])).IsChain (· ≠ ·) := by
  rw [idsFrom_append, idsFrom_singleton]
  split
  · rename_i ha
    subst ha
    refine List.isChain_append.2 ⟨h _, List.isChain_singleton _, fun x hx y hy => ?_⟩
    obtain rfl : d.id = y := by simpa using hy
    rintro rfl
    exact hd hx
  · simpa using h a

/-- What is handed over is a selection of what came in, and no two deliveries in a row from one
sender have one number. -/
structure Ledger.Orderly (c : Config) (g : Ledger) : Prop where
  /-- Nothing is made up and nothing is put in another order. -/
  handed : g.handed.Sublist (arrivals c.frame g.heard)
  /-- No number comes twice in a row. -/
  ids : ∀ a, (idsFrom a g.handed).IsChain (· ≠ ·)

theorem Ledger.Orderly.hear {c : Config} {g : Ledger} (h : g.Orderly c)
    (r : Option Radio.Reception) : (g.hear r).Orderly c := by
  cases r with
  | none => exact h
  | some r =>
    refine ⟨?_, h.ids⟩
    rw [Ledger.hear, arrivals_append]
    exact h.handed.trans (List.sublist_append_left _ _)

theorem Ledger.Orderly.hand {c : Config} {g : Ledger} (h : g.Orderly c) {d : Delivery}
    (hd : g.Takes c d) : (g.hand (some d)).Orderly c :=
  ⟨hd.1.2, idsFrom_isChain_concat h.ids hd.2⟩

/-- An exchange that was in order keeps the ledger in order. -/
theorem Ledger.Orderly.exchanged {c : Config} {g : Ledger} (h : g.Orderly c) {e : Exchange}
    (he : g.Permits c e.request) : (g.note c.frame.maxPayload (.exchanged e)).Orderly c := by
  obtain ⟨r, a⟩ := e
  cases r with
  | kept d => exact h.hand he
  | offer channel d =>
    cases a with
    | true => exact h.hand he
    | false => exact h
  | radio call => exact h.hear _
  | _ => exact h

/-- **What a node hands over is a selection of what came in, without a number twice in a row.** -/
theorem Run.orderly {c : Config} (hs : (bookkeeping c).Sound) {n₀ : Node}
    (h₀ : (bookkeeping c).AtRest {} n₀) {h : History} {st : Status} (hr : Run n₀ h st) :
    ((bookkeeping c).record h).Orderly c := by
  induction hr with
  | start => exact ⟨List.Sublist.refl _, fun _ => List.isChain_nil⟩
  | step before next ih =>
    cases next with
    | exchange r next a =>
      rw [Option.toList_some, Discipline.record_append_singleton]
      exact ih.exchanged (hs.permits h₀ before)
    | turn a n => simpa using ih
    | begin n op =>
      rw [Option.toList_some, Discipline.record_append_singleton]
      exact ⟨ih.handed, ih.ids⟩
    | finish reply n =>
      rw [Option.toList_some, Discipline.record_append_singleton]
      exact ih
    | fail e n =>
      rw [Option.toList_some, Discipline.record_append_singleton]
      exact ih

end Link
end PacketRadio
