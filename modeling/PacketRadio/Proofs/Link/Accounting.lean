/-
# How a node accounts for what it sends

rflink specification, §4.5: the counters of what is sent.

A node counts what it sends, and its results tell of it too.  As long as no
call to the radio fails, the two agree with each other and with the calls.

| counter | in the results |
| --- | --- |
| copies of datagrams | one for what was sent once, the attempts of what waited |
| repeated copies | the attempts but the first |
| sends given up | the outcomes that say so |
| acknowledgments that were waited for | the outcomes that say so |

While a send is under way the counters are ahead of the results, by the copies
that it has sent so far and by its acknowledgment if that has come.

Main statements: `accounting_sound`, and `Life.settled` for all that a node has done.
-/

import PacketRadio.Proofs.Link.Inbox
import PacketRadio.Proofs.Link.Outgoing
import Mathlib.Algebra.GroupWithZero.Nat

namespace PacketRadio
namespace Link

open PacketRadio.Link.Action

/-! ## What results tell -/

namespace Operation

/-- The operation is to send. -/
def sends : Operation → Bool
  | .sendUnreliable _ _ | .sendReliable _ _ | .sendReliableWith _ _ _ _ => true
  | _ => false

/-- The operation is to send without acknowledgment. -/
def isUnreliable : Operation → Bool
  | .sendUnreliable _ _ => true
  | _ => false

end Operation

/-- The send under way, if one is. -/
def Activity.send? : Activity → Option Send
  | .sending s => some s
  | _ => none

/-- How a reliable send ended, if one did. -/
def Reply.outcome? : Reply → Option SendOutcome
  | .outcome o => some o
  | _ => none

namespace SendOutcome

/-- The datagram went to every node. -/
def isBroadcast : SendOutcome → Bool
  | .broadcast _ => true
  | _ => false

/-- How often the datagram was sent, if it waited for an acknowledgment. -/
def attempts? : SendOutcome → Option Nat
  | .acked _ attempts _ | .failed _ attempts _ => some attempts
  | .broadcast _ => none

/-- How many copies of the datagram were sent. -/
def copies (o : SendOutcome) : Nat :=
  o.isBroadcast.toNat + o.attempts?.getD 0

/-- How many of them were repeated. -/
def repeats (o : SendOutcome) : Nat :=
  (o.attempts?.map (· - 1)).getD 0

end SendOutcome

/-! ## The books -/

/-- What is on the books about a node. -/
structure Books where
  /-- How often it put bytes on the air, or tried to. -/
  aired : Nat := 0
  /-- A call to its radio has failed. -/
  broken : Bool := false
  /-- What it has been asked for, if that is not over. -/
  asked : Option Operation := none
  /-- How many datagrams it has sent without acknowledgment. -/
  once : Nat := 0
  /-- How its other sends ended. -/
  outcomes : List SendOutcome := []

/-- The node is as a send under way makes it, or as none does. -/
def Node.Bound (n : Node) : Option Send → Prop
  | none => n.pending = none
  | some s => n.pending.isSome = true ∧ s.payload.length ≤ n.config.frame.maxPayload ∧
      1 ≤ s.attempt ∧ s.attempt ≤ s.attempts

/-- How many copies a send has sent. -/
def Send.copies (s : Send) : Nat :=
  match s.phase with
  | .transmitting => s.attempt - 1
  | .waiting _ => s.attempt

namespace Books

/-- The books after one more occurrence. -/
def note (g : Books) : Occurrence → Books
  | .began op => { g with asked := some op }
  | .exchanged e =>
    { g with aired := g.aired + Exchange.aired [e], broken := g.broken || e.failed }
  | .ended (.ok reply) =>
    { g with
      asked := none
      once := g.once + (g.asked.any Operation.isUnreliable).toNat
      outcomes := g.outcomes ++ reply.outcome?.toList }
  | .ended (.error _) => { g with asked := none }

/-- A send is in progress. -/
def sending (g : Books) : Bool :=
  g.asked.any Operation.sends

/-- How often the datagrams were sent that waited for an acknowledgment, one number each. -/
def attempts (g : Books) : List Nat :=
  g.outcomes.filterMap SendOutcome.attempts?

/-- How many copies of datagrams were sent. -/
def copies (g : Books) : Nat :=
  g.once + g.outcomes.countP SendOutcome.isBroadcast + g.attempts.sum

/-- How many of them were repeated. -/
def repeats (g : Books) : Nat :=
  (g.attempts.map (· - 1)).sum

/-- What the node counts is what is on the books, with what is ahead of them. -/
structure Balances (g : Books) (s : Option Send) (n : Node) : Prop where
  /-- All that was sent is counted. -/
  aired : g.aired = n.telemetry.dataSent + n.telemetry.acksSent
  /-- Copies of datagrams. -/
  data : n.telemetry.dataSent = g.copies + (s.map Send.copies).getD 0
  /-- Repeated ones. -/
  retries : n.telemetry.retries = g.repeats + (s.map fun s => s.copies - 1).getD 0
  /-- Sends that were given up. -/
  failed : n.telemetry.failed = g.outcomes.countP SendOutcome.isFailed
  /-- Acknowledgments that were waited for. -/
  acked : n.telemetry.acksReceived = g.outcomes.countP SendOutcome.isAcked + n.heeded.toNat
  /-- The node is as it should be. -/
  bound : n.Bound s

end Books

/-- The rules for a node of this configuration. -/
def accounting (c : Config) : Discipline Books where
  blank := {}
  note := Books.note
  permits _ r := Traffic.Permits r
  concludes g result := ∀ reply, result = .ok reply → reply.outcome?.isSome = true →
    g.sending = true
  AtRest g n := n.config = c ∧ g.asked = none ∧ (g.broken = false → g.Balances none n)
  UnderWay g n a := n.config = c ∧ g.asked.any Operation.isUnreliable = false ∧
    g.sending = a.send?.isSome ∧ (g.broken = false → g.Balances a.send? n)

section

variable {c : Config} {g : Books} {n n' : Node} {es : List Exchange} {s : Option Send}

/-! ## Keeping the books -/

namespace Books

/-- The books after some exchanges. -/
def exchange (g : Books) (es : List Exchange) : Books :=
  { g with aired := g.aired + Exchange.aired es, broken := g.broken || es.any Exchange.failed }

theorem foldl_note (g : Books) (es : List Exchange) :
    es.foldl (accounting c).contract.note g = g.exchange es := by
  induction es generalizing g with
  | nil => simp [exchange]
  | cons e es ih =>
    have hnote : (accounting c).contract.note g e = g.exchange [e] := by
      simp [accounting, Discipline.contract, note, exchange]
    rw [List.foldl_cons, ih, hnote]
    simp [exchange, Exchange.aired_cons e es, Exchange.aired_cons e [], Nat.add_assoc,
      Bool.or_assoc]

theorem admits (h : ∀ e ∈ es, Traffic.Permits e.request) (g : Books) :
    (accounting c).contract.Admits g es := by
  induction es generalizing g with
  | nil => trivial
  | cons e es ih =>
    exact ⟨h e List.mem_cons_self, ih (fun e' he' => h e' (List.mem_cons_of_mem _ he')) _⟩

theorem unbroken (h : (g.exchange es).broken = false) :
    g.broken = false ∧ es.any Exchange.failed = false :=
  Bool.or_eq_false_iff.1 h

/-- **Acknowledgments keep the balance.** -/
theorem Balances.acks (h : g.Balances s n) (ha : n.Acks (Exchange.aired es) n') :
    (g.exchange es).Balances s n' where
  aired := by
    have hbefore := h.aired
    have hacks := ha.acks
    have hdata := ha.data
    simp only [exchange]
    omega
  data := ha.data.trans h.data
  retries := ha.retries.trans h.retries
  failed := ha.failed.trans h.failed
  acked := by
    have hbefore := h.acked
    have hacked := ha.acked
    simp only [exchange]
    omega
  bound := by
    have hbound := h.bound
    have hpending := ha.pending
    cases s with
    | none =>
      rw [show n.pending = none from hbound, Option.isSome_none] at hpending
      exact Option.not_isSome_iff_eq_none.1 (by simp [hpending])
    | some s =>
      obtain ⟨hsome, hpayload, hattempt⟩ := hbound
      exact ⟨hpending.trans hsome, by rwa [ha.config], hattempt⟩

/-- **A look at the radio keeps the balance**, unless the radio fails. -/
theorem Balances.routine {α : Type} {r : Except Error α} (hr : Routine n es n' r)
    (hb : g.broken = false → g.Balances s n) (hfailed : (g.exchange es).broken = false) :
    (∃ a, r = .ok a) ∧ (g.exchange es).Balances s n' := by
  obtain ⟨hbooks, hes⟩ := unbroken hfailed
  obtain ⟨hok, hacks⟩ := hr.counted hes
  exact ⟨hok, (hb hbooks).acks hacks⟩

/-- So do exchanges that send nothing. -/
theorem Balances.quiet (h : g.Balances s n) (es : List Exchange) (haired : Exchange.aired es = 0) :
    (g.exchange es).Balances s n :=
  h.acks (by rw [haired]; exact .refl n)

section

variable (g : Books) (reply : Reply)

/-- What the end of an operation adds to the copies. -/
theorem copies_ended : (g.note (.ended (.ok reply))).copies =
    g.copies + (g.asked.any Operation.isUnreliable).toNat +
      (reply.outcome?.map SendOutcome.copies).getD 0 := by
  cases ho : reply.outcome? with
  | none =>
    simp only [copies, attempts, note, ho, Option.toList_none, List.append_nil, Option.map_none,
      Option.getD_none]
    omega
  | some o =>
    cases ha : o.attempts? <;> cases hb : o.isBroadcast <;>
      simp [copies, attempts, note, ho, ha, hb, SendOutcome.copies] <;> omega

/-- What it adds to the repeated ones. -/
theorem repeats_ended : (g.note (.ended (.ok reply))).repeats =
    g.repeats + (reply.outcome?.map SendOutcome.repeats).getD 0 := by
  cases ho : reply.outcome? with
  | none => simp [repeats, attempts, note, ho]
  | some o => cases ha : o.attempts? <;> simp [repeats, attempts, note, ho, ha, SendOutcome.repeats]

/-- What it adds to the outcomes of some kind. -/
theorem countP_ended (p : SendOutcome → Bool) : (g.note (.ended (.ok reply))).outcomes.countP p =
    g.outcomes.countP p + (reply.outcome?.any p).toNat := by
  cases ho : reply.outcome? with
  | none => simp [note, ho]
  | some o => cases hp : p o <;> simp [note, ho, hp]

end

/-- So does the end of an operation that was not to send. -/
theorem Balances.silent (h : g.Balances none n) {reply : Reply}
    (hasked : g.asked.any Operation.isUnreliable = false) (hr : reply.outcome? = none) :
    (g.note (.ended (.ok reply))).Balances none n where
  aired := h.aired
  data := by rw [copies_ended, hasked, hr]; exact h.data
  retries := by rw [repeats_ended, hr]; exact h.retries
  failed := by rw [countP_ended, hr]; exact h.failed
  acked := by rw [countP_ended, hr]; exact h.acked
  bound := h.bound

end Books

/-- Exchanges are in order, and the turn ends as it should. -/
def Accounts (c : Config) (g : Books) (es : List Exchange) (n' : Node)
    (r : Except Error (Turn Activity Reply)) : Prop :=
  (∀ e ∈ es, Traffic.Permits e.request) ∧ (accounting c).Outcome (g.exchange es) n' r

/-- An operation that was not to send comes to its end. -/
theorem Accounts.finished {reply : Reply} (hes : ∀ e ∈ es, Traffic.Permits e.request)
    (hn : n'.config = c) (hasked : g.asked.any Operation.isUnreliable = false)
    (hr : reply.outcome? = none)
    (hb : (g.exchange es).broken = false → (g.exchange es).Balances none n') :
    Accounts c g es n' (.ok (.finish reply)) := by
  refine ⟨hes, ?_, hn, rfl, fun hfailed => (hb hfailed).silent hasked hr⟩
  rintro reply' hreply hsome
  cases hreply
  rw [hr] at hsome
  cases hsome

/-- An operation fails. -/
theorem Accounts.failed {e : Error} (hes : ∀ e ∈ es, Traffic.Permits e.request)
    (hn : n'.config = c)
    (hb : (g.exchange es).broken = false → (g.exchange es).Balances none n') :
    Accounts c g es n' (.error e) := by
  refine ⟨hes, ?_, hn, rfl, fun hfailed => ?_⟩
  · intro reply hreply
    cases hreply
  · have hbalance := hb hfailed
    exact ⟨hbalance.aired, hbalance.data, hbalance.retries, hbalance.failed, hbalance.acked,
      hbalance.bound⟩

/-- What is told at once of a datagram. -/
theorem Errand.reply_tells (d : Errand) (id : UInt8) :
    d.waits.isNone.toNat + ((d.reply id).outcome?.map SendOutcome.copies).getD 0 = 1 ∧
      ((d.reply id).outcome?.map SendOutcome.repeats).getD 0 = 0 ∧
      (d.reply id).outcome?.any SendOutcome.isFailed = false ∧
      (d.reply id).outcome?.any SendOutcome.isAcked = false := by
  unfold Errand.reply
  split
  · rename_i hwaits
    rw [hwaits]
    exact ⟨rfl, rfl, rfl, rfl⟩
  · rename_i hwaits
    rw [Bool.eq_false_iff.2 hwaits]
    exact ⟨rfl, rfl, rfl, rfl⟩

/-- **What is sent once keeps the books**: it is counted, and told of at once. -/
theorem Books.Balances.once {d : Errand} (h : g.Balances none n) (id : UInt8)
    (hasked : g.asked.any Operation.isUnreliable = d.waits.isNone)
    (haired : Exchange.aired es = 1) :
    ((g.exchange es).note (.ended (.ok (d.reply id)))).Balances none
      (n.numbering.count fun t => { t with dataSent := t.dataSent + 1 }) := by
  obtain ⟨hcopies, hrepeats, hfailed, hacked⟩ := d.reply_tells id
  have hasked' : (g.exchange es).asked.any Operation.isUnreliable = d.waits.isNone := hasked
  refine ⟨?_, ?_, ?_, ?_, ?_, h.bound⟩
  · show g.aired + Exchange.aired es = n.telemetry.dataSent + 1 + n.telemetry.acksSent
    have hair := h.aired
    omega
  · show n.telemetry.dataSent + 1 = _
    have hdata : n.telemetry.dataSent = (g.exchange es).copies := h.data
    rw [copies_ended, hasked', Nat.add_assoc (g.exchange es).copies, hcopies, hdata]
    rfl
  · rw [repeats_ended, hrepeats]
    exact h.retries
  · rw [countP_ended, hfailed]
    exact h.failed
  · rw [countP_ended, hacked]
    exact h.acked

/-- **The beginning of a send keeps the books.** -/
theorem Dispatching.accounts {d : Errand} {r : Except Error (Turn Activity Reply)}
    (hd : Dispatching n d es n' r) (hc : c.frame.Valid) (hn : n.config = c)
    (hg : g.sending = true) (hasked : g.asked.any Operation.isUnreliable = d.waits.isNone)
    (hb : g.broken = false → g.Balances none n) : Accounts c g es n' r := by
  subst hn
  cases hd with
  | oversized hsize =>
    refine .failed (by simp) rfl fun hfailed => ?_
    exact (hb (Books.unbroken hfailed).1).quiet _ rfl
  | @once es n' r hsize hd hp =>
    have hconfig : n'.config = n.config := hp.config_eq
    cases r with
    | error e =>
      refine .failed hp.permitted hconfig fun hfailed => ?_
      obtain ⟨herror, -⟩ := hp.counted hc hsize (Books.unbroken hfailed).2
      cases herror
    | ok u =>
      refine ⟨hp.permitted, fun _ _ _ => hg, hconfig, rfl, fun hfailed => ?_⟩
      obtain ⟨hbooks, hes⟩ := Books.unbroken hfailed
      obtain ⟨-, hone, rfl⟩ := hp.counted hc hsize hes
      exact (hb hbooks).once n.nextId hasked hone
  | @awaited retries timeout hsize hd hdst t =>
    rw [hd] at hasked
    refine ⟨by simp [Traffic.Permits], rfl, hasked, hg, fun hfailed => ?_⟩
    have hbalance := hb (Books.unbroken hfailed).1
    have hpending : n.pending = none := hbalance.bound
    have hunheeded : n.heeded = false := by rw [Node.heeded, hpending]; rfl
    have hacked := hbalance.acked
    rw [hunheeded] at hacked
    exact ⟨hbalance.aired, hbalance.data, hbalance.retries, hbalance.failed, hacked, rfl, hsize,
      Nat.le_refl 1, Nat.le_max_right _ _⟩

/-- **The end of a send keeps the books**: what they were behind by is in its outcome. -/
theorem Books.Balances.concluded {s : Send} (h : g.Balances (some s) n) (outcome : SendOutcome)
    (hasked : g.asked.any Operation.isUnreliable = false)
    (hattempts : outcome.attempts? = some s.copies) (hacked : outcome.isAcked = n.heeded) {k : Nat}
    (hgiven : outcome.isFailed.toNat = k) :
    (g.note (.ended (.ok (.outcome outcome)))).Balances none
      (n.settled.count fun t => { t with failed := t.failed + k }) := by
  have hcopies : outcome.copies = s.copies := by
    cases outcome with
    | broadcast id => cases hattempts
    | _ => simp [SendOutcome.copies, SendOutcome.isBroadcast, hattempts]
  have hrepeats : outcome.repeats = s.copies - 1 := by simp [SendOutcome.repeats, hattempts]
  refine ⟨h.aired, ?_, ?_, ?_, ?_, rfl⟩
  · rw [copies_ended, hasked]
    exact h.data.trans (by simp [Reply.outcome?, hcopies])
  · rw [repeats_ended]
    exact h.retries.trans (by simp [Reply.outcome?, hrepeats])
  · show n.telemetry.failed + k = _
    rw [countP_ended, h.failed, ← hgiven]
    rfl
  · rw [countP_ended]
    exact h.acked.trans (by simp [Reply.outcome?, hacked, Node.heeded, Node.settled, Node.count])

theorem Node.repeating_eq (n : Node) (s : Send) : n.repeating s =
    n.count fun t => { t with retries := t.retries + if s.attempt = 1 then 0 else 1 } := by
  unfold repeating
  split <;> rfl

/-- **A copy of a send keeps the books**: it is counted, as a repeated one too unless it is the
first. -/
theorem Books.Balances.copied {s : Send} (h : g.Balances (some s) n)
    (hphase : s.phase = .transmitting) {deadline : Deadline} (haired : Exchange.aired es = 1) :
    (g.exchange es).Balances (some { s with phase := .waiting deadline })
      ((n.repeating s).count fun t => { t with dataSent := t.dataSent + 1 }) := by
  obtain ⟨hsome, hpayload, hfirst, hlast⟩ := h.bound
  have hcopies : s.copies = s.attempt - 1 := by rw [Send.copies, hphase]
  have hair := h.aired
  have hdata := h.data
  have hretries := h.retries
  simp only [Option.map_some, Option.getD_some, hcopies] at hdata hretries
  rw [n.repeating_eq]
  refine ⟨?_, ?_, ?_, h.failed, h.acked, hsome, hpayload, hfirst, hlast⟩
  · show g.aired + Exchange.aired es = n.telemetry.dataSent + 1 + n.telemetry.acksSent
    omega
  · show n.telemetry.dataSent + 1 = g.copies + s.attempt
    omega
  · show n.telemetry.retries + (if s.attempt = 1 then 0 else 1) = g.repeats + (s.attempt - 1)
    split <;> omega

/-- **The end of a wait keeps the books**, if another copy is due: that copy is not sent yet. -/
theorem Books.Balances.retried {s : Send} (h : g.Balances (some s) n) {deadline : Deadline}
    (hphase : s.phase = .waiting deadline) (hmore : s.attempt < s.attempts) :
    g.Balances (some { s with attempt := s.attempt + 1, phase := .transmitting }) n := by
  obtain ⟨hsome, hpayload, hfirst, hlast⟩ := h.bound
  have hcopies : s.copies = s.attempt := by rw [Send.copies, hphase]
  have hdata := h.data
  have hretries := h.retries
  rw [Option.map_some, Option.getD_some, hcopies] at hdata hretries
  exact ⟨h.aired, hdata, hretries, h.failed, h.acked, hsome, hpayload, Nat.le_add_left 1 _, hmore⟩

/-- The copy at hand fits, as long as the books are right, and so is sent and counted. -/
theorem Posting.pursued {s : Send} {r : Except Error Unit}
    (hp : Posting (n.repeating s) ⟨⟨s.dst, n.address, s.id, s.flags⟩, s.payload⟩ es n' r)
    (hc : n.config.frame.Valid) (hb : g.broken = false → g.Balances (some s) n)
    (hfailed : (g.exchange es).broken = false) :
    g.Balances (some s) n ∧ r = .ok () ∧ Exchange.aired es = 1 ∧
      n' = (n.repeating s).count fun t => { t with dataSent := t.dataSent + 1 } := by
  obtain ⟨hbooks, hes⟩ := Books.unbroken hfailed
  have hbalance := hb hbooks
  have hsize : s.payload.length ≤ n.config.frame.maxPayload := hbalance.bound.2.1
  exact ⟨hbalance, hp.counted (by rwa [n.repeating_config]) (by rwa [n.repeating_config]) hes⟩

/-- **A turn of a send keeps the books.** -/
theorem Pursuing.accounts {s : Send} {r : Except Error (Turn Send SendOutcome)}
    (hp : Pursuing n s es n' r) (hc : c.frame.Valid) (hn : n.config = c)
    (hasked : g.asked.any Operation.isUnreliable = false) (hg : g.sending = true)
    (hb : g.broken = false → g.Balances (some s) n) :
    Accounts c g es n' (r.map (Turn.map .sending .outcome)) := by
  subst hn
  cases hp with
  | @copied es n' hphase hp t =>
    refine ⟨?_, hp.config_eq.trans (n.repeating_config s), hasked, hg, fun hfailed => ?_⟩
    · simpa [or_imp, forall_and, Traffic.Permits] using hp.permitted
    · have hnow : Exchange.aired (es ++ [⟨.now, t⟩]) = Exchange.aired es := by
        rw [Exchange.aired_append]
        rfl
      have hes : (g.exchange es).broken = false := by
        simpa [Books.exchange, Exchange.failed] using hfailed
      obtain ⟨hbalance, -, hone, rfl⟩ := hp.pursued hc hb hes
      exact hbalance.copied hphase (hnow.trans hone)
  | unsent hphase hp =>
    refine .failed hp.permitted (hp.config_eq.trans (n.repeating_config s)) fun hfailed => ?_
    obtain ⟨-, herror, -⟩ := hp.pursued hc hb hfailed
    cases herror
  | @acked deadline hphase ha t =>
    refine ⟨by simp [Traffic.Permits], fun _ _ _ => hg, rfl, rfl, fun hfailed => ?_⟩
    have hbalance := (hb (Books.unbroken hfailed).1).quiet [⟨.now, t⟩] rfl
    have hcopies : s.copies = s.attempt := by rw [Send.copies, hphase]
    exact hbalance.concluded (.acked s.id s.attempt (t - s.started)) hasked
      (by rw [hcopies]; rfl) ha.symm rfl
  | watched hphase ha ht hw =>
    have hroutine := ht.before (hw.routine hc)
    refine ⟨hroutine.requests, hw.config_eq, hasked, hg, fun hfailed => ?_⟩
    exact (Books.Balances.routine hroutine hb hfailed).2
  | unwatched hphase ha ht hw =>
    have hroutine := ht.before (hw.routine hc)
    refine .failed hroutine.requests hw.config_eq fun hfailed => ?_
    obtain ⟨⟨u, herror⟩, -⟩ := Books.Balances.routine hroutine hb hfailed
    cases herror
  | @retried deadline es hphase ha ht hmore =>
    obtain ⟨hrequests, hnone⟩ := ht.routine
    refine ⟨hrequests, rfl, hasked, hg, fun hfailed => ?_⟩
    exact ((hb (Books.unbroken hfailed).1).quiet _ hnone).retried hphase hmore
  | @exhausted deadline es hphase ha ht hmore t =>
    obtain ⟨hrequests, hnone⟩ := ht.routine
    refine ⟨?_, fun _ _ _ => hg, rfl, rfl, fun hfailed => ?_⟩
    · simpa [or_imp, forall_and, Traffic.Permits] using hrequests
    · have hbalance := (hb (Books.unbroken hfailed).1).quiet (es ++ [⟨.now, t⟩])
        (by rw [Exchange.aired_append, hnone]; rfl)
      have hlast : s.attempt = s.attempts := Nat.le_antisymm hbalance.bound.2.2.2 hmore
      have hcopies : s.copies = s.attempts := by rw [Send.copies, hphase, ← hlast]
      exact hbalance.concluded (.failed s.id s.attempts (t - s.started)) hasked
        (by rw [hcopies]; rfl) ha.symm rfl

/-- **The beginning of an operation keeps the books.** -/
theorem Starting.accounts {op : Operation} {r : Except Error (Turn Activity Reply)}
    (hs : Starting n op es n' r) (hc : c.frame.Valid) (hg : (accounting c).AtRest g n) :
    Accounts c (g.note (.began op)) es n' r := by
  obtain ⟨hn, -, hb⟩ := hg
  have hbegan : (g.note (.began op)).broken = false → (g.note (.began op)).Balances none n := by
    intro hbooks
    have hbalance := hb hbooks
    exact ⟨hbalance.aired, hbalance.data, hbalance.retries, hbalance.failed, hbalance.acked,
      hbalance.bound⟩
  cases hs with
  | @polled es n' event hp =>
    have hroutine := hp.routine (by rwa [hn])
    have hconfig : n'.config = c := hp.config_eq.trans hn
    cases event with
    | error e =>
      refine .failed hroutine.requests hconfig fun hfailed => ?_
      obtain ⟨⟨event, herror⟩, -⟩ := Books.Balances.routine hroutine hbegan hfailed
      cases herror
    | ok event =>
      refine .finished hroutine.requests hconfig rfl rfl fun hfailed => ?_
      exact (Books.Balances.routine hroutine hbegan hfailed).2
  | popped =>
    refine .finished (by simp) hn rfl rfl fun hfailed => ?_
    exact (hbegan (Books.unbroken hfailed).1).acks (.popped n)
  | receiving timeout t =>
    refine ⟨by simp [Traffic.Permits], hn, rfl, rfl, fun hfailed => ?_⟩
    exact (hbegan (Books.unbroken hfailed).1).quiet _ rfl
  | listening flag =>
    refine ⟨by simp, hn, rfl, rfl, fun hfailed => ?_⟩
    exact (hbegan (Books.unbroken hfailed).1).quiet _ rfl
  | @sending op d es n' r hop hd =>
    have hsends : (g.note (.began op)).sending = true := by
      cases op <;> first | rfl | cases hop
    have hasked : op.isUnreliable = d.waits.isNone := by
      cases op <;> cases hop <;> rfl
    exact hd.accounts hc hn hsends hasked hbegan

/-- **So does every turn.** -/
theorem Turning.accounts {a : Activity} {r : Except Error (Turn Activity Reply)}
    (ht : Turning n a es n' r) (hc : c.frame.Valid) (hu : (accounting c).UnderWay g n a) :
    Accounts c g es n' r := by
  obtain ⟨hn, hasked, hg, hb⟩ := hu
  cases ht with
  | @received d deadline hd =>
    refine .finished (by simp) hn hasked rfl fun hfailed => ?_
    exact (hb (Books.unbroken hfailed).1).acks (.popped n)
  | expired hd ht =>
    obtain ⟨hrequests, hnone⟩ := ht.routine
    refine .finished hrequests hn hasked rfl fun hfailed => ?_
    exact (hb (Books.unbroken hfailed).1).quiet _ hnone
  | @waited deadline rest es es' n' r hd ht hw =>
    have hroutine := ht.before (hw.routine (by rwa [hn]))
    have hconfig : n'.config = c := hw.config_eq.trans hn
    cases r with
    | error e =>
      refine .failed hroutine.requests hconfig fun hfailed => ?_
      obtain ⟨⟨u, herror⟩, -⟩ := Books.Balances.routine hroutine hb hfailed
      cases herror
    | ok u =>
      refine ⟨hroutine.requests, hconfig, hasked, hg, fun hfailed => ?_⟩
      exact (Books.Balances.routine hroutine hb hfailed).2
  | stopped flag idled =>
    refine .finished (by simp [Traffic.Permits]) hn hasked rfl fun hfailed => ?_
    exact (hb (Books.unbroken hfailed).1).quiet _ rfl
  | @listened flag es n' hw =>
    have hroutine : Routine n ([⟨.stopped flag, false⟩] ++ es ++ []) n' (.ok ()) :=
      (hw.routine (by rwa [hn])).around ⟨by simp [Traffic.Permits], rfl⟩ ⟨by simp, rfl⟩
        fun _ a ha => ⟨a, ha⟩
    rw [List.append_nil] at hroutine
    refine ⟨hroutine.requests, hw.config_eq.trans hn, hasked, hg, fun hfailed => ?_⟩
    exact (Books.Balances.routine hroutine hb hfailed).2
  | @broken flag es n' e hw idled =>
    have hroutine : Routine n ([⟨.stopped flag, false⟩] ++ es ++
        [⟨.radio (.setMode .idle), idled⟩]) n' (.error e : Except Error Unit) :=
      (hw.routine (by rwa [hn])).around ⟨by simp [Traffic.Permits], rfl⟩
        ⟨by simp [Traffic.Permits], rfl⟩ fun _ a ha => ⟨a, ha⟩
    refine .failed hroutine.requests (hw.config_eq.trans hn) fun hfailed => ?_
    obtain ⟨⟨u, herror⟩, -⟩ := Books.Balances.routine hroutine hb hfailed
    cases herror
  | sending hs => exact hs.accounts hc hn hasked hg hb

/-- **A node accounts for what it sends**, on any radio. -/
theorem accounting_sound (hc : c.frame.Valid) : (accounting c).Sound where
  start g n op hg := by
    refine Task.Keeps.of_paths fun es p hpath => ?_
    obtain ⟨r, n'⟩ := p
    have hs : Starting n op es n' r := (start_goes op n).path hpath
    obtain ⟨hrequests, houtcome⟩ := hs.accounts hc hg
    rw [Books.foldl_note]
    exact ⟨Books.admits hrequests _, houtcome⟩
  turn g n a hu := by
    refine Task.Keeps.of_paths fun es p hpath => ?_
    obtain ⟨r, n'⟩ := p
    have ht : Turning n a es n' r := (turn_goes a n).path hpath
    obtain ⟨hrequests, houtcome⟩ := ht.accounts hc hu
    rw [Books.foldl_note]
    exact ⟨Books.admits hrequests _, houtcome⟩

end

/-! ## What has been sent so far -/

/-- The books about a history. -/
def History.books (h : History) : Books :=
  h.foldl Books.note {}

/-- What a node counts is what is on the books. -/
structure Books.Tallies (g : Books) (n : Node) : Prop where
  /-- Copies of datagrams. -/
  data : n.telemetry.dataSent =
    g.once + g.outcomes.countP SendOutcome.isBroadcast + g.attempts.sum
  /-- Repeated ones. -/
  retries : n.telemetry.retries = (g.attempts.map (· - 1)).sum
  /-- Sends that were given up. -/
  failed : n.telemetry.failed = g.outcomes.countP SendOutcome.isFailed
  /-- Acknowledgments that were waited for. -/
  acked : n.telemetry.acksReceived = g.outcomes.countP SendOutcome.isAcked

/-- A node comes to the end of the turn that it is in, if it is in one, and puts bytes on the air
so often meanwhile; the radio does not fail. -/
inductive Status.Closes : Status → Nat → Node → Prop where
  /-- It is in none. -/
  | resting (n : Node) : Closes (.resting n) 0 n
  /-- The turn is worked off. -/
  | busy {rest : Task (Except Error (Turn Activity Reply) × Node)} {es : List Exchange}
      {r : Except Error (Turn Activity Reply)} {n : Node} (path : Task.Path rest es (.done (r, n)))
      (hes : es.any Exchange.failed = false) : Closes (.busy rest) (Exchange.aired es) n

/-- **Every turn can come to an end so.** -/
theorem Status.exists_closes (st : Status) : ∃ k n, st.Closes k n := by
  cases st with
  | resting n => exact ⟨0, n, .resting n⟩
  | busy rest =>
    suffices h : ∃ es p, Task.Path rest es (.done p) ∧ es.any Exchange.failed = false by
      obtain ⟨es, ⟨r, n⟩, hpath, hes⟩ := h
      exact ⟨_, n, .busy hpath hes⟩
    induction rest with
    | done p => exact ⟨[], p, .here _, rfl⟩
    | ask r next ih =>
      have hanswer : ∃ a, Exchange.failed ⟨r, a⟩ = false := by
        match r with
        | .radio .init => exact ⟨.ok (), rfl⟩
        | .radio (.setAddress _ _) => exact ⟨.ok (), rfl⟩
        | .radio (.setMode _) => exact ⟨.ok (), rfl⟩
        | .radio .frameReady => exact ⟨.ok false, rfl⟩
        | .radio .receive => exact ⟨.ok none, rfl⟩
        | .radio (.transmit _) => exact ⟨.ok (), rfl⟩
        | .mode => exact ⟨.receive, rfl⟩
        | .now => exact ⟨(0 : Nat), rfl⟩
        | .sleep _ => exact ⟨(), rfl⟩
        | .stopped _ => exact ⟨true, rfl⟩
        | .offer _ _ => exact ⟨true, rfl⟩
        | .kept _ => exact ⟨(), rfl⟩
      obtain ⟨a, ha⟩ := hanswer
      obtain ⟨es, p, hpath, hes⟩ := ih a
      exact ⟨_, p, .step hpath, by rw [List.any_cons, ha, hes]; rfl⟩

section

variable {st : Status} {k : Nat} {n n' : Node}

/-- Between two turns nothing is left to do. -/
theorem Status.Closes.visible (hst : st.Closes k n) (hn : st.node? = some n') : k = 0 ∧ n = n' := by
  cases hst with
  | resting n => exact ⟨rfl, Option.some.inj hn⟩
  | @busy rest es r n path hes =>
    cases rest with
    | ask r next => cases hn
    | done p =>
      cases path
      exact ⟨rfl, Option.some.inj hn⟩

variable {g : Books}

theorem Books.Balances.tallies (h : g.Balances none n) : g.Tallies n where
  data := h.data
  retries := h.retries
  failed := h.failed
  acked := by
    have hpending : n.pending = none := h.bound
    have hacked := h.acked
    rwa [Node.heeded, hpending] at hacked

/-- What a turn leaves, unless the radio fails: all that was sent is counted, and if no send is
under way the rest of what is counted is on the books. -/
theorem Books.settled {c : Config} {r : Except Error (Turn Activity Reply)}
    (h : (accounting c).Outcome g n r) (hok : g.broken = false) :
    g.aired = n.telemetry.dataSent + n.telemetry.acksSent ∧
      (g.sending = false → g.Tallies n) := by
  match r with
  | .ok (.again a) =>
    obtain ⟨-, -, hsending, hbalance⟩ := h
    refine ⟨(hbalance hok).aired, fun hidle => ?_⟩
    have hnone : a.send? = none := by
      rw [hidle] at hsending
      exact Option.not_isSome_iff_eq_none.1 (by simp [← hsending])
    have hbalance := hbalance hok
    rw [hnone] at hbalance
    exact hbalance.tallies
  | .ok (.finish reply) =>
    obtain ⟨hconcludes, -, -, hbalance⟩ := h
    refine ⟨(hbalance hok).aired, fun hidle => ?_⟩
    have hreply : reply.outcome? = none := by
      cases ho : reply.outcome? with
      | none => rfl
      | some o =>
        have hsending := hconcludes reply rfl (by rw [ho]; rfl)
        rw [hidle] at hsending
        cases hsending
    have honce : g.asked.any Operation.isUnreliable = false := by
      cases hasked : g.asked with
      | none => rfl
      | some op =>
        rw [Books.sending, hasked] at hidle
        cases op <;> first | rfl | cases hidle
    have hsame : (accounting c).note g (.ended (.ok reply)) = { g with asked := none } := by
      simp [accounting, note, honce, hreply]
    have htallies := (hbalance hok).tallies
    rw [hsame] at htallies
    exact ⟨htallies.data, htallies.retries, htallies.failed, htallies.acked⟩
  | .error e =>
    obtain ⟨-, -, -, hbalance⟩ := h
    have hbalance := hbalance hok
    refine ⟨hbalance.aired, fun _ => ?_⟩
    have htallies := hbalance.tallies
    exact ⟨htallies.data, htallies.retries, htallies.failed, htallies.acked⟩

/-- Nothing is on the books of a node that has just been brought up. -/
theorem accounting_fresh (c : Config) (sink : Sink) :
    (accounting c).AtRest (accounting c).blank { Node.fresh c with sink } :=
  ⟨rfl, rfl, fun _ => ⟨rfl, rfl, rfl, rfl, rfl, rfl⟩⟩

/-- **A node keeps its books all its life**, on any radio and whatever channels it is given. -/
theorem Life.accounted {c : Config} (hc : c.frame.Valid) {sink : Sink} {h : History}
    (hl : Life { Node.fresh c with sink } h st) : (accounting c).Holds h.books st := by
  induction hl with
  | start => exact accounting_fresh c sink
  | redirect channel before ih =>
    obtain ⟨hconfig, hasked, hbalance⟩ := ih
    refine ⟨hconfig, hasked, fun hbooks => ?_⟩
    have hkept := hbalance hbooks
    exact ⟨hkept.aired, hkept.data, hkept.retries, hkept.failed, hkept.acked, hkept.bound⟩
  | step before next ih =>
    have hstep := (accounting_sound hc).step ih next
    rwa [History.books, List.foldl_append]

/-- **What a node has sent so far is counted, and told of.** -/
theorem Life.settled {c : Config} (hc : c.frame.Valid) {sink : Sink} {h : History}
    (hl : Life { Node.fresh c with sink } h st) (hok : h.books.broken = false)
    (hst : st.Closes k n) :
    h.books.aired + k = n.telemetry.dataSent + n.telemetry.acksSent ∧
      (h.books.sending = false → h.books.Tallies n) := by
  have hholds := hl.accounted hc
  cases hst with
  | resting n =>
    obtain ⟨-, -, hbalance⟩ := hholds
    have hbalance := hbalance hok
    exact ⟨hbalance.aired, fun _ => hbalance.tallies⟩
  | @busy rest es r n path hes =>
    have houtcome := Task.Keeps.path hholds path
    rw [Books.foldl_note] at houtcome
    have hbooks : (h.books.exchange es).broken = false := by simp [Books.exchange, hok, hes]
    obtain ⟨haired, htallies⟩ := Books.settled houtcome hbooks
    refine ⟨haired, fun hidle => ?_⟩
    have htold := htallies hidle
    exact ⟨htold.data, htold.retries, htold.failed, htold.acked⟩

end

end Link
end PacketRadio
