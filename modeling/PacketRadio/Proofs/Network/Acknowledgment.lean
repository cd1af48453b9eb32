/-
# What an acknowledgment tells

rflink specification, §4.4: when a reliable send is acknowledged; §3: the id
wraps at 256.

An acknowledgment names its datagram by the sender and a number, and the
numbers of a sender come round again after 256 send calls.  So what an
acknowledged send can rely on is this: the destination has handed over the
datagram in the course of the send, or something of an earlier datagram of
that number was left when the send began.

| left of a datagram sent a positive multiple of 256 send calls before | at |
| --- | --- |
| its number: the destination has taken nothing from this sender since | the destination |
| a copy of it, which is handed over in the course of the send | the destination |
| its acknowledgment | the sender |

Among the first 256 send calls of a node there is no earlier one, and an
acknowledged send has delivered.  From then on it need not have: the
destination takes the datagram for a copy of an old one if nothing from this
sender came in meanwhile (`not_delivered_within`).

Main statements: `Reach.acked_delivered` and `not_delivered_within`.
-/

import PacketRadio.Proofs.Network.Delivery
import PacketRadio.Proofs.Network.Moves

namespace PacketRadio

open Link (Datagram Delivery History Ledger Node Occurrence Operation SendOutcome arrival idsFrom)
open Link.Datagram (IsCall)

/-- The datagram that an operation sends with acknowledgment. -/
def Link.Operation.reliable : Operation → Option Datagram
  | .sendReliable dst payload => some ⟨dst, payload⟩
  | .sendReliableWith dst payload _ _ => some ⟨dst, payload⟩
  | _ => none

/-- A datagram that is sent with acknowledgment is the one that the ledger lists. -/
theorem Link.Operation.datagram_of_reliable {op : Operation} {call call' : Datagram} {limit : Nat}
    (hop : op.reliable = some call) (hcall : op.datagram limit = some call') : call' = call := by
  cases op with
  | sendReliable dst payload =>
    obtain rfl := Option.some.inj hop
    simp only [Link.Operation.datagram] at hcall
    split at hcall
    · exact (Option.some.inj hcall).symm
    · cases hcall
  | sendReliableWith dst payload maxRetries timeout =>
    obtain rfl := Option.some.inj hop
    simp only [Link.Operation.datagram] at hcall
    split at hcall
    · exact (Option.some.inj hcall).symm
    · cases hcall
  | _ => cases hop

/-- A request was answered. -/
def Link.Occurrence.isExchange : Occurrence → Bool
  | .exchanged _ => true
  | _ => false

/-- What a node handed over in the course of some history. -/
def Link.History.handed (h : History) : List Delivery :=
  h.filterMap Occurrence.handed

namespace Link.Ledger

variable {limit : Nat}

/-- **The deliveries of a ledger are those of the history.** -/
theorem handed_foldl (limit : Nat) (os : List Occurrence) (g : Ledger) :
    (os.foldl (note limit) g).handed = g.handed ++ History.handed os := by
  induction os generalizing g with
  | nil => simp [History.handed]
  | cons o os ih =>
    rw [List.foldl_cons, ih, History.handed, History.handed, List.filterMap_cons]
    cases o with
    | began op => rfl
    | ended result => rfl
    | exchanged e =>
      cases hheard : e.heard <;> cases hhanded : e.handed <;>
        simp [note, hear, hand, hheard, hhanded, Occurrence.handed]

/-- What came in lately was there before or has been heard since. -/
theorem news_foldl (limit : Nat) (os : List Occurrence) (g : Ledger) :
    (os.foldl (note limit) g).news ⊆ g.news ++ History.heard os := by
  induction os generalizing g with
  | nil => exact List.subset_append_left _ _
  | cons o os ih =>
    refine List.Subset.trans (ih _) ?_
    rw [History.heard_cons, ← List.append_assoc]
    refine List.append_subset.2
      ⟨List.Subset.trans ?_ (List.subset_append_left _ _), List.subset_append_right _ _⟩
    cases o with
    | began op => exact List.nil_subset _
    | ended result => exact List.subset_append_left _ _
    | exchanged e =>
      cases hheard : e.heard <;> cases hhanded : e.handed <;>
        simp [note, hear, hand, hheard, hhanded, Occurrence.heard]

end Link.Ledger

theorem Trace.mem_at {tr : Trace} {i : Nat} {o : Occurrence} : o ∈ tr.at i ↔ (i, o) ∈ tr := by
  simp [Trace.at]

namespace Roster

variable {R : Roster} {tr : Trace} {s : System}

/-- A delivery from a node is of one of its send calls. -/
theorem Reach.handed_call (h : R.Reach tr s) {q i : Nat} {c : Link.Config} {d : Delivery}
    (hc : R.config i = some c) (hd : d ∈ (R.ledger tr q).handed) (hsrc : d.src = c.address) :
    ∃ k, IsCall (R.ledger tr i).calls d k := by
  obtain ⟨ks, -, hks⟩ := h.handed_calls q hc
  exact Link.Datagram.exists_isCall hks (List.mem_filter.2 ⟨hd, by simp [hsrc]⟩)

/-- Two calls under one sequence number are a multiple of 256 calls apart. -/
theorem exists_multiple {k n : Nat} (hk : k < n) (h : UInt8.ofNat k = UInt8.ofNat n) :
    ∃ m, 0 < m ∧ k + 256 * m = n := by
  have hmod : k % 256 = n % 256 := by
    have hnat := congrArg UInt8.toNat h
    simpa [UInt8.toNat_ofNat'] using hnat
  exact ⟨(n - k) / 256, by omega, by omega⟩

section

variable {i j : Nat} {c d : Link.Config} {op : Operation} {call : Datagram} {before during : Trace}

/-- The send calls of a node in the course of its next one. -/
theorem calls_during (hduring : ∀ o, (i, o) ∈ during → ∃ e, o = .exchanged e) :
    (R.ledger (before ++ (i, .began op) :: during) i).calls =
        (R.ledger before i).calls ++ (op.datagram R.frame.maxPayload).toList ∧
      (R.ledger (before ++ (i, .began op) :: during) i).current =
        op.datagram R.frame.maxPayload := by
  have hat : Trace.at ((i, .began op) :: during) i = .began op :: during.at i := by
    simp [Trace.at]
  rw [R.ledger_append, hat, List.foldl_cons]
  exact Ledger.calls_foldl_exchanged (fun o ho => hduring o (Trace.mem_at.1 ho)) _

/-- The beginning of a call hands over nothing. -/
theorem handed_began (op : Operation) (during : Trace) (i j : Nat) :
    (Trace.at ((i, .began op) :: during) j).handed = (during.at j).handed := by
  by_cases hj : i = j
  · simp [Trace.at, Link.History.handed, hj, List.filterMap_cons, Occurrence.handed]
  · simp [Trace.at, Link.History.handed, hj]

/-! ## What is left of an earlier datagram -/

/-- What is left of a datagram when another call of its number begins, so that the other may be
acknowledged in its place. -/
inductive Lingers (R : Roster) (before during : Trace) (s₀ : System) (i j : Nat)
    (x : Delivery) : Prop where
  /-- The destination knows its number: it is the last that was handed over from the sender. -/
  | known (h : ((R.ledger before j).handed.filter (·.src = x.src)).getLast? = some x)
  /-- A copy waits at the destination, or has just been taken off the radio there, and is handed
  over in the course of the call. -/
  | waiting (r : Radio.Reception) (harrival : arrival R.frame r = some x)
      (hr : r ∈ s₀.network.medium.fifo j ∨ (R.ledger before j).heard.getLast? = some r)
      (hx : x ∈ (during.at j).handed)
  /-- The destination has handed it over, and an acknowledgment of its number waits at the
  sender. -/
  | acknowledged (r : Radio.Reception) (f : Frame) (d : Link.Config) (hd : R.config j = some d)
      (hr : r ∈ s₀.network.medium.fifo i) (hf : Frame.decode R.frame r.bytes = .ok f)
      (hack : f.header.isAck = true)
      (hheader : f.header = ⟨x.src, d.address, x.id, f.header.flags⟩)
      (hx : x ∈ (R.ledger before j).handed)

/-- The last delivery from a sender is one of the later ones, or there is none among these. -/
theorem getLast?_idsFrom_append {a : Address} {ds ds' : List Delivery} {id : UInt8}
    (h : (idsFrom a (ds ++ ds')).getLast? = some id) :
    (∃ x ∈ ds', x.src = a ∧ x.id = id) ∨
      ∃ x, (ds.filter (·.src = a)).getLast? = some x ∧ x.id = id := by
  rw [Link.idsFrom_append, List.getLast?_append] at h
  cases hlater : (idsFrom a ds').getLast? with
  | some id' =>
    rw [hlater, Option.some_or] at h
    obtain rfl := Option.some.inj h
    exact .inl (Link.mem_of_getLast?_idsFrom hlater)
  | none =>
    rw [hlater, Option.none_or, idsFrom, List.getLast?_map] at h
    obtain ⟨x, hx, hid⟩ := Option.map_eq_some_iff.1 h
    exact .inr ⟨x, hx, hid⟩

variable {s₀ : System} {x : Delivery}

/-- **Nothing is left of a datagram** if the last one handed over from its sender has another number,
nothing waits at the two stations, and the destination is not at a copy of it. -/
theorem not_lingers
    (hlast : ∀ y, ((R.ledger before j).handed.filter (·.src = x.src)).getLast? = some y →
      y.id ≠ x.id)
    (hdestination : s₀.network.medium.fifo j = []) (hsender : s₀.network.medium.fifo i = [])
    (hheard : ∀ r, (R.ledger before j).heard.getLast? = some r → arrival R.frame r ≠ some x) :
    ¬ R.Lingers before during s₀ i j x := by
  rintro (h | ⟨r, harrival, hr | hr, -⟩ | ⟨r, -, -, -, hr, -, -, -, -⟩)
  · exact hlast x h rfl
  · rw [hdestination] at hr
    exact List.not_mem_nil hr
  · exact hheard r hr harrival
  · rw [hsender] at hr
    exact List.not_mem_nil hr

/-- **What a node hands over in a stretch of a run was at hand**: it was taken off the radio in the
course of the stretch, or last before. -/
theorem Leads.at_hand {es : Trace} (hl : R.Leads s₀ es s) (h : R.Reach before s₀)
    (hx : x ∈ (es.at j).handed) : ∃ r, arrival R.frame r = some x ∧
      (r ∈ (es.at j).heard ∨ (R.ledger before j).heard.getLast? = some r) := by
  obtain ⟨o, ho, hhanded⟩ := List.mem_filterMap.1 hx
  obtain ⟨es₁, es₂, rfl⟩ := List.append_of_mem (Trace.mem_at.1 ho)
  obtain ⟨e, rfl⟩ : ∃ e, o = .exchanged e := by
    cases o with
    | exchanged e => exact ⟨e, rfl⟩
    | _ => cases hhanded
  -- The run up to this exchange is one in which the node keeps to the rules of its ledger.
  rw [List.append_cons] at hl
  obtain ⟨s₁, h₁, -⟩ := hl.split
  have h₁ := h.leads h₁
  rw [← List.append_assoc] at h₁
  obtain ⟨c, hc, hpermits⟩ := h₁.permitted
  obtain ⟨⟨⟨r, hlast, harrival⟩, -⟩, -⟩ := Ledger.Permits.takes hpermits hhanded
  rw [R.shared hc] at harrival
  rw [R.ledger_append, Ledger.heard_foldl, List.getLast?_append] at hlast
  refine ⟨r, harrival, ?_⟩
  cases hsince : (Trace.at es₁ j).heard.getLast? with
  | some r' =>
    rw [hsince, Option.some_or] at hlast
    obtain rfl := Option.some.inj hlast
    refine .inl ?_
    rw [Trace.at_append, Link.History.heard, List.filterMap_append]
    exact List.mem_append_left _ (List.mem_of_getLast? hsince)
  | none =>
    rw [hsince, Option.none_or] at hlast
    exact .inr hlast

/-- **What is handed over in the course of a call is of this call, or lingers.** -/
theorem Leads.handed_meanwhile (hl : R.Leads s₀ ((i, .began op) :: during) s)
    (h : R.Reach before s₀) (hduring : ∀ o, (i, o) ∈ during → ∃ e, o = .exchanged e)
    (hop : op.datagram R.frame.maxPayload = some call) (hc : R.config i = some c)
    (hx : x ∈ (during.at j).handed) (hsrc : x.src = c.address) :
    (x.dst = call.dst ∧ x.payload = call.payload) ∨ R.Lingers before during s₀ i j x := by
  obtain ⟨r, harrival, hheard | hlast⟩ := hl.at_hand h ((handed_began op during i j).symm ▸ hx)
  · rcases hl.origin h hheard with hwaits | hsent
    · exact .inr (.waiting r harrival (.inl hwaits) hx)
    · obtain ⟨f, hf, hack, rfl⟩ := Link.arrival_eq_some_iff.1 harrival
      obtain ⟨es₁, p, e, es₂, c', hes, hc', hsrc', hwhy⟩ := hsent f hf
      obtain rfl : p = i := R.distinct hc' hc (hsrc'.symm.trans hsrc)
      rcases hwhy with ⟨-, -, hcurrent⟩ | hanswers
      · cases es₁ with
        | nil => cases (List.cons.inj hes).1
        | cons first es₁ =>
          obtain ⟨rfl, rfl⟩ := List.cons.inj hes
          have hpart : (R.ledger (before ++ (p, .began op) :: es₁) p).current =
              op.datagram R.frame.maxPayload :=
            (calls_during fun o ho => hduring o (List.mem_append_left _ ho)).2
          rw [hpart, hop] at hcurrent
          obtain rfl := Option.some.inj hcurrent
          exact .inl ⟨rfl, rfl⟩
      · simp [hanswers.1] at hack
  · exact .inr (.waiting r harrival (.inr hlast) hx)

/-- **What a node is told is acknowledged in the course of a call** has been handed over in the
course of it, or lingers. -/
theorem Leads.heeded (hl : R.Leads s₀ ((i, .began op) :: during) s) (h : R.Reach before s₀)
    (hc : R.config i = some c) (hd : R.config j = some d) {id : UInt8}
    (hheeded : (R.ledger (before ++ (i, .began op) :: during) i).Heeded c d.address id) :
    ∃ x, x.src = c.address ∧ x.id = id ∧
      (x ∈ (during.at j).handed ∨
        R.Lingers before during s₀ i j x ∧ x ∈ (R.ledger before j).handed) := by
  obtain ⟨r, hr, f, hf, hack, hheader⟩ := hheeded
  rw [R.shared hc] at hf
  have hheard : r ∈ (Trace.at ((i, .began op) :: during) i).heard := by
    have hat : Trace.at ((i, .began op) :: during) i = .began op :: during.at i := by
      simp [Trace.at]
    rw [R.ledger_append, hat, List.foldl_cons] at hr
    rw [hat]
    exact Ledger.news_foldl _ _ _ hr
  rcases hl.origin h hheard with hwaits | hsent
  · obtain ⟨j', d', hd', hsrc, hvouch⟩ :=
      (h.genuine i).known r (List.mem_append_right _ hwaits) f hf
    obtain ⟨x, hx, hxsrc, hxid⟩ := hvouch hack
    rw [hheader] at hsrc hxsrc hxid
    obtain rfl := R.distinct hd hd' hsrc
    refine ⟨x, hxsrc, hxid, .inr ⟨.acknowledged r f d hd hwaits hf hack ?_ hx, hx⟩⟩
    rw [hxsrc, hxid]
    exact hheader
  · obtain ⟨es₁, j', e, es₂, d', hes, hd', hsrc, hwhy⟩ := hsent f hf
    rcases hwhy with hcarries | ⟨-, hlast⟩
    · simp [hcarries.1] at hack
    rw [hheader] at hsrc hlast
    obtain rfl := R.distinct hd hd' hsrc
    rw [R.ledger_append, Ledger.handed_foldl] at hlast
    rcases getLast?_idsFrom_append hlast with ⟨x, hx, hxsrc, hxid⟩ | ⟨x, hx, hxid⟩
    · refine ⟨x, hxsrc, hxid, .inl ?_⟩
      rw [← handed_began op during i j, hes, Trace.at_append, Link.History.handed,
        List.filterMap_append]
      exact List.mem_append_left _ hx
    · obtain ⟨hxmem, hxsrc⟩ := List.mem_filter.1 (List.mem_of_getLast? hx)
      have hxsrc : x.src = c.address := of_decide_eq_true hxsrc
      refine ⟨x, hxsrc, hxid, .inr ⟨.known ?_, hxmem⟩⟩
      rw [hxsrc]
      exact hx

/-- **An acknowledged send has delivered in the course of it, or a datagram of the same number
lingers**, sent a positive multiple of 256 send calls earlier.  Every run with such a send comes
apart at its start (`Reach.split`); what lingers is told of any state there. -/
theorem Reach.acked_delivered {outcome : SendOutcome} (h : R.Reach before s₀)
    (hl : R.Leads s₀ ((i, .began op) :: during ++ [(i, .ended (.ok (.outcome outcome)))]) s)
    (hduring : ∀ o, (i, o) ∈ during → ∃ e, o = .exchanged e) (hop : op.reliable = some call)
    (hacked : outcome.isAcked = true) (hc : R.config i = some c) (hd : R.config j = some d)
    (hdst : d.address = call.dst) :
    (∃ x ∈ (during.at j).handed,
        x.src = c.address ∧ x.dst = call.dst ∧ x.payload = call.payload ∧ x.id = outcome.id) ∨
      ∃ k m, 0 < m ∧ k + 256 * m = (R.ledger before i).calls.length ∧
        ∃ x, x.src = c.address ∧ IsCall (R.ledger before i).calls x k ∧
          R.Lingers before during s₀ i j x := by
  have hall := h.leads hl
  rw [← List.append_assoc] at hall
  obtain ⟨c', hc', -, hid, hheeded⟩ := hall.concludes
  obtain rfl : c = c' := Option.some.inj (hc ▸ hc')
  obtain ⟨call', hcurrent, hheeded⟩ := hheeded hacked
  obtain ⟨hcalls, hcurrent'⟩ := calls_during hduring
  have hdatagram : op.datagram R.frame.maxPayload = some call' := hcurrent'.symm.trans hcurrent
  obtain rfl := Link.Operation.datagram_of_reliable hop hdatagram
  rw [hdatagram, Option.toList_some] at hcalls
  have hnumber : (R.ledger (before ++ (i, .began op) :: during) i).number =
      UInt8.ofNat (R.ledger before i).calls.length := by
    rw [Ledger.number, hcalls]
    simp
  rw [hnumber] at hid hheeded
  obtain ⟨s₁, hl₁, -⟩ := hl.split
  obtain ⟨x, hxsrc, hxid, hwhen⟩ := hl₁.heeded h hc hd (hdst ▸ hheeded)
  -- A datagram of an earlier call under this number was sent 256 calls before, or 512, and so on.
  have older : ∀ k, IsCall (R.ledger before i).calls x k → R.Lingers before during s₀ i j x →
      ∃ k m, 0 < m ∧ k + 256 * m = (R.ledger before i).calls.length ∧
        ∃ x, x.src = c.address ∧ IsCall (R.ledger before i).calls x k ∧
          R.Lingers before during s₀ i j x := by
    intro k hk hlingers
    obtain ⟨m, hm, hsum⟩ := exists_multiple hk.lt (hk.id.symm.trans hxid)
    exact ⟨k, m, hm, hsum, x, hxsrc, hk, hlingers⟩
  rcases hwhen with hmeanwhile | ⟨hlingers, hbefore⟩
  · have hlater : x ∈ (R.ledger (before ++ (i, .began op) :: during) j).handed := by
      rw [R.ledger_append, Ledger.handed_foldl, handed_began]
      exact List.mem_append_right _ hmeanwhile
    obtain ⟨k, hk⟩ := (h.leads hl₁).handed_call hc hlater hxsrc
    rw [hcalls] at hk
    have hthis : x.dst = call'.dst ∧ x.payload = call'.payload →
        ∃ x ∈ (during.at j).handed, x.src = c.address ∧ x.dst = call'.dst ∧
          x.payload = call'.payload ∧ x.id = outcome.id :=
      fun hsame => ⟨x, hmeanwhile, hxsrc, hsame.1, hsame.2, hxid.trans hid.symm⟩
    rcases hk.of_concat with hearlier | hsame
    · rcases hl₁.handed_meanwhile h hduring hdatagram hc hmeanwhile hxsrc with hsame | hlingers
      · exact .inl (hthis hsame)
      · exact .inr (older k hearlier hlingers)
    · exact .inl (hthis hsame)
  · obtain ⟨k, hk⟩ := h.handed_call hc hbefore hxsrc
    exact .inr (older k hk hlingers)

end

/-- The moves between the start and the return of a send that the other node answers at once. -/
def answered : List Move :=
  List.replicate 6 (.advance 0) ++ Move.run 1 .poll 9 ++ List.replicate 8 (.advance 0)

/-- A list can be looked through for what a node did. -/
theorem exchanged_of_all {during : Trace} {i : Nat}
    (h : during.all (fun e => e.1 != i || e.2.isExchange) = true) (o : Occurrence)
    (ho : (i, o) ∈ during) : ∃ e, o = .exchanged e := by
  have hall := List.all_eq_true.1 h _ ho
  cases o with
  | exchanged e => exact ⟨e, rfl⟩
  | began op => simp [Occurrence.isExchange] at hall
  | ended result => simp [Occurrence.isExchange] at hall

set_option maxRecDepth 2000 in
/-- The first send of the pair is acknowledged, and has delivered. -/
theorem first_acked_delivered :
    let during := ((pairUp.move (.begin 0 (.sendReliableWith 2 [8] 1 1))).2.moves answered).1
    (during.at 1).handed = [⟨2, 1, 0, 0, [8], -40⟩] ∧
      ((∃ x ∈ (during.at 1).handed,
          x.src = 1 ∧ x.dst = 2 ∧ x.payload = [8] ∧ x.id = 0) ∨
        ∃ k m, 0 < m ∧ k + 256 * m = (pair.ledger [] 0).calls.length ∧
          ∃ x, x.src = 1 ∧ IsCall (pair.ledger [] 0).calls x k ∧
            pair.Lingers [] during pairUp 0 1 x) := by
  intro during
  have hcourse := pair.leads_course pairUp 0 (.sendReliableWith 2 [8] 1 1) answered
    (.outcome (.acked 0 1 0)) rfl rfl
  exact ⟨by decide +kernel,
    reach_pairUp.acked_delivered hcourse (exchanged_of_all (by decide +kernel)) rfl rfl
      (c := { address := 1 }) rfl (j := 1) (d := { address := 2 }) rfl rfl⟩

/-! ## Why it need not be this very datagram -/

/-- The first node of the pair after `k` send calls. -/
def sender (k : Nat) : Node :=
  { Node.fresh { address := 1 } with nextId := UInt8.ofNat k, telemetry := { dataSent := k } }

/-- The second node of the pair when it has handed over datagram 0. -/
def receiver : Node :=
  { Node.fresh { address := 2 } with
    lastAccepted := ⟨[(1, 0)]⟩
    sink := .queue 10 [⟨2, 1, 0, Flag.noAck, [7], -40⟩]
    telemetry := { delivered := 1, lastRssi := ⟨[(1, -40)]⟩ } }

/-- The pair after `k` send calls of which only datagram 0 got through. -/
def pairAfter (k : Nat) (severed : List (Address × Address)) (stats : MediumStats) : System where
  network := { medium := {
    stations := [{ address := 1, mode := .receive }, { address := 2, mode := .receive }]
    severed
    stats } }
  party := Function.update (Function.update (fun _ => .absent) 0 (.present (.resting (sender k))))
    1 (.present (.resting receiver))

/-- A datagram that is sent over a severed link leaves nothing behind but its number. -/
theorem pairAfter_lost (k : Nat) :
    ((pairAfter k [(1, 2)] {}).moves (Move.run 0 (.sendUnreliable 2 []) 4)).2 =
      pairAfter (k + 1) [(1, 2)] { transmissions := 1 } := by
  refine ext_pair rfl ?_ rfl fun i => rfl
  have hnext : UInt8.ofNat k + 1 = UInt8.ofNat (k + 1) := (UInt8.ofNat_add k 1).symm
  have hsent : ((pairAfter k [(1, 2)] {}).moves (Move.run 0 (.sendUnreliable 2 []) 4)).2.party 0 =
      .present (.resting { sender (k + 1) with nextId := UInt8.ofNat k + 1 }) := rfl
  rw [hsent, hnext]
  rfl

set_option maxRecDepth 2000 in
/-- **Any number of datagrams can get lost after the first.** -/
theorem reach_pairAfter (k : Nat) : ∃ tr, pair.Reach tr (pairAfter (k + 1) [(1, 2)] {}) := by
  induction k with
  | zero =>
    have hfirst : (pairUp.moves (Move.run 0 (.sendUnreliable 2 [7]) 4 ++ Move.run 1 .poll 6)).2 =
        pairAfter 1 [] { transmissions := 1, delivered := 1 } :=
      ext_pair rfl rfl rfl fun i => rfl
    have h := reach_pairUp.moves (Move.run 0 (.sendUnreliable 2 [7]) 4 ++ Move.run 1 .poll 6)
    rw [hfirst] at h
    exact ⟨_, h.step (.outside _ (pairAfter 1 [(1, 2)] {}).network rfl)⟩
  | succ k ih =>
    obtain ⟨tr, h⟩ := ih
    have hmore := h.moves (Move.run 0 (.sendUnreliable 2 []) 4)
    rw [pairAfter_lost] at hmore
    exact ⟨_, hmore.step (.outside _ (pairAfter (k + 2) [(1, 2)] {}).network rfl)⟩

set_option maxRecDepth 2000 in
/-- **An acknowledged send need not have delivered.**  The 257th send of a node is acknowledged, and
in the course of it the destination hands over nothing. -/
theorem not_delivered_within :
    ∃ (before during : Trace) (s : System),
      pair.Reach (before ++ (0, .began (.sendReliableWith 2 [8] 1 1)) :: during ++
        [(0, .ended (.ok (.outcome (.acked 0 1 0))))]) s ∧
      (∀ o, (0, o) ∈ during → ∃ e, o = .exchanged e) ∧ (during.at 1).handed = [] := by
  obtain ⟨tr, h⟩ := reach_pairAfter 255
  have hrestored := h.step (.outside _ (pairAfter 256 [] {}).network rfl)
  have hcourse := hrestored.leads (pair.leads_course _ 0 (.sendReliableWith 2 [8] 1 1) answered
    (.outcome (.acked 0 1 0)) rfl rfl)
  rw [← List.append_assoc] at hcourse
  exact ⟨_, _, _, hcourse, exchanged_of_all (by decide +kernel), by decide +kernel⟩

end Roster
end PacketRadio
