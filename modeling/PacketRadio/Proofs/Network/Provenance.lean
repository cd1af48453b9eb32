/-
# Where frames come from

rflink specification, §1: the radio delivers raw frames without any guarantee.

What a station has heard and what waits there is, taken together, the copies
that reached it so far.  Every frame among them was sent by a node under its
own address, an acknowledgment by a node that had handed over a datagram of
that number before, and the copies of one node's datagrams are in the order of
its send calls.  Losses, damage, full queues and radios that leave only take
away from this.

The same is told of a stretch of a run: what comes in during it waited when it
began, or was sent in the course of it.

Main statements: `Reach.reached_step`, and from it `Reach.genuine` and
`Leads.origin`.
-/

import PacketRadio.Proofs.Frame.RoundTrip
import PacketRadio.Proofs.Network.System
import Mathlib.Data.List.Forall2

namespace PacketRadio

open Link (Datagram Delivery Ledger Occurrence arrival arrivals bookkeeping bookkeeping_sound
  atRest_fresh)

/-! ## Copies of a send call -/

/-- The delivery has the destination, the payload and the number of send call `k`. -/
def Link.Datagram.IsCall (calls : List Datagram) (d : Delivery) (k : Nat) : Prop :=
  ∃ call, calls[k]? = some call ∧ d.dst = call.dst ∧ d.payload = call.payload ∧
    d.id = UInt8.ofNat k

namespace Link.Datagram

variable {calls : List Datagram} {d : Delivery} {k : Nat}

theorem IsCall.lt (h : IsCall calls d k) : k < calls.length := by
  obtain ⟨call, hcall, -⟩ := h
  exact (List.getElem?_eq_some_iff.1 hcall).1

theorem IsCall.id (h : IsCall calls d k) : d.id = UInt8.ofNat k := by
  obtain ⟨-, -, -, -, hid⟩ := h
  exact hid

theorem IsCall.append (h : IsCall calls d k) (more : List Datagram) :
    IsCall (calls ++ more) d k := by
  have hk := h.lt
  obtain ⟨call, hcall, hd⟩ := h
  exact ⟨call, by rw [List.getElem?_append_left hk, hcall], hd⟩

theorem IsCall.of_concat {call : Datagram} (h : IsCall (calls ++ [call]) d k) :
    IsCall calls d k ∨ d.dst = call.dst ∧ d.payload = call.payload := by
  obtain ⟨call', hcall', hdst, hpayload, hid⟩ := h
  rcases Nat.lt_or_ge k calls.length with hk | hk
  · rw [List.getElem?_append_left hk] at hcall'
    exact .inl ⟨call', hcall', hdst, hpayload, hid⟩
  · rw [List.getElem?_append_right hk] at hcall'
    obtain rfl := List.mem_singleton.1 (List.mem_of_getElem? hcall')
    exact .inr ⟨hdst, hpayload⟩

/-- The deliveries are copies of send calls, in their order. -/
def Follow (calls : List Datagram) (ds : List Delivery) : Prop :=
  ∃ ks : List Nat, ks.Pairwise (· ≤ ·) ∧ List.Forall₂ (IsCall calls) ds ks

theorem Follow.append {ds : List Delivery} (h : Follow calls ds) (more : List Datagram) :
    Follow (calls ++ more) ds := by
  obtain ⟨ks, hks, hds⟩ := h
  exact ⟨ks, hks, hds.imp fun _ _ hd => hd.append more⟩

/-- What is left when copies get lost is still in order. -/
theorem Follow.sublist {ds ds' : List Delivery} (h : Follow calls ds) (hs : ds'.Sublist ds) :
    Follow calls ds' := by
  obtain ⟨ks, hks, hds⟩ := h
  have key : ∃ ks', ks'.Sublist ks ∧ List.Forall₂ (IsCall calls) ds' ks' := by
    clear hks
    induction hs generalizing ks with
    | slnil => exact ⟨ks, List.Sublist.refl _, hds⟩
    | cons d _ ih =>
      cases hds with
      | cons _ hrest =>
        obtain ⟨ks', hks', hds'⟩ := ih _ hrest
        exact ⟨ks', hks'.cons _, hds'⟩
    | cons_cons d _ ih =>
      cases hds with
      | cons hd hrest =>
        obtain ⟨ks', hks', hds'⟩ := ih _ hrest
        exact ⟨_, hks'.cons_cons _, .cons hd hds'⟩
  obtain ⟨ks', hks', hds'⟩ := key
  exact ⟨ks', hks.sublist hks', hds'⟩

theorem exists_isCall {ds : List Delivery} {ks : List Nat} (h : List.Forall₂ (IsCall calls) ds ks)
    (hd : d ∈ ds) : ∃ k, IsCall calls d k := by
  induction h with
  | nil => cases hd
  | cons hfirst _ ih =>
    rcases List.mem_cons.1 hd with rfl | hd
    · exact ⟨_, hfirst⟩
    · exact ih hd

theorem lt_of_isCall {ds : List Delivery} {ks : List Nat} (h : List.Forall₂ (IsCall calls) ds ks) :
    ∀ k ∈ ks, k < calls.length := by
  induction h with
  | nil => simp
  | cons hd _ ih => exact List.forall_mem_cons.2 ⟨hd.lt, ih⟩

/-- One more copy of the latest call comes after all others. -/
theorem Follow.concat {ds : List Delivery} (h : Follow calls ds)
    (hd : IsCall calls d (calls.length - 1)) : Follow calls (ds ++ [d]) := by
  obtain ⟨ks, hks, hds⟩ := h
  refine ⟨ks ++ [calls.length - 1], ?_, List.rel_append hds (.cons hd .nil)⟩
  refine List.pairwise_append.2 ⟨hks, List.pairwise_singleton _ _, fun k hk k' hk' => ?_⟩
  obtain rfl := List.mem_singleton.1 hk'
  exact Nat.le_sub_one_of_lt (lt_of_isCall hds k hk)

end Link.Datagram

open Link.Datagram (IsCall Follow)

/-! ## What a ledger keeps -/

/-- What a node heard in the course of some history. -/
def Link.History.heard (h : Link.History) : List Radio.Reception :=
  h.filterMap Occurrence.heard

theorem Link.History.heard_cons (o : Occurrence) (os : List Occurrence) :
    Link.History.heard (o :: os) = o.heard.toList ++ Link.History.heard os := by
  cases ho : o.heard <;> simp [heard, ho]

namespace Link.Ledger

variable {g : Ledger}

/-- **The receptions of a ledger are those of the history.** -/
theorem heard_foldl (limit : Nat) (os : List Occurrence) (g : Ledger) :
    (os.foldl (note limit) g).heard = g.heard ++ History.heard os := by
  induction os generalizing g with
  | nil => simp [History.heard]
  | cons o os ih =>
    rw [List.foldl_cons, ih, History.heard_cons, ← List.append_assoc]
    congr 1
    cases o with
    | began op => exact (List.append_nil _).symm
    | ended result => exact (List.append_nil _).symm
    | exchanged e =>
      cases hheard : e.heard <;> cases hhanded : e.handed <;>
        simp [note, hear, hand, hheard, hhanded, Occurrence.heard]

/-- **Send calls and deliveries are only added.** -/
theorem prefix_foldl (limit : Nat) (os : List Occurrence) (g : Ledger) :
    g.calls <+: (os.foldl (note limit) g).calls ∧
      g.handed <+: (os.foldl (note limit) g).handed := by
  induction os generalizing g with
  | nil => exact ⟨List.prefix_refl _, List.prefix_refl _⟩
  | cons o os ih =>
    have hnote : g.calls <+: (g.note limit o).calls ∧ g.handed <+: (g.note limit o).handed := by
      cases o with
      | began op => exact ⟨List.prefix_append _ _, List.prefix_refl _⟩
      | ended result => exact ⟨List.prefix_refl _, List.prefix_refl _⟩
      | exchanged e =>
        refine ⟨?_, ?_⟩
        · cases hheard : e.heard <;> cases hhanded : e.handed <;>
            simp [note, hear, hand, hheard, hhanded]
        · cases hheard : e.heard <;> cases hhanded : e.handed <;>
            simp [note, hear, hand, hheard, hhanded]
    exact ⟨hnote.1.trans (ih _).1, hnote.2.trans (ih _).2⟩

/-- The datagram that the node is at is the one it was asked for last. -/
def AtLatest (g : Ledger) : Prop :=
  ∀ call, g.current = some call → g.calls[g.calls.length - 1]? = some call

theorem AtLatest.note {limit : Nat} (h : g.AtLatest) (o : Occurrence) :
    (g.note limit o).AtLatest := by
  cases o with
  | began op =>
    intro call hcall
    have hop : op.datagram limit = some call := hcall
    simp [Ledger.note, ask, hop]
  | ended result => exact h
  | exchanged e =>
    cases hheard : e.heard <;> cases hhanded : e.handed <;>
      simpa [AtLatest, Ledger.note, hear, hand, hheard, hhanded] using h

theorem AtLatest.foldl {limit : Nat} (h : g.AtLatest) (os : List Occurrence) :
    (os.foldl (Ledger.note limit) g).AtLatest := by
  induction os generalizing g with
  | nil => exact h
  | cons o os ih => exact ih (h.note o)

end Link.Ledger

/-! ## Genuine receptions -/

namespace Roster

variable {R : Roster} {tr es : Trace} {s s' : System}

theorem ledger_atLatest (R : Roster) (tr : Trace) (i : Nat) : (R.ledger tr i).AtLatest :=
  Ledger.AtLatest.foldl (fun call hcall => by simp at hcall) _

/-- The frame was sent by a node under its own address, and one that acknowledges a datagram by a
node that has handed over such a datagram. -/
def Vouches (R : Roster) (tr : Trace) (f : Frame) : Prop :=
  ∃ i c, R.config i = some c ∧ f.header.src = c.address ∧
    (f.header.isAck = true →
      ∃ d ∈ (R.ledger tr i).handed, d.src = f.header.dst ∧ d.id = f.header.id)

/-- Receptions that can be put down to what the nodes have sent. -/
structure Genuine (R : Roster) (tr : Trace) (rs : List Radio.Reception) : Prop where
  /-- Every frame was sent by a node that could. -/
  known : ∀ r ∈ rs, ∀ f, Frame.decode R.frame r.bytes = .ok f → R.Vouches tr f
  /-- The copies of the datagrams of each node are in the order of its send calls. -/
  follow : ∀ {i : Nat} {c : Link.Config}, R.config i = some c →
    Follow (R.ledger tr i).calls ((arrivals R.frame rs).filter (·.src = c.address))

theorem Genuine.nil (R : Roster) (tr : Trace) : R.Genuine tr [] :=
  ⟨by simp, fun _ => ⟨[], List.Pairwise.nil, .nil⟩⟩

/-- **Losses take nothing away from it.** -/
theorem Genuine.sublist {rs rs' : List Radio.Reception} (h : R.Genuine tr rs)
    (hs : rs'.Sublist rs) : R.Genuine tr rs' :=
  ⟨fun r hr => h.known r (hs.subset hr),
    fun hc => (h.follow hc).sublist ((hs.filterMap _).filter _)⟩

/-- **Nor does whatever happens later.** -/
theorem Genuine.later {rs : List Radio.Reception} (h : R.Genuine tr rs) (es : Trace) :
    R.Genuine (tr ++ es) rs := by
  refine ⟨fun r hr f hf => ?_, fun {i c} hc => ?_⟩
  · obtain ⟨i, c, hc, hsrc, hack⟩ := h.known r hr f hf
    refine ⟨i, c, hc, hsrc, fun hf => ?_⟩
    obtain ⟨d, hd, hdf⟩ := hack hf
    rw [R.ledger_append]
    exact ⟨d, (Ledger.prefix_foldl _ _ _).2.subset hd, hdf⟩
  · rw [R.ledger_append]
    obtain ⟨more, hmore⟩ := (Ledger.prefix_foldl R.frame.maxPayload (es.at i) (R.ledger tr i)).1
    rw [← hmore]
    exact (h.follow hc).append more

/-- **A copy that can be read is the frame that was sent**, since damage does not go unnoticed. -/
theorem airs_of_copy {i : Nat} {c : Link.Config} (hc : R.config i = some c) {g : Ledger}
    {bytes : Bytes} (hair : g.Airs c bytes) {r : Radio.Reception} (hr : Medium.IsCopy bytes r)
    {f : Frame} (hf : Frame.decode R.frame r.bytes = .ok f) :
    f.header.src = c.address ∧ (g.Carries f ∨ g.Answers f) := by
  obtain ⟨f', rfl, hlen, hsrc, hwhy⟩ := hair
  rw [R.shared hc] at hlen hr
  have hvalid : R.frame.Valid := R.shared hc ▸ frame_valid hc
  rcases hr with hintact | hdamaged
  · rw [hintact, Frame.decode_wire hvalid hlen] at hf
    obtain rfl := Except.ok.inj hf
    exact ⟨hsrc, hwhy⟩
  · obtain ⟨received, computed, hread⟩ := Frame.decode_damage hvalid hlen
    rw [hdamaged, hread] at hf
    cases hf

/-- **What a node puts on the air is genuine wherever it arrives**, damaged or not. -/
theorem Genuine.concat {rs : List Radio.Reception} (h : R.Genuine tr rs) {i : Nat}
    {c : Link.Config} (hc : R.config i = some c) {bytes : Bytes}
    (hair : (R.ledger tr i).Airs c bytes) {r : Radio.Reception} (hr : Medium.IsCopy bytes r) :
    R.Genuine tr (rs ++ [r]) := by
  refine ⟨fun r' hr' f hf => ?_, fun {i' c'} hc' => ?_⟩
  · rcases List.mem_append.1 hr' with hr' | hr'
    · exact h.known r' hr' f hf
    · obtain rfl := List.mem_singleton.1 hr'
      obtain ⟨hsrc, hwhy⟩ := airs_of_copy hc hair hr hf
      refine ⟨i, c, hc, hsrc, fun hack => ?_⟩
      rcases hwhy with hcarries | hanswers
      · simp [hcarries.1] at hack
      · exact Link.mem_of_getLast?_idsFrom hanswers.2
  · rw [Link.arrivals_append, List.filter_append]
    cases harrival : arrival R.frame r with
    | none => simpa [arrivals, harrival] using h.follow hc'
    | some d =>
      obtain ⟨f, hf, hack, rfl⟩ := Link.arrival_eq_some_iff.1 harrival
      obtain ⟨hsrc, hwhy⟩ := airs_of_copy hc hair hr hf
      have hcopy : arrivals R.frame [r] = [f.delivery r.rssi] := by simp [arrivals, harrival]
      rw [hcopy]
      by_cases hown : c.address = c'.address
      · obtain rfl := R.distinct hc hc' hown
        obtain rfl : c = c' := Option.some.inj (hc ▸ hc')
        have hfrom : [f.delivery r.rssi].filter (·.src = c.address) = [f.delivery r.rssi] := by
          simp [Frame.delivery, hsrc]
        rw [hfrom]
        rcases hwhy with ⟨-, hid, hcall⟩ | hanswers
        · exact (h.follow hc).concat ⟨_, R.ledger_atLatest tr i _ hcall, rfl, rfl, hid⟩
        · simp [hanswers.1] at hack
      · have hfrom : [f.delivery r.rssi].filter (·.src = c'.address) = [] := by
          simp [Frame.delivery, hsrc, hown]
        rw [hfrom, List.append_nil]
        exact h.follow hc'

/-! ## Everything that is underway -/

/-- What has reached a station: what its node has heard and what waits there. -/
def reached (R : Roster) (tr : Trace) (s : System) (j : Nat) : List Radio.Reception :=
  (R.ledger tr j).heard ++ s.network.medium.fifo j

/-- What a node takes off its radio it has heard, and the rest still waits. -/
theorem reached_answer (R : Roster) (tr : Trace) (s : System) (i : Nat) (r : Link.Request)
    (p : Occupant) :
    R.reached (tr ++ [(i, .exchanged ⟨r, (Network.answer i r s.network).1⟩)])
      ((s.put i p).withNetwork (Network.answer i r s.network).2) i = R.reached tr s i := by
  have hat : Trace.at [(i, Occurrence.exchanged ⟨r, (Network.answer i r s.network).1⟩)] i =
      [.exchanged ⟨r, (Network.answer i r s.network).1⟩] := Trace.at_own i [_]
  have hheard (e : Link.Exchange) : Link.History.heard [.exchanged e] = e.heard.toList :=
    (Link.History.heard_cons _ _).trans (List.append_nil _)
  rw [reached, reached, R.ledger_append, hat, Ledger.heard_foldl, hheard, List.append_assoc]
  congr 1
  cases r with
  | radio call => exact Medium.fifo_call_self s.network.medium i call
  | offer channel d =>
    have hmedium := (Network.answer_medium i (.offer channel d) s.network).resolve_left
      (by rintro ⟨call, hcall⟩; cases hcall)
    exact congrArg (Medium.fifo · i) hmedium
  | _ => rfl

/-- What reaches another station when a request is answered is what the node put on the air. -/
theorem reached_answer_of_ne (R : Roster) (tr : Trace) (s : System) {i j : Nat} (hj : j ≠ i)
    (r : Link.Request) (o : Occurrence) (p : Occupant) :
    R.reached (tr ++ [(i, o)]) ((s.put i p).withNetwork (Network.answer i r s.network).2) j =
        R.reached tr s j ∨
      ∃ bytes copy, r = .radio (.transmit bytes) ∧ Medium.IsCopy bytes copy ∧
        R.reached (tr ++ [(i, o)]) ((s.put i p).withNetwork (Network.answer i r s.network).2) j =
          R.reached tr s j ++ [copy] := by
  have hledger : R.ledger (tr ++ [(i, o)]) j = R.ledger tr j := by
    rw [R.ledger_append, show Trace.at [(i, o)] j = [] from Trace.at_other hj [o], List.foldl_nil]
  simp only [reached, hledger]
  rcases Network.answer_medium i r s.network with ⟨call, rfl⟩ | hmedium
  · rcases Medium.fifo_call_of_ne s.network.medium hj call with
      hsame | ⟨bytes, copy, rfl, hcopy, hmore⟩
    · exact .inl (congrArg _ hsame)
    · refine .inr ⟨bytes, copy, rfl, hcopy, ?_⟩
      rw [List.append_assoc]
      exact congrArg _ hmore
  · exact .inl (congrArg _ (Medium.fifo_congr (by rw [System.withNetwork, hmedium]) j))

/-- Occurrences that are no exchanges bring nothing. -/
theorem heard_act (R : Roster) (tr : Trace) (i j : Nat) (o : Option Occurrence)
    (ho : ∀ e, o ≠ some (.exchanged e)) :
    (R.ledger (tr ++ o.toList.map (i, ·)) j).heard = (R.ledger tr j).heard := by
  rw [R.ledger_append, Ledger.heard_foldl]
  by_cases hj : j = i
  · subst hj
    rw [Trace.at_own]
    cases o with
    | none => exact List.append_nil _
    | some o =>
      cases o with
      | exchanged e => exact absurd rfl (ho e)
      | began op => exact List.append_nil _
      | ended result => exact List.append_nil _
  · rw [Trace.at_other hj]
    exact List.append_nil _

/-- **A step brings one copy of a transmission to a station at most**, and may take copies away. -/
theorem Reach.reached_step (h : R.Reach tr s) (next : R.Step s es s') (j : Nat) :
    (R.reached (tr ++ es) s' j).Sublist (R.reached tr s j) ∨
      ∃ i e c bytes copy, es = [(i, .exchanged e)] ∧ R.config i = some c ∧
        (R.ledger tr i).Airs c bytes ∧ Medium.IsCopy bytes copy ∧
        R.reached (tr ++ es) s' j = R.reached tr s j ++ [copy] := by
  -- A step of which nothing is told takes away from the queues at most.
  have quiet : ∀ network : Network, (network.medium.fifo j).Sublist (s.network.medium.fifo j) →
      ((R.ledger (tr ++ []) j).heard ++ network.medium.fifo j).Sublist (R.reached tr s j) := by
    intro network hsub
    rw [List.append_nil]
    exact hsub.append_left _
  cases next with
  | attach failure =>
    exact .inl (quiet _ (Medium.fifo_attach s.network.medium failure j ▸ List.Sublist.refl _))
  | arrive i c sink hc hi => exact .inl (quiet s.network (List.Sublist.refl _))
  | outside network hn =>
    exact .inl (quiet network (Medium.fifo_congr hn j ▸ List.Sublist.refl _))
  | leave i => exact .inl (quiet _ (Medium.fifo_detach_sublist s.network.medium i j))
  | overhear i call hi hcall =>
    refine .inl (quiet _ ?_)
    by_cases hj : j = i
    · subst hj
      have hself := Medium.fifo_call_self s.network.medium j call
      exact hself ▸ List.sublist_append_right _ _
    · rcases Medium.fifo_call_of_ne s.network.medium hj call with hsame | ⟨bytes, -, rfl, -⟩
      · exact hsame ▸ List.Sublist.refl _
      · exact absurd rfl hcall
  | act i st st' o hi hst ho =>
    have hreached : R.reached (tr ++ o.toList.map (i, ·)) (s.put i (.present st')) j =
        R.reached tr s j := congrArg (· ++ _) (R.heard_act tr i j o ho)
    exact .inl (hreached ▸ List.Sublist.refl _)
  | exchange i r next hi =>
    by_cases hj : j = i
    · subst hj
      exact .inl (R.reached_answer tr s j r _ ▸ List.Sublist.refl _)
    · rcases R.reached_answer_of_ne tr s hj r _ _ with hsame | ⟨bytes, copy, rfl, hcopy, hmore⟩
      · exact .inl (hsame ▸ List.Sublist.refl _)
      · obtain ⟨c, hc, hair⟩ := h.permits hi
        exact .inr ⟨i, _, c, bytes, copy, rfl, hc, hair, hcopy, hmore⟩

/-- **Everything that has reached a station is genuine**, in whatever order the nodes go on. -/
theorem Reach.genuine (h : R.Reach tr s) (j : Nat) : R.Genuine tr (R.reached tr s j) := by
  induction h with
  | start network hn =>
    have hfifo : network.medium.fifo j = [] := by simp [Medium.fifo, hn]
    have hnone : R.reached [] ⟨network, fun _ => .absent⟩ j = [] := hfifo
    exact hnone ▸ .nil R []
  | step before next ih =>
    rcases before.reached_step next j with hsub | ⟨i, e, c, bytes, copy, -, hc, hair, hcopy, hmore⟩
    · exact (ih.sublist hsub).later _
    · exact hmore ▸ (ih.concat hc hair hcopy).later _

/-! ## What comes in during a stretch of a run -/

/-- Some node has sent the frame under its own address in the course of a stretch, and was at that
datagram then, or had handed it over last. -/
def SentIn (R : Roster) (tr es : Trace) (f : Frame) : Prop :=
  ∃ es₁ i e es₂ c, es = es₁ ++ (i, .exchanged e) :: es₂ ∧ R.config i = some c ∧
    f.header.src = c.address ∧
    ((R.ledger (tr ++ es₁) i).Carries f ∨ (R.ledger (tr ++ es₁) i).Answers f)

theorem SentIn.later {f : Frame} (h : R.SentIn tr es f) (es' : Trace) :
    R.SentIn tr (es ++ es') f := by
  obtain ⟨es₁, i, e, es₂, c, rfl, hc, hsrc, hwhy⟩ := h
  exact ⟨es₁, i, e, es₂ ++ es', c, by simp, hc, hsrc, hwhy⟩

/-- **What reaches a station in the course of a stretch was sent in the course of it.** -/
theorem Leads.reached (hl : R.Leads s es s') (h : R.Reach tr s) (j : Nat) :
    ∃ copies, (R.reached (tr ++ es) s' j).Sublist (R.reached tr s j ++ copies) ∧
      ∀ r ∈ copies, ∀ f, Frame.decode R.frame r.bytes = .ok f → R.SentIn tr es f := by
  induction hl with
  | refl => exact ⟨[], by simp, by simp⟩
  | @step es es' s' s'' before next ih =>
    obtain ⟨copies, hsub, hcopies⟩ := ih
    rcases (h.leads before).reached_step next j with
      hless | ⟨i, e, c, bytes, copy, rfl, hc, hair, hcopy, hmore⟩
    · rw [List.append_assoc] at hless
      exact ⟨copies, hless.trans hsub, fun r hr f hf => (hcopies r hr f hf).later _⟩
    · rw [List.append_assoc] at hmore
      refine ⟨copies ++ [copy], ?_, fun r hr f hf => ?_⟩
      · rw [hmore, ← List.append_assoc]
        exact hsub.append_right _
      · rcases List.mem_append.1 hr with hr | hr
        · exact (hcopies r hr f hf).later _
        · obtain rfl := List.mem_singleton.1 hr
          obtain ⟨hsrc, hwhy⟩ := airs_of_copy hc hair hcopy hf
          exact ⟨es, i, e, [], c, rfl, hc, hsrc, hwhy⟩

/-- **What comes in during a stretch waited when it began, or was sent in the course of it.** -/
theorem Leads.origin (hl : R.Leads s es s') (h : R.Reach tr s) {j : Nat} {r : Radio.Reception}
    (hr : r ∈ (es.at j).heard) : r ∈ s.network.medium.fifo j ∨
      ∀ f, Frame.decode R.frame r.bytes = .ok f → R.SentIn tr es f := by
  obtain ⟨copies, hsub, hcopies⟩ := hl.reached h j
  simp only [Roster.reached, R.ledger_append, Ledger.heard_foldl, List.append_assoc,
    List.append_sublist_append_left] at hsub
  rcases List.mem_append.1 (hsub.subset (List.mem_append_left _ hr)) with hold | hnew
  · exact .inl hold
  · exact .inr (hcopies r hnew)

end Roster
end PacketRadio
