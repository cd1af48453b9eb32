/-
# Nodes that share a network, in any order of steps

rflink specification, §5: each manager owns its radio; §1: many nodes share
one channel.

A system is a network with at most one node at each station.  Its nodes go on
request by request, in any order, each answered by the network as it is then.
Everything else about the network may change at any time: the clock, the
faults and drop credits, severed links, signal strengths, stop flags and
channels.  Only what waits at the stations is left to the nodes and to bare
radios, and those send nothing.

| step | what it is | what can be told of it |
| --- | --- | --- |
| `attach` | a station is added | nothing |
| `arrive` | a node is brought up at a station | nothing |
| `act` | an operation begins or ends, or another turn does | the occurrence |
| `exchange` | a request of a node is answered | the exchange |
| `overhear` | a bare radio is called, but not to send | nothing |
| `leave` | the radio at a station leaves | nothing |
| `outside` | something else about the network changes | nothing |

The nodes of a roster have one frame configuration and an address each, and
there is one at a station once at most.

Main statements: `Reach.accounted` (what a node has done is a run of it on
its own), `Reach.orderly` and `Reach.split`.
-/

import PacketRadio.Network
import PacketRadio.Proofs.Link.Bookkeeping
import Mathlib.Logic.Function.Basic

namespace PacketRadio

open Link (Node Occurrence History Ledger Run Status Sink arrivals atRest_fresh bookkeeping
  bookkeeping_sound idsFrom)

/-- The nodes that may take part, by their stations. -/
structure Roster where
  /-- How all of them write and read frames. -/
  frame : Frame.Config
  /-- The configuration of the node at a station, if there may be one. -/
  config : Nat → Option Link.Config
  /-- All configurations can be used. -/
  valid : ∀ {i : Nat} {c : Link.Config}, config i = some c → c.validate = .ok ()
  /-- All nodes are of one network. -/
  shared : ∀ {i : Nat} {c : Link.Config}, config i = some c → c.frame = frame
  /-- No two nodes have one address. -/
  distinct : ∀ {i j : Nat} {c d : Link.Config}, config i = some c → config j = some d →
    c.address = d.address → i = j

/-- What is at a station. -/
inductive Occupant where
  /-- No node, so far. -/
  | absent
  /-- A node. -/
  | present (st : Status)
  /-- No node, any more. -/
  | gone

/-- A network and its nodes. -/
structure System where
  /-- What they share. -/
  network : Network
  /-- What is at each station. -/
  party : Nat → Occupant

/-- The system with something else at a station. -/
def System.put (s : System) (i : Nat) (p : Occupant) : System :=
  { s with party := Function.update s.party i p }

/-- The system with another network. -/
def System.withNetwork (s : System) (network : Network) : System :=
  { s with network }

@[simp] theorem System.put_party_self (s : System) (i : Nat) (p : Occupant) :
    (s.put i p).party i = p :=
  Function.update_self ..

theorem System.put_party_of_ne (s : System) {i j : Nat} (h : j ≠ i) (p : Occupant) :
    (s.put i p).party j = s.party j :=
  Function.update_of_ne h ..

/-- What has happened at the nodes, first things first. -/
abbrev Trace := List (Nat × Occurrence)

/-- What has happened at one of them. -/
def Trace.at (tr : Trace) (i : Nat) : History :=
  (tr.filter (·.1 = i)).map (·.2)

namespace Trace

variable (tr tr' : Trace) (i j : Nat)

@[simp] theorem at_append : Trace.at (tr ++ tr') i = tr.at i ++ tr'.at i := by
  simp [Trace.at]

@[simp] theorem at_own (os : List Occurrence) : Trace.at (os.map (i, ·)) i = os := by
  simp [Trace.at, List.filter_map, Function.comp_def]

theorem at_other {i j : Nat} (h : j ≠ i) (os : List Occurrence) :
    Trace.at (os.map (i, ·)) j = [] := by
  simp [Trace.at, List.filter_map, Function.comp_def, h.symm]

end Trace

namespace Roster

variable (R : Roster)

/-- The ledger of a node. -/
def ledger (tr : Trace) (i : Nat) : Ledger :=
  (tr.at i).foldl (Ledger.note R.frame.maxPayload) {}

theorem ledger_append (tr tr' : Trace) (i : Nat) :
    R.ledger (tr ++ tr') i = (tr'.at i).foldl (Ledger.note R.frame.maxPayload) (R.ledger tr i) := by
  rw [ledger, Trace.at_append, List.foldl_append]
  rfl

/-- A ledger only depends on how frames are written. -/
theorem ledger_eq_record {i : Nat} {c : Link.Config} (hc : R.config i = some c) (tr : Trace) :
    R.ledger tr i = (bookkeeping c).record (tr.at i) := by
  rw [ledger, ← R.shared hc]
  rfl

/-! ## Steps -/

/-- One step of a system, and what can be told of it. -/
inductive Step : System → Trace → System → Prop where
  /-- A station is added. -/
  | attach (s : System) (failure : Option String) :
      Step s [] (s.withNetwork (s.network.attach failure).2)
  /-- A node is brought up. -/
  | arrive (s : System) (i : Nat) (c : Link.Config) (sink : Sink) (hc : R.config i = some c)
      (hi : s.party i = .absent) :
      Step s [] (s.put i (.present (.resting { Node.fresh c with sink })))
  /-- A node goes on by itself. -/
  | act (s : System) (i : Nat) (st st' : Status) (o : Option Occurrence)
      (hi : s.party i = .present st) (hst : st.Step o st')
      (ho : ∀ e, o ≠ some (.exchanged e)) :
      Step s (o.toList.map (i, ·)) (s.put i (.present st'))
  /-- A request of a node is answered. -/
  | exchange (s : System) (i : Nat) (r : Link.Request) (next)
      (hi : s.party i = .present (.busy (.ask r next))) :
      Step s [(i, .exchanged ⟨r, (Network.answer i r s.network).1⟩)]
        ((s.put i (.present (.busy (next (Network.answer i r s.network).1)))).withNetwork
          (Network.answer i r s.network).2)
  /-- A radio without a node is called. -/
  | overhear (s : System) (i : Nat) (call : Radio.Call) (hi : ∀ st, s.party i ≠ .present st)
      (hcall : call.name ≠ .transmit) : Step s [] (s.withNetwork (s.network.call i call).2)
  /-- A radio leaves. -/
  | leave (s : System) (i : Nat) :
      Step s [] ((s.put i .gone).withNetwork (s.network.onMedium (·.detach i)))
  /-- Something else changes. -/
  | outside (s : System) (network : Network)
      (h : network.medium.stations = s.network.medium.stations) : Step s [] (s.withNetwork network)

/-- A system that began without stations has come this far, and this has happened. -/
inductive Reach : Trace → System → Prop where
  /-- Nothing has happened yet. -/
  | start (network : Network) (h : network.medium.stations = []) :
      Reach [] ⟨network, fun _ => .absent⟩
  /-- One more step. -/
  | step {tr es : Trace} {s s' : System} (before : Reach tr s) (next : R.Step s es s') :
      Reach (tr ++ es) s'

/-- A system that was at `s₀` has come this far, and this has happened since. -/
inductive Leads (s₀ : System) : Trace → System → Prop where
  /-- Nothing has happened since. -/
  | refl : Leads s₀ [] s₀
  /-- One more step. -/
  | step {tr es : Trace} {s s' : System} (before : Leads s₀ tr s) (next : R.Step s es s') :
      Leads s₀ (tr ++ es) s'

variable {R} {tr es : Trace} {s s' : System}

/-- **At most one thing happens in a step.** -/
theorem Step.length_le (h : R.Step s es s') : es.length ≤ 1 := by
  cases h with
  | act i st st' o hi hst ho => cases o <;> simp
  | _ => simp

/-- One stretch of a run after another. -/
theorem Leads.trans {tr₁ tr₂ : Trace} {s₀ : System} (h : R.Leads s₀ tr₁ s)
    (h' : R.Leads s tr₂ s') : R.Leads s₀ (tr₁ ++ tr₂) s' := by
  induction h' with
  | refl => rwa [List.append_nil]
  | step before next ih =>
    rw [← List.append_assoc]
    exact ih.step next

/-- **A stretch of a run goes through a state between any two things that happen.** -/
theorem Leads.split {tr₁ tr₂ : Trace} (h : R.Leads s (tr₁ ++ tr₂) s') :
    ∃ s₁, R.Leads s tr₁ s₁ ∧ R.Leads s₁ tr₂ s' := by
  generalize htr : tr₁ ++ tr₂ = tr at h
  induction h generalizing tr₂ with
  | refl =>
    obtain ⟨rfl, rfl⟩ := List.append_eq_nil_iff.1 htr
    exact ⟨s, .refl, .refl⟩
  | @step tr es s' s'' before next ih =>
    have hlen := next.length_le
    rcases List.eq_nil_or_concat es with rfl | ⟨init, e, rfl⟩
    · obtain ⟨s₁, h₁, h₂⟩ := ih (by simpa using htr)
      have hnext := h₂.step next
      rw [List.append_nil] at hnext
      exact ⟨s₁, h₁, hnext⟩
    · obtain rfl : init = [] := List.eq_nil_of_length_eq_zero (by simpa using hlen)
      rcases List.eq_nil_or_concat tr₂ with rfl | ⟨tr₂, e', rfl⟩
      · rw [List.append_nil] at htr
        exact ⟨s'', htr ▸ .step before next, .refl⟩
      · rw [List.concat_eq_append, List.concat_eq_append, ← List.append_assoc] at htr
        obtain ⟨htr, he⟩ := List.append_inj' htr rfl
        obtain ⟨s₁, h₁, h₂⟩ := ih htr
        rw [List.concat_eq_append, he]
        exact ⟨s₁, h₁, h₂.step next⟩

/-- A run goes on. -/
theorem Reach.leads (h : R.Reach tr s) (hl : R.Leads s es s') : R.Reach (tr ++ es) s' := by
  induction hl with
  | refl => rwa [List.append_nil]
  | step before next ih =>
    rw [← List.append_assoc]
    exact ih.step next

/-- Every run leads on from a state in which nothing has happened yet. -/
theorem Reach.exists_leads (h : R.Reach tr s) : ∃ s₀, R.Reach [] s₀ ∧ R.Leads s₀ tr s := by
  induction h with
  | start network hn => exact ⟨_, .start network hn, .refl⟩
  | step before next ih =>
    obtain ⟨s₀, h₀, hl⟩ := ih
    exact ⟨s₀, h₀, hl.step next⟩

/-- **What has happened so far was reached on the way**, and led to what has happened since. -/
theorem Reach.split {tr₁ tr₂ : Trace} (h : R.Reach (tr₁ ++ tr₂) s) :
    ∃ s₁, R.Reach tr₁ s₁ ∧ R.Leads s₁ tr₂ s := by
  obtain ⟨s₀, h₀, hl⟩ := h.exists_leads
  obtain ⟨s₁, h₁, h₂⟩ := hl.split
  exact ⟨s₁, h₀.leads h₁, h₂⟩

/-! ## Nodes on their own -/

/-- What has happened at a station is a run of its node, if there was one. -/
def Accounted (R : Roster) (tr : Trace) (s : System) (i : Nat) : Prop :=
  (tr.at i = [] ∧ ∀ st, s.party i ≠ .present st) ∨
    ∃ c sink st, R.config i = some c ∧ Run { Node.fresh c with sink } (tr.at i) st ∧
      (s.party i = .present st ∨ s.party i = .gone)

theorem Accounted.other {i j : Nat} (h : R.Accounted tr s j) (hj : j ≠ i) (os : List Occurrence)
    (p : Occupant) (network : Network) :
    R.Accounted (tr ++ os.map (i, ·)) ((s.put i p).withNetwork network) j := by
  have hparty : ((s.put i p).withNetwork network).party j = s.party j := s.put_party_of_ne hj p
  have hat : Trace.at (tr ++ os.map (i, ·)) j = tr.at j := by
    rw [Trace.at_append, Trace.at_other hj, List.append_nil]
  simpa only [Accounted, hparty, hat] using h

/-- What the network is like does not matter. -/
theorem Accounted.withNetwork {i : Nat} (h : R.Accounted tr s i) (network : Network) :
    R.Accounted (tr ++ []) (s.withNetwork network) i := by
  rw [List.append_nil]
  exact h

/-- The node that is present has run as far as it is. -/
theorem Accounted.run {i : Nat} {st : Status} (h : R.Accounted tr s i)
    (hi : s.party i = .present st) :
    ∃ c sink, R.config i = some c ∧ Run { Node.fresh c with sink } (tr.at i) st := by
  rcases h with ⟨-, habsent⟩ | ⟨c, sink, st', hc, hrun, hst | hgone⟩
  · exact absurd hi (habsent st)
  · obtain rfl : st' = st := by simpa [hi] using hst.symm
    exact ⟨c, sink, hc, hrun⟩
  · simp [hi] at hgone

/-- A node that goes on is accounted for as before. -/
theorem Accounted.next {i : Nat} {st st' : Status} {o : Option Occurrence}
    (h : R.Accounted tr s i) (hi : s.party i = .present st) (hst : st.Step o st')
    (network : Network) :
    R.Accounted (tr ++ o.toList.map (i, ·)) ((s.put i (.present st')).withNetwork network) i := by
  obtain ⟨c, sink, hc, hrun⟩ := h.run hi
  refine .inr ⟨c, sink, st', hc, ?_, .inl (s.put_party_self i _)⟩
  rw [Trace.at_append, Trace.at_own]
  exact .step hrun hst

/-- A node that has just been brought up has done nothing. -/
theorem Accounted.arrive {i : Nat} {c : Link.Config} (h : R.Accounted tr s i)
    (hc : R.config i = some c) (hi : s.party i = .absent) (sink : Sink) :
    R.Accounted (tr ++ []) (s.put i (.present (.resting { Node.fresh c with sink }))) i := by
  refine .inr ⟨c, sink, _, hc, ?_, .inl (s.put_party_self i _)⟩
  rcases h with ⟨hat, -⟩ | ⟨c', sink', st, -, -, hst | hgone⟩
  · rw [List.append_nil, hat]
    exact .start
  · simp [hi] at hst
  · simp [hi] at hgone

/-- A node that has left has done what it did. -/
theorem Accounted.leave {i : Nat} (h : R.Accounted tr s i) (network : Network) :
    R.Accounted (tr ++ []) ((s.put i .gone).withNetwork network) i := by
  have hgone : ((s.put i .gone).withNetwork network).party i = .gone := s.put_party_self i _
  rw [List.append_nil]
  rcases h with ⟨hat, -⟩ | ⟨c, sink, st, hc, hrun, -⟩
  · exact .inl ⟨hat, by simp [hgone]⟩
  · exact .inr ⟨c, sink, st, hc, hrun, .inr hgone⟩

/-- **What has happened at a station is a run of its node.** -/
theorem Reach.accounted (h : R.Reach tr s) (j : Nat) : R.Accounted tr s j := by
  induction h with
  | start network hn => exact .inl ⟨rfl, fun st => by simp⟩
  | step before next ih =>
    cases next with
    | attach failure => exact ih.withNetwork _
    | overhear i call hi hcall => exact ih.withNetwork _
    | outside network hn => exact ih.withNetwork _
    | arrive i c sink hc hi =>
      by_cases hj : j = i
      · subst hj
        exact ih.arrive hc hi sink
      · exact ih.other hj [] _ _
    | act i st st' o hi hst ho =>
      by_cases hj : j = i
      · subst hj
        exact ih.next hi hst _
      · exact ih.other hj _ _ _
    | exchange i r next hi =>
      by_cases hj : j = i
      · subst hj
        exact ih.next hi (.exchange r next _) _
      · exact ih.other hj [_] _ _
    | leave i =>
      by_cases hj : j = i
      · subst hj
        exact ih.leave _
      · exact ih.other hj [] _ _

/-- What happened last at a node happened in a step of it. -/
theorem Reach.last {i : Nat} {o : Occurrence} (h : R.Reach (tr ++ [(i, o)]) s) :
    ∃ c sink st₀ st₁, R.config i = some c ∧ Run { Node.fresh c with sink } (tr.at i) st₀ ∧
      st₀.Step (some o) st₁ := by
  have hat : Trace.at (tr ++ [(i, o)]) i = tr.at i ++ [o] := by
    rw [Trace.at_append, show Trace.at [(i, o)] i = [o] from Trace.at_own i [_]]
  rcases h.accounted i with ⟨hnone, -⟩ | ⟨c, sink, st, hc, hrun, -⟩
  · simp [hat] at hnone
  · rw [hat] at hrun
    obtain ⟨st₀, st₁, hrun₀, hlast⟩ := hrun.last
    exact ⟨c, sink, st₀, st₁, hc, hrun₀, hlast⟩

/-! ## Their ledgers -/

/-- A node of the roster reads and writes frames under a valid configuration. -/
theorem frame_valid {i : Nat} {c : Link.Config} (hc : R.config i = some c) : c.frame.Valid :=
  ((Link.Config.validate_eq_ok_iff c).1 (R.valid hc)).frame

/-- **What a node hands over is a selection of what came in, without a number twice in a row.** -/
theorem Reach.orderly (h : R.Reach tr s) (i : Nat) :
    (R.ledger tr i).handed.Sublist (arrivals R.frame (R.ledger tr i).heard) ∧
      ∀ a, (idsFrom a (R.ledger tr i).handed).IsChain (· ≠ ·) := by
  rcases h.accounted i with ⟨hat, -⟩ | ⟨c, sink, st, hc, hrun, -⟩
  · rw [ledger, hat]
    exact ⟨List.Sublist.refl _, fun _ => List.isChain_nil⟩
  · have horderly := hrun.orderly (bookkeeping_sound (frame_valid hc)) (atRest_fresh c sink)
    rw [← R.ledger_eq_record hc] at horderly
    exact ⟨R.shared hc ▸ horderly.handed, horderly.ids⟩

/-- **What a node is about to ask for is in order.** -/
theorem Reach.permits (h : R.Reach tr s) {i : Nat} {r : Link.Request} {next}
    (hi : s.party i = .present (.busy (.ask r next))) :
    ∃ c, R.config i = some c ∧ (R.ledger tr i).Permits c r := by
  obtain ⟨c, sink, hc, hrun⟩ := (h.accounted i).run hi
  refine ⟨c, hc, ?_⟩
  rw [R.ledger_eq_record hc]
  exact (bookkeeping_sound (frame_valid hc)).permits (atRest_fresh c sink) hrun

/-- **What a node has asked for was in order.** -/
theorem Reach.permitted {i : Nat} {e : Link.Exchange}
    (h : R.Reach (tr ++ [(i, .exchanged e)]) s) :
    ∃ c, R.config i = some c ∧ (R.ledger tr i).Permits c e.request := by
  obtain ⟨c, sink, st₀, st₁, hc, hrun, hlast⟩ := h.last
  refine ⟨c, hc, ?_⟩
  rw [R.ledger_eq_record hc]
  cases hlast with
  | exchange r next a =>
    exact (bookkeeping_sound (frame_valid hc)).permits (atRest_fresh c sink) hrun

/-- **What an operation has ended with was in order.** -/
theorem Reach.concludes {i : Nat} {result : Except Link.Error Link.Reply}
    (h : R.Reach (tr ++ [(i, .ended result)]) s) :
    ∃ c, R.config i = some c ∧ (R.ledger tr i).Concludes c result := by
  obtain ⟨c, sink, st₀, st₁, hc, hrun, hlast⟩ := h.last
  refine ⟨c, hc, ?_⟩
  rw [R.ledger_eq_record hc]
  exact (bookkeeping_sound (frame_valid hc)).concludes (atRest_fresh c sink) hrun hlast

end Roster
end PacketRadio
