/-
# Courses of events on a network

rflink specification, §5: cooperative polling.

A course of events is a list of what happens on a network, at its stations and
elsewhere.  It leads from one system to another, and so is played on different
systems to compare what comes of it.

| happening | what can be told of it |
| --- | --- |
| a node is asked for something or goes on | the occurrence, as for a `Move` |
| a node is brought up, redirected or given up | nothing |
| something is done to the medium or to a radio | the answer, if it is a call |
| something else changes | nothing |

Main statement: `System.station?_of_mem` (what can be told of a happening is
where it happened).
-/

import PacketRadio.Proofs.Link.Life
import PacketRadio.Proofs.Medium.Past
import PacketRadio.Proofs.Network.Moves

namespace PacketRadio

open Link (Node Occurrence Exchange)

/-- The node that a move is about. -/
def Move.station : Move → Nat
  | .begin i _ => i
  | .advance i => i

/-- What can happen on a network. -/
inductive Happening where
  /-- A node is asked for something or goes on. -/
  | move (m : Move)
  /-- A node is brought up, its radio being ready. -/
  | arrive (i : Nat) (c : Link.Config)
  /-- The deliveries of a node at rest go into a channel from now on. -/
  | redirect (i channel : Nat)
  /-- A node is given up. -/
  | depart (i : Nat)
  /-- Something is done to the medium or to a radio. -/
  | command (c : Medium.Command)
  /-- Time passes, stop flags are made or set, and channels are made, emptied or closed. -/
  | beyond (now : Nat) (stopFlags : List Bool) (channels : List Link.Channel)

/-- The station that it happens at. -/
def Happening.station? : Happening → Option Nat
  | .move m => some m.station
  | .arrive i _ | .redirect i _ | .depart i => some i
  | .command c => c.station?
  | .beyond .. => none

/-- What can be told of a command: the answer to a call. -/
def Medium.tells (m : Medium) : Medium.Command → Trace
  | .call i call => [(i, .exchanged ⟨.radio call, (m.call i call).1⟩)]
  | _ => []

namespace System

/-- The system after something has happened, and what can be told of it. -/
def undergo (s : System) : Happening → Trace × System
  | .move m => s.move m
  | .arrive i c => ([], s.put i (.present (.resting (Node.fresh c))))
  | .redirect i channel =>
    match s.party i with
    | .present (.resting n) => ([], s.put i (.present (.resting (n.withChannel channel))))
    | _ => ([], s)
  | .depart i => ([], s.put i .gone)
  | .command c =>
    (s.network.medium.tells c, s.withNetwork (s.network.onMedium (·.obey c)))
  | .beyond now stopFlags channels =>
    ([], s.withNetwork { s.network with now, stopFlags, channels })

/-- The system after all this has happened, and what can be told of it. -/
def course : List Happening → System → Trace × System
  | [], s => ([], s)
  | x :: xs, s =>
    let (tr, s) := s.undergo x
    let (tr', s) := course xs s
    (tr ++ tr', s)

end System

/-! ## What can be told -/

/-- The frames that were taken off the radio at a station. -/
def Trace.heard (tr : Trace) (i : Nat) : List Radio.Reception :=
  (tr.at i).exchanges.filterMap Exchange.heard

theorem Trace.heard_append (tr tr' : Trace) (i : Nat) :
    Trace.heard (tr ++ tr') i = tr.heard i ++ tr'.heard i := by
  simp [Trace.heard]

theorem Trace.heard_exchanged (i : Nat) (e : Exchange) :
    Trace.heard [(i, .exchanged e)] i = e.heard.toList := by
  cases he : e.heard <;> simp [Trace.heard, Trace.at, he]

/-- **What can be told of a happening is where it happened.** -/
theorem System.station?_of_mem {s : System} {x : Happening} {p : Nat × Occurrence}
    (hp : p ∈ (s.undergo x).1) : x.station? = some p.1 := by
  have hsingle : ∀ {i : Nat} {o : Occurrence}, p ∈ [(i, o)] → some i = some p.1 := by
    intro i o hp
    rw [List.mem_singleton.1 hp]
  cases x with
  | move m =>
    cases m with
    | begin i op =>
      simp only [undergo, move] at hp
      split at hp
      · exact hsingle hp
      · cases hp
    | advance i =>
      simp only [undergo, move] at hp
      split at hp
      · exact hsingle hp
      · cases hp
      · exact hsingle hp
      · exact hsingle hp
      · cases hp
  | redirect i channel =>
    simp only [undergo] at hp
    split at hp <;> cases hp
  | command c =>
    cases c with
    | call i call => exact hsingle hp
    | _ => cases hp
  | _ => cases hp

/-- Of what happens at a station nothing can be told elsewhere. -/
theorem System.elsewhere_of_eq (s : System) {x : Happening} {l : Nat} (hx : x.station? = some l) :
    (s.undergo x).1.filter (·.1 ≠ l) = [] := by
  refine List.filter_eq_nil_iff.2 fun p hp => ?_
  have hstation := System.station?_of_mem hp
  rw [hx] at hstation
  simp [Option.some.inj hstation]

/-- Of what happens elsewhere all can be told there. -/
theorem System.elsewhere_of_ne (s : System) {x : Happening} {l : Nat} (hx : x.station? ≠ some l) :
    (s.undergo x).1.filter (·.1 ≠ l) = (s.undergo x).1 := by
  refine List.filter_eq_self.2 fun p hp => ?_
  have hstation := System.station?_of_mem hp
  simpa [hstation] using hx

end PacketRadio
