/-
# Runs from lists of moves

rflink specification, §5: cooperative polling.

A list of moves says which node is asked for what and which node goes on next.
Playing it on a system gives one run of the nodes, with everything else about
the network left as it is, and so shows that something can happen.

Main statements: `leads_moves` (what is played can happen) and `Reach.bringUp`
(so can what a node does when it is brought up).
-/

import PacketRadio.Proofs.Network.System

namespace PacketRadio

open Link (Action Node Operation)

/-- What happens next. -/
inductive Move where
  /-- A node is asked for something. -/
  | begin (i : Nat) (op : Operation)
  /-- A node goes on by one request, or to its next turn. -/
  | advance (i : Nat)

/-- A node is asked for something and goes on so many times. -/
def Move.run (i : Nat) (op : Operation) (steps : Nat) : List Move :=
  .begin i op :: List.replicate steps (.advance i)

namespace System

/-- The system after a move, and what can be told of it.  A node that cannot make it does not. -/
def move (s : System) : Move → Trace × System
  | .begin i op =>
    match s.party i with
    | .present (.resting n) => ([(i, .began op)], s.put i (.present (.busy (op.start n))))
    | _ => ([], s)
  | .advance i =>
    match s.party i with
    | .present (.busy (.ask r next)) =>
      let answered := Network.answer i r s.network
      ([(i, .exchanged ⟨r, answered.1⟩)],
        (s.put i (.present (.busy (next answered.1)))).withNetwork answered.2)
    | .present (.busy (.done (.ok (.again a), n))) => ([], s.put i (.present (.busy (a.turn n))))
    | .present (.busy (.done (.ok (.finish reply), n))) =>
      ([(i, .ended (.ok reply))], s.put i (.present (.resting n)))
    | .present (.busy (.done (.error e, n))) =>
      ([(i, .ended (.error e))], s.put i (.present (.resting n)))
    | _ => ([], s)

/-- The system after some moves, and what can be told of them. -/
def moves : List Move → System → Trace × System
  | [], s => ([], s)
  | m :: ms, s =>
    let (tr, s) := s.move m
    let (tr', s) := moves ms s
    (tr ++ tr', s)

end System

namespace Roster

variable {R : Roster} {tr : Trace} {s : System}

/-- **Every move can happen.** -/
theorem leads_move (R : Roster) (s : System) (m : Move) :
    R.Leads s (s.move m).1 (s.move m).2 := by
  have single : ∀ {es : Trace} {s' : System}, R.Step s es s' → R.Leads s es s' :=
    fun next => .step .refl next
  cases m with
  | begin i op =>
    unfold System.move
    dsimp only
    split
    · rename_i n hi
      exact single (.act s i _ _ (some (.began op)) hi (.begin n op) (by simp))
    · exact .refl
  | advance i =>
    unfold System.move
    dsimp only
    split
    · rename_i r next hi
      exact single (.exchange s i r next hi)
    · rename_i a n hi
      exact single (.act s i _ _ none hi (.turn a n) (by simp))
    · rename_i reply n hi
      exact single (.act s i _ _ (some (.ended (.ok reply))) hi (.finish reply n) (by simp))
    · rename_i e n hi
      exact single (.act s i _ _ (some (.ended (.error e))) hi (.fail e n) (by simp))
    · exact .refl

/-- **Whatever is played can happen.** -/
theorem leads_moves (R : Roster) (s : System) (ms : List Move) :
    R.Leads s (s.moves ms).1 (s.moves ms).2 := by
  induction ms generalizing s with
  | nil => exact .refl
  | cons m ms ih => exact (R.leads_move s m).trans (ih _)

/-- **A run can go on with whatever is played.** -/
theorem Reach.moves (h : R.Reach tr s) (ms : List Move) :
    R.Reach (tr ++ (s.moves ms).1) (s.moves ms).2 :=
  h.leads (R.leads_moves s ms)

/-- **An operation can take its course** while other nodes go on as well. -/
theorem leads_course (R : Roster) (s : System) (i : Nat) (op : Operation) (ms : List Move)
    (reply : Link.Reply) (hbegin : (s.move (.begin i op)).1 = [(i, .began op)])
    (hend : (((s.move (.begin i op)).2.moves ms).2.move (.advance i)).1 =
      [(i, .ended (.ok reply))]) :
    R.Leads s
      ((i, .began op) :: ((s.move (.begin i op)).2.moves ms).1 ++ [(i, .ended (.ok reply))])
      (((s.move (.begin i op)).2.moves ms).2.move (.advance i)).2 := by
  have hcourse := ((R.leads_move s (.begin i op)).trans (R.leads_moves _ ms)).trans
    (R.leads_move _ (.advance i))
  rw [hbegin, hend] at hcourse
  exact hcourse

/-! ## Bringing up a node -/

/-- Requests that a bare radio can make. -/
def bare : Link.Contract Unit :=
  ⟨fun _ _ => (), fun _ r => ∃ call, r = .radio call ∧ call.name ≠ .transmit⟩

theorem Reach.bare {α : Type} {Q : Unit → α → Prop} (h : R.Reach tr s) {i : Nat}
    (hi : ∀ st, s.party i ≠ .present st) {t : Link.Task α} (ht : t.Keeps bare () Q) :
    R.Reach tr (s.withNetwork (t.run (Network.surroundings i) s.network).2) := by
  induction t generalizing s with
  | done a => exact h
  | ask r next ih =>
    obtain ⟨⟨call, rfl, hcall⟩, hnext⟩ := ht
    have hstep := Reach.step h (.overhear s i call hi hcall)
    rw [List.append_nil] at hstep
    exact ih _ hstep hi (hnext _)

/-- **A node that has been brought up takes part.** -/
theorem Reach.bringUp (h : R.Reach tr s) {i : Nat} {c : Link.Config} (hc : R.config i = some c)
    (hi : s.party i = .absent) {n : Node} {network : Network}
    (hup : (Action.bringUp c).run (Network.surroundings i) s.network = (.ok n, network)) :
    R.Reach tr ((s.withNetwork network).put i (.present (.resting n))) := by
  have hkeeps : (Action.bringUp c).Keeps Roster.bare () fun _ r => ∀ n, r = .ok n → n = .fresh c :=
    Link.bringUp_keeps () fun _ call hcall => ⟨call, rfl, hcall⟩
  have hcalls := h.bare (i := i) (by simp [hi]) hkeeps
  obtain ⟨-, hfresh⟩ := hkeeps.run (Network.surroundings i) s.network
  rw [hup] at hcalls hfresh
  obtain rfl := hfresh n rfl
  have harrive := Reach.step hcalls (.arrive _ i c (Node.fresh c).sink hc hi)
  rwa [List.append_nil] at harrive

/-! ## Two nodes -/

/-- Two nodes under the default configuration, at the addresses 1 and 2. -/
def pair : Roster where
  frame := {}
  config
    | 0 => some { address := 1 }
    | 1 => some { address := 2 }
    | _ => none
  valid {i c} hc := by
    match i with
    | 0 | 1 => obtain rfl := Option.some.inj hc; rfl
    | _ + 2 => cases hc
  shared {i c} hc := by
    match i with
    | 0 | 1 => obtain rfl := Option.some.inj hc; rfl
    | _ + 2 => cases hc
  distinct {i j c d} hc hd h := by
    match i, j with
    | 0, 0 | 1, 1 => rfl
    | 0, 1 | 1, 0 =>
      obtain rfl := Option.some.inj hc
      obtain rfl := Option.some.inj hd
      exact absurd h (by decide)
    | _ + 2, _ => cases hc
    | _, _ + 2 => cases hd

/-- The two nodes of the pair when they have been brought up. -/
def pairUp : System where
  network := { medium := { stations :=
    [{ address := 1, mode := .receive }, { address := 2, mode := .receive }] } }
  party := Function.update
    (Function.update (fun _ => .absent) 0 (.present (.resting (Node.fresh { address := 1 }))))
    1 (.present (.resting (Node.fresh { address := 2 })))

/-- The nodes of the pair and the network are all there is to it. -/
theorem ext_pair {s s' : System} (hn : s.network = s'.network) (h₀ : s.party 0 = s'.party 0)
    (h₁ : s.party 1 = s'.party 1) (h : ∀ i, s.party (i + 2) = s'.party (i + 2)) : s = s' := by
  obtain ⟨network, party⟩ := s
  obtain ⟨network', party'⟩ := s'
  obtain rfl : network = network' := hn
  congr
  funext i
  match i with
  | 0 => exact h₀
  | 1 => exact h₁
  | i + 2 => exact h i

theorem reach_pairUp : pair.Reach [] pairUp := by
  have h₀ : pair.Reach [] ⟨{}, fun _ => .absent⟩ := .start {} rfl
  have h₁ := (h₀.step (.attach _ none)).step (.attach _ none)
  have h₂ := h₁.bringUp (i := 0) (c := { address := 1 }) rfl rfl rfl
  exact h₂.bringUp (i := 1) (c := { address := 2 }) rfl rfl rfl

end Roster
end PacketRadio
