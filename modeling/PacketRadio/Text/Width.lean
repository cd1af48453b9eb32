/-
# How many columns a text takes up

rflink specification, §10: `--format table`.

A text is looked at from its end and cut into clusters; it takes up what they
take up together.

| text | columns |
| --- | --- |
| a letter and marks above it | 1 |
| an ideograph | 2 |
| an emoji, or several with joiners between them | 2 |
| a flag of two regional indicators | 2 |
| a ligature | 1 |

Main statement: `width_append_blanks` (blanks behind a text add a column
each).
-/

import PacketRadio.Text.Cluster

namespace PacketRadio
namespace Text

/-- A text as it is looked at. -/
structure Measure where
  /-- The columns of the clusters that are complete. -/
  settled : Nat := 0
  /-- The cluster that may still grow. -/
  cluster : Cluster := { columns := 0 }
  deriving DecidableEq, Repr

namespace Measure

/-- The columns of all clusters. -/
def columns (m : Measure) : Nat :=
  m.settled + m.cluster.columns

/-- The measure with a character in front. -/
def step (c : Char) (m : Measure) : Measure :=
  match m.cluster.place c with
  | .joins k => { m with cluster := k }
  | .starts k => { settled := m.columns, cluster := k }

/-- The measure of a text in front of what has been measured. -/
def run (text : List Char) (m : Measure) : Measure :=
  text.foldr step m

end Measure

/-- The columns that a text takes up. -/
def width (text : List Char) : Nat :=
  (Measure.run text {}).columns

/-! ## Blanks -/

namespace Measure

/-- What is settled decides nothing. -/
theorem run_settled (text : List Char) (n : Nat) (m : Measure) :
    run text { m with settled := m.settled + n } =
      { run text m with settled := (run text m).settled + n } := by
  induction text with
  | nil => rfl
  | cons c rest ih =>
    simp only [run, List.foldr_cons] at ih ⊢
    rw [ih]
    simp only [step]
    split
    · rfl
    · simp only [columns]
      congr 1
      omega

/-- A closed cluster counts as settled. -/
theorem columns_run_closed (text : List Char) (s n : Nat) :
    (run text { settled := s, cluster := { columns := n } }).columns =
      (run text {}).columns + (s + n) := by
  rcases List.eq_nil_or_concat text with rfl | ⟨rest, c, rfl⟩
  · simp [run, columns]
  · obtain ⟨k, hn, h0⟩ := Cluster.place_closed n 0 c
    have hl : run (rest ++ [c]) { settled := s, cluster := { columns := n } } =
        run rest { settled := 0 + (s + n), cluster := k } := by
      simp [run, step, hn, columns]
    have hr : run (rest ++ [c]) {} = run rest { settled := 0, cluster := k } := by
      simp [run, step, h0, columns]
    rw [List.concat_eq_append, hl, hr, run_settled rest (s + n) { settled := 0, cluster := k }]
    simp only [columns]
    omega

/-- Blanks are closed clusters. -/
theorem run_blanks (n : Nat) :
    run (List.replicate (n + 1) ' ') {} = { settled := n, cluster := { columns := 1 } } := by
  induction n with
  | zero => simp [run, step, Cluster.place_blank, columns]
  | succ n ih =>
    rw [List.replicate_succ]
    simp only [run, List.foldr_cons] at ih ⊢
    rw [ih]
    simp [step, Cluster.place_blank, columns]

end Measure

/-- **Blanks behind a text add a column each.** -/
theorem width_append_blanks (text : List Char) (n : Nat) :
    width (text ++ List.replicate n ' ') = width text + n := by
  cases n with
  | zero => simp
  | succ n =>
    have h : Measure.run (text ++ List.replicate (n + 1) ' ') {} =
        Measure.run text { settled := n, cluster := { columns := 1 } } := by
      rw [← Measure.run_blanks]
      simp [Measure.run]
    rw [width, h, Measure.columns_run_closed, width]

end Text
end PacketRadio
