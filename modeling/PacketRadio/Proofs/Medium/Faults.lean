/-
# What the fault plan hits

rflink specification, §4.2: drop every Nth transmission, corrupt every Nth
transmission, explicit one-shot drops.

All radios share one count of transmissions, and credits go before periods.

| transmission number `s` | if |
| --- | --- |
| is lost, and a credit is used up | a credit is outstanding |
| is lost | `dropEvery` divides `s` |
| goes out damaged | it is not lost, it is not empty, and `corruptEvery` divides `s` |
| goes out as it is | none of these |

A period that is absent or zero divides no number.  It stands for zero here
(`FaultPlan.cycle`), by which nothing positive is divisible.

Main statements: `Airing.fares` (what becomes of one transmission),
`faults_after` (how many there were of a sort), and `faults_planned`.
-/

import PacketRadio.Proofs.Medium.Between
import PacketRadio.Proofs.Medium.Conservation
import PacketRadio.Proofs.Medium.Order
import Mathlib.Data.Nat.GCD.Basic
import Mathlib.Algebra.Order.Group.Nat

namespace PacketRadio

/-! ## Periods -/

namespace FaultPlan

/-- A period as a number, which is zero if the fault never comes round. -/
def cycle (period : Option Nat) : Nat :=
  period.getD 0

/-- The fault with this period is due at transmission number `seq`. -/
def Due (period : Option Nat) (seq : Nat) : Prop :=
  0 < cycle period ∧ cycle period ∣ seq

theorem hits_eq_true_iff {period : Option Nat} {seq : Nat} :
    hits period seq = true ↔ Due period seq := by
  cases period with
  | none => simp [hits, Due, cycle]
  | some n => simp [hits, Due, cycle, Nat.dvd_iff_mod_eq_zero]

instance (period : Option Nat) (seq : Nat) : Decidable (Due period seq) :=
  decidable_of_iff _ hits_eq_true_iff

/-- A fault that comes round is due at the numbers that its period divides. -/
theorem due_iff_dvd {period : Option Nat} {seq : Nat} (hseq : 0 < seq) :
    Due period seq ↔ cycle period ∣ seq :=
  ⟨And.right, fun h => ⟨Nat.pos_of_dvd_of_pos h hseq, h⟩⟩

/-- **Of the first `count` transmissions every n-th is hit.** -/
theorem countP_due (period : Option Nat) (count : Nat) :
    (List.range' 1 count).countP (fun seq => Due period seq) = count / cycle period := by
  induction count with
  | zero => simp
  | succ count ih =>
    rw [List.range'_1_concat, List.countP_append, ih, Nat.succ_div, Nat.add_comm 1 count]
    simp [List.countP_singleton, due_iff_dvd (Nat.succ_pos count)]

/-- **Of those that one fault hits, another one leaves out the common multiples.** -/
theorem countP_due_only (first second : Option Nat) (count : Nat) :
    (List.range' 1 count).countP (fun seq => ¬Due first seq ∧ Due second seq) =
      count / cycle second - count / Nat.lcm (cycle first) (cycle second) := by
  have hsplit : (List.range' 1 count).countP (fun seq => ¬Due first seq ∧ Due second seq) +
      count / Nat.lcm (cycle first) (cycle second) = count / cycle second := by
    induction count with
    | zero => simp
    | succ count ih =>
      have hboth := Nat.lcm_dvd_iff (m := cycle first) (n := cycle second) (k := count + 1)
      rw [List.range'_1_concat, List.countP_append, Nat.succ_div, Nat.succ_div, ← ih,
        Nat.add_comm 1 count]
      simp only [List.countP_singleton, due_iff_dvd (Nat.succ_pos count), hboth,
        decide_eq_true_eq]
      by_cases hfirst : cycle first ∣ count + 1 <;> by_cases hsecond : cycle second ∣ count + 1 <;>
        simp [hfirst, hsecond] <;> omega
  omega

end FaultPlan

namespace Medium

section

variable (m : Medium)

/-! ## Credits -/

/-- The credits outstanding after a past: what is given is added, up to the largest credit, and a
transmission uses one up if there is one. -/
def outstanding : List Command → Nat
  | [] => m.dropCredit
  | .dropNext count :: past => min (outstanding past + count) maxCredit
  | c :: past => outstanding past - (m.airs past c).length

/-- A command makes one transmission or none. -/
theorem airs_cases (past : List Command) (c : Command) :
    (∃ i bytes, c = .call i (.transmit bytes) ∧ ((m.after past).live? i).isSome ∧
      m.airs past c = [⟨past, i, bytes⟩]) ∨ m.airs past c = [] := by
  unfold airs
  split
  · split
    · exact .inl ⟨_, _, rfl, ‹_›, rfl⟩
    · exact .inr rfl
  · exact .inr rfl

/-- **What a transmission does to the counts of faults and to the credit.** -/
theorem counts_transmit {i : Nat} (hlive : (m.live? i).isSome) (bytes : Bytes) :
    let fate := m.fate (m.stats.transmissions + 1) bytes
    let m' := m.obey (.call i (.transmit bytes))
    m'.stats.dropped =
        m.stats.dropped + (if fate = .lostOnCredit ∨ fate = .lost then 1 else 0) ∧
      m'.stats.corrupted = m.stats.corrupted + (if fate = .damaged then 1 else 0) ∧
      m'.dropCredit = m.dropCredit - 1 := by
  intro fate m'
  have hlive' : ((m.modify i fun s => { s with mode := .transmit }).live? i).isSome := by
    rwa [live?_modify_mode]
  have hm' : m' = (((m.modify i fun s => { s with mode := .transmit }).recount fun s =>
      { s with transmissions := s.transmissions + 1 }).suffer i (address _ i) bytes fate).modify i
        fun s => { s with mode := .idle } :=
    congrArg (fun m : Medium => m.modify i fun s => { s with mode := .idle })
      (broadcast_of_live _ hlive' bytes)
  have hnone : fate ≠ .lostOnCredit → m.dropCredit = m.dropCredit - 1 := fun hfate => by
    rw [dropCredit_of_fate hfate]
  rw [hm']
  cases hfate : fate with
  | lostOnCredit => exact ⟨rfl, rfl, rfl⟩
  | lost => exact ⟨rfl, rfl, hnone (by simp [hfate])⟩
  | damaged => exact ⟨rfl, rfl, hnone (by simp [hfate])⟩
  | intact => exact ⟨rfl, rfl, hnone (by simp [hfate])⟩

/-- **A command that puts nothing on the air** leaves all counts alone, and the credit too unless
it gives some. -/
theorem counts_quiet {past : List Command} {c : Command} (h : m.airs past c = []) :
    ((m.after past).obey c).stats = (m.after past).stats ∧
      ((∀ count, c ≠ .dropNext count) →
        ((m.after past).obey c).dropCredit = (m.after past).dropCredit) := by
  cases c with
  | call i call =>
    rcases (m.after past).call_changes i call with ⟨bytes, rfl⟩ | hsame | ⟨f, hmodify, -⟩
    · have hgone : ((m.after past).modify i fun s => { s with mode := .transmit }).live? i =
          none := by
        have hdead : ¬((m.after past).live? i).isSome := fun hlive => by
          rw [airs, if_pos hlive] at h
          cases h
        rwa [← live?_modify_mode _ i i .transmit, Option.not_isSome_iff_eq_none] at hdead
      simp only [obey, Medium.call, broadcast, hgone]
      exact ⟨rfl, fun _ => rfl⟩
    · exact ⟨congrArg stats hsame, fun _ => congrArg dropCredit hsame⟩
    · rw [obey, hmodify]
      exact ⟨rfl, fun _ => rfl⟩
  | inject i r =>
    rw [obey]
    split <;> exact ⟨rfl, fun _ => rfl⟩
  | setSevered a b cut => cases cut <;> exact ⟨rfl, fun _ => rfl⟩
  | dropNext count => exact ⟨rfl, fun hgive => absurd rfl (hgive count)⟩
  | _ => exact ⟨rfl, fun _ => rfl⟩

/-- **The medium holds the credits that are outstanding.** -/
theorem dropCredit_after (past : List Command) :
    (m.after past).dropCredit = m.outstanding past := by
  induction past with
  | nil => rfl
  | cons c past ih =>
    rcases m.airs_cases past c with ⟨i, bytes, rfl, hlive, hairs⟩ | hairs
    · obtain ⟨-, -, hcredit⟩ := (m.after past).counts_transmit hlive bytes
      rw [after, hcredit, ih, outstanding, hairs, List.length_singleton]
      intro count hgive
      cases hgive
    · cases c with
      | dropNext count => exact congrArg (fun n => min (n + count) maxCredit) ih
      | _ =>
        rw [after, (m.counts_quiet hairs).2 (by simp), ih, outstanding, hairs, List.length_nil,
          Nat.sub_zero]
        intro count hgive
        cases hgive

end

/-! ## One transmission -/

namespace Airing

variable (m : Medium) (a : Airing)

/-- It is lost: a credit is outstanding, or the period of losses comes round. -/
def Lost : Prop :=
  0 < m.outstanding a.before ∨ FaultPlan.Due m.faults.dropEvery (a.number m)

instance : Decidable (a.Lost m) :=
  inferInstanceAs (Decidable (_ ∨ _))

/-- It goes out damaged: it is not lost and not empty, and the period of damage comes round. -/
def Damaged : Prop :=
  ¬a.Lost m ∧ a.bytes ≠ [] ∧ FaultPlan.Due m.faults.corruptEvery (a.number m)

instance : Decidable (a.Damaged m) :=
  inferInstanceAs (Decidable (_ ∧ _ ∧ _))

/-- What goes out of it unless it is lost: what was sent, with the last bit of the last byte flipped
if it is damaged. -/
def issue : Bytes :=
  if a.Damaged m then a.bytes.modify (a.bytes.length - 1) (· ^^^ 1) else a.bytes

/-- The command that makes it. -/
def command : Command :=
  .call a.sender (.transmit a.bytes)

/-- What becomes of a transmission, as it shows on the medium. -/
structure Fares : Prop where
  /-- It is counted, and its number is the count. -/
  number : (m.after (a.command :: a.before)).stats.transmissions = a.number m
  /-- It uses up a credit if there is one. -/
  credit : (m.after (a.command :: a.before)).dropCredit = m.outstanding a.before - 1
  /-- It is counted as lost if it is. -/
  dropped : (m.after (a.command :: a.before)).stats.dropped =
    (m.after a.before).stats.dropped + if a.Lost m then 1 else 0
  /-- It is counted as damaged if it is. -/
  corrupted : (m.after (a.command :: a.before)).stats.corrupted =
    (m.after a.before).stats.corrupted + if a.Damaged m then 1 else 0
  /-- It is offered to nobody if it is lost, and else to each radio that it can reach. -/
  offered : (m.after (a.command :: a.before)).stats.delivered +
      (m.after (a.command :: a.before)).stats.overflowed =
    (m.after a.before).stats.delivered + (m.after a.before).stats.overflowed +
      if a.Lost m then 0 else (m.after a.before).hearers a.sender
  /-- It changes no queue if it is lost, and else at most puts what goes out of it at the end. -/
  queues : ∀ i, (m.after (a.command :: a.before)).fifo i = (m.after a.before).fifo i ∨
    ¬a.Lost m ∧ (m.after (a.command :: a.before)).fifo i =
      (m.after a.before).fifo i ++ [⟨a.issue m, a.rssi m i⟩]

variable {m a}

/-- **The fate of a transmission is what the credits and its number say.** -/
theorem fate_eq (hnone : m.stats.transmissions = 0) :
    (m.after a.before).fate ((m.after a.before).stats.transmissions + 1) a.bytes =
      if 0 < m.outstanding a.before then .lostOnCredit
      else if a.Lost m then .lost else if a.Damaged m then .damaged else .intact := by
  have hnumber : (m.after a.before).stats.transmissions + 1 = a.number m := by
    rw [transmissions_after, hnone, Nat.zero_add, number]
  rw [hnumber, fate, dropCredit_after, (m.constants_after a.before).2]
  by_cases hcredit : 0 < m.outstanding a.before
  · rw [if_pos hcredit, if_pos hcredit]
  · have hlost : a.Lost m ↔ FaultPlan.Due m.faults.dropEvery (a.number m) := or_iff_right hcredit
    rw [if_neg hcredit, if_neg hcredit]
    simp only [FaultPlan.hits_eq_true_iff, ← hlost, Bool.and_eq_true, Bool.not_eq_true',
      List.isEmpty_eq_false_iff]
    split
    · rfl
    · rename_i hspared
      simp only [Damaged, hspared, not_false_eq_true, true_and, and_comm]

/-- What is not lost carries what goes out of it. -/
theorem carried_eq_issue (hspared : ¬a.Lost m) : a.carried m = a.issue m := by
  unfold carried isHit issue
  by_cases hdue : FaultPlan.Due m.faults.corruptEvery (a.number m)
  · rw [if_pos (FaultPlan.hits_eq_true_iff.2 hdue)]
    split
    · rfl
    · rename_i hwhole
      have hempty : a.bytes = [] := by
        by_contra hbytes
        exact hwhole ⟨hspared, hbytes, hdue⟩
      rw [hempty, List.modify_nil]
  · rw [if_neg fun hhits => hdue (FaultPlan.hits_eq_true_iff.1 hhits), if_neg fun h => hdue h.2.2]

/-- It is lost in the one way or in the other. -/
theorem fate_lost_iff (hnone : m.stats.transmissions = 0) :
    let fate := (m.after a.before).fate ((m.after a.before).stats.transmissions + 1) a.bytes
    fate = .lostOnCredit ∨ fate = .lost ↔ a.Lost m := by
  intro fate
  have hfate : fate = _ := fate_eq hnone
  rw [hfate]
  by_cases hcredit : 0 < m.outstanding a.before
  · simp [hcredit, Lost]
  · rw [if_neg hcredit]
    split_ifs <;> simp [*]

/-- It is damaged if it is not lost and the damage finds something. -/
theorem fate_damaged_iff (hnone : m.stats.transmissions = 0) :
    (m.after a.before).fate ((m.after a.before).stats.transmissions + 1) a.bytes = .damaged ↔
      a.Damaged m := by
  rw [fate_eq hnone]
  by_cases hcredit : 0 < m.outstanding a.before
  · simp [hcredit, Damaged, Lost]
  · rw [if_neg hcredit]
    split_ifs with hlost hdamaged
    · simp [Damaged, hlost]
    · simp [hdamaged]
    · simp [hdamaged]

/-- What a transmission is counted as, and the credit that it leaves. -/
theorem counts (hnone : m.stats.transmissions = 0)
    (hlive : ((m.after a.before).live? a.sender).isSome) :
    (m.after (a.command :: a.before)).dropCredit = m.outstanding a.before - 1 ∧
      (m.after (a.command :: a.before)).stats.dropped =
        (m.after a.before).stats.dropped + (if a.Lost m then 1 else 0) ∧
      (m.after (a.command :: a.before)).stats.corrupted =
        (m.after a.before).stats.corrupted + if a.Damaged m then 1 else 0 := by
  obtain ⟨hdropped, hcorrupted, hcredit⟩ := (m.after a.before).counts_transmit hlive a.bytes
  simp only [fate_lost_iff hnone] at hdropped
  simp only [fate_damaged_iff hnone] at hcorrupted
  rw [dropCredit_after] at hcredit
  exact ⟨hcredit, hdropped, hcorrupted⟩

/-- **What becomes of a transmission.** -/
theorem fares (hnone : m.stats.transmissions = 0) (hlinks : m.linkRssi = [])
    (hlive : ((m.after a.before).live? a.sender).isSome) : a.Fares m := by
  obtain ⟨hcredit, hdropped, hcorrupted⟩ := counts hnone hlive
  obtain ⟨hcounted, hcopies⟩ := (m.after a.before).airs_transmit hlive a.bytes
  rw [transmissions_after, hnone, Nat.zero_add] at hcounted
  refine ⟨hcounted, hcredit, hdropped, hcorrupted, ?_, fun i => ?_⟩
  · by_cases hlost : a.Lost m
    · rw [if_pos hlost] at hdropped ⊢
      rw [Nat.add_zero]
      rcases hcopies with ⟨-, hdelivered, hoverflowed, -⟩ | ⟨hsame, -⟩
      · exact congrArg₂ (· + ·) hdelivered hoverflowed
      · exact absurd (hdropped.symm.trans hsame) (Nat.succ_ne_self _)
    · rw [if_neg hlost] at hdropped ⊢
      rcases hcopies with ⟨hmore, -⟩ | ⟨-, hoffered⟩
      · exact absurd (hmore.symm.trans hdropped) (Nat.succ_ne_self _)
      · exact hoffered
  · by_cases hlost : a.Lost m
    · rw [if_pos hlost] at hdropped
      rcases hcopies with ⟨-, -, -, hqueues⟩ | ⟨hsame, -⟩
      · exact .inl (hqueues i)
      · exact absurd (hdropped.symm.trans hsame) (Nat.succ_ne_self _)
    · rcases (m.after a.before).fifo_transmit a.sender a.bytes i with hsame | ⟨-, -, hmore⟩
      · exact .inl hsame
      · rw [← copy_eq hnone hlinks, copy, carried_eq_issue hlost] at hmore
        exact .inr ⟨hlost, hmore⟩

end Airing

/-! ## All transmissions -/

section

variable {m : Medium}

/-- A transmission was made by a radio on the medium. -/
theorem live_of_airing {past : List Command} {a : Airing} (ha : a ∈ m.airings past) :
    ((m.after a.before).live? a.sender).isSome := by
  induction past with
  | nil => cases ha
  | cons c past ih =>
    rw [airings, chronicle, List.mem_append] at ha
    rcases ha with ha | ha
    · exact ih ha
    · rcases m.airs_cases past c with ⟨i, bytes, rfl, hlive, hairs⟩ | hairs
      · rw [hairs, List.mem_singleton] at ha
        rwa [ha]
      · rw [hairs] at ha
        cases ha

/-- **Transmissions are numbered in the order in which they were made**, whoever made them. -/
theorem number_airings (m : Medium) (past : List Command) :
    (m.airings past).map (Airing.number m) = List.range' 1 (m.airings past).length := by
  induction past with
  | nil => rfl
  | cons c past ih =>
    have hairings : m.airings (c :: past) = m.airings past ++ m.airs past c := rfl
    rw [hairings]
    rcases m.airs_cases past c with ⟨i, bytes, rfl, hlive, hairs⟩ | hairs
    · rw [hairs, List.map_append, ih, List.length_append, List.length_singleton,
        List.range'_1_concat, Nat.add_comm 1]
      rfl
    · rw [hairs, List.append_nil, ih]

/-- **The medium counts what is lost and what is damaged**, each transmission once. -/
theorem faults_after (hnone : m.stats.transmissions = 0) (past : List Command) :
    (m.after past).stats.dropped =
        m.stats.dropped + (m.airings past).countP (Airing.Lost m) ∧
      (m.after past).stats.corrupted =
        m.stats.corrupted + (m.airings past).countP (Airing.Damaged m) := by
  induction past with
  | nil => exact ⟨rfl, rfl⟩
  | cons c past ih =>
    obtain ⟨hlost, hdamaged⟩ := ih
    have hairings : m.airings (c :: past) = m.airings past ++ m.airs past c := rfl
    rw [hairings]
    rcases m.airs_cases past c with ⟨i, bytes, rfl, hlive, hairs⟩ | hairs
    · obtain ⟨-, hdropped, hcorrupted⟩ := Airing.counts (a := ⟨past, i, bytes⟩) hnone hlive
      rw [hairs, List.countP_append, List.countP_append, ← Nat.add_assoc, ← Nat.add_assoc,
        ← hlost, ← hdamaged, List.countP_singleton, List.countP_singleton]
      simp only [decide_eq_true_eq]
      exact ⟨hdropped, hcorrupted⟩
    · rw [hairs, List.append_nil, after, (m.counts_quiet hairs).1]
      exact ⟨hlost, hdamaged⟩

/-! ## Periods alone -/

/-- Nothing is outstanding if nothing was given. -/
theorem outstanding_eq_zero (hcredit : m.dropCredit = 0) {past : List Command}
    (h : ∀ count, .dropNext count ∉ past) : m.outstanding past = 0 := by
  induction past with
  | nil => exact hcredit
  | cons c past ih =>
    have hbefore := ih fun count hmem => h count (List.mem_cons_of_mem _ hmem)
    rw [outstanding, hbefore, Nat.zero_sub]
    exact fun count hgive => h count (hgive ▸ List.mem_cons_self)

/-- **Without credits the number decides.** -/
theorem lost_iff_due (hcredit : m.dropCredit = 0) {past : List Command}
    (h : ∀ count, .dropNext count ∉ past) {a : Airing} (ha : a ∈ m.airings past) :
    a.Lost m ↔ FaultPlan.Due m.faults.dropEvery (a.number m) := by
  refine or_iff_right ?_
  have hbefore : m.outstanding a.before = 0 := outstanding_eq_zero hcredit fun count hmem =>
    h count ((suffix_of_airing ha).subset (List.mem_cons_of_mem _ hmem))
  rw [hbefore]
  exact Nat.lt_irrefl 0

/-- Transmissions that their numbers pick out are as many as the numbers picked. -/
theorem countP_airings {past : List Command} {p : Airing → Bool} {q : Nat → Bool}
    (h : ∀ a ∈ m.airings past, p a = true ↔ q (a.number m) = true) :
    (m.airings past).countP p = (List.range' 1 (m.airings past).length).countP q := by
  rw [← number_airings, List.countP_map]
  exact List.countP_congr h

end

/-- **The fault plan hits exactly the transmissions that it names.**  Whatever has been done to a
medium since it was set up: transmissions are numbered from one on, whichever radio makes them.
Each is lost, and then counted as lost and offered to nobody, exactly if a credit is outstanding,
one of which it uses up in any case, or the period of losses divides its number.  It is damaged, and
counted as that, exactly if it is neither lost nor empty and the period of damage divides its
number.  The counts of the medium say how many there were of each sort.  If no credits were given,
these are the numbers that the periods divide, less those that both divide as what is lost is not
damaged. -/
theorem faults_planned (capacity : Nat) (defaultRssi : Int) (faults : FaultPlan)
    (severed : List (Address × Address)) (past : List Command) :
    let m₀ := fresh capacity defaultRssi faults severed
    let m := m₀.after past
    let count := m.stats.transmissions
    let losses := FaultPlan.cycle faults.dropEvery
    let damages := FaultPlan.cycle faults.corruptEvery
    (m₀.airings past).map (Airing.number m₀) = List.range' 1 count ∧
      (∀ a ∈ m₀.airings past, a.Fares m₀) ∧
      m.dropCredit = m₀.outstanding past ∧
      m.stats.dropped = (m₀.airings past).countP (Airing.Lost m₀) ∧
      m.stats.corrupted = (m₀.airings past).countP (Airing.Damaged m₀) ∧
      ((∀ credit, .dropNext credit ∉ past) → m.stats.dropped = count / losses ∧
        ((∀ a ∈ m₀.airings past, a.bytes ≠ []) →
          m.stats.corrupted = count / damages - count / Nat.lcm losses damages ∧
            (losses = 0 → m.stats.corrupted = count / damages))) := by
  intro m₀ m count losses damages
  have hcount : (m₀.airings past).length = count := by
    rw [show count = _ from m₀.transmissions_after past]
    exact (Nat.zero_add _).symm
  have hnumbers := m₀.number_airings past
  obtain ⟨hdropped, hcorrupted⟩ := faults_after (m := m₀) rfl past
  rw [show m₀.stats.dropped = 0 from rfl, Nat.zero_add] at hdropped
  rw [show m₀.stats.corrupted = 0 from rfl, Nat.zero_add] at hcorrupted
  rw [hcount] at hnumbers
  refine ⟨hnumbers, fun a ha => Airing.fares rfl rfl (live_of_airing ha),
    m₀.dropCredit_after past, hdropped, hcorrupted, fun hgiven => ⟨?_, fun hbytes => ?_⟩⟩
  · rw [hdropped, countP_airings (q := fun seq => FaultPlan.Due faults.dropEvery seq), hcount,
      FaultPlan.countP_due]
    intro a ha
    rw [decide_eq_true_iff, decide_eq_true_iff]
    exact lost_iff_due rfl hgiven ha
  · have hdamaged : m.stats.corrupted = count / damages - count / Nat.lcm losses damages := by
      rw [hcorrupted, countP_airings (q := fun seq =>
        ¬FaultPlan.Due faults.dropEvery seq ∧ FaultPlan.Due faults.corruptEvery seq), hcount,
        FaultPlan.countP_due_only]
      intro a ha
      have hlost := lost_iff_due (m := m₀) rfl hgiven ha
      simp only [decide_eq_true_eq, Airing.Damaged, hlost, hbytes a ha, ne_eq, not_false_eq_true,
        true_and]
      exact Iff.rfl
    refine ⟨hdamaged, fun hnever => ?_⟩
    rw [hdamaged, hnever, Nat.lcm_zero_left, Nat.div_zero, Nat.sub_zero]

/-- A medium that loses every second transmission and damages every third. -/
def faulty : Medium :=
  fresh 8 (-40) { dropEvery := some 2, corruptEvery := some 3 } []

/-- Two radios come and send in turns. -/
def turns : List Command :=
  (List.range 6).map (fun k => .call (k % 2) (.transmit [UInt8.ofNat k])) ++
    [.attach none, .attach none]

/-- Of the six transmissions three are lost, and one of the others is damaged. -/
theorem faults_planned_turns :
    (∀ credit, .dropNext credit ∉ turns) ∧ (∀ a ∈ faulty.airings turns, a.bytes ≠ []) ∧
      (faulty.after turns).stats.dropped = 3 ∧ (faulty.after turns).stats.corrupted = 1 := by
  have hgiven : ∀ credit, .dropNext credit ∉ turns := by
    intro credit
    simp [turns]
  have hbytes : ∀ a ∈ faulty.airings turns, a.bytes ≠ [] := by
    decide +kernel
  obtain ⟨-, -, -, -, -, hperiods⟩ :=
    faults_planned 8 (-40) { dropEvery := some 2, corruptEvery := some 3 } [] turns
  obtain ⟨hdropped, hdamaged⟩ := hperiods hgiven
  have hcount : (faulty.after turns).stats.transmissions = 6 := by
    decide +kernel
  exact ⟨hgiven, hbytes, hdropped.trans (congrArg (· / 2) hcount),
    (hdamaged hbytes).1.trans (congrArg (fun n => n / 3 - n / Nat.lcm 2 3) hcount)⟩

end Medium
end PacketRadio
