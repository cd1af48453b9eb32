/-
# The medium neither reorders nor repeats

rflink specification, §4.2: every transmission is offered to every other
attached radio.

What comes into the queue of a radio is either put there past the medium or a
copy of a transmission.  In the order of the queue the copies are those of a
selection of what the other radios sent, in the order in which it was sent.

| of a copy | is |
| --- | --- |
| the bytes | what was sent, with its last bit flipped if the periodic damage hit it |
| the signal strength | what was set last for the two addresses, or the default |

Main statement: `copies_follow_airings`.
-/

import PacketRadio.Proofs.Medium.Past

namespace PacketRadio
namespace Medium

open Radio (Reception)

/-! ## Copies -/

namespace Airing

variable (m : Medium) (a : Airing)

/-- The number of a transmission, the first being number one. -/
def number : Nat :=
  (m.airings a.before).length + 1

/-- The address of a station when it was made. -/
def address (i : Nat) : Address :=
  (m.after a.before).address i

/-- The periodic damage hits it. -/
def isHit : Bool :=
  FaultPlan.hits m.faults.corruptEvery (a.number m)

/-- What all copies of it carry: what was sent, with the last bit of the last byte flipped if it is
hit. -/
def carried : Bytes :=
  if a.isHit m then a.bytes.modify (a.bytes.length - 1) (· ^^^ 1) else a.bytes

/-- Its signal strength at a station: what had been set last for the two addresses, or the
default. -/
def rssi (i : Nat) : Int :=
  (a.before.findSome? (Command.linkRssi? (a.address m a.sender) (a.address m i))).getD m.defaultRssi

/-- Its copy at a station. -/
def copy (i : Nat) : Reception :=
  ⟨a.carried m, a.rssi m i⟩

end Airing

/-- What comes into a queue. -/
inductive Arrival where
  /-- A copy of a transmission. -/
  | copied (a : Airing)
  /-- A frame that is put there past the medium. -/
  | injected (r : Reception)

namespace Arrival

/-- What waits in the queue of a station then. -/
def reception (m : Medium) (i : Nat) : Arrival → Reception
  | .copied a => a.copy m i
  | .injected r => r

/-- The transmission that it is a copy of. -/
def airing? : Arrival → Option Airing
  | .copied a => some a
  | .injected _ => none

/-- The frame that was put there past the medium. -/
def injection? : Arrival → Option Reception
  | .copied _ => none
  | .injected r => some r

end Arrival

/-- **Damage flips the last bit of the last byte.** -/
theorem damage_eq_modify (bytes : Bytes) :
    damage bytes = bytes.modify (bytes.length - 1) (· ^^^ 1) := by
  induction bytes with
  | nil => rfl
  | cons b rest ih =>
    cases rest with
    | nil => rfl
    | cons b' rest =>
      have hdamage : damage (b :: b' :: rest) = b :: damage (b' :: rest) := rfl
      rw [hdamage, ih]
      rfl

/-- Damage is to the last bit of the last byte, if there is one. -/
theorem damage_eq (bytes : Bytes) : damage bytes = bytes ∨
    ∃ lead last, bytes = lead ++ [last] ∧ damage bytes = lead ++ [last ^^^ 1] := by
  induction bytes with
  | nil => exact .inl rfl
  | cons b rest ih =>
    cases rest with
    | nil => exact .inr ⟨[], b, rfl, rfl⟩
    | cons b' rest =>
      have hdamage : damage (b :: b' :: rest) = b :: damage (b' :: rest) := rfl
      rw [hdamage]
      rcases ih with hsame | ⟨lead, last, hbytes, hlast⟩
      · exact .inl (by rw [hsame])
      · exact .inr ⟨b :: lead, last, by rw [hbytes]; rfl, by rw [hlast]; rfl⟩

/-- **A transmission carries what was sent**, unless the periodic damage flips the last bit. -/
theorem Airing.carried_eq (m : Medium) (a : Airing) : a.carried m = a.bytes ∨
    a.isHit m = true ∧ ∃ lead last, a.bytes = lead ++ [last] ∧
      a.carried m = lead ++ [last ^^^ 1] := by
  unfold Airing.carried
  split
  · rename_i hhit
    rw [← damage_eq_modify]
    exact (damage_eq a.bytes).imp_right fun hflipped => ⟨hhit, hflipped⟩
  · exact .inl rfl

/-! ## Queues -/

section

variable {m : Medium} {past : List Command} {i : Nat} {arrivals : List Arrival}

/-- A transmission was made in the past that it tells of. -/
theorem suffix_of_airing {a : Airing} (ha : a ∈ m.airings past) :
    .call a.sender (.transmit a.bytes) :: a.before <:+ past := by
  induction past with
  | nil => cases ha
  | cons c past ih =>
    rw [airings, chronicle, List.mem_append] at ha
    rcases ha with ha | ha
    · exact (ih ha).trans (List.suffix_cons c past)
    · unfold airs at ha
      split at ha
      · split at ha
        · obtain rfl := List.mem_singleton.1 ha
          exact List.suffix_refl _
        · cases ha
      · cases ha

/-- **What is lost is lost when the radio leaves.** -/
theorem gone_or_losses (m : Medium) (past : List Command) (i : Nat) :
    (m.after past).Gone i ∨ (m.losses past).at i = [] := by
  induction past with
  | nil => exact .inr rfl
  | cons c past ih =>
    rw [after, losses, chronicle, Log.at_append]
    rcases ih with hgone | hnone
    · exact .inl (hgone.obey c)
    · rw [show Log.at (chronicle _ past) i = [] from hnone]
      cases c with
      | detach j =>
        by_cases hj : i = j
        · subst hj
          cases hs : (m.after past).stations[i]? with
          | none => exact .inr (by simp [loses, fifo, hs])
          | some s => exact .inl (gone_detach hs)
        · exact .inr (by rw [loses, Log.at_other hj]; rfl)
      | _ => exact .inr rfl

/-- These have come into the queue of a station, in this order. -/
structure Received (m : Medium) (past : List Command) (i : Nat) (arrivals : List Arrival) :
    Prop where
  /-- The radio took them, or they were lost when it left, or they wait. -/
  order : arrivals.map (Arrival.reception m i) =
    (m.takings past).at i ++ (m.losses past).at i ++ (m.after past).fifo i
  /-- The copies are of a selection of what the other radios sent. -/
  copies : (arrivals.filterMap Arrival.airing?).Sublist
    ((m.airings past).filter (·.sender ≠ i))
  /-- The others were put there past the medium. -/
  injections : arrivals.filterMap Arrival.injection? = (m.injections past).at i

/-- The copy of a transmission is what it puts into a queue. -/
theorem copy_eq (hnone : m.stats.transmissions = 0) (hlinks : m.linkRssi = []) (sender : Nat)
    (bytes : Bytes) : Airing.copy m ⟨past, sender, bytes⟩ i =
      ⟨(m.after past).carried bytes,
        (m.after past).rssi ((m.after past).address sender) ((m.after past).address i)⟩ := by
  have hnumber : (m.after past).stats.transmissions + 1 = (m.airings past).length + 1 := by
    rw [transmissions_after, hnone, Nat.zero_add]
  have hdefault : ∀ src dst, m.rssi src dst = m.defaultRssi := fun src dst => by
    simp [Medium.rssi, hlinks]
  rw [rssi_after, hdefault, carried, (m.constants_after past).2, hnumber, damage_eq_modify]
  rfl

/-- **One more command.** -/
theorem Received.next (h : Received m past i arrivals) (hnone : m.stats.transmissions = 0)
    (hlinks : m.linkRssi = []) (c : Command) :
    ∃ arrivals', Received m (c :: past) i arrivals' := by
  have hchange := (m.after past).change_obey c i
  have hairings : m.airings (c :: past) = m.airings past ++ m.airs past c := rfl
  have htakings : (m.takings (c :: past)).at i =
      (m.takings past).at i ++ Log.at ((m.after past).takes c) i := Log.at_append _ _ i
  have hlosses : (m.losses (c :: past)).at i =
      (m.losses past).at i ++ Log.at ((m.after past).loses c) i := Log.at_append _ _ i
  have hinjections : (m.injections (c :: past)).at i =
      (m.injections past).at i ++ Log.at ((m.after past).injects c) i := Log.at_append _ _ i
  have hafter : (m.after (c :: past)).fifo i = ((m.after past).obey c).fifo i := rfl
  -- What is sent may be heard later only, by the others.
  have hcopies : (arrivals.filterMap Arrival.airing?).Sublist
      ((m.airings (c :: past)).filter (·.sender ≠ i)) := by
    rw [hairings, List.filter_append]
    exact h.copies.trans (List.sublist_append_left _ _)
  generalize ((m.after past).obey c).fifo i = fifo at hchange hafter
  generalize Log.at ((m.after past).takes c) i = taken at hchange htakings
  generalize Log.at ((m.after past).loses c) i = lost at hchange hlosses
  generalize Log.at ((m.after past).injects c) i = injected at hchange hinjections
  cases hchange with
  | none c =>
    refine ⟨arrivals, ?_, hcopies, ?_⟩
    · rw [htakings, hlosses, hafter, List.append_nil, List.append_nil, h.order]
    · rw [hinjections, List.append_nil, h.injections]
  | @taken r rest call hlive hfifo =>
    have hnolosses : (m.losses past).at i = [] := by
      refine (gone_or_losses m past i).resolve_left fun hgone => ?_
      simp [hgone.not_live] at hlive
    refine ⟨arrivals, ?_, hcopies, ?_⟩
    · rw [htakings, hlosses, hafter, h.order, hnolosses, hfifo]
      simp
    · rw [hinjections, List.append_nil, h.injections]
  | left =>
    refine ⟨arrivals, ?_, hcopies, ?_⟩
    · rw [htakings, hlosses, hafter, h.order]
      simp
    · rw [hinjections, List.append_nil, h.injections]
  | injected r hlive =>
    refine ⟨arrivals ++ [.injected r], ?_, ?_, ?_⟩
    · rw [htakings, hlosses, hafter, List.map_append, h.order]
      simp [Arrival.reception]
    · have hnothing : [Arrival.injected r].filterMap Arrival.airing? = [] := rfl
      rw [List.filterMap_append, hnothing, List.append_nil]
      exact hcopies
    · rw [hinjections, List.filterMap_append, h.injections]
      rfl
  | @heard sender bytes hears hsender =>
    have hother : sender ≠ i := hears.other.symm
    refine ⟨arrivals ++ [.copied ⟨past, sender, bytes⟩], ?_, ?_, ?_⟩
    · rw [htakings, hlosses, hafter, List.map_append, h.order, ← copy_eq hnone hlinks]
      simp [Arrival.reception]
    · have hairs : m.airs past (.call sender (.transmit bytes)) = [⟨past, sender, bytes⟩] := by
        rw [airs, if_pos hsender]
      rw [hairings, hairs, List.filter_append, List.filterMap_append]
      refine h.copies.append ?_
      simp [Arrival.airing?, hother]
    · rw [hinjections, List.filterMap_append, h.injections]
      rfl

end

/-- **The medium neither reorders nor repeats, and echoes nothing.**  Whatever has been done to a
medium since it was set up, what has come into the queue of a radio is, in the order in which it was
taken or still waits: copies of a selection of the transmissions of other radios, in the order in
which they were made, and among them what was put there past the medium.  A copy carries what was
sent, but that the periodic damage flips the last bit of the last byte, for every receiver; its
signal strength is what had been set last for the two addresses. -/
theorem copies_follow_airings (capacity : Nat) (defaultRssi : Int) (faults : FaultPlan)
    (severed : List (Address × Address)) (past : List Command) :
    let m₀ := fresh capacity defaultRssi faults severed
    (∀ i, ∃ arrivals, Received m₀ past i arrivals) ∧
      ∀ a ∈ m₀.airings past, .call a.sender (.transmit a.bytes) :: a.before <:+ past ∧
        (a.carried m₀ = a.bytes ∨ a.isHit m₀ = true ∧ ∃ lead last, a.bytes = lead ++ [last] ∧
          a.carried m₀ = lead ++ [last ^^^ 1]) := by
  intro m₀
  refine ⟨fun i => ?_, fun a ha => ⟨suffix_of_airing ha, a.carried_eq m₀⟩⟩
  induction past with
  | nil => exact ⟨[], rfl, List.Sublist.refl _, rfl⟩
  | cons c past ih =>
    obtain ⟨arrivals, h⟩ := ih
    exact h.next rfl rfl c

end Medium
end PacketRadio
