/-
# Two stations and nobody else in earshot

rflink specification, §4.2: every transmission is offered to every other
attached radio.

As long as two stations only listen, take frames and send, the medium between
them is known from what it was at the start: the settings stay, a drop credit
is used up by one with each transmission, and the transmissions are counted
from there.  So what reaches the other station of a transmission depends on
its number alone (`Medium.copies`).

| transmission | what reaches the other station |
| --- | --- |
| over a severed link | nothing |
| on the drop credit, or hit by the period of losses | nothing |
| hit by the period of damage | a damaged copy |
| any other | the frame |

Main statements: `Between.setMode`, `Between.frameReady`, `Between.receive` and
`Between.transmit`, one for each call, and `copies_of_arrives` and
`copies_of_not_arrives` for what they say of a transmission.
-/

import PacketRadio.Medium.Basic
import Mathlib.Logic.Function.Basic
import Mathlib.Tactic.SplitIfs

namespace PacketRadio

namespace Medium

/-- The signal strength at the other of two stations. -/
def rssiFrom (m : Medium) (s : Nat) : Int :=
  m.rssi (m.address s) (m.address (1 - s))

/-- The link between two stations is severed. -/
def isCut (m : Medium) (s : Nat) : Bool :=
  m.isSevered (m.address s) (m.address (1 - s))

/-- What becomes of transmission number `x` from now on, the first being number zero. -/
def fateOf (m : Medium) (x : Nat) (bytes : Bytes) : Fate :=
  { m with dropCredit := m.dropCredit - x }.fate (m.stats.transmissions + x + 1) bytes

/-- What reaches the other of two stations of transmission number `x` from now on. -/
def copies (m : Medium) (x : Nat) (s : Nat) (bytes : Bytes) : List Radio.Reception :=
  if m.isCut s then []
  else
    match m.fateOf x bytes with
    | .lostOnCredit => []
    | .lost => []
    | .damaged => [⟨damage bytes, m.rssiFrom s⟩]
    | .intact => [⟨bytes, m.rssiFrom s⟩]

/-- Transmission number `x` from now on gets to the other of two stations as it was sent. -/
def arrives (m : Medium) (x : Nat) : Bool :=
  !m.isCut 0 && decide (m.dropCredit ≤ x) &&
    !FaultPlan.hits m.faults.dropEvery (m.stats.transmissions + x + 1) &&
    !FaultPlan.hits m.faults.corruptEvery (m.stats.transmissions + x + 1)

/-- Whichever of two stations sends, the link is the same one. -/
theorem isCut_eq (m : Medium) {s : Nat} (hs : s < 2) : m.isCut s = m.isCut 0 := by
  have hside : s = 0 ∨ s = 1 := by omega
  rcases hside with rfl | rfl
  · rfl
  · exact m.isSevered_comm ..

/-- **What arrives is what was sent.** -/
theorem copies_of_arrives {m : Medium} {x s : Nat} (hs : s < 2) (h : m.arrives x = true)
    (bytes : Bytes) : m.copies x s bytes = [⟨bytes, m.rssiFrom s⟩] := by
  simp only [arrives, Bool.and_eq_true, Bool.not_eq_true', decide_eq_true_eq] at h
  obtain ⟨⟨⟨hcut, hcredit⟩, hlost⟩, hdamaged⟩ := h
  have hspent : ¬0 < m.dropCredit - x := by omega
  simp [copies, isCut_eq m hs, hcut, fateOf, fate, hspent, hlost, hdamaged]

/-- **What does not arrive is lost or damaged.** -/
theorem copies_of_not_arrives {m : Medium} {x s : Nat} (hs : s < 2) (h : m.arrives x = false)
    {bytes : Bytes} (hbytes : bytes ≠ []) :
    m.copies x s bytes = [] ∨ m.copies x s bytes = [⟨damage bytes, m.rssiFrom s⟩] := by
  unfold copies
  split
  · exact .inl rfl
  · rename_i hcut
    rw [isCut_eq m hs, Bool.not_eq_true] at hcut
    unfold fateOf fate
    split_ifs with hcredit hlost hdamaged
    · exact .inl rfl
    · exact .inl rfl
    · exact .inr rfl
    · have hspent : m.dropCredit ≤ x := by
        dsimp only at hcredit
        omega
      simp_all [arrives]

/-- What is going on between two stations. -/
structure View where
  /-- The transmissions so far. -/
  sent : Nat
  /-- What waits at each station. -/
  fifo : Nat → List Radio.Reception
  /-- What each radio is doing. -/
  mode : Nat → Radio.Mode

namespace View

/-- A radio does something else. -/
def setMode (v : View) (s : Nat) (mode : Radio.Mode) : View :=
  { v with mode := Function.update v.mode s mode }

/-- Something else waits at a station. -/
def setFifo (v : View) (s : Nat) (fifo : List Radio.Reception) : View :=
  { v with fifo := Function.update v.fifo s fifo }

/-- A station has sent something. -/
def air (v : View) (m : Medium) (s : Nat) (bytes : Bytes) : View where
  sent := v.sent + 1
  fifo := Function.update v.fifo (1 - s) (v.fifo (1 - s) ++ m.copies v.sent s bytes)
  mode := Function.update v.mode s .idle

variable (v : View) (s : Nat) (mode : Radio.Mode) (fifo : List Radio.Reception)

@[simp] theorem setMode_fifo : (v.setMode s mode).fifo = v.fifo := rfl

@[simp] theorem setMode_mode : (v.setMode s mode).mode s = mode := Function.update_self ..

/-- What a radio was doing before it sent makes no difference. -/
theorem setMode_air (m : Medium) (bytes : Bytes) :
    (v.setMode s mode).air m s bytes = v.air m s bytes := by
  simp [View.setMode, air]

/-- What a station sends gets to the other one or nowhere. -/
theorem air_fifo_other (m : Medium) (bytes : Bytes) :
    (v.air m s bytes).fifo (1 - s) = v.fifo (1 - s) ++ m.copies v.sent s bytes :=
  Function.update_self ..

theorem air_fifo_self (m : Medium) {s : Nat} (hs : s < 2) (bytes : Bytes) :
    (v.air m s bytes).fifo s = v.fifo s :=
  Function.update_of_ne (by omega) ..

@[simp] theorem setFifo_mode : (v.setFifo s fifo).mode = v.mode := rfl

@[simp] theorem setFifo_fifo : (v.setFifo s fifo).fifo s = fifo := Function.update_self ..

end View

/-- Two stations are where they were when the medium was `m₀`, under the same settings. -/
structure Placed (m₀ : Medium) (v : View) (m : Medium) : Prop where
  /-- They are there, with the addresses they had. -/
  station : ∀ s < 2, ∃ st, m.stations[s]? = some st ∧ st.attached = true ∧
    st.address = m₀.address s ∧ st.fifo = v.fifo s ∧ st.mode = v.mode s
  /-- There is as much room at the stations as there was. -/
  capacity : m.capacity = m₀.capacity
  /-- The signal strengths are what they were. -/
  rssi : ∀ a b, m.rssi a b = m₀.rssi a b
  /-- The faults are what they were. -/
  faults : m.faults = m₀.faults
  /-- The same links are severed. -/
  severed : ∀ a b, m.isSevered a b = m₀.isSevered a b

/-- Two stations have come this far since the medium was `m₀`. -/
structure Between (m₀ : Medium) (v : View) (m : Medium) : Prop extends Placed m₀ v m where
  /-- Transmissions have used up the drop credit. -/
  credit : m.dropCredit = m₀.dropCredit - v.sent
  /-- They have been counted. -/
  count : m.stats.transmissions = m₀.stats.transmissions + v.sent

variable {m₀ m : Medium} {v v' : View} {s : Nat}

/-! ## Changes at one station -/

theorem Placed.modify (h : Placed m₀ v m) {f : Station → Station}
    (hplace : ∀ st, (f st).attached = st.attached ∧ (f st).address = st.address)
    (hown : ∀ st, st.fifo = v.fifo s → st.mode = v.mode s →
      (f st).fifo = v'.fifo s ∧ (f st).mode = v'.mode s)
    (hother : ∀ s' ≠ s, v'.fifo s' = v.fifo s' ∧ v'.mode s' = v.mode s') :
    Placed m₀ v' (m.modify s f) := by
  refine ⟨fun s' hs' => ?_, h.capacity, h.rssi, h.faults, h.severed⟩
  obtain ⟨st, hst, hattached, haddress, hfifo, hmode⟩ := h.station s' hs'
  by_cases heq : s' = s
  · subst heq
    refine ⟨f st, ?_, (hplace st).1.trans hattached, (hplace st).2.trans haddress,
      (hown st hfifo hmode).1, (hown st hfifo hmode).2⟩
    simp [Medium.modify, hst]
  · refine ⟨st, ?_, hattached, haddress, hfifo.trans (hother s' heq).1.symm,
      hmode.trans (hother s' heq).2.symm⟩
    simpa [Medium.modify, List.getElem?_modify_ne _ _ (Ne.symm heq)] using hst

theorem Placed.modify_mode (h : Placed m₀ v m) (s : Nat) (mode : Radio.Mode) :
    Placed m₀ (v.setMode s mode) (m.modify s fun st => { st with mode }) :=
  h.modify (fun _ => ⟨rfl, rfl⟩) (fun _ hfifo _ => ⟨hfifo, (v.setMode_mode s mode).symm⟩)
    (fun _ hs => ⟨rfl, Function.update_of_ne hs ..⟩)

theorem Between.modify_mode (h : Between m₀ v m) (s : Nat) (mode : Radio.Mode) :
    Between m₀ (v.setMode s mode) (m.modify s fun st => { st with mode }) :=
  ⟨h.toPlaced.modify_mode s mode, h.credit, h.count⟩

/-- The radio at a station is on the medium. -/
theorem Placed.live (h : Placed m₀ v m) (hs : s < 2) :
    ∃ st, m.live? s = some st ∧ st.address = m₀.address s ∧ st.fifo = v.fifo s ∧
      st.mode = v.mode s := by
  obtain ⟨st, hst, hattached, haddress, hfifo, hmode⟩ := h.station s hs
  exact ⟨st, by simp [live?, hst, hattached], haddress, hfifo, hmode⟩

theorem Placed.mode_eq (h : Placed m₀ v m) (hs : s < 2) : m.mode s = v.mode s := by
  obtain ⟨st, hst, -, -, -, hmode⟩ := h.station s hs
  simpa [Medium.mode, hst] using hmode

theorem Placed.pending_eq (h : Placed m₀ v m) (hs : s < 2) : m.pending s = (v.fifo s).length := by
  obtain ⟨st, hst, -, -, hfifo, -⟩ := h.station s hs
  simp [Medium.pending, hst, hfifo]

/-! ## Calls that send nothing -/

/-- **A radio that is switched is in that mode.** -/
theorem Between.setMode (h : Between m₀ v m) (s : Nat) (mode : Radio.Mode) :
    ∃ m', m.call s (.setMode mode) = (.ok (), m') ∧ Between m₀ (v.setMode s mode) m' :=
  ⟨_, rfl, h.modify_mode s mode⟩

/-- **A radio that listens tells whether something waits for it.** -/
theorem Between.frameReady (h : Between m₀ v m) (hs : s < 2) (hmode : v.mode s = .receive) :
    m.call s .frameReady = (.ok (!(v.fifo s).isEmpty), m) := by
  obtain ⟨st, hlive, -, hfifo, hmode'⟩ := h.live hs
  have hlisten : m.mode s = .receive := (h.mode_eq hs).trans hmode
  simp [Medium.call, hlisten, hlive, Station.ready, hfifo, hmode', hmode]

/-- **A radio takes what has waited longest.** -/
theorem Between.receive (h : Between m₀ v m) (hs : s < 2) :
    ∃ m', m.call s .receive = (.ok (v.fifo s).head?, m') ∧
      Between m₀ ((v.setFifo s (v.fifo s).tail).setMode s .idle) m' := by
  obtain ⟨st, hlive, -, hfifo, -⟩ := h.live hs
  refine ⟨m.modify s fun st => st.take.2, ?_, ?_, h.credit, h.count⟩
  · simp [Medium.call, hlive, Station.take, hfifo]
  · refine h.modify (fun _ => ⟨rfl, rfl⟩) (fun st hst _ => ⟨?_, (View.setMode_mode ..).symm⟩)
      (fun s' hs' => ⟨Function.update_of_ne hs' .., Function.update_of_ne hs' ..⟩)
    simp [Station.take, hst]

/-! ## Transmissions -/

/-- **What is spread gets to the other station**, unless the link is severed. -/
theorem Placed.spread (h : Placed m₀ v m) (hs : s < 2)
    (hroom : (v.fifo (1 - s)).length < m₀.capacity) (frame : Bytes) :
    Placed m₀ (v.setFifo (1 - s) (v.fifo (1 - s) ++
      if m₀.isCut s then [] else [⟨frame, m₀.rssiFrom s⟩]))
      (m.spread s (m₀.address s) frame) := by
  refine ⟨fun s' hs' => ?_, h.capacity, h.rssi, h.faults, h.severed⟩
  obtain ⟨st, hst, hattached, haddress, hfifo, hmode⟩ := h.station s' hs'
  have hside : s' = s ∨ s' = 1 - s := by omega
  rcases hside with rfl | rfl
  · have hne : s' ≠ 1 - s' := by omega
    refine ⟨st, ?_, hattached, haddress, ?_, hmode⟩
    · simp [Medium.spread, hst, Medium.hears]
    · rw [hfifo]
      exact (Function.update_of_ne hne ..).symm
  · have hne : 1 - s ≠ s := by omega
    have hsevered : m.isSevered (m₀.address s) st.address = m₀.isCut s := by
      rw [h.severed, haddress, isCut]
    cases hcut : m₀.isCut s with
    | true =>
      refine ⟨st, ?_, hattached, haddress, ?_, hmode⟩
      · simp [Medium.spread, hst, Medium.hears, hsevered, hcut]
      · simp [hfifo]
    | false =>
      have hlen : st.fifo.length < m.capacity := by rw [hfifo, h.capacity]; exact hroom
      have hrssi : m.rssi (m₀.address s) st.address = m₀.rssiFrom s := by
        rw [h.rssi, haddress, rssiFrom]
      refine ⟨{ st with fifo := st.fifo ++ [⟨frame, m₀.rssiFrom s⟩] }, ?_, hattached, haddress, ?_,
        hmode⟩
      · simp [Medium.spread, hst, Medium.hears, hsevered, hcut, hattached, hne, Station.offer, hlen,
          hrssi]
      · simp [hfifo]

/-- The fate of the next transmission is known from the start. -/
theorem Between.fate_eq (h : Between m₀ v m) (bytes : Bytes) :
    m.fate (m.stats.transmissions + 1) bytes = m₀.fateOf v.sent bytes := by
  simp only [fate, fateOf, h.credit, h.count, h.faults]

/-- Only a drop credit that is used up lets anything else happen. -/
theorem dropCredit_of_fate {seq : Nat} {bytes : Bytes} (h : m.fate seq bytes ≠ .lostOnCredit) :
    m.dropCredit = 0 := by
  by_contra hcredit
  exact h (by rw [fate, if_pos (Nat.pos_of_ne_zero hcredit)])

theorem Placed.recount (h : Placed m₀ v m) (f : MediumStats → MediumStats) :
    Placed m₀ v (m.recount f) :=
  ⟨h.station, h.capacity, h.rssi, h.faults, h.severed⟩

/-- A transmission that gets nowhere leaves the queues alone. -/
theorem Placed.nowhere (h : Placed m₀ v m) (s : Nat) :
    Placed m₀ ({ v with sent := v.sent + 1 }.setFifo s (v.fifo s ++ [])) m := by
  rw [List.append_nil, View.setFifo, Function.update_eq_self]
  exact ⟨h.station, h.capacity, h.rssi, h.faults, h.severed⟩

/-- **The next transmission suffers the fate that its number decides.** -/
theorem Between.suffer (h : Between m₀ v m) (hs : s < 2)
    (hroom : (v.fifo (1 - s)).length < m₀.capacity) (bytes : Bytes) :
    Between m₀
      ({ v with sent := v.sent + 1 }.setFifo (1 - s) (v.fifo (1 - s) ++ m₀.copies v.sent s bytes))
      ((m.recount fun t => { t with transmissions := t.transmissions + 1 }).suffer s
        (m₀.address s) bytes (m.fate (m.stats.transmissions + 1) bytes)) := by
  have hcredit := h.credit
  have hcount : m.stats.transmissions + 1 = m₀.stats.transmissions + (v.sent + 1) := by
    rw [h.count, Nat.add_assoc]
  have hp : Placed m₀ v (m.recount fun t => { t with transmissions := t.transmissions + 1 }) :=
    h.toPlaced.recount _
  have hfate := h.fate_eq bytes
  generalize hf : m.fate (m.stats.transmissions + 1) bytes = f at hfate
  have spent : f ≠ .lostOnCredit → m.dropCredit = m₀.dropCredit - (v.sent + 1) := by
    intro hne
    have hzero := dropCredit_of_fate (hf ▸ hne)
    omega
  cases f with
  | lostOnCredit =>
    have hnone : m₀.copies v.sent s bytes = [] := by simp [copies, ← hfate]
    have hplaced := hp.nowhere (1 - s)
    rw [hnone]
    refine ⟨⟨hplaced.station, hplaced.capacity, hplaced.rssi, hplaced.faults, hplaced.severed⟩, ?_,
      hcount⟩
    show m.dropCredit - 1 = m₀.dropCredit - (v.sent + 1)
    omega
  | lost =>
    have hnone : m₀.copies v.sent s bytes = [] := by simp [copies, ← hfate]
    have hplaced := hp.nowhere (1 - s)
    rw [hnone]
    exact ⟨⟨hplaced.station, hplaced.capacity, hplaced.rssi, hplaced.faults, hplaced.severed⟩,
      spent (by simp), hcount⟩
  | damaged =>
    have hcopies : m₀.copies v.sent s bytes =
        if m₀.isCut s then [] else [⟨damage bytes, m₀.rssiFrom s⟩] := by simp [copies, ← hfate]
    have hspread := (hp.recount fun t => { t with corrupted := t.corrupted + 1 }).spread hs hroom
      (damage bytes)
    rw [hcopies]
    exact ⟨⟨hspread.station, hspread.capacity, hspread.rssi, hspread.faults, hspread.severed⟩,
      spent (by simp), hcount⟩
  | intact =>
    have hcopies : m₀.copies v.sent s bytes =
        if m₀.isCut s then [] else [⟨bytes, m₀.rssiFrom s⟩] := by simp [copies, ← hfate]
    have hspread := hp.spread hs hroom bytes
    rw [hcopies]
    exact ⟨⟨hspread.station, hspread.capacity, hspread.rssi, hspread.faults, hspread.severed⟩,
      spent (by simp), hcount⟩

/-- **A radio sends, and what becomes of it depends on its number.** -/
theorem Between.transmit (h : Between m₀ v m) (hs : s < 2)
    (hroom : (v.fifo (1 - s)).length < m₀.capacity) (bytes : Bytes) :
    ∃ m', m.call s (.transmit bytes) = (.ok (), m') ∧ Between m₀ (v.air m₀ s bytes) m' := by
  have h₁ := h.modify_mode s .transmit
  obtain ⟨st, hlive, haddress, -⟩ := h₁.live hs
  have h₂ := (h₁.suffer hs hroom bytes).modify_mode s .idle
  simp only [View.setMode, View.setFifo, Function.update_idem] at h₂
  refine ⟨_, ?_, h₂⟩
  simp only [Medium.call, broadcast, hlive, haddress]
  rfl

end Medium
end PacketRadio
