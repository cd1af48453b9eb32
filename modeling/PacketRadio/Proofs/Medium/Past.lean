/-
# The past of a medium

rflink specification, §4.2: `Ether`, radio by radio and fault by fault.

Radios come and go, are called and have frames put into their queues; credits
are given, links are severed and signal strengths set.  Each of these is a
command, and a past is the list of the commands so far, the latest first, so
that what was set last is what is found first.

What the commands led to is told in the order in which it happened.

| list | of what |
| --- | --- |
| `takings` | the frames that radios took |
| `losses` | the frames that waited at radios when they left |
| `injections` | the frames that were put into queues past the medium |
| `airings` | the transmissions |

Main statements: `change_obey` (the five things that can happen to a queue),
`transmissions_after`, `rssi_after` and `fifo_of_gone` (at a radio that has
left nothing waits, then or later).
-/

import PacketRadio.Proofs.Medium.Queues

namespace PacketRadio
namespace Medium

open Radio (Reception)

/-! ## Commands -/

/-- What can be done to a medium. -/
inductive Command where
  /-- A radio comes. -/
  | attach (initFailure : Option String)
  /-- The radio at a station leaves for good. -/
  | detach (i : Nat)
  /-- The radio at a station is called. -/
  | call (i : Nat) (call : Radio.Call)
  /-- A frame is put into the queue of a radio, past the medium. -/
  | inject (i : Nat) (r : Reception)
  /-- Transmissions are marked to be lost. -/
  | dropNext (count : Nat)
  /-- The link between two addresses is cut or restored. -/
  | setSevered (a b : Address) (cut : Bool)
  /-- The signal strength of a link is set. -/
  | setLinkRssi (src dst : Address) (rssi : Int)
  deriving DecidableEq, Repr

/-- The station that a command is for. -/
def Command.station? : Command → Option Nat
  | .detach i | .call i _ | .inject i _ => some i
  | _ => none

/-- The medium after a command.  Nobody can put a frame into the queue of a radio that has left. -/
def obey (m : Medium) : Command → Medium
  | .attach initFailure => (m.attach initFailure).2
  | .detach i => m.detach i
  | .call i call => (m.call i call).2
  | .inject i r => if (m.live? i).isSome then m.modify i (Station.inject r) else m
  | .dropNext count => m.dropNext count
  | .setSevered a b cut => m.setSevered a b cut
  | .setLinkRssi src dst rssi => m.setLinkRssi src dst rssi

/-- The medium after a past. -/
def after (m : Medium) : List Command → Medium
  | [] => m
  | c :: past => (m.after past).obey c

/-- A medium as it is set up. -/
def fresh (capacity : Nat) (defaultRssi : Int) (faults : FaultPlan)
    (severed : List (Address × Address)) : Medium :=
  { capacity, defaultRssi, faults, severed }

theorem after_append (m : Medium) (more past : List Command) :
    m.after (more ++ past) = (m.after past).after more := by
  induction more with
  | nil => rfl
  | cons c more ih => exact congrArg (obey · c) ih

/-! ## What commands led to -/

/-- What each command of a past led to, in the order in which it happened.  It may depend on what
had been before. -/
def chronicle {β : Type} (f : List Command → Command → List β) : List Command → List β
  | [] => []
  | c :: past => chronicle f past ++ f past c

/-- Frames, and where something happened to them. -/
abbrev Log := List (Nat × Reception)

/-- What happened at one station. -/
def Log.at (l : Log) (i : Nat) : List Reception :=
  (l.filter (·.1 = i)).map (·.2)

namespace Log

variable (l l' : Log) (i : Nat)

@[simp] theorem at_nil : Log.at [] i = [] := rfl

@[simp] theorem at_append : Log.at (l ++ l') i = l.at i ++ l'.at i := by
  simp [Log.at]

@[simp] theorem at_own (rs : List Reception) : Log.at (rs.map (i, ·)) i = rs := by
  simp [Log.at, List.filter_map, Function.comp_def]

theorem at_other {i j : Nat} (h : i ≠ j) (rs : List Reception) :
    Log.at (rs.map (j, ·)) i = [] := by
  simp [Log.at, List.filter_map, Function.comp_def, h.symm]

end Log

/-- A transmission of a radio that is on the medium. -/
structure Airing where
  /-- What had been done before. -/
  before : List Command
  /-- Where the radio is. -/
  sender : Nat
  /-- What it was given to send. -/
  bytes : Bytes

section

variable (m : Medium)

/-- The frames that a command takes. -/
def takes : Command → Log
  | .call i call => (call.taken (m.call i call).1).toList.map (i, ·)
  | _ => []

/-- The frames that a command loses. -/
def loses : Command → Log
  | .detach i => (m.fifo i).map (i, ·)
  | _ => []

/-- The frames that a command puts into queues past the medium. -/
def injects : Command → Log
  | .inject i r => if (m.live? i).isSome then [r].map (i, ·) else []
  | _ => []

/-- The frames that radios took. -/
def takings : List Command → Log :=
  chronicle fun past => (m.after past).takes

/-- The frames that waited at radios when they left. -/
def losses : List Command → Log :=
  chronicle fun past => (m.after past).loses

/-- The frames that were put into queues past the medium. -/
def injections : List Command → Log :=
  chronicle fun past => (m.after past).injects

/-- The transmission that a command makes, if it makes one. -/
def airs (past : List Command) : Command → List Airing
  | .call i (.transmit bytes) =>
    if ((m.after past).live? i).isSome then [⟨past, i, bytes⟩] else []
  | _ => []

/-- The transmissions. -/
def airings : List Command → List Airing :=
  chronicle m.airs

end

/-! ## Settings -/

section

variable (m : Medium)

/-- What is set up once or by commands of its own. -/
def settings : Medium :=
  { m with stations := [], dropCredit := 0, stats := {} }

theorem settings_suffer (sender : Nat) (src : Address) (bytes : Bytes) (fate : Fate) :
    (m.suffer sender src bytes fate).settings = m.settings := by
  cases fate <;> rfl

/-- **A call to a radio sets nothing.** -/
theorem settings_call (i : Nat) (call : Radio.Call) :
    (m.call i call).2.settings = m.settings := by
  rcases call_changes m i call with ⟨bytes, rfl⟩ | hsame | ⟨f, hmodify, -⟩
  · simp only [Medium.call, broadcast]
    split
    · rfl
    · exact settings_suffer _ _ _ _ _
  · rw [hsame]
  · rw [hmodify]
    rfl

/-- The setting of a link's signal strength, if the command is one. -/
def Command.linkRssi? (src dst : Address) : Command → Option Int
  | .setLinkRssi src' dst' rssi => if src = src' ∧ dst = dst' then some rssi else none
  | _ => none

theorem rssi_congr {m m' : Medium} (h : m'.settings = m.settings) (src dst : Address) :
    m'.rssi src dst = m.rssi src dst := by
  have hlinks : m'.settings.linkRssi = m.settings.linkRssi := congrArg Medium.linkRssi h
  have hdefault : m'.settings.defaultRssi = m.settings.defaultRssi :=
    congrArg Medium.defaultRssi h
  simp only [settings] at hlinks hdefault
  rw [rssi, rssi, hlinks, hdefault]

theorem rssi_obey (c : Command) (src dst : Address) :
    (m.obey c).rssi src dst = (c.linkRssi? src dst).getD (m.rssi src dst) := by
  cases c with
  | attach initFailure => rfl
  | detach i => rfl
  | call i call => exact rssi_congr (m.settings_call i call) src dst
  | inject i r =>
    simp only [obey]
    split <;> rfl
  | dropNext count => rfl
  | setSevered a b cut => cases cut <;> rfl
  | setLinkRssi src' dst' rssi =>
    by_cases h : src = src' ∧ dst = dst'
    · obtain ⟨rfl, rfl⟩ := h
      simp [obey, setLinkRssi, Medium.rssi, Command.linkRssi?]
    · have hlink : ((src, dst) == (src', dst')) = false := by simpa using h
      simp [obey, setLinkRssi, Medium.rssi, Command.linkRssi?, h, List.lookup_cons, hlink]

/-- **The signal strength of a link is what was set last.** -/
theorem rssi_after (past : List Command) (src dst : Address) :
    (m.after past).rssi src dst =
      (past.findSome? (Command.linkRssi? src dst)).getD (m.rssi src dst) := by
  induction past with
  | nil => rfl
  | cons c past ih =>
    rw [after, rssi_obey, ih, List.findSome?_cons]
    cases c.linkRssi? src dst <;> rfl

/-- The room at the stations and the periodic faults are the same all the time. -/
theorem constants_obey (c : Command) :
    (m.obey c).capacity = m.capacity ∧ (m.obey c).faults = m.faults := by
  cases c with
  | call i call =>
    have hcapacity : (m.call i call).2.settings.capacity = m.settings.capacity :=
      congrArg Medium.capacity (m.settings_call i call)
    have hfaults : (m.call i call).2.settings.faults = m.settings.faults :=
      congrArg Medium.faults (m.settings_call i call)
    exact ⟨hcapacity, hfaults⟩
  | inject i r =>
    simp only [obey]
    split <;> exact ⟨rfl, rfl⟩
  | setSevered a b cut => cases cut <;> exact ⟨rfl, rfl⟩
  | _ => exact ⟨rfl, rfl⟩

theorem constants_after (past : List Command) :
    (m.after past).capacity = m.capacity ∧ (m.after past).faults = m.faults := by
  induction past with
  | nil => exact ⟨rfl, rfl⟩
  | cons c past ih =>
    obtain ⟨hcapacity, hfaults⟩ := (m.after past).constants_obey c
    exact ⟨hcapacity.trans ih.1, hfaults.trans ih.2⟩

end

/-! ## Transmissions -/

section

variable (m : Medium)

/-- The address of a station is not changed by its radio's mode. -/
theorem address_modify_mode (i j : Nat) (mode : Radio.Mode) :
    (m.modify i fun s => { s with mode }).address j = m.address j := by
  simp only [address, modify, List.getElem?_modify]
  cases m.stations[j]? with
  | none => rfl
  | some s => by_cases h : i = j <;> simp [h]

theorem live?_modify_mode (i j : Nat) (mode : Radio.Mode) :
    ((m.modify i fun s => { s with mode }).live? j).isSome = (m.live? j).isSome := by
  have hpresent := m.present_modify (f := fun s => { s with mode }) i fun _ => rfl
  rw [Bool.eq_iff_iff, live?_isSome, live?_isSome, hpresent]

theorem address_of_live {i : Nat} {s : Station} (h : m.live? i = some s) :
    s.address = m.address i := by
  rw [live?, Option.filter_eq_some_iff] at h
  simp [address, h.1]

/-- The number of transmissions is the number that the medium has counted. -/
theorem transmissions_obey (past : List Command) (c : Command) :
    (m.after (c :: past)).stats.transmissions =
      (m.after past).stats.transmissions + (m.airs past c).length := by
  rw [after]
  generalize hm : m.after past = m'
  cases c with
  | call i call =>
    have hquiet : call.aired = none → (m'.call i call).2.stats.transmissions =
        m'.stats.transmissions := by
      intro hnone
      have hcount := (m'.transmissions_call i call).2
      rw [hnone] at hcount
      exact Nat.le_antisymm hcount (m'.transmissions_call i call).1
    cases call with
    | transmit bytes =>
      have hcount : (m'.call i (.transmit bytes)).2.stats.transmissions =
          m'.stats.transmissions + _ :=
        broadcast_transmissions (m'.modify i fun s => { s with mode := .transmit }) i bytes
      rw [live?_modify_mode] at hcount
      rw [obey, hcount, airs, hm]
      split <;> rfl
    | _ => exact hquiet rfl
  | inject i r =>
    simp only [obey]
    split <;> rfl
  | setSevered a b cut => cases cut <;> rfl
  | _ => rfl

/-- **The medium counts each transmission once.** -/
theorem transmissions_after (past : List Command) :
    (m.after past).stats.transmissions = m.stats.transmissions + (m.airings past).length := by
  induction past with
  | nil => rfl
  | cons c past ih =>
    rw [transmissions_obey, ih, airings, chronicle, List.length_append, Nat.add_assoc]

/-- What the next transmission carries if it is not lost. -/
def carried (bytes : Bytes) : Bytes :=
  if FaultPlan.hits m.faults.corruptEvery (m.stats.transmissions + 1) then damage bytes else bytes

/-- The radio at a station hears a frame, for which there is room. -/
structure Hears (sender i : Nat) : Prop where
  /-- It is not the sender. -/
  other : i ≠ sender
  /-- It is on the medium. -/
  live : (m.live? i).isSome
  /-- There is room. -/
  room : (m.fifo i).length < m.capacity

/-- **A copy gets to the end of a queue, or none does.** -/
theorem fifo_spread_eq (sender : Nat) (src : Address) (frame : Bytes) (i : Nat) :
    (m.spread sender src frame).fifo i = m.fifo i ∨ m.Hears sender i ∧
      (m.spread sender src frame).fifo i = m.fifo i ++ [⟨frame, m.rssi src (m.address i)⟩] := by
  cases hi : m.stations[i]? with
  | none => exact .inl (by simp [fifo, spread, hi])
  | some s =>
    have hfifo : m.fifo i = s.fifo := by simp [fifo, hi]
    have haddress : m.address i = s.address := by simp [address, hi]
    have hspread : (m.spread sender src frame).fifo i =
        (if m.hears sender src i s then s.offer m.capacity ⟨frame, m.rssi src s.address⟩
          else s).fifo := by
      simp [fifo, spread, hi]
    rw [hspread, hfifo, haddress]
    split
    · rename_i hears
      simp only [Medium.hears, Bool.and_eq_true, bne_iff_ne, ne_eq] at hears
      unfold Station.offer
      split
      · rename_i room
        refine .inr ⟨⟨hears.1.1, ?_, hfifo ▸ room⟩, rfl⟩
        simp [live?, hi, hears.1.2]
      · exact .inl rfl
    · exact .inl rfl

/-- What is not lost carries what the periodic damage leaves of it. -/
theorem carried_of_fate (bytes : Bytes) :
    (m.fate (m.stats.transmissions + 1) bytes = .damaged → m.carried bytes = damage bytes) ∧
      (m.fate (m.stats.transmissions + 1) bytes = .intact → m.carried bytes = bytes) := by
  unfold fate carried
  constructor
  · intro h
    split at h
    · cases h
    · split at h
      · cases h
      · split at h
        · rename_i hhits
          rw [Bool.and_eq_true] at hhits
          rw [if_pos hhits.1]
        · cases h
  · intro h
    split at h
    · cases h
    · split at h
      · cases h
      · split at h
        · cases h
        · rename_i hspared
          split
          · rename_i hhits
            have hempty : bytes = [] := by simpa [hhits] using hspared
            rw [hempty]
            rfl
          · rfl

/-- **A radio on the medium sends**: that is counted, and it comes to the fate of its number. -/
theorem broadcast_of_live {sender : Nat} (h : (m.live? sender).isSome) (bytes : Bytes) :
    (m.broadcast sender bytes).2 =
      (m.recount fun s => { s with transmissions := s.transmissions + 1 }).suffer sender
        (m.address sender) bytes (m.fate (m.stats.transmissions + 1) bytes) := by
  obtain ⟨s, hs⟩ := Option.isSome_iff_exists.1 h
  rw [← m.address_of_live hs]
  simp only [broadcast, hs]
  rfl

/-- A radio that is not on the medium sends nothing. -/
theorem broadcast_of_not_live {sender : Nat} (h : (m.live? sender).isSome = false)
    (bytes : Bytes) : (m.broadcast sender bytes).2 = m := by
  have hnone : m.live? sender = none := by simpa using h
  simp only [broadcast, hnone]

/-- What is put on the air does the same to a queue, whatever the radio is doing. -/
theorem fifo_broadcast_eq (sender : Nat) (bytes : Bytes) (i : Nat) :
    (m.broadcast sender bytes).2.fifo i = m.fifo i ∨
      m.Hears sender i ∧ (m.live? sender).isSome ∧ (m.broadcast sender bytes).2.fifo i =
        m.fifo i ++ [⟨m.carried bytes, m.rssi (m.address sender) (m.address i)⟩] := by
  cases hlive : (m.live? sender).isSome with
  | false =>
    rw [m.broadcast_of_not_live hlive]
    exact .inl rfl
  | true =>
    obtain ⟨hdamaged, hintact⟩ := m.carried_of_fate bytes
    rw [m.broadcast_of_live hlive]
    cases hf : m.fate (m.stats.transmissions + 1) bytes with
    | lostOnCredit => exact .inl rfl
    | lost => exact .inl rfl
    | damaged =>
      rw [hdamaged hf]
      exact (m.fifo_spread_eq sender (m.address sender) (damage bytes) i).imp_right
        fun ⟨hears, hfifo⟩ => ⟨hears, rfl, hfifo⟩
    | intact =>
      rw [hintact hf]
      exact (m.fifo_spread_eq sender (m.address sender) bytes i).imp_right
        fun ⟨hears, hfifo⟩ => ⟨hears, rfl, hfifo⟩

/-- **What a transmission does to a queue.** -/
theorem fifo_transmit (sender : Nat) (bytes : Bytes) (i : Nat) :
    (m.call sender (.transmit bytes)).2.fifo i = m.fifo i ∨
      m.Hears sender i ∧ (m.live? sender).isSome ∧
        (m.call sender (.transmit bytes)).2.fifo i =
          m.fifo i ++ [⟨m.carried bytes, m.rssi (m.address sender) (m.address i)⟩] := by
  have hcall : (m.call sender (.transmit bytes)).2.fifo i =
      ((m.modify sender fun s => { s with mode := .transmit }).broadcast sender bytes).2.fifo i :=
    fifo_modify_mode _ sender i _
  have hsent := (m.modify sender fun s => { s with mode := .transmit }).fifo_broadcast_eq sender
    bytes i
  rw [← hcall, fifo_modify_mode, address_modify_mode, address_modify_mode, live?_modify_mode]
    at hsent
  refine hsent.imp_right fun ⟨⟨hother, hlive, hroom⟩, hsender, hfifo⟩ =>
    ⟨⟨hother, ?_, ?_⟩, hsender, hfifo⟩
  · rwa [live?_modify_mode] at hlive
  · rwa [fifo_modify_mode] at hroom

end

/-! ## Queues -/

/-- What a command does to a queue: what is taken from it, lost from it and put into it past the
medium, and what waits there afterwards. -/
inductive Change (m : Medium) (i : Nat) :
    Command → List Reception → List Reception → List Reception → List Reception → Prop where
  /-- Nothing. -/
  | none (c : Command) : Change m i c [] [] [] (m.fifo i)
  /-- The radio takes what has waited longest. -/
  | taken {r : Reception} {rest : List Reception} (call : Radio.Call) (hlive : (m.live? i).isSome)
      (hfifo : m.fifo i = r :: rest) : Change m i (.call i call) [r] [] [] rest
  /-- The radio leaves. -/
  | left : Change m i (.detach i) [] (m.fifo i) [] []
  /-- A frame is put there past the medium. -/
  | injected (r : Reception) (hlive : (m.live? i).isSome) :
      Change m i (.inject i r) [] [] [r] (m.fifo i ++ [r])
  /-- The radio hears a transmission. -/
  | heard {sender : Nat} (bytes : Bytes) (hears : m.Hears sender i)
      (hsender : (m.live? sender).isSome) :
      Change m i (.call sender (.transmit bytes)) [] [] []
        (m.fifo i ++ [⟨m.carried bytes, m.rssi (m.address sender) (m.address i)⟩])

section

variable (m : Medium)

/-- What a call takes is taken by a radio on the medium. -/
theorem live_of_taken {i : Nat} {call : Radio.Call} {r : Reception}
    (h : call.taken (m.call i call).1 = some r) : (m.live? i).isSome := by
  cases call with
  | receive =>
    simp only [Medium.call] at h
    split at h
    · cases h
    · rename_i s hs
      rw [hs]
      rfl
  | _ => cases h

/-- **What a call does to a queue.** -/
theorem change_call (j : Nat) (call : Radio.Call) (i : Nat) :
    Change m i (.call j call) (Log.at (m.takes (.call j call)) i) [] [] ((m.call j call).2.fifo i) := by
  rw [takes]
  by_cases hi : i = j
  · subst hi
    have hself := m.fifo_call_self i call
    rw [Log.at_own]
    cases htaken : call.taken (m.call i call).1 with
    | none =>
      rw [htaken] at hself
      rw [show (m.call i call).2.fifo i = m.fifo i from hself]
      exact .none _
    | some r =>
      rw [htaken] at hself
      exact .taken call (m.live_of_taken htaken) hself.symm
  · rw [Log.at_other hi]
    have hquiet : (m.call j call).2.fifo i = m.fifo i →
        Change m i (.call j call) [] [] [] ((m.call j call).2.fifo i) := by
      intro hsame
      rw [hsame]
      exact .none _
    rcases m.fifo_call_of_ne hi call with hsame | ⟨bytes, r, rfl, -, -⟩
    · exact hquiet hsame
    · rcases m.fifo_transmit j bytes i with hsame | ⟨hears, hsender, hmore⟩
      · exact hquiet hsame
      · rw [hmore]
        exact .heard bytes hears hsender

/-- A radio that has left has no queue. -/
theorem fifo_detach (i : Nat) : (m.detach i).fifo i = [] := by
  rw [detach, fifo_modify_self]
  cases m.stations[i]? <;> rfl

/-- **What a command does to a queue.** -/
theorem change_obey (c : Command) (i : Nat) :
    Change m i c (Log.at (m.takes c) i) (Log.at (m.loses c) i) (Log.at (m.injects c) i)
      ((m.obey c).fifo i) := by
  cases c with
  | attach initFailure =>
    rw [show (m.obey (.attach initFailure)).fifo i = m.fifo i from m.fifo_attach initFailure i]
    exact .none _
  | call j call => exact m.change_call j call i
  | detach j =>
    rw [loses, obey]
    by_cases hi : i = j
    · subst hi
      rw [Log.at_own, fifo_detach]
      exact .left
    · rw [Log.at_other hi, detach, fifo_modify_of_ne m hi]
      exact .none _
  | inject j r =>
    rw [injects, obey]
    split
    · rename_i hlive
      by_cases hi : i = j
      · subst hi
        have hmore : (m.modify i (Station.inject r)).fifo i = m.fifo i ++ [r] := by
          rw [live?_isSome, present, List.getElem?_map, Option.map_eq_some_iff] at hlive
          obtain ⟨s, hs, -⟩ := hlive
          rw [fifo_modify_self, fifo, hs]
          rfl
        rw [Log.at_own, hmore]
        exact .injected r hlive
      · rw [Log.at_other hi, fifo_modify_of_ne m hi]
        exact .none _
    · exact .none _
  | dropNext count => exact .none _
  | setSevered a b cut =>
    rw [show (m.obey (.setSevered a b cut)).fifo i = m.fifo i by cases cut <;> rfl]
    exact .none _
  | setLinkRssi src dst rssi => exact .none _

end

/-! ## Radios that have left -/

/-- The radio at a station has left. -/
def Gone (m : Medium) (i : Nat) : Prop :=
  m.present[i]? = some false

section

variable {m : Medium} {i : Nat}

theorem Gone.not_live (h : m.Gone i) : (m.live? i).isSome = false := by
  rw [Bool.eq_false_iff, Ne, live?_isSome, h]
  simp

/-- Who leaves is gone. -/
theorem gone_detach {s : Station} (h : m.stations[i]? = some s) : (m.detach i).Gone i := by
  simp [Gone, present, detach, modify, h, Station.detach]

/-- A new radio is on the medium. -/
theorem present_attach (m : Medium) (initFailure : Option String) :
    (m.attach initFailure).2.present = m.present ++ [true] := by
  simp [present, attach]

/-- A radio that leaves is not any more. -/
theorem present_detach (m : Medium) (i : Nat) : (m.detach i).present = m.present.set i false := by
  apply List.ext_getElem?
  intro j
  simp only [present, detach, modify, List.getElem?_map, List.getElem?_modify, List.getElem?_set,
    List.length_map]
  cases hj : m.stations[j]? with
  | none =>
    have hle := List.getElem?_eq_none_iff.1 hj
    by_cases h : i = j
    · simp [h, Nat.not_lt.2 hle]
    · simp [h]
  | some s =>
    obtain ⟨hlt, -⟩ := List.getElem?_eq_some_iff.1 hj
    by_cases h : i = j
    · simp [h, hlt, Station.detach]
    · simp [h]

/-- Only by coming and leaving does it change who is there. -/
theorem present_obey (m : Medium) (c : Command) :
    (∃ initFailure, c = .attach initFailure) ∨ (∃ i, c = .detach i) ∨
      (m.obey c).present = m.present := by
  cases c with
  | attach initFailure => exact .inl ⟨_, rfl⟩
  | detach j => exact .inr (.inl ⟨j, rfl⟩)
  | call j call => exact .inr (.inr (m.present_call j call))
  | inject j r =>
    refine .inr (.inr ?_)
    rw [obey]
    split
    · exact m.present_modify j fun _ => rfl
    · rfl
  | dropNext count => exact .inr (.inr rfl)
  | setSevered a b cut => cases cut <;> exact .inr (.inr rfl)
  | setLinkRssi src dst rssi => exact .inr (.inr rfl)

/-- **Who has left does not come back.** -/
theorem Gone.obey (h : m.Gone i) (c : Command) : (m.obey c).Gone i := by
  unfold Gone at h ⊢
  obtain ⟨hlt, -⟩ := List.getElem?_eq_some_iff.1 h
  rcases m.present_obey c with ⟨initFailure, rfl⟩ | ⟨j, rfl⟩ | hsame
  · rw [Medium.obey, present_attach, List.getElem?_append_left hlt, h]
  · rw [Medium.obey, present_detach, List.getElem?_set]
    split
    · rw [if_pos (by omega)]
    · exact h
  · rw [hsame, h]

theorem Gone.after (h : m.Gone i) (past : List Command) : (m.after past).Gone i := by
  induction past with
  | nil => exact h
  | cons c past ih => exact ih.obey c

/-- Who is gone had been gone or has just left. -/
theorem Gone.of_obey {c : Command} (h : (m.obey c).Gone i) : m.Gone i ∨ c = .detach i := by
  unfold Gone at h ⊢
  rcases m.present_obey c with ⟨initFailure, rfl⟩ | ⟨j, rfl⟩ | hsame
  · rw [Medium.obey, present_attach, List.getElem?_append] at h
    split at h
    · exact .inl h
    · cases hi : i - m.present.length with
      | zero => simp [hi] at h
      | succ k => simp [hi] at h
  · rw [Medium.obey, present_detach, List.getElem?_set] at h
    split at h
    · rename_i hj
      exact .inr (by rw [hj])
    · exact .inl h
  · exact .inl (by rwa [hsame] at h)

/-- Nothing waits where somebody has left. -/
def Tidy (m : Medium) : Prop :=
  ∀ i, m.Gone i → m.fifo i = []

theorem tidy_fresh (capacity : Nat) (defaultRssi : Int) (faults : FaultPlan)
    (severed : List (Address × Address)) : (fresh capacity defaultRssi faults severed).Tidy :=
  fun _ _ => rfl

theorem Tidy.obey (h : m.Tidy) (c : Command) : (m.obey c).Tidy := by
  intro i hi
  rcases hi.of_obey with hgone | rfl
  · have hempty := h i hgone
    have hchange := m.change_obey c i
    generalize (m.obey c).fifo i = fifo at hchange ⊢
    generalize Log.at (m.takes c) i = taken at hchange
    generalize Log.at (m.loses c) i = lost at hchange
    generalize Log.at (m.injects c) i = injected at hchange
    cases hchange with
    | none c => exact hempty
    | taken call hlive hfifo => simp [hgone.not_live] at hlive
    | left => rfl
    | injected r hlive => simp [hgone.not_live] at hlive
    | heard bytes hears hsender =>
      have hlive := hears.live
      simp [hgone.not_live] at hlive
  · exact m.fifo_detach i

theorem Tidy.after (h : m.Tidy) (past : List Command) : (m.after past).Tidy := by
  induction past with
  | nil => exact h
  | cons c past ih => exact ih.obey c

/-- **At a radio that has left nothing waits, then or later.** -/
theorem Tidy.fifo_of_gone (h : m.Tidy) {past : List Command} (hgone : (m.after past).Gone i)
    (more : List Command) : (m.after (more ++ past)).fifo i = [] := by
  refine h.after (more ++ past) i ?_
  rw [after_append]
  exact hgone.after more

end
end Medium
end PacketRadio
