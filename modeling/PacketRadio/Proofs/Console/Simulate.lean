/-
# What the simulation command comes to without faults

rflink specification, §10: `simulate` without fault injection.

Arguments that ask for a simulation without faults, with an address for each
node and durations that leave the nodes time to look at their radios, are
answered with success.  The report has all that was sent; only what the node
that listens was handed ends where its channel is full.

| setting | may be |
| --- | --- |
| addresses | any that differ and are not for all nodes |
| data | up to 251 bytes |
| wait for an acknowledgment | above 10 ms, up to an hour |
| other durations, count, retries, how frames are written | any that can be read |

Main statements: `run_faultless` and `run_overhears`.
-/

import Mathlib.Algebra.GroupWithZero.Nat
import PacketRadio.Proofs.Console.Durations
import PacketRadio.Proofs.Console.Framing
import PacketRadio.Proofs.Simulation.Success

namespace PacketRadio
namespace Console

open Simulation (Party Report)

variable {s : SimulateSettings} {env : Environment} {args : List (List Char)}
  {format : Option Format}

/-! ## Reading the settings -/

/-- A duration that can be read is some time, up to a day. -/
theorem duration_bounds {text : List Char} {d : Nat} (h : duration text = .ok d) :
    0 < d ∧ d ≤ longestDuration := by
  obtain ⟨v, -, hpos, hday, rfl⟩ := readDuration_eq_ok_iff_numeral.1 (duration_eq_ok_iff.1 h)
  exact ⟨Nat.mul_pos hpos (DurationUnit.worth_pos _), hday⟩

/-- A count that can be read fits into 32 bits. -/
theorem readCount32_lt {text : List Char} {n : Nat} (h : readCount32 text = some n) :
    n < 2 ^ 32 := by
  unfold readCount32 at h
  split at h
  · have hzero : n = 0 := by simpa using (Option.filter_eq_some_iff.1 h).2
    rw [hzero]
    decide
  · exact Text.Numeral.parse?_lt h

/-- What an option holds has been read. -/
theorem Scan.option_eq_some {α : Type} {scan : Scan} {name : String} {variableName : Option String}
    {read : List Char → Option α} {a : α}
    (h : scan.option env name variableName read = .ok (some a)) : ∃ text, read text = some a := by
  unfold Scan.option at h
  obtain ⟨given, -, h⟩ := of_bind_eq_ok h
  split at h
  · cases h
  · rename_i text _
    split at h
    · rename_i a' hread
      obtain rfl := Option.some.inj (Except.ok.inj h)
      exact ⟨text, hread⟩
    · cases h

/-- The count of a simulation that is asked for fits into 32 bits. -/
theorem count_lt_of_readSimulate {scan : Scan} (h : readSimulate env scan = .ok s) :
    s.count < 2 ^ 32 := by
  unfold readSimulate at h
  obtain ⟨server, -, h⟩ := of_bind_eq_ok h
  obtain ⟨client, -, h⟩ := of_bind_eq_ok h
  obtain ⟨count, hcount, h⟩ := of_bind_eq_ok h
  iterate 10 obtain ⟨_, -, h⟩ := of_bind_eq_ok h
  obtain rfl := Except.ok.inj h
  cases count with
  | none => show 3 < 2 ^ 32; decide
  | some n =>
    obtain ⟨text, htext⟩ := Scan.option_eq_some hcount
    exact readCount32_lt htext

/-- A command that asks for a simulation has read one. -/
theorem read_of_readOwn {scan : Scan} {read : Environment → Scan → Except ArgumentProblem Request}
    (h : readOwn env scan read = .ok (format, .simulate s)) :
    read env scan = .ok (.simulate s) :=
  ((readOwn_eq_ok_iff (by simp)).1 h).2.2.2

/-- Only the simulation command asks for a simulation. -/
theorem readSimulate_of_readCommand {name : String} {rest : List (List Char)}
    (h : readCommand env name rest = .ok (format, .simulate s)) :
    ∃ scan, readSimulate env scan = .ok s := by
  have hmap : ∀ {α : Type} {x : Except ArgumentProblem α} {f : α → Request},
      x.map f = .ok (.simulate s) → ∃ a, x = .ok a ∧ f a = .simulate s := by
    intro α x f hx
    cases x with
    | error e => cases hx
    | ok a => exact ⟨a, rfl, Except.ok.inj hx⟩
  unfold readCommand at h
  dsimp only at h
  split at h
  · obtain ⟨_, -, hencode⟩ := hmap (read_of_readOwn h)
    cases hencode
  · obtain ⟨_, -, hdecode⟩ := hmap (read_of_readOwn h)
    cases hdecode
  · obtain ⟨s', hs', hsimulate⟩ := hmap (read_of_readOwn h)
    obtain rfl := Request.simulate.inj hsimulate
    exact ⟨_, hs'⟩
  · cases read_of_readOwn h
  · split at h
    · cases h
    · split at h <;> cases h
    · cases h

/-- **A simulation that is asked for has been read.** -/
theorem readSimulate_of_readRequest (h : readRequest env args = .ok (format, .simulate s)) :
    ∃ scan, readSimulate env scan = .ok s := by
  unfold readRequest at h
  dsimp only at h
  split at h
  · cases h
  · obtain ⟨_, -, h⟩ := of_bind_eq_ok h
    cases h
  · obtain ⟨_, -, h⟩ := of_bind_eq_ok h
    cases h
  · cases h
  · obtain ⟨⟨inner, request⟩, hcommand, h⟩ := of_bind_eq_ok h
    obtain ⟨outer, -, h⟩ := of_bind_eq_ok h
    obtain ⟨-, rfl⟩ := Prod.mk.inj (Except.ok.inj h)
    exact readSimulate_of_readCommand hcommand

/-- The settings are those of a simulation without faults. -/
structure SimulateSettings.Faultless (s : SimulateSettings) : Prop where
  /-- The two that talk can be told from each other. -/
  distinct : s.client ≠ s.server
  /-- The server's address is one node's. -/
  server : s.server ≠ Address.broadcast
  /-- So is the client's. -/
  client : s.client ≠ Address.broadcast
  /-- So is that of the node that listens, and it has it to itself. -/
  sniffer : ∀ a, s.sniffer = some a → a ≠ Address.broadcast ∧ a ≠ s.server ∧ a ≠ s.client
  /-- The data fits into a frame. -/
  data : (Text.bytes s.data).length ≤ 251
  /-- How frames are written can be used. -/
  frame : ∃ c, s.frame.config = .ok c
  /-- There is a wait for an acknowledgment. -/
  ackTimeout : ∃ d, duration s.ackTimeout = .ok d ∧ 10 * Duration.millisecond < d ∧
    d ≤ 3600 * Duration.second
  /-- There is a pause between datagrams. -/
  interval : ∃ d, duration s.interval = .ok d
  /-- There is a wait for an answer. -/
  replyTimeout : ∃ d, duration s.replyTimeout = .ok d
  /-- Nothing is lost. -/
  dropEvery : s.dropEvery = none
  /-- Nothing is damaged. -/
  corruptEvery : s.corruptEvery = none

/-- The simulation that the settings describe, with what has been read of them. -/
def SimulateSettings.described (s : SimulateSettings) (ackTimeout interval replyTimeout : Nat)
    (frame : Frame.Config) : Simulation.Settings where
  server := s.server
  client := s.client
  sniffer := s.sniffer
  count := s.count
  payload := Text.bytes s.data
  reply := s.reply
  retries := s.retries
  ackTimeout := ackTimeout
  interval := interval
  replyTimeout := replyTimeout
  faults := ⟨s.dropEvery, s.corruptEvery⟩
  frame := frame

/-- **Settings without faults are those of a simulation** in which nothing goes wrong. -/
theorem SimulateSettings.Faultless.settings (h : s.Faultless) (hcount : s.count < 2 ^ 32) :
    ∃ ackTimeout interval replyTimeout frame, duration s.interval = .ok interval ∧
      s.settings = .ok (s.described ackTimeout interval replyTimeout frame) ∧
      (s.described ackTimeout interval replyTimeout frame).Calm := by
  obtain ⟨ackTimeout, hackTimeout, hshort, hlong⟩ := h.ackTimeout
  obtain ⟨interval, hinterval⟩ := h.interval
  obtain ⟨replyTimeout, hreplyTimeout⟩ := h.replyTimeout
  obtain ⟨frame, hframe⟩ := h.frame
  obtain ⟨hvalid, hpayload⟩ := config_valid hframe
  refine ⟨ackTimeout, interval, replyTimeout, frame, hinterval, ?_, ?_⟩
  · have hdiffer : ¬s.server = s.client := h.distinct.symm
    have hapart : ¬(s.sniffer = some s.server ∨ s.sniffer = some s.client) := by
      rintro (hs | hs)
      · exact (h.sniffer _ hs).2.1 rfl
      · exact (h.sniffer _ hs).2.2 rfl
    simp only [SimulateSettings.settings, hackTimeout, hinterval, hreplyTimeout, hframe, hdiffer,
      hapart, if_false]
    rfl
  · refine ⟨h.distinct, ?_, h.sniffer, hvalid, ?_, ?_, hlong, (duration_bounds hinterval).1,
      (duration_bounds hreplyTimeout).1, ?_, ?_⟩
    · rintro (_ | _ | _) hp
      · exact h.client
      · exact h.server
      · exact absurd rfl hp
    · have hreply : Simulation.replyPayload.length ≤ 251 := by decide
      intro p
      show _ ≤ frame.maxPayload
      rw [hpayload]
      cases p with
      | client => exact h.data
      | _ => exact hreply
    · have htwice : 2 * Simulation.pollInterval = 10 * Duration.millisecond := rfl
      rw [htwice]
      exact hshort
    · show (⟨s.dropEvery, s.corruptEvery⟩ : FaultPlan) = {}
      rw [h.dropEvery, h.corruptEvery]
    · have hspan : ackTimeout + interval ≤ 90000 * Duration.second := by
        have hday := (duration_bounds hinterval).2
        unfold longestDuration at hday
        omega
      have hreach : 2 ^ 32 * (90000 * Duration.second) + Duration.second < Deadline.beyond := by
        decide
      show (s.count + 1) * (ackTimeout + interval) + Duration.second < _
      have hall := Nat.mul_le_mul (Nat.succ_le_of_lt hcount) hspan
      rw [Nat.succ_eq_add_one] at hall
      omega

/-! ## What the command comes to -/

/-- A complete report is one of success. -/
theorem reportStatus_of_complete {t : Simulation.Settings} {r : Report} (h : r.Complete t) :
    reportStatus r = .success := by
  obtain ⟨elapsed, hsends⟩ := h.sends
  have hfailed : r.failedSends = 0 := by
    unfold Report.failedSends
    rw [hsends, List.countP_map, List.countP_eq_zero]
    intro k _
    simp [Link.SendOutcome.isFailed]
  simp [reportStatus, hfailed, h.missingReplies]

/-- As soon as it has enough patience, the program ends with this code and prints this. -/
def Exits (terminal : Bool) (env : Environment) (args : List (List Char)) (code : UInt8)
    (printed : Bytes) : Prop :=
  ∃ patience output, (∀ q ≥ patience, run q terminal env args = some output) ∧
    output.status.code = code ∧ output.stdout = printed

/-- **A simulation without faults succeeds**: it comes to a report, the report is complete, and it
is what is printed. -/
theorem exits_complete (hread : readRequest env args = .ok (format, .simulate s))
    (h : s.Faultless) (terminal : Bool) :
    ∃ ackTimeout interval replyTimeout frame patience report,
      let t := s.described ackTimeout interval replyTimeout frame
      duration s.interval = .ok interval ∧ s.settings = .ok t ∧
        (∀ q ≥ patience, Simulation.run q t = some (.ok report)) ∧ report.Complete t ∧
        Exits terminal env args 0
          (SimulationReport.print s.server report (format.getD (.default terminal))) := by
  obtain ⟨scan, hscan⟩ := readSimulate_of_readRequest hread
  obtain ⟨ackTimeout, interval, replyTimeout, frame, hinterval, hsettings, hcalm⟩ :=
    h.settings (count_lt_of_readSimulate hscan)
  obtain ⟨patience, report, hrun, hcomplete⟩ := hcalm.run
  have hruns : ∀ q ≥ patience, Simulation.run q
      (s.described ackTimeout interval replyTimeout frame) = some (.ok report) :=
    fun q hq => Simulation.run_mono hq hrun
  refine ⟨ackTimeout, interval, replyTimeout, frame, patience, report, hinterval, hsettings, hruns,
    hcomplete, patience,
    { status := .success, stdout := SimulationReport.print s.server report _ },
    fun q hq => ?_, rfl, rfl⟩
  simp only [run, hread, perform, runSimulate, hsettings, hruns q hq, Option.map_some,
    Except.mapError, Except.map, reportStatus_of_complete hcomplete]
  rfl

/-- What is handed over of a datagram of the client. -/
def SimulateSettings.datagram (s : SimulateSettings) (k : Nat) : Link.Delivery :=
  ⟨s.server, s.client, UInt8.ofNat k, 0, Text.bytes s.data, -40⟩

/-- What is handed over of an answer of the server. -/
def SimulateSettings.answer (s : SimulateSettings) (k : Nat) : Link.Delivery :=
  ⟨s.client, s.server, UInt8.ofNat k, 0, Simulation.replyPayload, -40⟩

/-- **A simulation without faults succeeds.**  It comes to a report, which is printed, with the code
of success: each datagram is acknowledged at once and handed to the server, each answer is handed to
the client, and nothing is sent more often than it has to be. -/
theorem run_faultless (hread : readRequest env args = .ok (format, .simulate s))
    (h : s.Faultless) (terminal : Bool) :
    ∃ (t : Simulation.Settings) (patience : Nat) (report : Report), s.settings = .ok t ∧
      (∀ q ≥ patience, Simulation.run q t = some (.ok report)) ∧
      Exits terminal env args 0
        (SimulationReport.print s.server report (format.getD (.default terminal))) ∧
      (∃ elapsed : Nat → Nat, report.sends = (List.range s.count).map fun k =>
        (k + 1, .acked (UInt8.ofNat k) 1 (elapsed k))) ∧
      report.records .server = (List.range s.count).map s.datagram ∧
      (∃ t, report.counters .server = [t] ∧ t.duplicates = 0) ∧
      report.records .client = (if s.reply then (List.range s.count).map s.answer else []) ∧
      report.medium.transmissions = if s.reply then 4 * s.count else 2 * s.count := by
  obtain ⟨_, _, _, _, patience, report, -, hsettings, hruns, hcomplete, hexits⟩ :=
    exits_complete hread h terminal
  refine ⟨_, patience, report, hsettings, hruns, hexits, hcomplete.sends, hcomplete.server,
    hcomplete.duplicates, ?_, hcomplete.transmissions⟩
  rw [hcomplete.client]
  unfold Simulation.Settings.answers
  show (List.range (if s.reply then s.count else 0)).map s.answer = _
  cases s.reply <;> rfl

/-- Settings of which only the count, the answers and the node that listens are not the usual ones
are without faults. -/
theorem faultless_of_usual (count : Nat) (reply : Bool) (sniffer : Option Address)
    (ha : ∀ a, sniffer = some a → a ≠ Address.broadcast ∧ a ≠ 2 ∧ a ≠ 1) :
    SimulateSettings.Faultless { count := count, reply := reply, sniffer := sniffer } := by
  have hdistinct : (1 : Address) ≠ 2 := by decide
  have hnodes : (2 : Address) ≠ Address.broadcast ∧ (1 : Address) ≠ Address.broadcast := by decide
  have hdata : (Text.bytes "Hello World!".toList).length ≤ 251 := by decide
  refine ⟨hdistinct, hnodes.1, hnodes.2, ha, hdata, ⟨_, rfl⟩, ⟨_, rfl, ?_, ?_⟩, ⟨_, rfl⟩,
    ⟨_, rfl⟩, rfl, rfl⟩
  · decide
  · decide

/-- Three datagrams that are to be answered, with a node that listens. -/
def answered : SimulateSettings :=
  { reply := true, sniffer := some 9 }

/-- How they are asked for. -/
def answeredArgs : List (List Char) :=
  ["simulate".toList, "--reply".toList, "--sniffer".toList, "9".toList]

theorem readRequest_answeredArgs :
    readRequest [] answeredArgs = .ok (none, .simulate answered) := by
  decide +kernel

theorem answered_faultless : answered.Faultless := by
  refine faultless_of_usual 3 true (some 9) ?_
  rintro a ha
  obtain rfl := Option.some.inj ha
  decide

/-- Three datagrams are acknowledged and answered, with twelve transmissions. -/
theorem run_faultless_answered :
    readRequest [] answeredArgs = .ok (none, .simulate answered) ∧ answered.Faultless ∧
      ∃ (t : Simulation.Settings) (patience : Nat) (report : Report), answered.settings = .ok t ∧
        Simulation.run patience t = some (.ok report) ∧
        Exits false [] answeredArgs 0
          (SimulationReport.print 2 report (Format.default false)) ∧
        report.medium.transmissions = 12 := by
  obtain ⟨t, patience, report, hsettings, hruns, hexits, -, -, -, -, htransmissions⟩ :=
    run_faultless readRequest_answeredArgs answered_faultless false
  exact ⟨readRequest_answeredArgs, answered_faultless, t, patience, report, hsettings,
    hruns patience le_rfl, hexits, htransmissions⟩

/-! ## What the node that listens reports -/

/-- What is handed over of a datagram and its answer. -/
def SimulateSettings.spoken (s : SimulateSettings) (k : Nat) : List Link.Delivery :=
  s.datagram k :: if s.reply then [s.answer k] else []

/-- **The node that listens reports the first 256 datagrams and answers**, each once and in the
order in which they were sent, if the client pauses longer between datagrams than a node does
between two looks at its radio. -/
theorem run_overhears (hread : readRequest env args = .ok (format, .simulate s)) (h : s.Faultless)
    (hlistens : s.sniffer.isSome)
    (hslow : ∀ d, duration s.interval = .ok d → 5 * Duration.millisecond < d) (terminal : Bool) :
    ∃ (t : Simulation.Settings) (patience : Nat) (report : Report), s.settings = .ok t ∧
      (∀ q ≥ patience, Simulation.run q t = some (.ok report)) ∧
      Exits terminal env args 0
        (SimulationReport.print s.server report (format.getD (.default terminal))) ∧
      report.records .sniffer = ((List.range s.count).flatMap s.spoken).take 256 := by
  obtain ⟨_, interval, _, _, patience, report, hinterval, hsettings, hruns, hcomplete, hexits⟩ :=
    exits_complete hread h terminal
  exact ⟨_, patience, report, hsettings, hruns, hexits,
    hcomplete.sniffer hlistens (hslow interval hinterval)⟩

/-- Of three datagrams and their answers all six are reported. -/
theorem run_overhears_answered :
    readRequest [] answeredArgs = .ok (none, .simulate answered) ∧ answered.Faultless ∧
      (∀ d, duration answered.interval = .ok d → 5 * Duration.millisecond < d) ∧
      ∃ (t : Simulation.Settings) (patience : Nat) (report : Report), answered.settings = .ok t ∧
        Simulation.run patience t = some (.ok report) ∧
        Exits false [] answeredArgs 0
          (SimulationReport.print 2 report (Format.default false)) ∧
        report.records .sniffer = (List.range 3).flatMap answered.spoken := by
  have hslow : ∀ d, duration answered.interval = .ok d → 5 * Duration.millisecond < d := by
    intro d hd
    obtain rfl : 100 * Duration.millisecond = d := Except.ok.inj hd
    decide
  obtain ⟨t, patience, report, hsettings, hruns, hexits, hrecords⟩ :=
    run_overhears readRequest_answeredArgs answered_faultless rfl hslow false
  exact ⟨readRequest_answeredArgs, answered_faultless, hslow, t, patience, report, hsettings,
    hruns patience le_rfl, hexits, hrecords⟩

/-- One datagram more than the channel of the node that listens has room for. -/
def crowded : SimulateSettings :=
  { sniffer := some 9, count := 257 }

theorem crowded_faultless : crowded.Faultless := by
  refine faultless_of_usual 257 false (some 9) ?_
  rintro a ha
  obtain rfl := Option.some.inj ha
  decide

/-- **The node that listens need not report all that it hears**, even at the usual pause between
datagrams. -/
theorem overhearing_ends : ¬ ∀ (s : SimulateSettings) (t : Simulation.Settings) (patience : Nat)
    (report : Report), s.Faultless → s.settings = .ok t → s.sniffer.isSome →
      s.interval = "100ms".toList → Simulation.run patience t = some (.ok report) →
        report.records .sniffer = (List.range s.count).flatMap s.spoken := by
  intro hall
  obtain ⟨_, interval, _, _, hinterval, hsettings, hcalm⟩ :=
    crowded_faultless.settings (by decide)
  obtain rfl : 100 * Duration.millisecond = interval := Except.ok.inj hinterval
  obtain ⟨patience, report, hrun, hcomplete⟩ := hcalm.run
  have hrecords := hall _ _ patience report crowded_faultless hsettings rfl rfl hrun
  have hslow : Simulation.pollInterval < 100 * Duration.millisecond := by decide
  have hone : ∀ k, (crowded.spoken k).length = 1 := fun _ => rfl
  have hheard : ((List.range crowded.count).flatMap crowded.spoken).length = 257 := by
    rw [List.length_flatMap]
    simp only [hone, List.map_const', List.sum_replicate_nat, List.length_range, Nat.mul_one]
    rfl
  rw [hcomplete.sniffer rfl hslow] at hrecords
  rw [← hrecords, List.length_take, Simulation.snifferCapacity] at hheard
  omega

end Console
end PacketRadio
