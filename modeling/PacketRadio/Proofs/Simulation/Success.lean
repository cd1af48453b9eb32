/-
# A simulation in which nothing goes wrong succeeds

rflink specification, §10: `simulate` without fault injection.

It comes to its end, and its report has all that was sent.

| the report | has |
| --- | --- |
| sends | one for each datagram, acknowledged at once |
| deliveries to the server | all datagrams |
| deliveries to the client | all answers, if there were to be any |
| deliveries to the node that listens | datagrams and answers, as far as its channel has room |

Main statement: `Settings.Calm.run`.
-/

import PacketRadio.Proofs.Simulation.Outset

namespace PacketRadio
namespace Simulation

open Link (Node SendOutcome)

variable {s : Settings}

/-- The report has all that was sent. -/
structure Report.Complete (s : Settings) (r : Report) : Prop where
  /-- Each datagram was sent once and acknowledged. -/
  sends : ∃ elapsed : Nat → Nat, r.sends = (List.range s.count).map fun k =>
    (k + 1, SendOutcome.acked (UInt8.ofNat k) 1 (elapsed k))
  /-- No answer is missing. -/
  missingReplies : r.missingReplies = 0
  /-- The server was handed each datagram. -/
  server : r.records .server = (List.range s.count).map (s.delivery .client)
  /-- The client was handed each answer. -/
  client : r.records .client = (List.range (s.answers s.count)).map (s.delivery .server)
  /-- The node that listens was handed all of them in order, as far as there was room. -/
  sniffer : s.sniffer.isSome → pollInterval < s.interval →
    r.records .sniffer = ((List.range s.count).flatMap s.handed).take snifferCapacity
  /-- Nothing came to the server twice. -/
  duplicates : ∃ t, r.counters .server = [t] ∧ t.duplicates = 0
  /-- Nothing was sent twice. -/
  transmissions : r.medium.transmissions = if s.reply then 4 * s.count else 2 * s.count

/-- **A simulation that has come to its end on course** has a report, and it is complete. -/
theorem Goes.report {m : Moment} {st : State} (h : Goes s m) (hst : m.Of s st)
    (hover : ∀ p, m.cast p = none) : ∃ report, st.report = .ok report ∧ report.Complete s := by
  obtain ⟨phase, htalk, hears⟩ := h.phase
  obtain ⟨found, n, hclient, hsends, hanswers, hmissing⟩ := h.client (hover _)
  obtain ⟨found', n', hserver, hdeliveries, hduplicates⟩ := h.server (hover _)
  obtain ⟨report, hreport, htells⟩ :=
    State.report_of_outcomes (hst.outcome .client) (hst.outcome .server) (hst.outcome .sniffer)
  refine ⟨report, hreport, ?_⟩
  rw [hclient, hserver] at htells
  rw [hover, hover] at htalk
  rw [hover, hover] at hears
  have hlog : m.scene.log = s.exchanges s.count := by
    cases htalk with
    | ended hlog => exact hlog
  refine ⟨?_, ?_, ?_, ?_, fun hsniffer hslow => ?_, ⟨n'.telemetry, ?_, hduplicates⟩, ?_⟩
  · rw [htells.sends]
    exact hsends
  · rw [htells.missingReplies]
    exact hmissing
  · rw [htells.serverRecords]
    exact hdeliveries
  · rw [htells.clientRecords]
    exact hanswers
  · rw [htells.snifferRecords, State.overheard, hst.network.channels]
    cases hears with
    | absent ha => simp [ha] at hsniffer
    | finished _ _ hheard =>
      rw [hheard hslow, hlog, ← s.datagrams_exchanges]
      rfl
  · rw [htells.serverCounters]
    rfl
  · rw [htells.medium, hst.network.medium.count, hlog, s.length_exchanges]

/-- **A simulation in which nothing goes wrong succeeds.** -/
theorem Settings.Calm.run (hs : s.Calm) :
    ∃ patience report, Simulation.run patience s = some (.ok report) ∧ report.Complete s := by
  obtain ⟨st, m, hstart, hgoes, hst⟩ := hs.start
  obtain ⟨patience, st', m', hrun, hgoes', hst', hover⟩ := hgoes.run hs hst
  obtain ⟨report, hreport, hcomplete⟩ := hgoes'.report hst' hover
  refine ⟨patience, report, ?_, hcomplete⟩
  simp only [Simulation.run, hstart, hrun, Option.map_some]
  exact congrArg some hreport

end Simulation
end PacketRadio
