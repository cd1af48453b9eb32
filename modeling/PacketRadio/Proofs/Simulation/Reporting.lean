/-
# What a report tells of each party

rflink specification, §10: `simulate` without fault injection.

A report lists the deliveries and the counters of all parties together.  Those
of one party are picked out by who it is.  They are what it had to tell and
what its node had counted when it finished; only what the listening node was
handed is read off its channel.

Main statements: `State.report_of_outcomes` and `State.report_tells`.
-/

import PacketRadio.Simulation.Report

namespace PacketRadio

/-- What comes of two computations in a row comes of the second, after the first. -/
theorem of_bind_eq_ok {ε α β : Type} {x : Except ε α} {f : α → Except ε β} {b : β}
    (h : x >>= f = .ok b) : ∃ a, x = .ok a ∧ f a = .ok b := by
  cases x with
  | error e => cases h
  | ok a => exact ⟨a, rfl, h⟩

namespace Simulation

open Link (Delivery Node Telemetry)

namespace Report

/-- What a party's node counted, if the party is reported on. -/
def counters (r : Report) (p : Party) : List Telemetry :=
  (r.nodes.filter (·.party == p)).map (·.telemetry)

/-- What was handed to a party. -/
def records (r : Report) (p : Party) : List Delivery :=
  (r.deliveries.filter (·.1 == p)).map Prod.snd

/-- The report of a simulation that has come to `st`, in which the parties have this to tell. -/
structure Tells (r : Report) (st : State) (client server sniffer : Option (Findings × Node)) :
    Prop where
  /-- The sends are the client's. -/
  sends : r.sends = client.elim [] (·.1.sends)
  /-- So are the answers that it missed. -/
  missingReplies : r.missingReplies = client.elim 0 (·.1.missingReplies)
  /-- The medium has counted. -/
  medium : r.medium = st.network.medium.stats
  /-- The client tells what it was handed. -/
  clientRecords : r.records .client = client.elim [] (·.1.deliveries)
  /-- So does the server. -/
  serverRecords : r.records .server = server.elim [] (·.1.deliveries)
  /-- What the listening node was handed is in its channel. -/
  snifferRecords : r.records .sniffer = st.overheard
  /-- The client's node has counted. -/
  clientCounters : r.counters .client = client.elim [] fun o => [o.2.telemetry]
  /-- So has the server's. -/
  serverCounters : r.counters .server = server.elim [] fun o => [o.2.telemetry]
  /-- So has the node that listens. -/
  snifferCounters : r.counters .sniffer = sniffer.elim [] fun o => [o.2.telemetry]

/-- Of the deliveries to one party those to that party are all, and those to another are none. -/
theorem filter_party (p q : Party) (ds : List Delivery) :
    ((ds.map fun d => (q, d)).filter (·.1 == p)).map Prod.snd = if q = p then ds else [] := by
  split
  · rename_i h
    simp [List.filter_map, Function.comp_def, h]
  · rename_i h
    simp [List.filter_map, Function.comp_def, h]

end Report

namespace State

variable {st : State} {report : Report} {client server sniffer : Option (Findings × Node)}

/-- A party that has finished well has something to tell. -/
theorem outcome_of_finisher {p : Party} {f : Finisher} {found : Findings}
    (hf : st.finisher p = some f) (hresult : f.result = .ok found) :
    st.outcome p = .ok (some (found, f.node)) := by
  simp [State.outcome, hf, hresult]

/-- A party that has something to tell has finished well. -/
theorem result_of_outcome {p : Party} {f : Finisher} {o : Option (Findings × Node)}
    (hf : st.finisher p = some f) (h : st.outcome p = .ok o) :
    ∃ found, f.result = .ok found ∧ o = some (found, f.node) := by
  cases hresult : f.result with
  | error e => simp [State.outcome, hf, hresult] at h
  | ok found => exact ⟨found, rfl, Except.ok.inj (h.symm.trans (outcome_of_finisher hf hresult))⟩

/-- **If no party has run into an error there is a report** of what they have to tell. -/
theorem report_of_outcomes (hclient : st.outcome .client = .ok client)
    (hserver : st.outcome .server = .ok server) (hsniffer : st.outcome .sniffer = .ok sniffer) :
    ∃ report, st.report = .ok report ∧ report.Tells st client server sniffer := by
  refine ⟨_, by simp only [State.report, hclient, hserver, hsniffer]; rfl,
    ⟨rfl, rfl, rfl, ?_, ?_, ?_, ?_, ?_, ?_⟩⟩
  all_goals
    cases client <;> cases server <;> cases sniffer <;>
      simp [Report.records, Report.counters, List.filter_append, Report.filter_party]

/-- **Every report comes about that way.** -/
theorem report_tells (h : st.report = .ok report) : ∃ client server sniffer,
    st.outcome .server = .ok server ∧ report.Tells st client server sniffer := by
  cases hclient : st.outcome .client with
  | error e =>
    simp only [State.report, hclient] at h
    cases h
  | ok client =>
    cases hserver : st.outcome .server with
    | error e =>
      simp only [State.report, hclient, hserver] at h
      cases h
    | ok server =>
      cases hsniffer : st.outcome .sniffer with
      | error e =>
        simp only [State.report, hclient, hserver, hsniffer] at h
        cases h
      | ok sniffer =>
        obtain ⟨report', hreport, htells⟩ := report_of_outcomes hclient hserver hsniffer
        obtain rfl := Except.ok.inj (h.symm.trans hreport)
        exact ⟨_, _, _, rfl, htells⟩

end State
end Simulation
end PacketRadio
