/-
# What the server of a simulation has to tell

rflink specification, §10: `simulate` prints deliveries and both nodes'
telemetry.

The server tells of each datagram that it takes out of its queue, and its node
counts each that goes in.  So the report of a simulation has as many
deliveries of the server as its counter says, less those that still wait in
the queue when the server stops.

| the server | may leave in its queue |
| --- | --- |
| does not answer | nothing: it stops with an empty queue |
| answers | what came in while it waited for an answer to be acknowledged |

Main statements: `Server.turn_settles` and `report_accounts`.
-/

import PacketRadio.Proofs.Link.Stock
import PacketRadio.Proofs.Simulation.Reporting
import PacketRadio.Proofs.Simulation.Schedule

namespace PacketRadio
namespace Link

/-- No stretch changes the configuration. -/
theorem Intake.config_eq {n n' : Node} {es : List Exchange}
    {r : Except Error (Turn Activity Reply)} (h : Intake n es n' r) : n'.config = n.config := by
  cases h with
  | none outward same hr => exact Node.config_of_inward same
  | popped hd => rfl
  | looked before hp after same hr => exact (Node.config_of_inward same).trans hp.config_eq

/-- A send that begins gives out nothing. -/
theorem Dispatching.given_eq {n n' : Node} {d : Errand} {es : List Exchange}
    {r : Except Error (Turn Activity Reply)} (h : Dispatching n d es n' r) :
    Turn.given r = none := by
  cases h with
  | oversized hsize => rfl
  | @once _ _ r hsize hd hp =>
    cases r with
    | error e => rfl
    | ok u =>
      simp only [Except.map, Errand.reply]
      split <;> rfl
  | awaited hsize hd hdst t => rfl

end Link

namespace Simulation

open Link (Action Activity Delivery Exchange Intake Node Operation Reply Starting Telemetry Turn
  Turning)
open Link.Action

variable {s : Settings} {sv : Server} {n : Node}

/-! ## The server's turns -/

namespace Server

/-- How many deliveries the server has taken out of its queue; it may be answering the last. -/
def taken (sv : Server) : Nat :=
  match sv.stage with
  | .replying _ _ => sv.found.deliveries.length + 1
  | _ => sv.found.deliveries.length

/-- What the server is at, with these deliveries in its queue. -/
def Stage.Suits (s : Settings) (w : List Delivery) : Stage → Prop
  | .ready => s.reply = false → w = []
  | .receiving a => (∃ deadline, a = .receiving deadline) ∧ (s.reply = false → w.length ≤ 1)
  | .replying _ a => (∃ send, a = .sending send) ∧ s.reply = true

/-- The server's node has counted what the server has taken and what waits. -/
structure Sound (s : Settings) (sv : Server) (n : Node) : Prop where
  /-- The node is the server's. -/
  config : n.config = s.node s.server
  /-- The deliveries are accounted for. -/
  stock : ∃ w, n.Stock n.config.deliveryCapacity sv.taken w ∧ sv.stage.Suits s w

/-- How a turn of the server may end. -/
def Settles (s : Settings) : Except Link.Error (Turn Server Findings) → Node → Prop
  | .ok (.again sv), n => sv.Sound s n
  | .ok (.finish found), n => n.config = s.node s.server ∧
      ∃ w, n.Stock n.config.deliveryCapacity found.deliveries.length w ∧ (s.reply = false → w = [])
  | .error _, _ => True

/-- The server takes a delivery that it has answered. -/
theorem settles_replied {t : Turn Activity Reply} {d : Delivery} {w : List Delivery}
    (hreply : s.reply = true) (hsend : ∀ a, t = .again a → ∃ send, a = .sending send)
    (hconfig : n.config = s.node s.server)
    (hstock : n.Stock n.config.deliveryCapacity (sv.found.deliveries.length + 1) w) :
    Settles s (.ok (sv.replied d t)) n := by
  cases t with
  | again a => exact ⟨hconfig, w, hstock, hsend a rfl, hreply⟩
  | finish reply =>
    refine ⟨hconfig, w, ?_, fun hsilent => ?_⟩
    · simpa [taken, take, Findings.addDelivery] using hstock
    · rw [hreply] at hsilent
      cases hsilent

/-- **The server answers a delivery**, or just takes it. -/
theorem received_settles {d : Delivery} {w : List Delivery} (hconfig : n.config = s.node s.server)
    (hstock : n.Stock n.config.deliveryCapacity (sv.found.deliveries.length + 1) w)
    (hw : s.reply = false → w = []) :
    (received s sv (.finish (.delivery (some d)))).Goes n fun _ n' r => Settles s r n' := by
  simp only [received]
  split
  · rename_i hreply
    refine (Link.start_goes (.sendReliable d.src replyPayload) n).bind (fun es n' turn hs => ?_)
      fun _ _ _ _ => trivial
    have hsame : n'.config = n.config := hs.intake.config_eq
    obtain ⟨w', hw'⟩ := hs.intake.stock hstock
    cases hs with
    | sending hop hd =>
      rw [hd.given_eq] at hw'
      refine settles_replied hreply (fun a ha => ?_) (hsame.trans hconfig) (hsame ▸ hw')
      subst ha
      generalize hr : (Except.ok (Turn.again a) : Except Link.Error (Turn Activity Reply)) = r at hd
      cases hd with
      | oversized hsize => cases hr
      | @once _ _ r hsize hd hp => cases r <;> cases hr
      | awaited hsize hd hdst t =>
        cases hr
        exact ⟨_, rfl⟩
  · refine ⟨hconfig, w, ?_, hw⟩
    simpa [taken, take, Findings.addDelivery] using hstock

/-- **The server's node counts what the server takes and what is left to it.** -/
theorem turn_settles (h : sv.Sound s n) :
    (sv.turn s).Goes n fun _ n' r => Settles s r n' := by
  obtain ⟨hconfig, w, hstock, hsuits⟩ := h
  unfold turn
  cases hstage : sv.stage with
  | ready =>
    rw [taken, hstage] at hstock
    rw [hstage] at hsuits
    refine (keeps_bind _ _).2 ((keeps_ask _).2 ⟨trivial, fun stopped => ?_⟩)
    rw [onward_ok]
    cases stopped with
    | true =>
      refine (keeps_bind _ _).2 ((keeps_setMode _).2 ⟨trivial, fun idled => ?_⟩)
      cases idled with
      | error failure => exact trivial
      | ok u => exact ⟨hconfig, w, hstock, hsuits⟩
    | false =>
      refine Goes.after (x := if false = true then _ else _) ?_
      refine (Link.start_goes (.recvTimeout serverPatience) n).bind (fun es n' turn hs => ?_)
        fun _ _ _ _ => trivial
      cases hs with
      | receiving timeout t =>
        refine ⟨hconfig, w, hstock, ⟨_, rfl⟩, fun hsilent => ?_⟩
        rw [hsuits hsilent]
        exact Nat.zero_le 1
      | sending hop hd => cases hop
  | receiving a =>
    rw [taken, hstage] at hstock
    rw [hstage] at hsuits
    obtain ⟨⟨deadline, rfl⟩, hfew⟩ := hsuits
    refine (Link.turn_goes (.receiving deadline) n).bind (fun es n' turn ht => ?_)
      fun _ _ _ _ => trivial
    have hsame : n'.config = n.config := ht.intake.config_eq
    have hconfig' := hsame.trans hconfig
    have hawait := ht.stock_receiving hstock
    rw [← hsame] at hawait
    generalize hr : (Except.ok turn : Except Link.Error (Turn Activity Reply)) = r at hawait
    cases hawait with
    | received d hn' =>
      cases hr
      refine received_settles hconfig' hn' fun hsilent => ?_
      exact List.length_eq_zero_iff.1 (by rw [List.length_tail]; have := hfew hsilent; omega)
    | expired hw hn' =>
      cases hr
      exact ⟨hconfig', [], hn', fun _ => rfl⟩
    | @waited hw more hmore hn' =>
      cases hr
      exact ⟨hconfig', more, hn', ⟨_, rfl⟩, fun _ => hmore⟩
    | failed e => cases hr
  | replying d a =>
    rw [taken, hstage] at hstock
    rw [hstage] at hsuits
    obtain ⟨⟨send, rfl⟩, hreply⟩ := hsuits
    refine (Link.turn_goes (.sending send) n).bind (fun es n' turn ht => ?_)
      fun _ _ _ _ => trivial
    have hsame : n'.config = n.config := ht.intake.config_eq
    obtain ⟨w', hw'⟩ := ht.intake.stock hstock
    generalize hr : (Except.ok turn : Except Link.Error (Turn Activity Reply)) = r at ht hw'
    cases ht with
    | @sending _ _ _ r hs =>
      rcases r with e | send' | outcome
      · cases hr
      · cases hr
        exact settles_replied hreply (fun a ha => ⟨send', (Turn.again.inj ha).symm⟩)
          (hsame.trans hconfig) (hsame ▸ hw')
      · cases hr
        exact settles_replied (t := .finish (.outcome outcome)) hreply (fun a ha => by cases ha)
          (hsame.trans hconfig) (hsame ▸ hw')

end Server

/-! ## Whole simulations -/

/-- The server's turns end as they may; nothing is said of the others'. -/
def ServerSettles (s : Settings) (p : Party) (r : Except Link.Error (Turn Role Findings))
    (n : Node) : Prop :=
  p = .server → ∃ own : Except Link.Error (Turn Server Findings),
    r = own.map (Turn.map .server id) ∧ Server.Settles s own n

/-- **A turn of the server, as one of the parties, ends as it may.** -/
theorem role_settles {p : Party} {role : Role} (h : ServerSettles s p (.ok (.again role)) n) :
    Remainder.Ends (role.turn s n) (ServerSettles s p) := by
  intro es r n' hpath hp
  obtain ⟨own, hown, hsettles⟩ := h hp
  match own, hown with
  | .ok (.again sv), hown =>
    obtain rfl : role = .server sv := by injection hown with hown; injection hown
    have hgoes : (Role.turn s (.server sv)).Goes n fun _ n' r =>
        ∃ own : Except Link.Error (Turn Server Findings),
          r = own.map (Turn.map .server id) ∧ Server.Settles s own n' :=
      (Server.turn_settles hsettles).bind (fun es n' turn ht => ⟨.ok turn, rfl, ht⟩)
        fun es n' e he => ⟨.error e, rfl, he⟩
    exact hgoes.path hpath

/-- A node that has just been brought up is a fresh one. -/
theorem bringUp_fresh {p : Party} {config : Link.Config} {network network' : Network}
    (h : bringUp p config network = .ok (n, network')) : n = Node.fresh config := by
  let anything : Link.Contract Unit := ⟨fun _ _ => (), fun _ _ => True⟩
  unfold bringUp at h
  have hkeeps := Link.bringUp_keeps (C := anything) (c := config) () fun _ _ _ => trivial
  obtain ⟨-, hfresh⟩ :=
    hkeeps.run (Network.surroundings (network.attach none).1) (network.attach none).2
  dsimp only at h
  split at h
  · rename_i node network'' hrun
    rw [hrun] at hfresh
    obtain ⟨rfl, rfl⟩ := Prod.mk.inj (Except.ok.inj h)
    exact hfresh _ rfl
  · cases h

/-- **A simulation begins with the server about to take its first turn**, and nobody has
finished. -/
theorem start_server {st : State} (h : start s = .ok st) : ∃ client others,
    st.acting = some (.client, client) ∧ st.finished = [] ∧
      st.queue = queued s (.server {}) (Node.fresh (s.node s.server)) :: others ∧
      ∀ a ∈ others, a.party = .sniffer := by
  unfold start at h
  obtain ⟨⟨server, network⟩, hserver, h⟩ := of_bind_eq_ok h
  obtain ⟨⟨client, network'⟩, -, h⟩ := of_bind_eq_ok h
  obtain rfl := bringUp_fresh hserver
  dsimp only at h
  cases hsniffer : s.sniffer with
  | none =>
    rw [hsniffer] at h
    obtain rfl := Except.ok.inj h
    exact ⟨_, [], rfl, rfl, rfl, by simp⟩
  | some address =>
    rw [hsniffer] at h
    obtain ⟨⟨sniffer, network''⟩, -, h⟩ := of_bind_eq_ok h
    obtain rfl := Except.ok.inj h
    exact ⟨_, _, rfl, rfl, rfl, by simp [queued, Role.party]⟩

/-- The server finishes once. -/
theorem finisher_server {st st' : State} {p : Nat} (hstart : start s = .ok st)
    (hrun : st.run s p = some st') : ∃ f, st'.finisher .server = some f ∧
      ServerSettles s .server (f.result.map .finish) f.node := by
  obtain ⟨client, others, hacting, hfinished, hqueue, hothers⟩ := start_server hstart
  have hfresh :
      ServerSettles s .server (.ok (.again (.server {}))) (Node.fresh (s.node s.server)) :=
    fun _ => ⟨.ok (.again {}), rfl, rfl, [], Node.stock_fresh _, fun _ => rfl⟩
  have hupholds : st.Upholds (ServerSettles s) := by
    refine ⟨fun p rest hp => ?_, fun a ha => ?_, by simp [hfinished]⟩
    · rw [hacting] at hp
      obtain ⟨rfl, rfl⟩ := Prod.mk.inj (Option.some.inj hp)
      exact fun _ _ _ _ => nofun
    · rw [hqueue] at ha
      rcases List.mem_cons.1 ha with rfl | ha
      · exact role_settles hfresh
      · rw [hothers a ha]
        exact fun _ _ _ _ => nofun
  have hawake : st.Awake := fun hnone => by rw [hacting] at hnone; cases hnone
  obtain ⟨hperm, hends⟩ := State.run_finished hrun hawake hupholds fun p role n => role_settles
  have hmem : Party.server ∈ st'.finished.map (·.party) := by
    refine hperm.mem_iff.2 ?_
    simp [State.parties, hqueue, queued, Role.party]
  obtain ⟨f, hf, hparty⟩ := List.mem_map.1 hmem
  obtain ⟨f', hf'⟩ := Option.isSome_iff_exists.1
    (List.find?_isSome.2 ⟨f, hf, by simp [hparty]⟩ : (st'.finisher .server).isSome)
  have hserver : f'.party = .server := by simpa using List.find?_some hf'
  exact ⟨f', hf', hserver ▸ hends f' (List.mem_of_find?_eq_some hf')⟩

/-- **What the server's node has counted is what it tells of, and what was left in its queue.**
Nothing is left of a server that does not answer. -/
theorem report_accounts {s : Settings} {p : Nat} {report : Report}
    (h : run p s = some (.ok report)) : ∃ t, report.counters .server = [t] ∧
      ∃ left, t.delivered = (report.records .server).length + left ∧
        left ≤ (s.node s.server).deliveryCapacity ∧ (s.reply = false → left = 0) := by
  unfold run at h
  split at h
  · cases h
  · rename_i st hstart
    obtain ⟨st', hrun, hreport⟩ := Option.map_eq_some_iff.1 h
    obtain ⟨client, server, sniffer, houtcome, htells⟩ := State.report_tells hreport
    obtain ⟨f, hf, hends⟩ := finisher_server hstart hrun
    obtain ⟨own, hown, hsettles⟩ := hends rfl
    obtain ⟨found, hresult, rfl⟩ := State.result_of_outcome hf houtcome
    rw [hresult] at hown
    match own, hown with
    | .ok (.finish found'), hown =>
      obtain rfl : found = found' := by injection hown with hown; injection hown
      obtain ⟨hconfig, w, hstock, hw⟩ := hsettles
      rw [htells.serverCounters, htells.serverRecords]
      refine ⟨_, rfl, w.length, hstock.counted, hconfig ▸ hstock.room, fun hsilent => ?_⟩
      rw [hw hsilent]
      rfl

/-- Two datagrams that are to be answered, over a medium that loses every fourth transmission.  The
client does not wait for answers for long, and the server goes on with the first one. -/
def hasty : Settings where
  server := 2
  client := 1
  sniffer := none
  count := 2
  payload := Text.bytes "Hello World!".toList
  reply := true
  retries := 1
  ackTimeout := 20 * Duration.millisecond
  interval := Duration.millisecond
  replyTimeout := Duration.millisecond
  faults := ⟨some 4, none⟩
  frame := {}

/-- The sends, and what the server tells of and what its node has counted. -/
def Report.tally (r : Report) : List Bool × Nat × List Nat :=
  (r.sends.map fun send => send.2.isAcked, (r.records .server).length,
    (r.counters .server).map fun t => t.delivered)

/-- Both datagrams are acknowledged, and the server tells of one. -/
theorem hasty_tally : ∃ report, run 40 hasty = some (.ok report) ∧
    report.tally = ([true, true], 1, [2]) := by
  have htally : (run 40 hasty).map (fun r => r.toOption.map Report.tally) =
      some (some ([true, true], 1, [2])) := by decide +kernel
  obtain ⟨result, hresult, htally⟩ := Option.map_eq_some_iff.1 htally
  cases result with
  | error e => cases htally
  | ok report => exact ⟨report, hresult, Option.some.inj htally⟩

/-- There one is left in the queue. -/
theorem report_accounts_hasty : ∃ report, run 40 hasty = some (.ok report) ∧
    ∃ t, report.counters .server = [t] ∧
      ∃ left, t.delivered = (report.records .server).length + left ∧
        left ≤ (hasty.node hasty.server).deliveryCapacity ∧ (hasty.reply = false → left = 0) := by
  obtain ⟨report, hrun, -⟩ := hasty_tally
  exact ⟨report, hrun, report_accounts hrun⟩

/-- **What the server's node has counted need not be what the server tells of**, even though the
client's sends are acknowledged. -/
theorem records_fall_short : ¬ ∀ (s : Settings) (p : Nat) (report : Report),
    run p s = some (.ok report) →
      report.counters .server ≠ [] ∧
        ∀ t ∈ report.counters .server, (report.records .server).length = t.delivered := by
  intro hall
  obtain ⟨report, hrun, htally⟩ := hasty_tally
  obtain ⟨-, hequal⟩ := hall _ _ _ hrun
  obtain ⟨-, htally⟩ := Prod.mk.inj htally
  obtain ⟨hrecords, hcounted⟩ := Prod.mk.inj htally
  obtain ⟨t, hcounters, hdelivered⟩ := List.map_eq_singleton_iff.1 hcounted
  have hshort := hequal t (by simp [hcounters])
  rw [hrecords, hdelivered] at hshort
  cases hshort

end Simulation
end PacketRadio
