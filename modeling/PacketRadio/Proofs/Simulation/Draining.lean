/-
# What waits is taken

rflink specification, §10: the drain of the node that listens; §4.4:
`recv_timeout`.

A node that looks at its radio until there is nothing takes all that waits at
its station, if no other station acts: every look takes one frame, and the one
that takes none comes when none is left.

Main statements: `Sniffer.drains_alone` (so the drain takes as many looks as
frames wait, and one), and `waiting_ends` (every wait comes to an end).
-/

import PacketRadio.Simulation.Sniffer
import PacketRadio.Proofs.Network.Patience

namespace PacketRadio

/-! ## A radio on the medium -/

namespace Medium

variable {m : Medium} {i : Nat}

/-- A radio that listens tells whether a frame waits. -/
theorem call_frameReady (hlive : (m.live? i).isSome) (hmode : m.mode i = .receive) :
    (m.call i .frameReady).1 = .ok (!(m.fifo i).isEmpty) ∧ (m.call i .frameReady).2 = m := by
  obtain ⟨station, hs⟩ := Option.isSome_iff_exists.1 hlive
  have hat : m.stations[i]? = some station := (Option.filter_eq_some_iff.1 hs).1
  have hlistens : station.mode = .receive := by
    rwa [mode, hat, Option.elim_some] at hmode
  simp [call, hs, hmode, fifo, hat, Station.ready, hlistens]

/-- A radio gives out the oldest frame that waits. -/
theorem call_receive (hlive : (m.live? i).isSome) :
    (m.call i .receive).1 = .ok (m.fifo i).head? := by
  obtain ⟨station, hs⟩ := Option.isSome_iff_exists.1 hlive
  have hat : m.stations[i]? = some station := (Option.filter_eq_some_iff.1 hs).1
  simp [call, hs, fifo, hat, Station.take]

/-- A radio that is told a mode is in it. -/
theorem mode_call_setMode (hlive : (m.live? i).isSome) (mode : Radio.Mode) :
    (m.call i (.setMode mode)).2.mode i = mode := by
  have hat := lt_of_live hlive
  simp [call, modify, Medium.mode, List.getElem?_eq_getElem hat]

end Medium

namespace Link

variable {σ : Type} {env : Surroundings σ} {i : Nat} {medium : σ → Medium} {clock : σ → Nat}
  {s s' : σ} {n n' : Node} {es : List Exchange}

/-! ## One look -/

/-- A radio on the medium stays there. -/
theorem Alone.live (ha : Alone env i medium clock) (hg : env.Gives s es s')
    (hlive : ((medium s).live? i).isSome) : ((medium s').live? i).isSome :=
  Medium.live_of_present (ha.gives hg).2.1 hlive

/-- **A radio on the medium does not fail** a node that does not bring it up again. -/
theorem Alone.works (ha : Alone env i medium clock) (hg : env.Gives s es s')
    (hlive : ((medium s).live? i).isSome) (hes : ∀ e ∈ es, Traffic.Permits e.request) :
    es.any Exchange.failed = false := by
  induction hg with
  | nothing s => rfl
  | @answer r s s' es rest ih =>
    obtain ⟨hr, hrest⟩ := List.forall_mem_cons.1 hes
    have hone : env.Gives s [⟨r, (env.answer r s).1⟩] (env.answer r s).2 := .answer r (.nothing _)
    rw [List.any_cons, ih (ha.live hone hlive) hrest, Bool.or_false]
    cases r with
    | radio call =>
      obtain ⟨result, hresult⟩ := Medium.call_ok hlive hr
      rw [(ha.calls call s).1, hresult]
      rfl
    | _ => rfl

/-- A listening radio is idle only if no frame waits. -/
theorem Looking.emptied (ha : Alone env i medium clock) (hg : env.Gives s es s')
    (hlive : ((medium s).live? i).isSome) (hmode : (medium s).mode i = .receive)
    (hl : Looking n es n' (.ok .idle)) : (medium s).fifo i = [] := by
  obtain ⟨hready, hsame⟩ := Medium.call_frameReady hlive hmode
  generalize hevent : Except.ok PollEvent.idle = event at hl
  cases hl with
  | failed failure => cases hevent
  | nothing =>
    obtain ⟨hanswer, -⟩ := Surroundings.gives_cons.1 hg
    have hnone := hanswer.trans ((ha.calls .frameReady s).1.trans hready)
    simpa using hnone
  | @ready es n' event hf restored =>
    obtain ⟨-, hrest⟩ := Surroundings.gives_cons.1 hg
    cases hf with
    | failed failure => cases hevent
    | nothing =>
      obtain ⟨hanswer, -⟩ := Surroundings.gives_cons.1 hrest
      have hmedium : medium (env.answer (.radio .frameReady) s).2 = medium s :=
        (ha.calls .frameReady s).2.trans hsame
      have hnone := hanswer.trans (ha.calls .receive _).1
      rw [hmedium, Medium.call_receive hlive] at hnone
      exact List.head?_eq_none_iff.1 (Except.ok.inj hnone).symm
    | @taken r es n' event hh =>
      cases event with
      | error e => cases hevent
      | ok event =>
        cases restored with
        | error failure => cases hevent
        | ok u => exact absurd hevent.symm hh.ne_idle

/-- **A look at the radio is idle only if no frame waits.** -/
theorem Polling.emptied (ha : Alone env i medium clock) (hg : env.Gives s es s')
    (hlive : ((medium s).live? i).isSome) (hp : Polling n es n' (.ok .idle)) :
    (medium s).fifo i = [] := by
  have hmedium : medium (env.answer .mode s).2 = medium s := ha.apart _ s nofun
  generalize hevent : Except.ok PollEvent.idle = event at hp
  cases hp with
  | deaf hm failure => cases hevent
  | @roused m hm es n' event hl =>
    subst hevent
    obtain ⟨-, hrest⟩ := Surroundings.gives_cons.1 hg
    obtain ⟨-, hlooked⟩ := Surroundings.gives_cons.1 hrest
    have htold := (ha.calls (.setMode .receive) (env.answer .mode s).2).2
    rw [hmedium] at htold
    have hempty := hl.emptied ha hlooked
      (Medium.live_of_present (htold ▸ (medium s).present_call i _) hlive)
      (htold ▸ Medium.mode_call_setMode hlive .receive)
    rw [htold] at hempty
    have hfifo := (medium s).fifo_call_self i (.setMode .receive)
    rw [hempty] at hfifo
    exact hfifo.symm
  | awake hl =>
    subst hevent
    obtain ⟨hanswer, hlooked⟩ := Surroundings.gives_cons.1 hg
    have hmode : (medium s).mode i = .receive := (ha.mode s).symm.trans hanswer.symm
    have hempty := hl.emptied ha hlooked (hmedium ▸ hlive) (hmedium ▸ hmode)
    rwa [hmedium] at hempty

/-- **A look at a radio on the medium takes the oldest frame that waits**, and is idle if none
does. -/
theorem Polling.takes (ha : Alone env i medium clock) (hg : env.Gives s es s')
    (hlive : ((medium s).live? i).isSome) (hc : n.config.frame.Valid)
    {event : Except Error PollEvent} (hp : Polling n es n' event) :
    ∃ e, event = .ok e ∧ (e = .idle ↔ (medium s).fifo i = []) ∧
      ((medium s').fifo i) = ((medium s).fifo i).tail := by
  have hroutine := hp.routine hc
  obtain ⟨⟨e, rfl⟩, -⟩ := hroutine.counted (ha.works hg hlive hroutine.requests)
  have htaken := (ha.gives hg).1
  by_cases hidle : e = .idle
  · subst hidle
    have hempty := hp.emptied ha hg hlive
    rw [hp.unheard, List.nil_append] at htaken
    refine ⟨_, rfl, iff_of_true rfl hempty, ?_⟩
    rw [htaken, hempty]
    rfl
  · rcases hp.taking with ⟨-, -, hnone⟩ | ⟨r, hr⟩
    · exact absurd (hnone e rfl) hidle
    · rw [hr.heard] at htaken
      refine ⟨e, rfl, iff_of_false hidle ?_, ?_⟩
      · rw [← htaken]
        exact List.cons_ne_nil _ _
      · rw [← htaken]
        rfl

end Link

namespace Simulation

open Link (Action Exchange Node Operation PollEvent Polling Surroundings Turn)
open Link.Action (keeps_bind keeps_setMode keeps_pure)

/-! ## The drain -/

/-- So many turns of a listening node, unless it has finished before. -/
def Sniffer.turns : Nat → Sniffer → Action (Turn Sniffer Findings)
  | 0, sniffer => pure (.again sniffer)
  | k + 1, sniffer => do
    match ← sniffer.turn with
    | .again sniffer => sniffer.turns k
    | .finish findings => pure (.finish findings)

/-- The turns go on after one that does. -/
theorem Sniffer.turns_again {sniffer sniffer' : Sniffer} {n n₁ : Node} {es es' : List Exchange}
    {rest : Link.Task (Except Link.Error (Turn Sniffer Findings) × Node)} {k : Nat}
    (hturn : Link.Task.Path (sniffer.turn n) es (.done (.ok (.again sniffer'), n₁)))
    (hrest : Link.Task.Path (sniffer'.turns k n₁) es' rest) :
    Link.Task.Path (sniffer.turns (k + 1) n) (es ++ es') rest :=
  Link.Task.Path.trans (hturn.bind _) hrest

/-- They are over with the one that is the last. -/
theorem Sniffer.turns_finish {sniffer : Sniffer} {n n₁ : Node} {es : List Exchange}
    {findings : Findings} (k : Nat)
    (hturn : Link.Task.Path (sniffer.turn n) es (.done (.ok (.finish findings), n₁))) :
    Link.Task.Path (sniffer.turns (k + 1) n) es (.done (.ok (.finish findings), n₁)) :=
  hturn.bind _

/-- A turn of a node that takes what is left. -/
inductive Sniffer.Drains (n : Node) :
    List Exchange → Node → Except Link.Error (Turn Sniffer Findings) → Prop where
  /-- The look goes wrong. -/
  | failed {es : List Exchange} {n' : Node} {e : Link.Error} (hp : Polling n es n' (.error e)) :
      Drains n es n' (.error e)
  /-- Something was left. -/
  | taken {es : List Exchange} {n' : Node} {event : PollEvent} (hp : Polling n es n' (.ok event))
      (he : event ≠ .idle) : Drains n es n' (.ok (.again .draining))
  /-- Nothing was, and the radio is told to be idle. -/
  | emptied {es : List Exchange} {n' : Node} (hp : Polling n es n' (.ok .idle))
      (idled : Except Radio.Failure Unit) :
      Drains n (es ++ [⟨.radio (.setMode .idle), idled⟩]) n'
        ((idled.mapError .radio).map fun _ => .finish {})

theorem Sniffer.drain_goes (n : Node) : Sniffer.draining.turn.Goes n (Drains n) := by
  refine (Link.poll_goes n).bind (fun es n' event hp => ?_) fun es n' e hp => .failed hp
  split
  · rename_i he
    subst he
    refine (keeps_bind _ _).2 ((keeps_setMode _).2 ⟨trivial, fun idled => ?_⟩)
    have hemptied := Drains.emptied hp idled
    cases idled <;> exact hemptied
  · rename_i he
    refine (keeps_pure _).2 ?_
    rw [List.append_nil]
    exact .taken hp he

section

variable {σ : Type} {env : Surroundings σ} {i : Nat} {medium : σ → Medium} {clock : σ → Nat}
  {s s' : σ} {n n' : Node} {es : List Exchange}

/-- **The drain is over after the look that finds nothing**, the one after as many as frames wait;
in every turn before that it takes one. -/
theorem Sniffer.drains_alone (ha : Link.Alone env i medium clock)
    (hlive : ((medium s).live? i).isSome) (hc : n.config.frame.Valid) (k : Nat) :
    ∃ es n' s', Link.Task.Path (Sniffer.draining.turns k n) es (.done
        (.ok (if k ≤ ((medium s).fifo i).length then .again .draining else .finish {}), n')) ∧
      env.Gives s es s' ∧ Exchange.polls es = min k (((medium s).fifo i).length + 1) := by
  induction k generalizing n s with
  | zero => exact ⟨[], n, s, .here _, .nothing s, (Nat.zero_min _).symm⟩
  | succ k ih =>
    obtain ⟨es, hpath, hgives⟩ := Link.Task.run_gives env (Sniffer.draining.turn n) s
    generalize (Sniffer.draining.turn n).run env s = out at hpath hgives
    obtain ⟨⟨r, n₁⟩, s₁⟩ := out
    dsimp only at hpath hgives
    have hdrains := (Sniffer.drain_goes n).path hpath
    cases hdrains with
    | failed hp =>
      obtain ⟨e, he, -⟩ := hp.takes ha hgives hlive hc
      cases he
    | @taken es n₁ event hp hevent =>
      obtain ⟨_, ⟨⟩, hidle, htail⟩ := hp.takes ha hgives hlive hc
      obtain ⟨es', n', s', hrest, hgives', hpolls⟩ :=
        ih (ha.live hgives hlive) (hp.config_eq ▸ hc)
      have hwaits : ((medium s).fifo i).length = ((medium s₁).fifo i).length + 1 := by
        have hpos := List.length_pos_of_ne_nil fun hempty => hevent (hidle.2 hempty)
        rw [htail, List.length_tail]
        omega
      refine ⟨es ++ es', n', s', ?_, hgives.trans hgives', ?_⟩
      · rw [hwaits, if_congr Nat.succ_le_succ_iff rfl rfl]
        exact Sniffer.turns_again hpath hrest
      · rw [Exchange.polls_append, hp.polls_eq, hpolls, hwaits]
        omega
    | @emptied es n₁ hp idled =>
      obtain ⟨s₂, hlooked, htold⟩ := hgives.split
      obtain ⟨_, ⟨⟩, hidle, -⟩ := hp.takes ha hlooked hlive hc
      obtain ⟨hidled, -⟩ := Link.Surroundings.gives_cons.1 htold
      obtain rfl : idled = .ok () := hidled.trans (ha.calls (.setMode .idle) s₂).1
      have hpolls : Exchange.polls [⟨.radio (.setMode .idle), .ok ()⟩] = 0 := rfl
      refine ⟨_, n₁, s₁, ?_, hgives, ?_⟩
      · rw [hidle.1 rfl]
        exact Sniffer.turns_finish k hpath
      · rw [Exchange.polls_append, hp.polls_eq, hpolls, hidle.1 rfl, List.length_nil]
        omega

/-- **Waiting always comes to an end** where a node has the medium to itself and pauses for some
time.  Frames wait at its station, whatever they are.

A send whose deadlines are instants of the clock returns, and by then has looked at the radio once
for every frame at most, and once for every interval of every attempt that had begun.  So does a
wait for a delivery.  To look until there is nothing takes just one look more than there are frames;
every turn of the drain is one. -/
theorem waiting_ends (ha : Link.Alone env i medium clock) (hp : 0 < n.config.pollInterval)
    (hc : n.config.frame.Valid) (hlive : ((medium s).live? i).isSome) :
    (∀ dst payload retries timeout,
      (Operation.sendReliableWith dst payload retries timeout).Timed env s n →
      (Operation.sendReliableWith dst payload retries timeout).ReturnsWithin env s n
        (((medium s).fifo i).length + max retries 1 * (timeout ⌈/⌉ n.config.pollInterval))) ∧
    (∀ timeout, clock s + timeout < Deadline.beyond →
      (Operation.recvTimeout timeout).ReturnsWithin env s n
        (((medium s).fifo i).length + timeout ⌈/⌉ n.config.pollInterval)) ∧
    ∀ turns, ∃ es n' s',
      (Sniffer.draining.turns turns n).run env s = ((.ok
        (if turns ≤ ((medium s).fifo i).length then .again .draining else .finish {}), n'), s') ∧
      Link.Task.Path (Sniffer.draining.turns turns n) es (.done (.ok
        (if turns ≤ ((medium s).fifo i).length then .again .draining else .finish {}), n')) ∧
      env.Gives s es s' ∧ Exchange.polls es = min turns (((medium s).fifo i).length + 1) := by
  refine ⟨fun dst payload retries timeout htimed => ?_, fun timeout hclock => ?_, fun turns => ?_⟩
  · exact Operation.returns_alone ha hp htimed (ha.send_allowed dst payload retries timeout)
  · exact Operation.returns_alone ha hp (ha.receive_timed hclock) (ha.receive_allowed timeout)
  · obtain ⟨es, n', s', hpath, hgives, hpolls⟩ := Sniffer.drains_alone ha hlive hc turns
    exact ⟨es, n', s', hpath.run_eq hgives, hpath, hgives, hpolls⟩

end

/-- Two receptions that are no frames wait for a fresh node, which pauses for 2 at most.  A send
with three attempts of 5 makes no more than 11 looks, a wait of 5 no more than 5, and the third look
of the drain is the last. -/
theorem waiting_ends_two_frames :
    let network : Network := { medium := { stations := [{ fifo := [⟨[1], -40⟩, ⟨[], -50⟩] }] } }
    let n := Node.fresh { pollInterval := 2 }
    (Operation.sendReliableWith 2 [7] 3 5).ReturnsWithin (Network.surroundings 0) network n 11 ∧
    (Operation.recvTimeout 5).ReturnsWithin (Network.surroundings 0) network n 5 ∧
    ∃ es n' network', (Sniffer.draining.turns 3 n).run (Network.surroundings 0) network =
        ((.ok (.finish {}), n'), network') ∧
      (Network.surroundings 0).Gives network es network' ∧ Exchange.polls es = 3 := by
  intro network n
  have hvalid : n.config.frame.Valid := (Link.bringUp_path Link.bringUp_usual).1.frame
  obtain ⟨hsend, hreceive, hdrain⟩ := waiting_ends (Network.alone 0) (s := network) (n := n)
    (by decide) hvalid rfl
  have hpauses : 5 ⌈/⌉ n.config.pollInterval = 3 := Nat.ceilDiv_eq_add_pred_div 5 2
  refine ⟨?_, ?_, ?_⟩
  · have htimed : (Operation.sendReliableWith 2 [7] 3 5).Timed (Network.surroundings 0) network n :=
      (Network.alone 0).send_timed (Network.now_answer 0) hvalid (by decide) [7] (by decide)
    have hreturns := hsend 2 [7] 3 5 htimed
    rwa [hpauses] at hreturns
  · have hreturns := hreceive 5 (by decide)
    rwa [hpauses] at hreturns
  · obtain ⟨es, n', network', hrun, -, hgives, hpolls⟩ := hdrain 3
    exact ⟨es, n', network', hrun, hgives, hpolls⟩

end Simulation
end PacketRadio
