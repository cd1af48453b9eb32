/-
# Playing a scenario

rflink specification, §11: nodes and radios that are driven from outside.

Steps are taken one after the other.  When a node asks its radio whether a
frame has come in, the others get their chance first:

1. every step that has been put off and is due by then is taken, earliest
   first and of equally early ones the one put off first;
2. every other automatic node looks for frames until it finds none or fails,
   in the order the nodes were made.

Nothing happens meanwhile while one of those is at it.

Main statement: `takeDue_eq_none_iff` (nothing is due exactly when everything
on the agenda lies ahead).
-/

import PacketRadio.Scenario.Bench

namespace PacketRadio
namespace Scenario

namespace Bench

/-! ## Steps -/

/-- Makes a node.  A node that cannot be made keeps its number, but its radio leaves. -/
def addNode (env : Nat → Link.Surroundings Bench) (setup : NodeSetup) (b : Bench) :
    Result × Bench :=
  let i := b.posts.length
  let (station, network) := b.network.attach setup.initFailure
  let (channel, network) :=
    match setup.channel with
    | some capacity => (network.addChannel capacity).map some id
    | none => (none, network)
  let post : Post := ⟨station, setup.faults, setup.automatic, channel, none⟩
  let b := { b with network, posts := b.posts ++ [post] }
  let (made, b) := (Link.Action.bringUp setup.config).run (env i) b
  match made with
  | .ok node =>
    let node := channel.elim node node.withChannel
    (.nodeAdded i (b.nodeView station node), b.putNode i node)
  | .error e => (.nodeRefused e, b.onMedium fun m => m.detach station)

/-- Makes a bare radio; it is not brought up. -/
def addRadio (setup : RadioSetup) (b : Bench) : Result × Bench :=
  let i := b.radios.length
  let (station, network) := b.network.attach setup.initFailure
  let network :=
    match setup.listenAt with
    | some (address, promiscuous) =>
      (((network.call station (.setAddress address promiscuous)).2).call station
        (.setMode .receive)).2
    | none => network
  let b := { b with network, radios := b.radios ++ [some station] }
  (.radioAdded i (b.radioView station), b)

/-- Takes up to `limit` frames from a radio, as long as there are any. -/
def drain (station limit : Nat) (n : Network) : RadioReply × Network :=
  go limit [] n
where
  /-- Goes on with the frames taken so far. -/
  go : Nat → List Radio.Reception → Network → RadioReply × Network
    | 0, taken, n => (.drained taken, n)
    | limit + 1, taken, n =>
      match n.call station .receive with
      | (.ok (some reception), n) => go limit (taken ++ [reception]) n
      | (.ok none, n) => (.drained taken, n)
      | (.error failure, n) => (.failed failure, n)

/-- What is said about a call that did not fail. -/
def callReply : (c : Radio.Call) → c.Result → RadioReply
  | .frameReady, isReady => .ready isReady
  | .receive, reception => .received reception
  | .init, _ => .done
  | .setAddress _ _, _ => .done
  | .setMode _, _ => .done
  | .transmit _, _ => .done

/-- A step on a bare radio that is there. -/
def stepRadio (station : Nat) (step : RadioStep) (b : Bench) : RadioReply × Bench :=
  match step with
  | .call c =>
    match b.network.call station c with
    | (.ok result, network) => (callReply c result, { b with network })
    | (.error failure, network) => (.failed failure, { b with network })
  | .inject reception =>
    (.injected, b.onMedium fun m => m.modify station fun s => s.inject reception)
  | .drain =>
    let (reply, network) := drain station (b.network.medium.pending station + 1) b.network
    (reply, { b with network })
  | .leave => (.done, b.onMedium fun m => m.detach station)

/-- Asks a node for something. -/
def operate (env : Nat → Link.Surroundings Bench) (patience i : Nat) (op : Link.Operation)
    (node : Link.Node) (b : Bench) :
    Option (Except Link.Error Link.Reply) × Link.Node × Bench :=
  op.run (env i) patience node b

/-- Asks a node for something so many times, whatever comes of it. -/
def operateTimes (env : Nat → Link.Surroundings Bench) (patience i : Nat) (op : Link.Operation) :
    Nat → Link.Node → Bench →
      List (Option (Except Link.Error Link.Reply)) × Link.Node × Bench
  | 0, node, b => ([], node, b)
  | times + 1, node, b =>
    let (result, node, b) := operate env patience i op node b
    let (results, node, b) := operateTimes env patience i op times node b
    (result :: results, node, b)

/-- Takes a delivery out of a channel. -/
def takeFromChannel (channel : Option Nat) (b : Bench) : NodeReply × Bench :=
  match channel.bind fun id => (b.network.channels[id]?).map fun c => (id, c) with
  | none => (.taken none false, b)
  | some (id, c) =>
    (.taken c.pop.1 c.received,
      b.onNetwork fun n => { n with channels := n.channels.set id c.pop.2 })

/-- A step on a node that is there. -/
def stepNode (env : Nat → Link.Surroundings Bench) (patience i : Nat) (post : Post)
    (step : NodeStep) (node : Link.Node) (b : Bench) : NodeReply × Link.Node × Bench :=
  match step with
  | .operate op =>
    let (result, node, b) := operate env patience i op node b
    (.reply result, node, b)
  | .repeatedly op times =>
    let (results, node, b) := operateTimes env patience i op times node b
    (.replies results, node, b)
  | .listen =>
    let flag := b.network.latestFlag
    let (result, node, b) := operate env patience i (.listen flag) node b
    (.listened result (b.network.isStopped flag), node, b)
  | .setMode mode =>
    match b.call i (.setMode mode) with
    | (.ok _, b) => (.done, node, b)
    | (.error failure, b) => (.failed failure, node, b)
  | .inject reception =>
    (.injected, node, b.onMedium fun m => m.modify post.station fun s => s.inject reception)
  | .takeFromChannel =>
    let (reply, b) := takeFromChannel post.channel b
    (reply, node, b)
  | .closeChannel =>
    let close (n : Network) : Network :=
      { n with channels := post.channel.elim n.channels fun id => n.channels.modify id (·.close) }
    (.done, node, b.onNetwork close)
  | .addFault fault =>
    (.done, node, b.modifyPost i fun post => { post with faults := post.faults ++ [fault] })
  | .clearFaults => (.done, node, b.modifyPost i fun post => { post with faults := [] })
  | .setAutomatic on => (.done, node, b.modifyPost i fun post => { post with automatic := on })
  | .telemetry => (.telemetry node.telemetry, node, b)
  | .info => (.info node.config, node, b)
  | .leave => (.done, node, b)

/-- The station of the node that is looking for frames, if it is this one. -/
def busyStation (b : Bench) (i : Nat) : Option Nat :=
  if b.busy = some i then (b.posts[i]?).map (·.station) else none

/-- A step on a node. -/
def onNode (env : Nat → Link.Surroundings Bench) (patience i : Nat) (step : NodeStep)
    (b : Bench) : Result × Bench :=
  match b.available i, step with
  | none, .leave => (.left false, b)
  | none, .inject reception =>
    match b.busyStation i with
    | none => (.noSuchNode, b)
    | some station =>
      let b := b.onMedium fun m => m.modify station fun s => s.inject reception
      (.injected (b.network.medium.pending station), b)
  | none, _ => (.noSuchNode, b)
  | some (post, _), .leave =>
    (.left true,
      (b.modifyPost i fun post => { post with node := none }).onMedium fun m =>
        m.detach post.station)
  | some (post, node), step =>
    let (reply, node, b) := stepNode env patience i post step node b
    (.node reply (b.nodeView post.station node), b.putNode i node)

/-- A step on a bare radio. -/
def onRadio (i : Nat) (step : RadioStep) (b : Bench) : Result × Bench :=
  match b.radioStation i, step with
  | none, .leave => (.left false, b)
  | none, _ => (.noSuchRadio, b)
  | some station, .leave =>
    let (_, b) := stepRadio station .leave b
    (.left true, { b with radios := b.radios.set i none })
  | some station, step =>
    let (reply, b) := stepRadio station step b
    (.radio reply (b.radioView station), b)

/-- Takes a step. -/
def perform (env : Nat → Link.Surroundings Bench) (patience : Nat) (step : Step) (b : Bench) :
    Result × Bench :=
  match step with
  | .addNode setup => b.addNode env setup
  | .addRadio setup => b.addRadio setup
  | .node i step => b.onNode env patience i step
  | .radio i step => b.onRadio i step
  | .dropNext count => (.done, b.onMedium fun m => m.dropNext count)
  | .setSevered x y cut => (.done, b.onMedium fun m => m.setSevered x y cut)
  | .setLinkRssi src dst rssi => (.done, b.onMedium fun m => m.setLinkRssi src dst rssi)
  | .stats => (.stats b.network.medium.stats, b)
  | .stop => (.done, b.onNetwork fun n => n.stop n.latestFlag)
  | .resetStop => (.done, b.onNetwork Network.addFlag)
  | .sleep duration => (.done, b.onNetwork fun n => { n with now := n.now + duration })
  | .later delay step => (.done, { b with agenda := b.agenda ++ [(b.network.now + delay, step)] })

/-! ## What happens meanwhile -/

/-- The earliest time on an agenda. -/
def earliest (agenda : List (Nat × Step)) : Option Nat :=
  (agenda.map (·.1)).min?

/-- Takes the step that is next off an agenda, if one is due. -/
def takeDue (now : Nat) (agenda : List (Nat × Step)) : Option (Step × List (Nat × Step)) :=
  match earliest agenda with
  | none => none
  | some t =>
    if t ≤ now then
      (agenda.find? fun p => p.1 == t).map fun p => (p.2, agenda.eraseP fun p => p.1 == t)
    else none

/-- Takes at most `limit` of the steps that are due. -/
def runDue (patience : Nat) : Nat → Bench → Bench
  | 0, b => b
  | limit + 1, b =>
    match takeDue b.network.now b.agenda with
    | none => b
    | some (step, agenda) =>
      let (result, b) := perform quiet patience step { b with agenda }
      runDue patience limit (b.note (.stepped step result))

/-- The most steps that an agenda can lead to. -/
def workload (agenda : List (Nat × Step)) : Nat :=
  agenda.foldr (fun p total => p.2.depth + total) 0

/-- A node looks for frames until it finds none or fails, at most `limit` times. -/
def pollUntilIdle (i : Nat) : Nat → Link.Node → Bench → Link.Node × Bench
  | 0, node, b => (node, b)
  | limit + 1, node, b =>
    let ((result, node), b) := (Link.Action.poll node).run (quiet i) b
    match result with
    | .ok .idle => (node, b)
    | .ok event => pollUntilIdle i limit node (b.note (.polled i (.ok event)))
    | .error e => (node, b.note (.polled i (.error e)))

/-- An automatic node gets its chance. -/
def pollAutomatic (b : Bench) (i : Nat) : Bench :=
  match b.available i with
  | some (post, node) =>
    if post.automatic then
      let (node, b) := pollUntilIdle i (b.network.medium.pending post.station + 1) node b
      b.putNode i node
    else b
  | none => b

/-- The others get their chance while node `i` looks for frames. -/
def meanwhile (patience i : Nat) (b : Bench) : Bench :=
  let b := runDue patience (workload b.agenda) { b with busy := some i }
  let b := (List.range b.posts.length).foldl pollAutomatic b
  { b with busy := none }

/-- The answer to a request from a node, with the others getting their chance. -/
def answerAmongOthers (patience i : Nat) (r : Link.Request) (b : Bench) : r.Answer × Bench :=
  if r = .radio .frameReady then answer i r (b.meanwhile patience i) else answer i r b

/-- The bench as a node sees it, with the others getting their chance. -/
def lively (patience : Nat) (i : Nat) : Link.Surroundings Bench :=
  ⟨answerAmongOthers patience i⟩

end Bench

/-! ## Whole scenarios -/

/-- Takes a step with an empty log. -/
def Bench.take (patience : Nat) (step : Step) (b : Bench) : Outcome × Bench :=
  let (result, b) := b.perform (Bench.lively patience) patience step
  (⟨result, b.network.now, b.log⟩, { b with log := [] })

/-- Takes steps one after the other. -/
def play (patience : Nat) : List Step → Bench → List Outcome × Bench
  | [], b => ([], b)
  | step :: steps, b =>
    let (outcome, b) := b.take patience step
    let (outcomes, b) := play patience steps b
    (outcome :: outcomes, b)

/-- The counters of every node that is there. -/
def Bench.telemetry (b : Bench) : List (Option Link.Telemetry) :=
  b.posts.map fun post => post.node.map (·.telemetry)

/-! ## Lemmas -/

/-- **Nothing is due exactly when everything on the agenda lies ahead.** -/
theorem Bench.takeDue_eq_none_iff (now : Nat) (agenda : List (Nat × Step)) :
    Bench.takeDue now agenda = none ↔ ∀ p ∈ agenda, now < p.1 := by
  unfold takeDue earliest
  cases h : (agenda.map (·.1)).min? with
  | none =>
    have : agenda = [] := by simpa using h
    simp [this]
  | some t =>
    rw [List.min?_eq_some_iff] at h
    obtain ⟨hmem, hle⟩ := h
    obtain ⟨q, hq, rfl⟩ := List.mem_map.1 hmem
    have hle' : ∀ p ∈ agenda, q.1 ≤ p.1 := fun p hp => hle _ (List.mem_map.2 ⟨p, hp, rfl⟩)
    dsimp only
    constructor
    · intro h p hp
      by_cases hlt : q.1 ≤ now
      · rw [if_pos hlt, Option.map_eq_none_iff, List.find?_eq_none] at h
        exact absurd (by simp) (h q hq)
      · exact Nat.lt_of_lt_of_le (Nat.lt_of_not_le hlt) (hle' p hp)
    · intro h
      rw [if_neg (Nat.not_le.2 (h q hq))]

/-- **There is an outcome for every step.** -/
theorem length_play (patience : Nat) (steps : List Step) (b : Bench) :
    (play patience steps b).1.length = steps.length := by
  induction steps generalizing b with
  | nil => rfl
  | cons step steps ih => simp [play, ih]

end Scenario
end PacketRadio
