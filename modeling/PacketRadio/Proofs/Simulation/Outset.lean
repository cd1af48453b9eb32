/-
# How a simulation begins in which nothing goes wrong

rflink specification, §10: `simulate` without fault injection.

The nodes are brought up one after another, each at a station of its own, and
all are to begin at once.

| party | station | is about to |
| --- | ---: | --- |
| server | 0 | listen |
| client | 1 | send the first datagram |
| listening node, if there is one | 2 | listen |

Main statements: `bringUp_of_shows` and `Settings.Calm.start`.
-/

import PacketRadio.Proofs.Simulation.Course

namespace PacketRadio
namespace Simulation

open Link (Channel Node)
open Link.Action (radio run_bind_ok setMode)
open Scene (Covers Shows)

variable {s : Settings} {σ : Scene} {c : Frame.Config} {m : Medium} {p : Party} {n : Network}

/-- A party's radio is put on the medium. -/
def Scene.board (σ : Scene) (p : Party) : Scene :=
  { σ with aboard := Function.update σ.aboard p true }

/-- **A radio that comes is on the medium**, and nothing changes for the others. -/
theorem Scene.Covers.attach (h : Covers c σ m) (hp : m.stations.length = p.station)
    (hinbox : σ.inbox p = []) : Covers c (σ.board p) (m.attach none).2 := by
  refine ⟨fun q hq => ?_, h.settings, h.credit, h.count⟩
  by_cases heq : q = p
  · subst heq
    refine ⟨{}, ?_, rfl, ?_⟩
    · rw [← hp]
      exact List.getElem?_concat_length
    · show [] = (σ.inbox q).map _
      rw [hinbox]
      rfl
  · have haboard : σ.aboard q = true := by simpa [board, heq] using hq
    obtain ⟨st, hst, hrest⟩ := h.station q haboard
    obtain ⟨hlt, -⟩ := List.getElem?_eq_some_iff.1 hst
    exact ⟨st, (List.getElem?_append_left hlt).trans hst, hrest⟩

/-- The node stays as it is when its radio answers. -/
theorem run_radio {call : Radio.Call} {a : call.Result} {m' : Medium}
    (h : n.medium.call p.station call = (.ok a, m')) (node : Node) :
    (radio call node).run (Network.surroundings p.station) n =
      ((.ok a, node), { n with medium := m' }) := by
  have hanswer : (Network.surroundings p.station).answer (.radio call) n =
      (.ok a, { n with medium := m' }) := by
    simp only [Network.surroundings, Network.answer, Network.call, h]
  simp [radio, hanswer, Except.mapError]

/-- **A node whose configuration is valid is brought up.** -/
theorem bringUp_of_shows (h : Shows c σ n) (hp : n.medium.stations.length = p.station)
    (hinbox : σ.inbox p = []) {config : Link.Config} (hvalid : config.validate = .ok ()) :
    ∃ n', bringUp p config n = .ok (Node.fresh config, n') ∧ Shows c (σ.board p) n' ∧
      n'.medium.stations.length = p.station + 1 := by
  generalize hm₁ : (n.medium.attach none).2 = m₁
  have h₁ : Covers c (σ.board p) m₁ := hm₁ ▸ h.medium.attach hp hinbox
  have hself : m₁.stations[p.station]? = some {} := by
    rw [← hm₁, ← hp]
    exact List.getElem?_concat_length
  have hinit : m₁.call p.station .init =
      (.ok (), m₁.modify p.station fun st => { st with mode := .idle }) := by
    simp [Medium.call, hself]
  have h₂ := h₁.modify_mode p .idle
  generalize hm₂ : m₁.modify p.station (fun st => { st with mode := .idle }) = m₂ at hinit h₂
  obtain ⟨st, hst, -⟩ := h₂.station p (Function.update_self ..)
  have haddress : m₂.call p.station (.setAddress config.address config.promiscuous) =
      (.ok (), m₂.modify p.station fun st =>
        { st with address := config.address, promiscuous := config.promiscuous }) := by
    simp [Medium.call, hst]
  have h₃ : Covers c (σ.board p) (m₂.modify p.station fun st =>
      { st with address := config.address, promiscuous := config.promiscuous }) :=
    h₂.modify (fun _ => rfl) (fun _ hst => hst) rfl (fun _ _ => rfl) rfl
  generalize hm₃ : m₂.modify p.station (fun st =>
    { st with address := config.address, promiscuous := config.promiscuous }) = m₃ at haddress h₃
  have hmode : m₃.call p.station (.setMode .receive) =
      (.ok (), m₃.modify p.station fun st => { st with mode := .receive }) := rfl
  refine ⟨{ n with medium := m₃.modify p.station fun st => { st with mode := .receive } }, ?_,
    ⟨h₃.modify_mode p .receive, h.now, h.stopped, h.channels⟩, ?_⟩
  · have hup : ((do
        radio .init
        radio (.setAddress config.address config.promiscuous)
        setMode .receive : Link.Action Unit) (Node.fresh config)).run
          (Network.surroundings p.station) { n with medium := m₁ } =
        ((.ok (), Node.fresh config),
          { n with medium := m₃.modify p.station fun st => { st with mode := .receive } }) := by
      refine (run_bind_ok (run_radio hinit (Node.fresh config)) _).trans ?_
      refine (run_bind_ok (run_radio haddress (Node.fresh config)) _).trans ?_
      exact run_radio hmode (Node.fresh config)
    have hstation : (n.medium.attach none).1 = p.station := hp
    unfold bringUp Link.Action.bringUp
    simp only [hvalid, Network.attach, hm₁, hstation, Link.Task.run_bind, hup]
    rfl
  · simp [← hm₃, ← hm₂, ← hm₁, Medium.modify, Medium.attach, hp]

/-- The channel for what the listening node hears is the first one. -/
theorem addChannel_of_shows (h : Shows c σ n) (hnone : σ.channels = []) :
    ∃ n', n.addChannel snifferCapacity = (snifferChannel, n') ∧
      Shows c (σ.fill [recording []]) n' := by
  have hchannels : n.channels = [] := h.channels.trans hnone
  refine ⟨{ n with channels := [recording []] }, ?_, ?_⟩
  · simp only [Network.addChannel, hchannels]
    rfl
  · refine ⟨?_, h.now, h.stopped, rfl⟩
    exact ⟨h.medium.station, h.medium.settings, h.medium.credit, h.medium.count⟩

/-! ## Everybody -/

/-- What each party is about to do when a simulation begins. -/
def Settings.outset (s : Settings) : Party → Option Standby
  | .client => some ⟨.client {}, Node.fresh (s.node s.client), 0⟩
  | .server => some ⟨.server {}, Node.fresh (s.node s.server), 0⟩
  | .sniffer => s.sniffer.map fun a =>
    ⟨.sniffer .ready, (Node.fresh { s.node a with promiscuous := true }).withChannel snifferChannel,
      0⟩

/-- The configurations of the nodes are valid. -/
theorem Settings.Calm.validate (hs : s.Calm) {a : Address} (ha : a ≠ Address.broadcast) :
    (s.node a).validate = .ok () := by
  have hpatient := hs.patient
  have hframe : s.frame.validate = .ok () := (Frame.Config.validate_eq_ok_iff _).2 hs.frame
  have htimeout : s.ackTimeout ≠ 0 := by omega
  have hlong : ¬Link.maxAckTimeout < s.ackTimeout := Nat.not_lt.2 hs.timeout
  simp [Link.Config.validate, Settings.node, ha, htimeout, hlong, hframe, Except.mapError]

/-- **A simulation that is about to begin is on course** if nothing has been sent. -/
theorem goes_outset {scene : Scene} (hinbox : ∀ p, scene.inbox p = []) (hlog : scene.log = [])
    (hstopped : scene.stopped = false)
    (haboard : ∀ p b, s.outset p = some b → scene.aboard p = true)
    (hchannels : s.sniffer.isSome → scene.channels = [recording []]) :
    Goes s { scene, cast := s.outset } := by
  refine ⟨⟨.between, ?_, ?_⟩, hstopped, haboard, nofun, nofun⟩
  · refine .between (Nat.zero_le _) (Client.between_zero s) (hinbox _) ?_ hlog (Nat.zero_le _)
      (Nat.zero_le _)
    rw [hinbox]
    exact .listening (Server.listening_zero s _)
  · show Ears s scene .between _ (s.outset .sniffer)
    unfold Settings.outset
    cases ha : s.sniffer with
    | none => exact .absent ha
    | some a =>
      refine .listening ha (.inl rfl) ⟨rfl, rfl⟩ (by simp [hinbox]) (fun _ _ => Nat.zero_le _)
        (Nat.zero_le _) fun _ => ?_
      rw [hinbox, hlog, hchannels (by simp [ha])]
      exact ⟨⟨Nat.zero_le _, fun _ => .inl rfl⟩, [], ⟨rfl, fun _ _ _ => rfl⟩, rfl⟩

/-- The queue in which everybody is to begin at once, the client first. -/
def Settings.line (s : Settings) : List Sleeper :=
  [.client, .server, .sniffer].filterMap fun p => (s.outset p).map fun b => queued s b.role b.node

theorem outset_party {b : Standby} (h : s.outset p = some b) : b.role.party = p ∧ b.wake = 0 := by
  cases p with
  | client | server =>
    obtain rfl := Option.some.inj h
    exact ⟨rfl, rfl⟩
  | sniffer =>
    obtain ⟨a, -, rfl⟩ := Option.map_eq_some_iff.1 h
    exact ⟨rfl, rfl⟩

theorem casts_outset (s : Settings) : Moment.Casts s s.outset s.line := by
  have hmem : ∀ a, a ∈ s.line ↔ ∃ p b, s.outset p = some b ∧ queued s b.role b.node = a := by
    intro a
    have hall : ∀ p, p ∈ [Party.client, Party.server, Party.sniffer] := by
      rintro (_ | _ | _) <;> decide
    simp [Settings.line, hall]
  refine ⟨?_, fun a ha => ?_, fun p b hb => ?_⟩
  · unfold Settings.line Settings.outset
    cases s.sniffer <;> simp [queued, Role.party]
  · obtain ⟨p, b, hb, rfl⟩ := (hmem a).1 ha
    obtain ⟨hparty, hwake⟩ := outset_party hb
    refine ⟨b, ?_, hwake, queued_awaits _ _⟩
    rwa [show (queued s b.role b.node).party = p from hparty]
  · exact List.mem_map.2 ⟨_, (hmem _).2 ⟨p, b, hb, rfl⟩, (outset_party hb).1⟩

/-- **A simulation in which nothing goes wrong begins**, and is on course. -/
theorem Settings.Calm.start (hs : s.Calm) :
    ∃ st m, Simulation.start s = .ok st.wakeNext ∧ Goes s m ∧ m.Of s st := by
  have hstart : Shows s.frame { aboard := fun _ => false, channels := [] }
      ({ medium := { faults := s.faults } } : Network) := by
    refine ⟨⟨nofun, ?_, rfl, rfl⟩, rfl, rfl, rfl⟩
    rw [hs.faults]
    rfl
  have hvalid : (s.node s.server).validate = .ok () :=
    hs.validate (hs.addressed .server (by decide))
  have hvalid' : (s.node s.client).validate = .ok () :=
    hs.validate (hs.addressed .client (by decide))
  obtain ⟨n₁, hserver, h₁, hstations₁⟩ := bringUp_of_shows (p := .server) hstart rfl rfl hvalid
  obtain ⟨n₂, hclient, h₂, hstations₂⟩ := bringUp_of_shows (p := .client) h₁ hstations₁ rfl hvalid'
  have hzero : ∀ n : Network, n.now = 0 → { n with now := 0 } = n := by
    rintro ⟨medium, now, stopFlags, channels⟩ rfl
    rfl
  have hwakes : ∀ n : Network, n.now = 0 →
      State.wakeNext { network := n, acting := none, queue := s.line } =
        { network := n
          acting := some (.client, Role.turn s (.client {}) (Node.fresh (s.node s.client)))
          queue := s.line.tail } := by
    intro n hn
    have hnext : nextUp s.line =
        some (queued s (.client {}) (Node.fresh (s.node s.client)), s.line.tail) := by
      unfold line outset
      cases s.sniffer <;> rfl
    unfold State.wakeNext
    simp only [hnext]
    rw [show (queued s (.client {}) (Node.fresh (s.node s.client))).wake = 0 from rfl, hzero n hn]
    rfl
  have hok : ∀ {α β : Type} (a : α) (f : α → Except Failure β), (Except.ok a >>= f) = f a :=
    fun _ _ => rfl
  cases ha : s.sniffer with
  | none =>
    refine ⟨{ network := n₂, acting := none, queue := s.line }, ⟨_, s.outset, fun _ => none⟩,
      ?_, ?_, ⟨h₂, casts_outset s, fun _ _ _ => rfl, fun _ => rfl⟩⟩
    · rw [hwakes n₂ h₂.now]
      simp only [Simulation.start, hserver, hok, hclient, ha]
      simp only [line, outset, ha]
      rfl
    · refine goes_outset (fun _ => rfl) rfl rfl (fun p b hb => ?_) (by simp [ha])
      cases p with
      | sniffer => simp [outset, ha] at hb
      | _ => rfl
  | some a =>
    have hvalid'' : ({ s.node a with promiscuous := true } : Link.Config).validate = .ok () :=
      hs.validate (hs.apart a ha).1
    obtain ⟨n₃, hsniffer, h₃, -⟩ := bringUp_of_shows (p := .sniffer) h₂ hstations₂ rfl hvalid''
    obtain ⟨n₄, hchannel, h₄⟩ := addChannel_of_shows h₃ rfl
    refine ⟨{ network := n₄, acting := none, queue := s.line }, ⟨_, s.outset, fun _ => none⟩,
      ?_, ?_, ⟨h₄, casts_outset s, fun _ _ _ => rfl, fun _ => rfl⟩⟩
    · rw [hwakes _ h₄.now]
      simp only [Simulation.start, hserver, hok, hclient, ha, hsniffer, hchannel]
      simp only [line, outset, ha]
      rfl
    · refine goes_outset (fun _ => rfl) rfl rfl (fun p b hb => ?_) (fun _ => rfl)
      cases p <;> rfl

end Simulation
end PacketRadio
