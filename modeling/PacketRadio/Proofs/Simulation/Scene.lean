/-
# The network of a simulation without faults

rflink specification, §10: `simulate` without fault injection.

When nothing is lost, damaged or severed, all that matters of a network is
what waits at each party's station, what has been sent so far, the time, the
stop flag and the channels.  A transmission gets to every other party that is
on the medium and has room.

| request of a party | changes |
| --- | --- |
| a frame that is there | what waits for the party |
| to send a frame | what waits for the others, and what has been sent |
| to switch the radio | nothing that matters |
| to take a delivery into a channel | the channel |

Main statements: `Covers.receive` and `Covers.transmit`, and a rule for each
request that the parties make.
-/

import PacketRadio.Proofs.Frame.RoundTrip
import PacketRadio.Proofs.Medium.Past
import PacketRadio.Proofs.Simulation.Progress
import Mathlib.Logic.Function.Basic

namespace PacketRadio
namespace Simulation

open Link (Channel Delivery Node PollEvent Surroundings)
open Link.Action

/-- What matters of a network without faults. -/
structure Scene where
  /-- The frames that wait for each party. -/
  inbox : Party → List Frame := fun _ => []
  /-- The parties whose radios are on the medium. -/
  aboard : Party → Bool
  /-- The frames that have been sent, oldest first. -/
  log : List Frame := []
  /-- The time. -/
  now : Nat := 0
  /-- The stop flag is set. -/
  stopped : Bool := false
  /-- The channels. -/
  channels : List Channel

namespace Scene

/-- The most frames that wait for a party. -/
def room : Nat := 8

/-- What waits for a party that hears one more frame. -/
def heard (waiting : List Frame) (f : Frame) : List Frame :=
  if waiting.length < room then waiting ++ [f] else waiting

/-- Something else waits for a party. -/
def put (σ : Scene) (p : Party) (waiting : List Frame) : Scene :=
  { σ with inbox := Function.update σ.inbox p waiting }

/-- A party has taken a frame. -/
def take (σ : Scene) (p : Party) : Scene :=
  σ.put p (σ.inbox p).tail

/-- A party has sent a frame. -/
def air (σ : Scene) (p : Party) (f : Frame) : Scene :=
  { σ with
    inbox := fun q => if q = p then σ.inbox q else heard (σ.inbox q) f
    log := σ.log ++ [f] }

/-- A party has sent some frames. -/
def airs (σ : Scene) (p : Party) (fs : List Frame) : Scene :=
  fs.foldl (fun σ f => σ.air p f) σ

/-- The frame as it comes in. -/
def reception (c : Frame.Config) (f : Frame) : Radio.Reception :=
  ⟨f.wire c, -40⟩

/-- Time passes. -/
def later (σ : Scene) (now : Nat) : Scene :=
  { σ with now }

/-- The channels hold something else. -/
def fill (σ : Scene) (channels : List Channel) : Scene :=
  { σ with channels }

/-- One of the channels is offered a delivery, and takes it or does not. -/
def offer (channels : List Channel) (channel : Nat) (d : Delivery) : Bool × List Channel :=
  match (channels[channel]?).bind fun c => c.push d with
  | some c => (true, channels.set channel c)
  | none => (false, channels)

variable (σ : Scene) (p : Party)

@[simp] theorem air_inbox_self (f : Frame) : (σ.air p f).inbox p = σ.inbox p := by
  simp [air]

theorem air_inbox_of_ne {q : Party} (h : q ≠ p) (f : Frame) :
    (σ.air p f).inbox q = heard (σ.inbox q) f := by
  simp [air, h]

@[simp] theorem put_inbox_self (waiting : List Frame) : (σ.put p waiting).inbox p = waiting := by
  simp [put]

@[simp] theorem airs_nil : σ.airs p [] = σ := rfl

@[simp] theorem airs_cons (f : Frame) (fs : List Frame) :
    σ.airs p (f :: fs) = (σ.air p f).airs p fs := rfl

@[simp] theorem airs_inbox_self (fs : List Frame) : (σ.airs p fs).inbox p = σ.inbox p := by
  induction fs generalizing σ with
  | nil => rfl
  | cons f fs ih => simp [ih]

theorem airs_inbox_of_ne {q : Party} (h : q ≠ p) (fs : List Frame) :
    (σ.airs p fs).inbox q = fs.foldl heard (σ.inbox q) := by
  induction fs generalizing σ with
  | nil => rfl
  | cons f fs ih => rw [airs_cons, ih, air_inbox_of_ne σ p h, List.foldl_cons]

@[simp] theorem airs_log (fs : List Frame) : (σ.airs p fs).log = σ.log ++ fs := by
  induction fs generalizing σ with
  | nil => simp
  | cons f fs ih => simp [ih, air]

/-- Whoever sends changes nothing else. -/
theorem airs_rest (fs : List Frame) : (σ.airs p fs).aboard = σ.aboard ∧
    (σ.airs p fs).now = σ.now ∧ (σ.airs p fs).stopped = σ.stopped ∧
    (σ.airs p fs).channels = σ.channels := by
  induction fs generalizing σ with
  | nil => exact ⟨rfl, rfl, rfl, rfl⟩
  | cons f fs ih => exact ih (σ.air p f)

theorem put_inbox_of_ne {q : Party} (h : q ≠ p) (waiting : List Frame) :
    (σ.put p waiting).inbox q = σ.inbox q := by
  simp [put, h]

@[simp] theorem put_put (waiting waiting' : List Frame) :
    (σ.put p waiting).put p waiting' = σ.put p waiting' := by
  simp [put]

@[simp] theorem put_inbox : σ.put p (σ.inbox p) = σ := by
  simp [put]

theorem take_of_cons {f : Frame} {rest : List Frame} (h : σ.inbox p = f :: rest) :
    σ.take p = σ.put p rest := by
  simp [take, h]

/-- **Nothing is lost as long as there is room.** -/
theorem foldl_heard {waiting fs : List Frame} (h : waiting.length + fs.length ≤ room) :
    fs.foldl heard waiting = waiting ++ fs := by
  induction fs generalizing waiting with
  | nil => simp
  | cons f fs ih =>
    rw [List.length_cons] at h
    rw [List.foldl_cons, heard, if_pos (by omega), ih (by simp; omega), List.append_assoc]
    rfl

theorem foldl_heard_nil {fs : List Frame} (h : fs.length ≤ room) : fs.foldl heard [] = fs := by
  rw [foldl_heard (by simpa using h), List.nil_append]

/-- What waits had waited, or has just been sent. -/
theorem mem_foldl_heard {waiting fs : List Frame} {f : Frame} (h : f ∈ fs.foldl heard waiting) :
    f ∈ waiting ∨ f ∈ fs := by
  induction fs generalizing waiting with
  | nil => exact .inl h
  | cons g fs ih =>
    rcases ih h with hwaiting | hfs
    · unfold heard at hwaiting
      split at hwaiting
      · rcases List.mem_append.1 hwaiting with hold | hnew
        · exact .inl hold
        · exact .inr (List.mem_cons.2 (.inl (List.mem_singleton.1 hnew)))
      · exact .inl hwaiting
    · exact .inr (List.mem_cons_of_mem g hfs)

/-- A party has taken all that waited for it and sent some frames at a time. -/
structure Acted (σ : Scene) (p : Party) (now : Nat) (fs : List Frame) (σ' : Scene) : Prop where
  /-- Nothing waits for it. -/
  own : σ'.inbox p = []
  /-- The others have heard what it sent. -/
  others : ∀ q ≠ p, σ'.inbox q = fs.foldl heard (σ.inbox q)
  /-- It has been sent. -/
  log : σ'.log = σ.log ++ fs
  /-- It is this late. -/
  now : σ'.now = now
  /-- The same parties are on the medium. -/
  aboard : σ'.aboard = σ.aboard
  /-- The stop flag is as it was. -/
  stopped : σ'.stopped = σ.stopped
  /-- So are the channels. -/
  channels : σ'.channels = σ.channels

theorem acted_airs (now : Nat) (fs : List Frame) :
    σ.Acted p now fs (((σ.later now).put p []).airs p fs) := by
  obtain ⟨haboard, hnow, hstopped, hchannels⟩ := airs_rest ((σ.later now).put p []) p fs
  refine ⟨?_, fun q hq => ?_, airs_log .., hnow, haboard, hstopped, hchannels⟩
  · rw [airs_inbox_self, put_inbox_self]
  · rw [airs_inbox_of_ne _ p hq, put_inbox_of_ne _ p hq]
    rfl

/-- Nothing has waited for it. -/
theorem acted_of_empty (h : σ.inbox p = []) (now : Nat) (fs : List Frame) :
    σ.Acted p now fs ((σ.later now).airs p fs) := by
  have hsame : (σ.later now).put p [] = σ.later now := by
    have hput := put_inbox (σ.later now) p
    rwa [show (σ.later now).inbox p = [] from h] at hput
  rw [← hsame]
  exact acted_airs σ p now fs

theorem station_injective {p q : Party} (h : p.station = q.station) : p = q := by
  cases p <;> cases q <;> first | rfl | cases h

/-! ## The medium -/

/-- The medium is as the scene has it.  Frames are written one way. -/
structure Covers (c : Frame.Config) (σ : Scene) (m : Medium) : Prop where
  /-- The stations of the parties on the medium. -/
  station : ∀ p, σ.aboard p = true → ∃ st, m.stations[p.station]? = some st ∧
    st.attached = true ∧ st.fifo = (σ.inbox p).map (reception c)
  /-- There are no faults, and all links are alike. -/
  settings : m.settings = {}
  /-- Nothing is due to be lost. -/
  credit : m.dropCredit = 0
  /-- What has been sent has been counted. -/
  count : m.stats.transmissions = σ.log.length

variable {σ p} {σ' : Scene} {c : Frame.Config} {m : Medium} {q : Party}

/-- A change at the station of a party that is on the medium. -/
theorem Covers.modify (h : Covers c σ m) {g : Station → Station}
    (hattached : ∀ st, (g st).attached = st.attached)
    (hself : ∀ st, st.fifo = (σ.inbox p).map (reception c) →
      (g st).fifo = (σ'.inbox p).map (reception c))
    (haboard : σ'.aboard = σ.aboard) (hother : ∀ q ≠ p, σ'.inbox q = σ.inbox q)
    (hlog : σ'.log = σ.log) : Covers c σ' (m.modify p.station g) := by
  refine ⟨fun q hq => ?_, h.settings, h.credit, by rw [hlog]; exact h.count⟩
  obtain ⟨st, hst, hatt, hfifo⟩ := h.station q (haboard ▸ hq)
  by_cases heq : q = p
  · subst heq
    exact ⟨g st, by simp [Medium.modify, hst], (hattached st).trans hatt, hself st hfifo⟩
  · have hne : p.station ≠ q.station := fun hs => heq (station_injective hs).symm
    refine ⟨st, ?_, hatt, by rw [hother q heq]; exact hfifo⟩
    simpa [Medium.modify, List.getElem?_modify_ne _ _ hne] using hst

theorem Covers.modify_mode (h : Covers c σ m) (p : Party) (mode : Radio.Mode) :
    Covers c σ (m.modify p.station fun st => { st with mode }) :=
  h.modify (fun _ => rfl) (fun _ hst => hst) rfl (fun _ _ => rfl) rfl

/-- The radio of a party on the medium. -/
theorem Covers.live (h : Covers c σ m) (hp : σ.aboard p = true) :
    ∃ st, m.live? p.station = some st ∧ m.stations[p.station]? = some st ∧
      st.fifo = (σ.inbox p).map (reception c) := by
  obtain ⟨st, hst, hatt, hfifo⟩ := h.station p hp
  exact ⟨st, by simp [Medium.live?, hst, hatt], hst, hfifo⟩

/-- **A party takes what has waited longest.** -/
theorem Covers.receive (h : Covers c σ m) (hp : σ.aboard p = true) :
    ∃ m', m.call p.station .receive = (.ok ((σ.inbox p).head?.map (reception c)), m') ∧
      Covers c (σ.take p) m' := by
  obtain ⟨st, hlive, -, hfifo⟩ := h.live hp
  refine ⟨m.modify p.station fun st => st.take.2, ?_, ?_⟩
  · simp [Medium.call, hlive, Station.take, hfifo]
  · refine h.modify (fun _ => rfl) (fun st hst => ?_) rfl (fun q hq => put_inbox_of_ne σ p hq _) rfl
    simp [Station.take, take, hst]

/-- **A radio that listens tells whether something waits for it.** -/
theorem Covers.frameReady (h : Covers c σ m) (hp : σ.aboard p = true)
    (hmode : m.mode p.station = .receive) :
    m.call p.station .frameReady = (.ok (!(σ.inbox p).isEmpty), m) := by
  obtain ⟨st, hlive, hst, hfifo⟩ := h.live hp
  have hlisten : st.mode = .receive := by simpa [Medium.mode, hst] using hmode
  cases hinbox : σ.inbox p <;>
    simp [Medium.call, hmode, hlive, Station.ready, hfifo, hlisten, hinbox]

/-- What is put on the air gets to all others. -/
theorem Covers.spread (h : Covers c σ m) (p : Party) (src : Address) (f : Frame) :
    ∀ q, σ.aboard q = true → ∃ st, (m.spread p.station src (f.wire c)).stations[q.station]? =
      some st ∧ st.attached = true ∧ st.fifo = ((σ.air p f).inbox q).map (reception c) := by
  intro q hq
  obtain ⟨st, hst, hatt, hfifo⟩ := h.station q hq
  have hsevered : m.severed = [] := congrArg Medium.severed h.settings
  have hlinks : m.linkRssi = [] := congrArg Medium.linkRssi h.settings
  have hrssi : m.defaultRssi = -40 := congrArg Medium.defaultRssi h.settings
  have hcapacity : m.capacity = room := congrArg Medium.capacity h.settings
  by_cases heq : q = p
  · subst heq
    refine ⟨st, ?_, hatt, by rw [air_inbox_self]; exact hfifo⟩
    simp [Medium.spread, hst, Medium.hears]
  · have hne : q.station ≠ p.station := fun hs => heq (station_injective hs)
    refine ⟨st.offer m.capacity (reception c f), ?_, ?_, ?_⟩
    · simp [Medium.spread, hst, Medium.hears, hne, hatt, Medium.isSevered, hsevered, Medium.rssi,
        hlinks, hrssi, reception]
    · unfold Station.offer
      split <;> exact hatt
    · rw [air_inbox_of_ne σ p heq, heard, Station.offer, hfifo, hcapacity, List.length_map]
      split
      · rw [List.map_append]
        rfl
      · exact hfifo

/-- **What a party sends gets to all others.** -/
theorem Covers.transmit (h : Covers c σ m) (hp : σ.aboard p = true) (f : Frame) :
    ∃ m', m.call p.station (.transmit (f.wire c)) = (.ok (), m') ∧ Covers c (σ.air p f) m' := by
  have h₁ := h.modify_mode p .transmit
  obtain ⟨st, hlive, -⟩ := h₁.live hp
  generalize hm₁ : (m.modify p.station fun st => { st with mode := .transmit }) = m₁ at h₁ hlive
  have hfaults : m₁.faults = {} := congrArg Medium.faults h₁.settings
  have hfate : ∀ seq, m₁.fate seq (f.wire c) = .intact := by
    intro seq
    simp [Medium.fate, h₁.credit, hfaults, FaultPlan.hits]
  have hcounted : Covers c σ (m₁.recount fun t => { t with transmissions := σ.log.length }) :=
    ⟨h₁.station, h₁.settings, h₁.credit, rfl⟩
  have h₂ : Covers c (σ.air p f)
      ((m₁.recount fun t => { t with transmissions := t.transmissions + 1 }).spread p.station
        st.address (f.wire c)) := by
    refine ⟨hcounted.spread p st.address f, h₁.settings, h₁.credit, ?_⟩
    show m₁.stats.transmissions + 1 = (σ.log ++ [f]).length
    rw [h₁.count, List.length_append, List.length_singleton]
  refine ⟨_, ?_, h₂.modify_mode p .idle⟩
  simp only [Medium.call, hm₁, Medium.broadcast, hlive, hfate, Medium.suffer]

/-- **Who leaves the medium** does not change it for the others. -/
theorem Covers.detach (h : Covers c σ m) (p : Party) :
    Covers c { σ with aboard := Function.update σ.aboard p false } (m.detach p.station) := by
  refine ⟨fun q hq => ?_, h.settings, h.credit, h.count⟩
  have heq : q ≠ p := by
    rintro rfl
    simp at hq
  have hne : p.station ≠ q.station := fun hs => heq (station_injective hs).symm
  obtain ⟨st, hst, hrest⟩ := h.station q (by simpa [heq] using hq)
  refine ⟨st, ?_, hrest⟩
  simpa [Medium.detach, Medium.modify, List.getElem?_modify_ne _ _ hne] using hst

/-! ## The network -/

/-- The network is as the scene has it. -/
structure Shows (c : Frame.Config) (σ : Scene) (n : Network) : Prop where
  /-- So is the medium. -/
  medium : Covers c σ n.medium
  /-- It is this late. -/
  now : n.now = σ.now
  /-- The stop flag. -/
  stopped : n.stopFlags = [σ.stopped]
  /-- The channels. -/
  channels : n.channels = σ.channels

variable {n : Network} {node : Node}

theorem Shows.isStopped (h : Shows c σ n) : n.isStopped stopFlag = σ.stopped := by
  simp [Network.isStopped, stopFlag, h.stopped]

/-- The network with another medium. -/
theorem Shows.withMedium (h : Shows c σ n) (hm : Covers c σ' m) (hnow : σ'.now = σ.now)
    (hstopped : σ'.stopped = σ.stopped) (hchannels : σ'.channels = σ.channels) :
    Shows c σ' { n with medium := m } :=
  ⟨hm, h.now.trans hnow.symm, by rw [hstopped]; exact h.stopped, h.channels.trans hchannels.symm⟩

theorem Shows.later (h : Shows c σ n) (now : Nat) : Shows c (σ.later now) { n with now } :=
  ⟨⟨h.medium.station, h.medium.settings, h.medium.credit, h.medium.count⟩, rfl, h.stopped,
    h.channels⟩

/-! ## Requests -/

section

variable (h : Shows c σ n)

include h

theorem gets_setMode {mode : Radio.Mode} (hp : σ.aboard p = true)
    {Q : Network → Progress (Except Link.Error Unit × Node) → Prop}
    (hQ : ∀ n', Shows c σ n' → n'.medium.mode p.station = mode → Q n' (.done (.ok (), node))) :
    (setMode mode).Gets (Network.surroundings p.station) n node Q := by
  refine (Link.Action.gets_radio (a := .ok ()) rfl).2 (hQ _ ?_ ?_)
  · exact h.withMedium (h.medium.modify_mode p mode) rfl rfl rfl
  · obtain ⟨st, -, hst, -⟩ := h.medium.live hp
    simp [Medium.mode, Medium.modify, hst]

theorem gets_receive (hp : σ.aboard p = true)
    {Q : Network → Progress (Except Link.Error (Option Radio.Reception) × Node) → Prop}
    (hQ : ∀ n', Shows c (σ.take p) n' →
      Q n' (.done (.ok ((σ.inbox p).head?.map (reception c)), node))) :
    receive.Gets (Network.surroundings p.station) n node Q := by
  obtain ⟨m', hcall, hm'⟩ := h.medium.receive hp
  have hanswer : (Network.surroundings p.station).answer (.radio .receive) n =
      (.ok ((σ.inbox p).head?.map (reception c)), { n with medium := m' }) := by
    simp only [Network.surroundings, Network.answer, Network.call, hcall]
  exact (Link.Action.gets_radio hanswer).2 (hQ _ (h.withMedium hm' rfl rfl rfl))

theorem gets_frameReady (hp : σ.aboard p = true) (hmode : n.medium.mode p.station = .receive)
    {Q : Network → Progress (Except Link.Error Bool × Node) → Prop}
    (hQ : Q n (.done (.ok (!(σ.inbox p).isEmpty), node))) :
    frameReady.Gets (Network.surroundings p.station) n node Q := by
  have hcall := h.medium.frameReady hp hmode
  have hanswer : (Network.surroundings p.station).answer (.radio .frameReady) n =
      (.ok (!(σ.inbox p).isEmpty), n) := by
    simp only [Network.surroundings, Network.answer, Network.call, hcall]
  exact (Link.Action.gets_radio hanswer).2 hQ

theorem gets_send (hp : σ.aboard p = true) (f : Frame)
    {Q : Network → Progress (Except Link.Error Unit × Node) → Prop}
    (hQ : ∀ n', Shows c (σ.air p f) n' → Q n' (.done (.ok (), node))) :
    (radio (.transmit (f.wire c))).Gets (Network.surroundings p.station) n node Q := by
  obtain ⟨m', hcall, hm'⟩ := h.medium.transmit hp f
  have hanswer : (Network.surroundings p.station).answer (.radio (.transmit (f.wire c))) n =
      (.ok (), { n with medium := m' }) := by
    simp only [Network.surroundings, Network.answer, Network.call, hcall]
  exact (Link.Action.gets_radio hanswer).2 (hQ _ (h.withMedium hm' rfl rfl rfl))

theorem gets_now {Q : Network → Progress (Except Link.Error Nat × Node) → Prop}
    (hQ : Q n (.done (.ok σ.now, node))) :
    Link.Action.now.Gets (Network.surroundings p.station) n node Q := by
  have hanswer : (Network.surroundings p.station).answer .now n = (σ.now, n) := by
    simp only [Network.surroundings, Network.answer, h.now]
  exact (Link.Action.gets_ask (by simp) hanswer).2 hQ

theorem gets_left (deadline : Deadline)
    {Q : Network → Progress (Except Link.Error (Option Nat) × Node) → Prop}
    (hQ : Q n (.done (.ok (deadline.left σ.now), node))) :
    (left deadline).Gets (Network.surroundings p.station) n node Q := by
  cases deadline with
  | none => exact hQ
  | some instant => exact (Link.Action.gets_bind _ _).2 (gets_now h hQ)

theorem gets_stopped {Q : Network → Progress (Except Link.Error Bool × Node) → Prop}
    (hQ : Q n (.done (.ok σ.stopped, node))) :
    (ask (.stopped stopFlag)).Gets (Network.surroundings p.station) n node Q := by
  have hanswer : (Network.surroundings p.station).answer (.stopped stopFlag) n =
      (σ.stopped, n) := by
    simp only [Network.surroundings, Network.answer, h.isStopped]
  exact (Link.Action.gets_ask (by simp) hanswer).2 hQ

theorem gets_offer {channel : Nat} {d : Delivery}
    {Q : Network → Progress (Except Link.Error Bool × Node) → Prop}
    (hQ : ∀ n', Shows c (σ.fill (offer σ.channels channel d).2) n' →
      Q n' (.done (.ok (offer σ.channels channel d).1, node))) :
    (ask (.offer channel d)).Gets (Network.surroundings p.station) n node Q := by
  have hanswer : (Network.surroundings p.station).answer (.offer channel d) n =
      ((offer σ.channels channel d).1,
        { n with channels := (offer σ.channels channel d).2 }) := by
    simp only [Network.surroundings, Network.answer, Network.offer, offer, h.channels]
    cases (σ.channels[channel]?).bind fun c => c.push d with
    | none => simp [← h.channels]
    | some c' => rfl
  refine (Link.Action.gets_ask (by simp) hanswer).2 (hQ _ ?_)
  exact ⟨⟨h.medium.station, h.medium.settings, h.medium.credit, h.medium.count⟩, h.now,
    h.stopped, rfl⟩

end

theorem gets_mode {Q : Network → Progress (Except Link.Error Radio.Mode × Node) → Prop}
    (hQ : Q n (.done (.ok (n.medium.mode p.station), node))) :
    mode.Gets (Network.surroundings p.station) n node Q :=
  (Link.Action.gets_ask (by simp) rfl).2 hQ

theorem gets_kept {d : Delivery} {Q : Network → Progress (Except Link.Error Unit × Node) → Prop}
    (hQ : Q n (.done (.ok (), node))) :
    (ask (.kept d)).Gets (Network.surroundings p.station) n node Q :=
  (Link.Action.gets_ask (by simp) rfl).2 hQ

/-! ## Sending a frame and looking at the radio -/

/-- **A party that sends a frame** sends it to all others. -/
theorem gets_transmit (h : Shows c σ n) (hp : σ.aboard p = true) (hc : c.Valid)
    (hframe : node.config.frame = c) {f : Frame} (hfits : f.payload.length ≤ c.maxPayload)
    {Q : Network → Progress (Except Link.Error Unit × Node) → Prop}
    (hQ : ∀ n', Shows c (σ.air p f) n' → Q n' (.done (.ok (), node))) :
    (transmit f).Gets (Network.surroundings p.station) n node Q := by
  have hencode : f.encode node.config.frame = .ok (f.wire c) := by
    rw [hframe]
    exact (Frame.encode_eq_ok_iff _ _ _).2 ⟨hc.preamble, hc.payloadLimit_eq ▸ hfits, rfl⟩
  simp only [transmit, Link.Action.gets_bind, Link.Action.gets_node, Link.Action.proceeds_ok,
    hencode]
  refine gets_setMode h hp fun n₁ h₁ _ => ?_
  simp only [Link.Action.gets_bind, Link.Action.proceeds_ok, Link.Action.gets_attempt]
  refine gets_send h₁ hp f fun n₂ h₂ => ?_
  simp only [Link.Action.Attempted, Link.Action.proceeds_ok, Link.Action.gets_bind,
    Link.Action.gets_attempt]
  refine gets_setMode h₂ hp fun n₃ h₃ _ => ?_
  exact hQ n₃ h₃

/-- A party that is to look at its radio listens first. -/
theorem gets_poll (h : Shows c σ n) (hp : σ.aboard p = true)
    {Q : Network → Progress (Except Link.Error PollEvent × Node) → Prop}
    (hQ : ∀ n', Shows c σ n' → n'.medium.mode p.station = .receive →
      look.Gets (Network.surroundings p.station) n' node Q) :
    poll.Gets (Network.surroundings p.station) n node Q := by
  simp only [poll, Link.Action.gets_bind]
  refine gets_mode ?_
  simp only [Link.Action.proceeds_ok]
  by_cases hmode : n.medium.mode p.station = .receive
  · simp only [hmode, ne_eq, not_true_eq_false, if_false]
    exact hQ n h hmode
  · simp only [ne_eq, hmode, not_false_eq_true, if_true, Link.Action.gets_bind]
    exact gets_setMode h hp hQ

/-- **A party for which nothing waits** finds nothing. -/
theorem gets_poll_idle (h : Shows c σ n) (hp : σ.aboard p = true) (hinbox : σ.inbox p = [])
    {Q : Network → Progress (Except Link.Error PollEvent × Node) → Prop}
    (hQ : ∀ n', Shows c σ n' → Q n' (.done (.ok .idle, node))) :
    poll.Gets (Network.surroundings p.station) n node Q := by
  refine gets_poll h hp fun n₁ h₁ hmode => ?_
  simp only [look, Link.Action.gets_bind]
  refine gets_frameReady h₁ hp hmode ?_
  rw [hinbox]
  exact hQ n₁ h₁

/-- **A party for which a frame waits** takes it and listens again. -/
theorem gets_poll_frame (h : Shows c σ n) (hp : σ.aboard p = true) {f : Frame} {rest : List Frame}
    (hinbox : σ.inbox p = f :: rest)
    {Q : Network → Progress (Except Link.Error PollEvent × Node) → Prop}
    (hQ : ∀ n', Shows c (σ.take p) n' →
      (handle (reception c f)).Gets (Network.surroundings p.station) n' node fun n' progress =>
        ∃ σ' event node', progress = .done (.ok event, node') ∧ Shows c σ' n' ∧
          σ'.aboard p = true ∧ ∀ n', Shows c σ' n' → Q n' (.done (.ok event, node'))) :
    poll.Gets (Network.surroundings p.station) n node Q := by
  refine gets_poll h hp fun n₁ h₁ hmode => ?_
  simp only [look, Link.Action.gets_bind]
  refine gets_frameReady h₁ hp hmode ?_
  simp only [hinbox, List.isEmpty_cons, Bool.not_false, Link.Action.proceeds_ok, if_true,
    Link.Action.gets_bind, Link.Action.gets_attempt, fetch]
  refine gets_receive h₁ hp fun n₂ h₂ => ?_
  simp only [hinbox, List.head?_cons, Option.map_some, Link.Action.proceeds_ok]
  refine (hQ n₂ h₂).imp ?_
  rintro n₃ _ ⟨σ', event, node', rfl, h₃, hp', hrest⟩
  simp only [Link.Action.Attempted, Link.Action.proceeds_ok, Link.Action.gets_bind,
    Link.Action.gets_attempt]
  refine gets_setMode h₃ hp' fun n₄ h₄ _ => ?_
  exact hrest n₄ h₄

/-- A frame that one party has written the others can read. -/
theorem decode_reception (hc : c.Valid) (hframe : node.config.frame = c) {f : Frame}
    (hfits : f.payload.length ≤ c.maxPayload) :
    Frame.decode node.config.frame (reception c f).bytes = .ok f := by
  rw [hframe]
  exact Frame.decode_wire hc (hc.payloadLimit_eq ▸ hfits)

end Scene
end Simulation
end PacketRadio
