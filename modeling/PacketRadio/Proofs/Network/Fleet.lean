/-
# What goes on the air and what the nodes count

rflink specification, §4.5: telemetry.

A fleet is a network with the nodes that are on it or have been.  They go on
request by request, in any order, and each is answered by the network as it is
then.  Everything else about the network may change at any time, as long as
the radios of the nodes that are aboard stay and nobody else sends.

| step | what it is |
| --- | --- |
| `outside` | something about the network changes |
| `arrive` | a node is brought up |
| `act` | an operation begins or ends, or another turn does |
| `redirect` | a node is given another channel for its deliveries |
| `exchange` | a request of a node is answered |
| `leave` | a node leaves for good |

The medium counts each transmission once, whatever becomes of it, and each
node counts what it sends.  A node in the middle of a turn may have sent what
it has not counted yet, or be about to send; its counters are taken as they
are at the end of the turn, and the medium's with what is sent until then.

Main statement: `Reach.accounted_for`.
-/

import PacketRadio.Proofs.Link.Accounting
import PacketRadio.Proofs.Network.Quiet

namespace PacketRadio

open Link (Books Exchange History Life Node Occurrence Request Sink Status Traffic)

/-! ## Calls that are counted -/

/-- **What a radio on the medium sends is counted once**, and nothing else is. -/
theorem Medium.transmissions_call_live {m : Medium} {i : Nat} (hlive : (m.live? i).isSome)
    (call : Radio.Call) : (m.call i call).2.stats.transmissions =
      m.stats.transmissions + call.aired.toList.length := by
  obtain ⟨hgrows, hcount⟩ := m.transmissions_call i call
  cases call with
  | transmit bytes =>
    have hlive' : ((m.modify i fun s => { s with mode := .transmit }).live? i).isSome :=
      Medium.live_of_present (m.present_modify i (by exact fun _ => rfl)) hlive
    have hsent : (m.call i (.transmit bytes)).2.stats.transmissions =
        m.stats.transmissions + _ :=
      Medium.broadcast_transmissions (m.modify i fun s => { s with mode := .transmit }) i bytes
    rw [hsent, if_pos hlive']
    rfl
  | _ => exact Nat.le_antisymm hcount hgrows

/-- **A request that is permitted to a node on the medium is answered without a failure**; what it
sends is counted, and the radios stay the same. -/
theorem Network.answer_permitted {network : Network} {i : Nat} {r : Request}
    (hlive : (network.medium.live? i).isSome) (hp : Traffic.Permits r) :
    Exchange.failed ⟨r, (answer i r network).1⟩ = false ∧
      (answer i r network).2.medium.stats.transmissions =
        network.medium.stats.transmissions + Exchange.aired [⟨r, (answer i r network).1⟩] ∧
      (answer i r network).2.medium.present = network.medium.present := by
  by_cases hr : ∃ call, r = .radio call
  · obtain ⟨call, rfl⟩ := hr
    obtain ⟨result, hresult⟩ := Medium.call_ok hlive hp
    have hanswer : (answer i (.radio call) network).1 = .ok result := hresult
    rw [hanswer]
    refine ⟨rfl, ?_, Medium.present_call network.medium i call⟩
    rw [Exchange.aired_cons]
    exact Medium.transmissions_call_live hlive call
  · have hmedium := (answer_medium i r network).resolve_left hr
    rw [hmedium]
    refine ⟨?_, ?_, rfl⟩
    · cases r with
      | radio call => exact absurd ⟨call, rfl⟩ hr
      | _ => rfl
    · cases r with
      | radio call => exact absurd ⟨call, rfl⟩ hr
      | _ => rfl

/-! ## Fleets -/

/-- A node, and what has happened at it. -/
structure Member where
  /-- Where its radio is. -/
  station : Nat
  /-- What has happened at it. -/
  history : History := []
  /-- What it is at. -/
  status : Status
  /-- It has not left. -/
  aboard : Bool := true

namespace Member

/-- A node that has just been brought up. -/
def fresh (station : Nat) (c : Link.Config) (sink : Sink) : Member :=
  { station, status := .resting { Node.fresh c with sink } }

/-- The node after a step. -/
def next (m : Member) (o : Option Occurrence) (st : Status) : Member :=
  { m with history := m.history ++ o.toList, status := st }

end Member

/-- A network and the nodes that are on it or have been. -/
structure Fleet where
  /-- What they share. -/
  network : Network
  /-- The nodes. -/
  members : List Member

namespace Fleet

/-- The transmissions made. -/
def transmissions (f : Fleet) : Nat :=
  f.network.medium.stats.transmissions

/-- One step of a fleet. -/
inductive Step : Fleet → Fleet → Prop where
  /-- Something about the network changes. -/
  | outside {network network' : Network} {members : List Member}
      (hair : network'.medium.stats.transmissions = network.medium.stats.transmissions)
      (hlive : ∀ m ∈ members, m.aboard = true → (network'.medium.live? m.station).isSome) :
      Step ⟨network, members⟩ ⟨network', members⟩
  /-- A node is brought up. -/
  | arrive {network : Network} {members : List Member} (station : Nat) (c : Link.Config)
      (sink : Sink) (hc : c.validate = .ok ()) (hlive : (network.medium.live? station).isSome) :
      Step ⟨network, members⟩ ⟨network, members ++ [.fresh station c sink]⟩
  /-- A node goes on by itself. -/
  | act {network : Network} (before after : List Member) {m : Member} {o : Option Occurrence}
      {st : Status} (hst : m.status.Step o st) (ho : ∀ e, o ≠ some (.exchanged e)) :
      Step ⟨network, before ++ m :: after⟩ ⟨network, before ++ m.next o st :: after⟩
  /-- The deliveries of a node go into another channel from now on. -/
  | redirect {network : Network} (before after : List Member) {m : Member} {n : Node}
      (channel : Nat) (hst : m.status = .resting n) :
      Step ⟨network, before ++ m :: after⟩
        ⟨network, before ++ m.next none (.resting (n.withChannel channel)) :: after⟩
  /-- A request of a node is answered. -/
  | exchange {network : Network} (before after : List Member) {m : Member} {r : Request}
      {next : r.Answer → Link.Task (Except Link.Error (Link.Turn Link.Activity Link.Reply) × Node)}
      (hst : m.status = .busy (.ask r next)) (aboard : m.aboard = true) :
      Step ⟨network, before ++ m :: after⟩
        ⟨(network.answer m.station r).2, before ++
          m.next (some (.exchanged ⟨r, (network.answer m.station r).1⟩))
            (.busy (next (network.answer m.station r).1)) :: after⟩
  /-- A node leaves for good. -/
  | leave {network : Network} (before after : List Member) {m : Member} {n : Node}
      (hst : m.status = .resting n) :
      Step ⟨network, before ++ m :: after⟩
        ⟨network, before ++ { m with aboard := false } :: after⟩

/-- A fleet that began without nodes has come this far. -/
inductive Reach : Fleet → Prop where
  /-- Nothing has happened yet. -/
  | start (network : Network) (hair : network.medium.stats.transmissions = 0) :
      Reach ⟨network, []⟩
  /-- One more step. -/
  | step {f f' : Fleet} (before : Reach f) (next : f.Step f') : Reach f'

end Fleet

/-! ## What is kept -/

/-- The history with one more occurrence that is not an exchange has the same on the air. -/
theorem Link.Books.note_silent (g : Books) {o : Occurrence} (ho : ∀ e, o ≠ .exchanged e) :
    (g.note o).aired = g.aired ∧ (g.note o).broken = g.broken := by
  match o with
  | .began op => exact ⟨rfl, rfl⟩
  | .exchanged e => exact absurd rfl (ho e)
  | .ended (.ok reply) => exact ⟨rfl, rfl⟩
  | .ended (.error e) => exact ⟨rfl, rfl⟩

/-- A node has come as far as it is, and its radio has not failed and is there as long as it is
aboard. -/
structure Member.Sound (m : Member) (medium : Medium) : Prop where
  /-- It has come as far as it is. -/
  life : ∃ c sink, Link.Config.validate c = .ok () ∧
    Life { Node.fresh c with sink } m.history m.status
  /-- The radio has not failed. -/
  unbroken : m.history.books.broken = false
  /-- It is on the medium. -/
  live : m.aboard = true → (medium.live? m.station).isSome

namespace Member

variable {m : Member} {medium medium' : Medium}

theorem Sound.elsewhere (h : m.Sound medium)
    (hlive : m.aboard = true → (medium'.live? m.station).isSome) : m.Sound medium' :=
  ⟨h.life, h.unbroken, hlive⟩

/-- **A node is about to ask for what it may.** -/
theorem Sound.permits (h : m.Sound medium) {r : Request} {next}
    (hst : m.status = .busy (.ask r next)) : Traffic.Permits r := by
  obtain ⟨c, sink, hc, hlife⟩ := h.life
  have hframe : c.frame.Valid := ((Link.Config.validate_eq_ok_iff c).1 hc).frame
  have hholds := hlife.accounted hframe
  rw [hst] at hholds
  exact hholds.1

/-- The books about a node after one more step. -/
theorem books_next (m : Member) (o : Option Occurrence) (st : Status) :
    (m.next o st).history.books = o.toList.foldl Books.note m.history.books := by
  simp [next, History.books]

end Member

namespace Fleet

/-- The nodes are in order, and the medium has counted what they sent. -/
structure Sound (f : Fleet) : Prop where
  /-- The nodes are in order. -/
  members : ∀ m ∈ f.members, m.Sound f.network.medium
  /-- The medium has counted what they sent. -/
  air : f.transmissions = (f.members.map fun m => m.history.books.aired).sum

/-- **One node goes on**, and the medium counts what it sends. -/
theorem Sound.replace {network network' : Network} {before after : List Member} {m m' : Member}
    (h : Sound ⟨network, before ++ m :: after⟩) (hm : m'.Sound network'.medium)
    (hpresent : network'.medium.present = network.medium.present) {k : Nat}
    (haired : m'.history.books.aired = m.history.books.aired + k)
    (hair : network'.medium.stats.transmissions = network.medium.stats.transmissions + k) :
    Sound ⟨network', before ++ m' :: after⟩ where
  members := by
    intro m₁ hm₁
    have hstays : ∀ m₂ ∈ before ++ m :: after, m₂.Sound network'.medium := fun m₂ hm₂ => by
      have hsound := h.members m₂ hm₂
      exact hsound.elsewhere fun haboard => Medium.live_of_present hpresent (hsound.live haboard)
    simp only [List.mem_append, List.mem_cons] at hm₁ hstays
    rcases hm₁ with hbefore | rfl | hafter
    · exact hstays m₁ (.inl hbefore)
    · exact hm
    · exact hstays m₁ (.inr (.inr hafter))
  air := by
    have hbefore := h.air
    simp only [transmissions, List.map_append, List.map_cons, List.sum_append,
      List.sum_cons] at hbefore ⊢
    omega

/-- **Every step keeps the nodes in order and what they sent counted.** -/
theorem Sound.step {f f' : Fleet} (h : f.Sound) (hf : f.Step f') : f'.Sound := by
  cases hf with
  | outside hair hlive =>
    exact ⟨fun m hm => (h.members m hm).elsewhere (hlive m hm), hair.trans h.air⟩
  | arrive station c sink hc hlive =>
    refine ⟨fun m hm => ?_, ?_⟩
    · rcases List.mem_append.1 hm with hm | hm
      · exact h.members m hm
      · obtain rfl := List.mem_singleton.1 hm
        exact ⟨⟨c, sink, hc, .start⟩, rfl, fun _ => hlive⟩
    · have hair := h.air
      simp only [List.map_append, List.sum_append]
      exact hair
  | @act network before after m o st hst ho =>
    have hm : m.Sound network.medium := h.members m (by simp)
    have hbooks : (m.next o st).history.books.aired = m.history.books.aired ∧
        (m.next o st).history.books.broken = m.history.books.broken := by
      rw [Member.books_next]
      cases o with
      | none => exact ⟨rfl, rfl⟩
      | some o => exact Books.note_silent _ fun e he => ho e (congrArg some he)
    obtain ⟨c, sink, hc, hlife⟩ := hm.life
    exact h.replace (k := 0) ⟨⟨c, sink, hc, .step hlife hst⟩, hbooks.2.trans hm.unbroken, hm.live⟩
      rfl hbooks.1 rfl
  | @redirect network before after m n channel hst =>
    have hm : m.Sound network.medium := h.members m (by simp)
    obtain ⟨c, sink, hc, hlife⟩ := hm.life
    rw [hst] at hlife
    have hredirected : Life { Node.fresh c with sink } (m.history ++ [])
        (.resting (n.withChannel channel)) := by
      rw [List.append_nil]
      exact hlife.redirect channel
    refine h.replace (k := 0) ⟨⟨c, sink, hc, hredirected⟩, ?_, hm.live⟩ rfl ?_ rfl
    · rw [Member.books_next]
      exact hm.unbroken
    · rw [Member.books_next]
      rfl
  | @exchange network before after m r next hst aboard =>
    have hm : m.Sound network.medium := h.members m (by simp)
    obtain ⟨hfailed, hair, hpresent⟩ :=
      Network.answer_permitted (hm.live aboard) (hm.permits hst)
    obtain ⟨c, sink, hc, hlife⟩ := hm.life
    rw [hst] at hlife
    refine h.replace ⟨⟨c, sink, hc, .step hlife (.exchange r next _)⟩, ?_, ?_⟩ hpresent ?_ hair
    · rw [Member.books_next]
      show (m.history.books.broken || Exchange.failed _) = false
      rw [hm.unbroken, hfailed]
      rfl
    · exact fun _ => Medium.live_of_present hpresent (hm.live aboard)
    · rw [Member.books_next]
      rfl
  | @leave network before after m n hst =>
    have hm : m.Sound network.medium := h.members m (by simp)
    exact h.replace (k := 0) ⟨hm.life, hm.unbroken, nofun⟩ rfl rfl rfl

theorem Reach.sound {f : Fleet} (h : f.Reach) : f.Sound := by
  induction h with
  | start network hair => exact ⟨by simp, hair⟩
  | step before next ih => exact ih.step next

/-- What each of the nodes has counted makes up what all of them have. -/
theorem sum_counted {members : List Member} {ends : List (Nat × Node)}
    (h : List.Forall₂ (fun m e => m.history.books.aired + e.1 =
      e.2.telemetry.dataSent + e.2.telemetry.acksSent) members ends) :
    (members.map fun m => m.history.books.aired).sum + (ends.map Prod.fst).sum =
      (ends.map fun e => e.2.telemetry.dataSent + e.2.telemetry.acksSent).sum := by
  induction h with
  | nil => rfl
  | cons hcounted _ ih =>
    simp only [List.map_cons, List.sum_cons]
    omega

/-- **What goes on the air is what the nodes count, and what they tell of.**  However a fleet has
come about, and however the turns that its nodes are in come to an end: the medium has counted, with
what is sent until then, as many transmissions as the nodes have counted copies of datagrams and
acknowledgments; and each node with no send in progress has counted its copies, the repeated ones,
the sends it gave up and the acknowledgments it waited for as the results of its sends tell.

A node at rest or between two turns is at the end of one already (`Status.Closes.visible`); where all
nodes are, nothing is sent until then. -/
theorem Reach.accounted_for {f : Fleet} (h : f.Reach) {ends : List (Nat × Node)}
    (hends : List.Forall₂ (fun m e => m.status.Closes e.1 e.2) f.members ends) :
    f.transmissions + (ends.map Prod.fst).sum =
        (ends.map fun e => e.2.telemetry.dataSent + e.2.telemetry.acksSent).sum ∧
      List.Forall₂ (fun m e => m.history.books.sending = false → m.history.books.Tallies e.2)
        f.members ends := by
  have hsound := h.sound
  have hsettled : List.Forall₂ (fun m e =>
      m.history.books.aired + e.1 = e.2.telemetry.dataSent + e.2.telemetry.acksSent ∧
        (m.history.books.sending = false → m.history.books.Tallies e.2)) f.members ends := by
    have hboth := (List.forall₂_and_left _ _).2 ⟨hsound.members, hends⟩
    refine hboth.imp fun m e ⟨hm, hcloses⟩ => ?_
    obtain ⟨c, sink, hc, hlife⟩ := hm.life
    have hframe : c.frame.Valid := ((Link.Config.validate_eq_ok_iff c).1 hc).frame
    exact hlife.settled hframe hm.unbroken hcloses
  refine ⟨?_, hsettled.imp fun m e hm => hm.2⟩
  rw [hsound.air]
  exact sum_counted (hsettled.imp fun m e hm => hm.1)

/-- Two nodes, of which one has sent a datagram to all and the other is about to look at it. -/
theorem accounted_for_polling : ∃ (f : Fleet) (ends : List (Nat × Node)), f.Reach ∧
    List.Forall₂ (fun m e => m.status.Closes e.1 e.2) f.members ends ∧
    f.transmissions = 1 ∧ f.members.map (fun m => m.history.books.once) = [1, 0] ∧
    f.transmissions + (ends.map Prod.fst).sum =
        (ends.map fun e => e.2.telemetry.dataSent + e.2.telemetry.acksSent).sum ∧
      List.Forall₂ (fun m e => m.history.books.sending = false → m.history.books.Tallies e.2)
        f.members ends := by
  have hstart : Reach ⟨{ medium :=
      { stations := [{ address := 1, mode := .receive }, { address := 2, mode := .receive }] } },
      []⟩ := .start _ rfl
  have hboth := (hstart.step (.arrive 0 { address := 1 } (.queue 4 []) rfl rfl)).step
    (.arrive 1 { address := 2 } (.queue 4 []) rfl rfl)
  have hbegan := hboth.step (.act [] _ (.begin _ (.sendUnreliable 255 [7])) nofun)
  have hidle := hbegan.step (.exchange [] _ rfl rfl)
  have hsent := hidle.step (.exchange [] _ rfl rfl)
  have hback := hsent.step (.exchange [] _ rfl rfl)
  have hover := hback.step (.act [] _ (.finish _ _) nofun)
  have hpolls := hover.step (.act [_] [] (.begin _ .poll) nofun)
  have hlooks := hpolls.step (.exchange [_] [] rfl rfl)
  obtain ⟨f, ends, hf, hends, hair, honce⟩ : ∃ (f : Fleet) (ends : List (Nat × Node)), f.Reach ∧
      List.Forall₂ (fun m e => m.status.Closes e.1 e.2) f.members ends ∧
      f.transmissions = 1 ∧ f.members.map (fun m => m.history.books.once) = [1, 0] :=
    ⟨_, [(0, _), (_, _)], hlooks, .cons (.resting _) (.cons (.busy
      (@Link.Task.Path.step _ (.radio .frameReady) _ (.ok false) _ _ (.here _)) rfl) .nil),
      rfl, rfl⟩
  exact ⟨f, ends, hf, hends, hair, honce, hf.accounted_for hends⟩

end Fleet
end PacketRadio
