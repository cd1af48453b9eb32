/-
# Listeners are not noticed

rflink specification, §10: the promiscuous node; §4.4: sniffed frames are
never acknowledged.

Let anything happen on a network, and then the same with one more node, behind
all others, that only looks at its radio and hands over what it has got.  As
long as no frame that it takes is for it alone, nobody else can tell.

| of the two courses | is |
| --- | --- |
| what happens at the other stations, in which order | the same |
| the other nodes, their radios and what waits there | the same |
| the time, the stop flags, the channels | the same |
| transmissions, losses, damages | the same |
| copies that found room, copies that did not | at least as many |

Main statement: `listener_unnoticed`.
-/

import PacketRadio.Proofs.Link.Discretion
import PacketRadio.Proofs.Medium.Beside
import PacketRadio.Proofs.Network.Happenings

namespace PacketRadio

open Link (Node Occurrence Exchange discretion discretion_sound)

/-! ## Networks -/

/-- The second network is the first with one more station behind all others. -/
structure Network.Beside (l : Nat) (n n' : Network) : Prop where
  /-- So is its medium. -/
  medium : Medium.Beside l n.medium n'.medium
  /-- There is nothing else to it. -/
  same : n' = { n with medium := n'.medium }

namespace Network.Beside

variable {l : Nat} {n n' : Network}

/-- **A request at one of the other stations is answered as before.** -/
theorem answer (h : Beside l n n') {i : Nat} (hi : i ≠ l) (r : Link.Request) :
    (Network.answer i r n').1 = (Network.answer i r n).1 ∧
      Beside l (Network.answer i r n).2 (Network.answer i r n').2 := by
  obtain ⟨hmedium, hsame⟩ := h
  cases r with
  | radio call =>
    obtain ⟨hresult, hcalled⟩ := hmedium.call hi call
    refine ⟨hresult, hcalled, ?_⟩
    rw [hsame]
    rfl
  | mode => exact ⟨hmedium.mode hi, hmedium, hsame⟩
  | offer channel d =>
    rw [hsame]
    simp only [Network.answer, Network.offer]
    split
    · exact ⟨rfl, hmedium, rfl⟩
    · exact ⟨rfl, hmedium, rfl⟩
  | _ =>
    rw [hsame]
    exact ⟨rfl, hmedium, rfl⟩

/-- **A discreet request at the station behind does nothing to the others.** -/
theorem answer_last (h : Beside l n n') {r : Link.Request} (hr : r.isDiscreet = true) :
    Beside l n (Network.answer l r n').2 := by
  obtain ⟨hmedium, hsame⟩ := h
  cases r with
  | radio call =>
    refine ⟨hmedium.call_last (bne_iff_ne.1 hr), ?_⟩
    rw [hsame]
    rfl
  | mode => exact ⟨hmedium, hsame⟩
  | kept d => exact ⟨hmedium, hsame⟩
  | _ => cases hr

end Network.Beside

/-! ## A system and its listener -/

/-- It suits a network with a listener of this configuration at the last station, number `l`: the
listener is only asked to look at its radio and to hand over what it has got, its radio is not
called to send, and no other radio comes. -/
def Happening.Suits (c : Link.Config) (l : Nat) : Happening → Prop
  | .move (.begin i op) => i = l → op = .poll ∨ op = .recv
  | .move (.advance _) => True
  | .arrive i c' => i = l → c' = c
  | .redirect i _ => i ≠ l
  | .depart _ => True
  | .command (.attach _) => False
  | .command (.call i call) => i = l → call.name ≠ .transmit
  | .command _ => True
  | .beyond .. => True

instance (c : Link.Config) (l : Nat) : DecidablePred (Happening.Suits c l)
  | .move (.begin i op) => inferInstanceAs (Decidable (i = l → op = .poll ∨ op = .recv))
  | .arrive i c' => inferInstanceAs (Decidable (i = l → c' = c))
  | .redirect i _ => inferInstanceAs (Decidable (i ≠ l))
  | .command (.attach _) => inferInstanceAs (Decidable False)
  | .command (.call i call) => inferInstanceAs (Decidable (i = l → call.name ≠ .transmit))
  | .move (.advance _)
  | .depart _
  | .command (.detach _)
  | .command (.inject _ _)
  | .command (.dropNext _)
  | .command (.setSevered _ _ _)
  | .command (.setLinkRssi _ _ _)
  | .beyond _ _ _ => inferInstanceAs (Decidable True)

namespace System

/-- The second system is the first with a listener at one more station, number `l`, behind all
others. -/
structure Shadows (c : Link.Config) (l : Nat) (s s' : System) : Prop where
  /-- Its network has that station. -/
  network : Network.Beside l s.network s'.network
  /-- The others are the same. -/
  party : ∀ i ≠ l, s'.party i = s.party i
  /-- If there is a node at that station, it only listens and has been given no reason to send. -/
  listener : ∀ st, s'.party l = .present st → (discretion c).Holds true st

namespace Shadows

variable {c : Link.Config} {l : Nat} {s s' : System}

theorem withNetwork (h : Shadows c l s s') {n n' : Network} (hn : Network.Beside l n n') :
    Shadows c l (s.withNetwork n) (s'.withNetwork n') :=
  ⟨hn, h.party, h.listener⟩

theorem put (h : Shadows c l s s') {i : Nat} (hi : i ≠ l) (p : Occupant) :
    Shadows c l (s.put i p) (s'.put i p) := by
  refine ⟨h.network, fun j hj => ?_, fun st hst => ?_⟩
  · by_cases hji : j = i
    · rw [hji, put_party_self, put_party_self]
    · rw [put_party_of_ne _ hji, put_party_of_ne _ hji, h.party j hj]
  · rw [put_party_of_ne _ hi.symm] at hst
    exact h.listener st hst

theorem put_last (h : Shadows c l s s') {p : Occupant}
    (hp : ∀ st, p = .present st → (discretion c).Holds true st) : Shadows c l s (s'.put l p) := by
  refine ⟨h.network, fun j hj => ?_, fun st hst => ?_⟩
  · rw [put_party_of_ne _ hj, h.party j hj]
  · rw [put_party_self] at hst
    exact hp st hst

/-- **A move of another node is the same**, and leads to the same. -/
theorem move (h : Shadows c l s s') {m : Move} (hm : m.station ≠ l) :
    (s'.move m).1 = (s.move m).1 ∧ Shadows c l (s.move m).2 (s'.move m).2 := by
  cases m with
  | begin i op =>
    have hi : i ≠ l := hm
    simp only [System.move, h.party i hi]
    split
    · exact ⟨rfl, h.put hi _⟩
    · exact ⟨rfl, h⟩
  | advance i =>
    have hi : i ≠ l := hm
    simp only [System.move, h.party i hi]
    split
    · rename_i r next hbusy
      obtain ⟨hanswer, hnetwork⟩ := h.network.answer hi r
      rw [hanswer]
      exact ⟨rfl, (h.put hi _).withNetwork hnetwork⟩
    · exact ⟨rfl, h.put hi _⟩
    · exact ⟨rfl, h.put hi _⟩
    · exact ⟨rfl, h.put hi _⟩
    · exact ⟨rfl, h⟩

/-- **What happens elsewhere is the same**, and leads to the same. -/
theorem undergo (h : Shadows c l s s') {x : Happening} (hsuits : x.Suits c l)
    (hx : x.station? ≠ some l) :
    (s'.undergo x).1 = (s.undergo x).1 ∧ Shadows c l (s.undergo x).2 (s'.undergo x).2 := by
  have hne : ∀ {i}, x.station? = some i → i ≠ l := fun hi hil => hx (hil ▸ hi)
  cases x with
  | move m => exact h.move (hne rfl)
  | arrive i c' => exact ⟨rfl, h.put (hne rfl) _⟩
  | redirect i channel =>
    have hi : i ≠ l := hne rfl
    simp only [System.undergo, h.party i hi]
    split
    · exact ⟨rfl, h.put hi _⟩
    · exact ⟨rfl, h⟩
  | depart i => exact ⟨rfl, h.put (hne rfl) _⟩
  | command cmd =>
    have hattach : ∀ failure, cmd ≠ .attach failure := by
      rintro failure rfl
      exact hsuits
    obtain ⟨hmedium, hsame⟩ := h.network
    refine ⟨?_, h.withNetwork ⟨hmedium.obey hattach hx, ?_⟩⟩
    · cases cmd with
      | call i call =>
        have hresult := (hmedium.call (hne rfl) call).1
        simp only [System.undergo, Medium.tells, hresult]
      | _ => rfl
    · rw [hsame]
      rfl
  | beyond now stopFlags channels =>
    obtain ⟨hmedium, hsame⟩ := h.network
    refine ⟨rfl, h.withNetwork ⟨hmedium, ?_⟩⟩
    rw [hsame]

/-- The listener goes on, having been given no reason to send. -/
theorem next (h : Shadows c l s s') {st st' : Link.Status} {o : Occurrence}
    (hl : s'.party l = .present st) (hstep : st.Step (some o) st') (ho : o.isIdle c = true) :
    Shadows c l s (s'.put l (.present st')) := by
  have hholds := (discretion_sound c).step (h.listener st hl) hstep
  refine h.put_last fun st₁ hst₁ => ?_
  obtain rfl : st' = st₁ := by simpa using hst₁
  have hnote : (discretion c).note true o = true := ho
  simpa [hnote] using hholds

/-- **A move of the listener changes nothing elsewhere.** -/
theorem move_last (h : Shadows c l s s') {m : Move} (hsuits : (Happening.move m).Suits c l)
    (hm : m.station = l) (hheard : ∀ r ∈ Trace.heard (s'.move m).1 l, c.isFor r = false) :
    Shadows c l s (s'.move m).2 := by
  cases m with
  | begin i op =>
    obtain rfl : i = l := hm
    simp only [System.move]
    split
    · rename_i n hrests
      exact h.next hrests (.begin n op) (decide_eq_true (hsuits rfl))
    · exact h
  | advance i =>
    obtain rfl : i = l := hm
    revert hheard
    simp only [System.move]
    split
    · rename_i r next hbusy
      dsimp only
      intro hheard
      have hdiscreet : r.isDiscreet = true := (h.listener _ hbusy).1 rfl
      have hidle : (Occurrence.exchanged ⟨r, (Network.answer i r s'.network).1⟩).isIdle c =
          true := by
        rw [Trace.heard_exchanged] at hheard
        exact Occurrence.isIdle_of_heard hheard
      have hnext := h.next hbusy (.exchange r next _) hidle
      exact ⟨h.network.answer_last hdiscreet, hnext.party, hnext.listener⟩
    · rename_i a n hbusy
      -- A look is over in one turn, and so is handing over.
      have hunderway : true = false := h.listener _ hbusy
      cases hunderway
    · rename_i reply n hbusy
      exact fun _ => h.next hbusy (.finish reply n) rfl
    · rename_i e n hbusy
      exact fun _ => h.next hbusy (.fail e n) rfl
    · exact fun _ => h

/-- **What happens at the listener changes nothing elsewhere.** -/
theorem undergo_last (h : Shadows c l s s') {x : Happening} (hsuits : x.Suits c l)
    (hx : x.station? = some l)
    (hheard : ∀ r ∈ Trace.heard (s'.undergo x).1 l, c.isFor r = false) :
    Shadows c l s (s'.undergo x).2 := by
  cases x with
  | move m => exact h.move_last hsuits (Option.some.inj hx) hheard
  | arrive i c' =>
    obtain rfl := Option.some.inj hx
    obtain rfl := hsuits rfl
    refine h.put_last fun st hst => ?_
    obtain rfl : _ = st := by simpa using hst
    exact fun _ => ⟨rfl, _, _, rfl⟩
  | redirect i channel =>
    obtain rfl := Option.some.inj hx
    exact absurd rfl hsuits
  | depart i =>
    obtain rfl := Option.some.inj hx
    exact h.put_last nofun
  | command cmd =>
    obtain ⟨hmedium, hsame⟩ := h.network
    refine ⟨⟨hmedium.obey_last hx ?_, ?_⟩, h.party, h.listener⟩
    · rintro call rfl
      exact hsuits rfl
    · show Network.mk _ _ _ _ = _
      rw [hsame]
      rfl
  | beyond now stopFlags channels => cases hx

/-- **So does any course of events.** -/
theorem course (h : Shadows c l s s') {xs : List Happening} (hsuits : ∀ x ∈ xs, x.Suits c l)
    (hheard : ∀ r ∈ Trace.heard (s'.course xs).1 l, c.isFor r = false) :
    (s'.course xs).1.filter (·.1 ≠ l) = (s.course (xs.filter (·.station? ≠ some l))).1 ∧
      Shadows c l (s.course (xs.filter (·.station? ≠ some l))).2 (s'.course xs).2 := by
  induction xs generalizing s s' with
  | nil => exact ⟨rfl, h⟩
  | cons x xs ih =>
    have hx := hsuits x (List.mem_cons_self ..)
    have hxs : ∀ x ∈ xs, x.Suits c l := fun x hx => hsuits x (List.mem_cons_of_mem _ hx)
    have hcourse : (s'.course (x :: xs)).1 =
      (s'.undergo x).1 ++ ((s'.undergo x).2.course xs).1 := rfl
    rw [hcourse, Trace.heard_append] at hheard
    have hnow : ∀ r ∈ Trace.heard (s'.undergo x).1 l, c.isFor r = false := fun r hr =>
      hheard r (List.mem_append_left _ hr)
    have hlater : ∀ r ∈ Trace.heard ((s'.undergo x).2.course xs).1 l, c.isFor r = false :=
      fun r hr => hheard r (List.mem_append_right _ hr)
    rw [hcourse, List.filter_append, List.filter_cons]
    by_cases hl : x.station? = some l
    · obtain ⟨htold, hafter⟩ := ih (h.undergo_last hx hl hnow) hxs hlater
      rw [s'.elsewhere_of_eq hl, if_neg (by simpa using hl)]
      exact ⟨htold, hafter⟩
    · obtain ⟨hsame, hnext⟩ := h.undergo hx hl
      obtain ⟨htold, hafter⟩ := ih hnext hxs hlater
      rw [hsame, s.elsewhere_of_ne hl, htold, if_pos (by simpa using hl)]
      exact ⟨rfl, hafter⟩

end Shadows

/-- Nobody but a listener at station `l` of the second system can tell it from the first. -/
structure Alike (l : Nat) (s s' : System) : Prop where
  /-- The nodes are the same, with what they have counted and what waits in their own queues. -/
  party : ∀ i ≠ l, s'.party i = s.party i
  /-- So are their radios, with their addresses and modes and what waits there. -/
  stations : ∀ i ≠ l, s'.network.medium.stations[i]? = s.network.medium.stations[i]?
  /-- So is what has been set of the medium. -/
  settings : s'.network.medium.settings = s.network.medium.settings
  /-- As many transmissions are due to be lost. -/
  credit : s'.network.medium.dropCredit = s.network.medium.dropCredit
  /-- The time is the same. -/
  now : s'.network.now = s.network.now
  /-- So are the stop flags. -/
  stopFlags : s'.network.stopFlags = s.network.stopFlags
  /-- So is what waits in the channels. -/
  channels : s'.network.channels = s.network.channels
  /-- As many transmissions were made. -/
  transmissions : s'.network.medium.stats.transmissions = s.network.medium.stats.transmissions
  /-- As many were lost. -/
  dropped : s'.network.medium.stats.dropped = s.network.medium.stats.dropped
  /-- As many were damaged. -/
  corrupted : s'.network.medium.stats.corrupted = s.network.medium.stats.corrupted
  /-- At least as many copies found room. -/
  delivered : s.network.medium.stats.delivered ≤ s'.network.medium.stats.delivered
  /-- At least as many copies found none. -/
  overflowed : s.network.medium.stats.overflowed ≤ s'.network.medium.stats.overflowed

theorem Shadows.alike {c : Link.Config} {l : Nat} {s s' : System} (h : Shadows c l s s') :
    Alike l s s' := by
  obtain ⟨⟨hmedium, hsame⟩, hparty, -⟩ := h
  have hstations : ∀ i ≠ l, _ := fun i hi => hmedium.stations hi
  obtain ⟨-, st, delivered, overflowed, hextend⟩ := hmedium
  obtain ⟨network', party'⟩ := s'
  rw [hextend] at hsame
  obtain rfl : network' = _ := hsame
  exact {
    party := hparty
    stations := hstations
    settings := rfl
    credit := rfl
    now := rfl
    stopFlags := rfl
    channels := rfl
    transmissions := rfl
    dropped := rfl
    corrupted := rfl
    delivered := Nat.le_add_right _ _
    overflowed := Nat.le_add_right _ _ }

end System

/-- **A listener is not noticed.**  Let one more radio come to a network, behind all others, and let
a node with it only look at the radio and hand over what it has got, whenever.  As long as no frame
that it takes is for it alone, the same happens at all other stations as without it, request by
request; and afterwards they are the same, and so is all else but the copies that the medium has
counted, of which there may be more. -/
theorem listener_unnoticed (c : Link.Config) {l : Nat} (s : System) (failure : Option String)
    (xs : List Happening) (hl : s.network.medium.stations.length = l)
    (hparty : s.party l = .absent) (hsuits : ∀ x ∈ xs, x.Suits c l)
    (hheard : ∀ r ∈ Trace.heard ((s.withNetwork (s.network.attach failure).2).course xs).1 l,
      ∀ f, Frame.decode c.frame r.bytes = .ok f → f.header.dst ≠ c.address) :
    let without := s.course (xs.filter (·.station? ≠ some l))
    let within := (s.withNetwork (s.network.attach failure).2).course xs
    within.1.filter (·.1 ≠ l) = without.1 ∧ System.Alike l without.2 within.2 := by
  have hstart : System.Shadows c l s (s.withNetwork (s.network.attach failure).2) := by
    refine ⟨⟨hl ▸ .attach s.network.medium failure, rfl⟩, fun i hi => rfl, fun st hst => ?_⟩
    exact absurd (hst.symm.trans hparty) nofun
  obtain ⟨htold, hafter⟩ := hstart.course hsuits fun r hr =>
    Link.Config.isFor_eq_false.2 (hheard r hr)
  exact ⟨htold, hafter.alike⟩

/-- The first node of the pair sends a datagram to the second, which acknowledges it.  A third one
listens to both. -/
def overheard : List Happening :=
  [.command (.call 2 .init), .command (.call 2 (.setAddress 3 true)),
    .command (.call 2 (.setMode .receive)), .arrive 2 { address := 3, promiscuous := true }] ++
  (Move.run 0 (.sendReliableWith 2 [8] 1 1) 6 ++ Move.run 2 .poll 6 ++ Move.run 1 .poll 9 ++
    Move.run 2 .poll 5 ++ List.replicate 8 (Move.advance 0) ++ Move.run 2 .recv 1).map .move

set_option maxRecDepth 4000 in
/-- The third node hears the datagram and its acknowledgment, and the two do not notice. -/
theorem overheard_unnoticed :
    let s := Roster.pairUp
    let without := s.course (overheard.filter (·.station? ≠ some 2))
    let within := (s.withNetwork (s.network.attach none).2).course overheard
    (within.1.heard 2).length = 2 ∧
      without.2.network.medium.stats.delivered = 2 ∧
      within.2.network.medium.stats.delivered = 4 ∧
      within.1.filter (·.1 ≠ 2) = without.1 ∧ System.Alike 2 without.2 within.2 := by
  intro s without within
  have hheard : ∀ r ∈ within.1.heard 2,
      Link.Config.isFor { address := 3, promiscuous := true } r = false := by decide +kernel
  exact ⟨by decide +kernel, by decide +kernel, by decide +kernel,
    listener_unnoticed { address := 3, promiscuous := true } s none overheard rfl rfl
      (by decide +kernel) fun r hr => Link.Config.isFor_eq_false.1 (hheard r hr)⟩

end PacketRadio
