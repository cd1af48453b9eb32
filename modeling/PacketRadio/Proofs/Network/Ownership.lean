/-
# Radios that still exist

rflink specification, §7: `Shutdown`; §5: exclusive transceiver access.

An estate is a medium with the radios that have been put on it and still
exist.  Each has a station to itself, which stays on the medium until the radio
goes; so whoever has a radio can call it, and no call but the one that brings it
up can fail.

| use of a radio | who calls it |
| --- | --- |
| spare | whoever has it, as they like |
| rising | the bringing up of a node |
| driven, and the node rests | whoever has the node, as they like |
| driven, and the node is busy | the node |

Radios come and go in any order and so do nodes.  A node that cannot be brought
up takes its radio with it, and so does a node that goes; a node can also give
its radio back.

Main statement: `Reach.never_shut_down`.
-/

import PacketRadio.Proofs.Link.Failures
import PacketRadio.Proofs.Medium.Past
import PacketRadio.Proofs.Network.Fleet

namespace PacketRadio

open Link (Action History Life Node Occurrence Operation Request Status Traffic)

/-! ## Who is on the medium -/

namespace Medium

variable {m : Medium} {i : Nat}

/-- A change at one station leaves the others where they are. -/
theorem live?_modify_of_ne {j : Nat} (h : j ≠ i) (f : Station → Station) :
    (m.modify i f).live? j = m.live? j := by
  simp only [live?, modify, List.getElem?_modify_ne _ _ h.symm]

/-- **A radio on the medium stays there until it leaves**, whatever is done to the medium. -/
theorem live_obey (hlive : (m.live? i).isSome) {command : Command} (hc : command ≠ .detach i) :
    ((m.obey command).live? i).isSome := by
  have hsame : ∀ m' : Medium, m'.stations = m.stations → (m'.live? i).isSome := by
    intro m' hm'
    rwa [live?, hm', ← live?]
  cases command with
  | attach initFailure =>
    obtain ⟨s, hs⟩ := Option.isSome_iff_exists.1 hlive
    rw [live?, Option.filter_eq_some_iff] at hs
    obtain ⟨hlt, -⟩ := List.getElem?_eq_some_iff.1 hs.1
    simp only [obey, attach, live?, List.getElem?_append_left hlt]
    exact hlive
  | detach j =>
    have hij : i ≠ j := fun h => hc (by rw [h])
    rw [obey, detach, live?_modify_of_ne hij]
    exact hlive
  | call j call => exact live_of_present (m.present_call j call) hlive
  | inject j r =>
    simp only [obey]
    split
    · exact live_of_present (m.present_modify (f := Station.inject r) j fun _ => rfl) hlive
    · exact hlive
  | dropNext count => exact hsame _ rfl
  | setSevered a b cut => exact hsame _ (by cases cut <;> rfl)
  | setLinkRssi src dst rssi => exact hsame _ rfl

/-- A radio that comes is on the medium, at a station of its own. -/
theorem live_attach (m : Medium) (initFailure : Option String) :
    ((m.attach initFailure).2.live? (m.attach initFailure).1).isSome := by
  simp [attach, live?, Option.filter]

/-- A station on the medium is one of its stations. -/
theorem lt_of_live (hlive : (m.live? i).isSome) : i < m.stations.length := by
  obtain ⟨s, hs⟩ := Option.isSome_iff_exists.1 hlive
  rw [live?, Option.filter_eq_some_iff] at hs
  exact (List.getElem?_eq_some_iff.1 hs.1).1

/-- **A radio on the medium answers every call**; only bringing it up can fail. -/
theorem call_live (hlive : (m.live? i).isSome) {call : Radio.Call} (hc : call.name ≠ .init) :
    ∃ result, (m.call i call).1 = .ok result := by
  cases call with
  | init => exact absurd rfl hc
  | setAddress address promiscuous =>
    have hlt := lt_of_live hlive
    refine ⟨(), ?_⟩
    simp only [Medium.call, List.getElem?_eq_getElem hlt]
  | setMode mode => exact call_ok hlive trivial
  | frameReady => exact call_ok hlive trivial
  | receive => exact call_ok hlive trivial
  | transmit bytes => exact call_ok hlive trivial

/-- Bringing up a radio fails only as it is set up to. -/
theorem call_init (m : Medium) (i : Nat) {failure : Radio.Failure}
    (h : (m.call i .init).1 = .error failure) : ∃ reason, failure = .init reason := by
  simp only [Medium.call] at h
  split at h
  · exact ⟨_, (Except.error.inj h).symm⟩
  · cases h

end Medium

/-! ## Estates -/

/-- What a radio is used for. -/
inductive Use where
  /-- Nothing yet, or nothing any more. -/
  | spare
  /-- A node of this configuration is being brought up on it, and this is left to do. -/
  | rising (c : Link.Config) (rest : Link.Task (Except Link.Error Node))
  /-- A node drives it that has come this far. -/
  | driven (history : History) (status : Status)

namespace Use

/-- Whoever has the radio, or the node on it, can call it now. -/
def isFree : Use → Bool
  | .spare | .driven _ (.resting _) => true
  | _ => false

/-- The use changes without a call to the radio. -/
inductive Turns : Use → Use → Prop where
  /-- A node is to be brought up. -/
  | raise (c : Link.Config) : Turns .spare (.rising c (Action.bringUp c))
  /-- It has been brought up. -/
  | raised {c : Link.Config} {n : Node} :
      Turns (.rising c (.done (.ok n))) (.driven [] (.resting n))
  /-- An operation begins or ends, or another turn does. -/
  | act {h : History} {st st' : Status} {o : Option Occurrence} (hst : st.Step o st')
      (ho : ∀ e, o ≠ some (.exchanged e)) : Turns (.driven h st) (.driven (h ++ o.toList) st')
  /-- The node is given another channel for its deliveries. -/
  | redirect {h : History} {n : Node} (channel : Nat) :
      Turns (.driven h (.resting n)) (.driven h (.resting (n.withChannel channel)))
  /-- The node gives the radio back. -/
  | release {h : History} {n : Node} : Turns (.driven h (.resting n)) .spare

/-- Something is asked for, and what the use is after each answer. -/
inductive Asks : Use → (r : Request) → (r.Answer → Use) → Prop where
  /-- By whoever can call the radio. -/
  | call {u : Use} (hu : u.isFree = true) (c : Radio.Call) : Asks u (.radio c) fun _ => u
  /-- By the bringing up of a node. -/
  | rising {c : Link.Config} {r : Request} {next : r.Answer → Link.Task (Except Link.Error Node)} :
      Asks (.rising c (.ask r next)) r fun a => .rising c (next a)
  /-- By a node. -/
  | driven {h : History} {r : Request}
      {next : r.Answer →
        Link.Task (Except Link.Error (Link.Turn Link.Activity Link.Reply) × Node)} :
      Asks (.driven h (.busy (.ask r next))) r fun a =>
        .driven (h ++ [.exchanged ⟨r, a⟩]) (.busy (next a))

/-- Whoever uses the radio has come about as it should, and no call of a node has failed. -/
def Sound : Use → Prop
  | .spare => True
  | .rising c rest => ∃ es, Link.Task.Path (Action.bringUp c) es rest
  | .driven h st => h.books.broken = false ∧
      ∃ c, Link.Config.validate c = .ok () ∧ Life (Node.fresh c) h st

end Use

/-- A radio that still exists. -/
structure Holding where
  /-- Its place on the medium. -/
  station : Nat
  /-- What it is used for. -/
  use : Use := .spare

/-- What is shared, and the radios that still exist. -/
structure Estate where
  /-- The medium, and all else that nodes share. -/
  network : Network
  /-- The radios. -/
  radios : List Holding

namespace Estate

/-- The command brings and takes no radio, and calls none. -/
def IsSetting : Medium.Command → Prop
  | .attach _ | .detach _ | .call _ _ => False
  | _ => True

/-- One step of an estate. -/
inductive Step : Estate → Estate → Prop where
  /-- A radio comes onto the medium. -/
  | attach {network : Network} {radios : List Holding} (initFailure : Option String) :
      Step ⟨network, radios⟩
        ⟨(network.attach initFailure).2, radios ++ [{ station := (network.attach initFailure).1 }]⟩
  /-- A radio goes, alone or with a node that drives it or was to. -/
  | drop {network : Network} (before after : List Holding) {r : Holding} :
      Step ⟨network, before ++ r :: after⟩
        ⟨network.onMedium fun m => m.detach r.station, before ++ after⟩
  /-- What a radio is used for changes. -/
  | turn {network : Network} (before after : List Holding) {r : Holding} {u : Use}
      (hu : r.use.Turns u) :
      Step ⟨network, before ++ r :: after⟩ ⟨network, before ++ { r with use := u } :: after⟩
  /-- Whoever uses a radio asks for something. -/
  | ask {network : Network} (before after : List Holding) {r : Holding} {request : Request}
      {next : request.Answer → Use} (hu : r.use.Asks request next) :
      Step ⟨network, before ++ r :: after⟩
        ⟨(network.answer r.station request).2,
          before ++ { r with use := next (network.answer r.station request).1 } :: after⟩
  /-- Two radios change places, each to be used for what the other was. -/
  | swap {network : Network} (before between after : List Holding) {r r' : Holding}
      (hr : r.use.isFree = true) (hr' : r'.use.isFree = true) :
      Step ⟨network, before ++ r :: (between ++ r' :: after)⟩
        ⟨network, before ++ { r with station := r'.station } ::
          (between ++ { r' with station := r.station } :: after)⟩
  /-- The medium is told something. -/
  | conduct {network : Network} {radios : List Holding} (command : Medium.Command)
      (hc : IsSetting command) :
      Step ⟨network, radios⟩ ⟨network.onMedium fun m => m.obey command, radios⟩
  /-- Time passes, or something happens to the stop flags or the channels. -/
  | outside {network network' : Network} {radios : List Holding}
      (hmedium : network'.medium = network.medium) : Step ⟨network, radios⟩ ⟨network', radios⟩

/-- An estate that began as a medium without stations has come this far. -/
inductive Reach : Estate → Prop where
  /-- Nothing has happened yet. -/
  | start (network : Network) (hempty : network.medium.stations = []) : Reach ⟨network, []⟩
  /-- One more step. -/
  | step {e e' : Estate} (before : Reach e) (next : e.Step e') : Reach e'

/-! ## What is kept -/

/-- The radios have a station each, on the medium, and are used as they should be. -/
structure Sound (e : Estate) : Prop where
  /-- No two are at one station. -/
  apart : (e.radios.map (·.station)).Nodup
  /-- Each is on the medium. -/
  live : ∀ r ∈ e.radios, (e.network.medium.live? r.station).isSome
  /-- Each is used as it should be. -/
  used : ∀ r ∈ e.radios, r.use.Sound

end Estate

/-- **A use that changes by itself stays sound.** -/
theorem Use.Sound.turn {u u' : Use} (h : u.Sound) (hu : u.Turns u') : u'.Sound := by
  cases hu with
  | raise c => exact ⟨[], .here _⟩
  | @raised c n =>
    obtain ⟨es, hpath⟩ := h
    obtain ⟨hvalid, rfl⟩ := Link.bringUp_path hpath
    exact ⟨rfl, c, (Link.Config.validate_eq_ok_iff c).2 hvalid, .start⟩
  | @act history st st' o hst ho =>
    obtain ⟨hunbroken, c, hc, hlife⟩ := h
    refine ⟨?_, c, hc, hlife.step hst⟩
    rw [History.books, List.foldl_append]
    cases o with
    | none => exact hunbroken
    | some o =>
      exact (Link.Books.note_silent _ fun e he => ho e (congrArg some he)).2.trans hunbroken
  | redirect channel =>
    obtain ⟨hunbroken, c, hc, hlife⟩ := h
    exact ⟨hunbroken, c, hc, hlife.redirect channel⟩
  | release => trivial

/-- **So does one that asks for something**, if the radio is on the medium. -/
theorem Use.Sound.ask {u : Use} {request : Request} {next : request.Answer → Use} (h : u.Sound)
    (hu : u.Asks request next) {network : Network} {i : Nat}
    (hlive : (network.medium.live? i).isSome) : (next (network.answer i request).1).Sound := by
  cases hu with
  | call hu c => exact h
  | rising =>
    obtain ⟨es, hpath⟩ := h
    exact ⟨_, hpath.trans (.step (.here _))⟩
  | @driven history _ next =>
    obtain ⟨hunbroken, c, hc, hlife⟩ := h
    refine ⟨?_, c, hc, hlife.step (.exchange request next _)⟩
    have hframe : c.frame.Valid := ((Link.Config.validate_eq_ok_iff c).1 hc).frame
    have hpermits : Traffic.Permits request := (hlife.accounted hframe).1
    obtain ⟨hfailed, -, -⟩ := Network.answer_permitted hlive hpermits
    rw [History.books, List.foldl_append]
    show (history.books.broken || Link.Exchange.failed _) = false
    rw [hunbroken, hfailed]
    rfl

/-- A request takes no radio off the medium. -/
theorem Network.live_answer {network : Network} {i j : Nat} (request : Request)
    (hlive : (network.medium.live? i).isSome) :
    ((network.answer j request).2.medium.live? i).isSome := by
  by_cases hr : ∃ call, request = .radio call
  · obtain ⟨call, rfl⟩ := hr
    exact Medium.live_of_present (network.medium.present_call j call) hlive
  · rw [(answer_medium j request network).resolve_left hr]
    exact hlive

namespace Estate

/-- **One radio is used for something else**, and the others stay on the medium. -/
theorem Sound.replace {network network' : Network} {before after : List Holding} {r : Holding}
    {u : Use} (h : Sound ⟨network, before ++ r :: after⟩) (hu : u.Sound)
    (hlive : ∀ i, (network.medium.live? i).isSome → (network'.medium.live? i).isSome) :
    Sound ⟨network', before ++ { r with use := u } :: after⟩ where
  apart := by
    have hapart := h.apart
    simp only [List.map_append, List.map_cons] at hapart ⊢
    exact hapart
  live := by
    have hbefore := h.live
    simp only [List.mem_append, List.mem_cons] at hbefore ⊢
    rintro r' (hr' | rfl | hr')
    · exact hlive _ (hbefore r' (.inl hr'))
    · exact hlive _ (hbefore r (.inr (.inl rfl)))
    · exact hlive _ (hbefore r' (.inr (.inr hr')))
  used := by
    have hbefore := h.used
    simp only [List.mem_append, List.mem_cons] at hbefore ⊢
    rintro r' (hr' | rfl | hr')
    · exact hbefore r' (.inl hr')
    · exact hu
    · exact hbefore r' (.inr (.inr hr'))

/-- The same radios on a medium that has lost none of them. -/
theorem Sound.elsewhere {network network' : Network} {radios : List Holding}
    (h : Sound ⟨network, radios⟩)
    (hlive : ∀ r ∈ radios, (network.medium.live? r.station).isSome →
      (network'.medium.live? r.station).isSome) : Sound ⟨network', radios⟩ :=
  ⟨h.apart, fun r hr => hlive r hr (h.live r hr), h.used⟩

/-- **Every step keeps the radios apart and on the medium.** -/
theorem Sound.step {e e' : Estate} (h : e.Sound) (he : e.Step e') : e'.Sound := by
  cases he with
  | @attach network radios initFailure =>
    have hold : ∀ r ∈ radios, ((network.attach initFailure).2.medium.live? r.station).isSome := by
      intro r hr
      have hother : Medium.Command.attach initFailure ≠ .detach r.station := nofun
      exact Medium.live_obey (h.live r hr) hother
    refine ⟨?_, fun r hr => ?_, fun r hr => ?_⟩
    · rw [List.map_append, List.nodup_append]
      refine ⟨h.apart, List.nodup_singleton _, fun i hi j hj => ?_⟩
      obtain ⟨r, hr, rfl⟩ := List.mem_map.1 hi
      obtain rfl := List.mem_singleton.1 hj
      exact Nat.ne_of_lt (Medium.lt_of_live (h.live r hr))
    · rcases List.mem_append.1 hr with hr | hr
      · exact hold r hr
      · obtain rfl := List.mem_singleton.1 hr
        exact network.medium.live_attach initFailure
    · rcases List.mem_append.1 hr with hr | hr
      · exact h.used r hr
      · obtain rfl := List.mem_singleton.1 hr
        trivial
  | @drop network before after r =>
    have hsublist : (before ++ after).Sublist (before ++ r :: after) :=
      (List.sublist_cons_self r after).append_left before
    have hremaining : Sound ⟨network, before ++ after⟩ :=
      ⟨h.apart.sublist (hsublist.map _), fun r' hr' => h.live r' (hsublist.subset hr'),
        fun r' hr' => h.used r' (hsublist.subset hr')⟩
    have hapart := h.apart
    simp only [List.map_append, List.map_cons, List.nodup_middle, List.nodup_cons] at hapart
    refine hremaining.elsewhere fun r' hr' hlive => ?_
    have hother : Medium.Command.detach r.station ≠ .detach r'.station := by
      intro hsame
      -- the station of another radio is another station
      refine hapart.1 ?_
      rw [Medium.Command.detach.inj hsame, ← List.map_append]
      exact List.mem_map_of_mem hr'
    exact Medium.live_obey hlive hother
  | turn before after hu => exact h.replace ((h.used _ (by simp)).turn hu) fun _ => id
  | ask before after hu =>
    exact h.replace ((h.used _ (by simp)).ask hu (h.live _ (by simp)))
      fun i hlive => Network.live_answer _ hlive
  | @swap network before between after r r' hr hr' =>
    have hlive := h.live
    have hused := h.used
    have hapart := h.apart
    simp only [List.mem_append, List.mem_cons] at hlive hused
    refine ⟨?_, ?_, ?_⟩
    · refine (List.Perm.nodup_iff ?_).1 hapart
      simp only [List.map_append, List.map_cons]
      refine List.Perm.append_left _ ?_
      exact (List.perm_middle.cons _).trans ((List.Perm.swap _ _ _).trans
        (List.perm_middle.symm.cons _))
    · simp only [List.mem_append, List.mem_cons]
      rintro x (hx | rfl | hx | rfl | hx)
      · exact hlive x (.inl hx)
      · exact hlive r' (.inr (.inr (.inr (.inl rfl))))
      · exact hlive x (.inr (.inr (.inl hx)))
      · exact hlive r (.inr (.inl rfl))
      · exact hlive x (.inr (.inr (.inr (.inr hx))))
    · simp only [List.mem_append, List.mem_cons]
      rintro x (hx | rfl | hx | rfl | hx)
      · exact hused x (.inl hx)
      · exact hused r (.inr (.inl rfl))
      · exact hused x (.inr (.inr (.inl hx)))
      · exact hused r' (.inr (.inr (.inr (.inl rfl))))
      · exact hused x (.inr (.inr (.inr (.inr hx))))
  | @conduct network radios command hc =>
    refine h.elsewhere fun r hr hlive => Medium.live_obey hlive ?_
    rintro rfl
    exact hc
  | outside hmedium => exact h.elsewhere fun r hr hlive => by rwa [hmedium]

theorem Reach.sound {e : Estate} (h : e.Reach) : e.Sound := by
  induction h with
  | start network hempty => exact ⟨List.nodup_nil, by simp, by simp⟩
  | step before next ih => exact ih.step next

/-- **A radio that exists never says that it has been shut down.**  However radios and nodes have
come and gone and whatever was asked of them: every radio that still exists has a station of its
own among those of the medium, and is on the medium.  So no call to it fails but the one that brings
it up, and that one only as the radio was set up to.  What is asked of a node ends with an error
only if it was to send more than its frames carry. -/
theorem Reach.never_shut_down {e : Estate} (h : e.Reach) :
    (e.radios.map (·.station)).Nodup ∧ ∀ r ∈ e.radios,
      (∃ s, e.network.medium.stations[r.station]? = some s ∧ s.attached = true) ∧
      (∀ call : Radio.Call, call.name ≠ .init →
        ∃ result, (e.network.call r.station call).1 = .ok result) ∧
      (∀ failure, (e.network.call r.station .init).1 = .error failure →
        ∃ reason, failure = .init reason) ∧
      ∀ history st st' error, r.use = .driven history st →
        st.Step (some (.ended (.error error))) st' →
        ∃ n op, st' = .resting n ∧ history.books.asked = some op ∧ op.Exceeds n.config error := by
  have hsound := h.sound
  refine ⟨hsound.apart, fun r hr => ?_⟩
  have hlive := hsound.live r hr
  refine ⟨?_, fun call hcall => Medium.call_live hlive hcall,
    fun failure hfailure => Medium.call_init _ _ hfailure, ?_⟩
  · obtain ⟨s, hs⟩ := Option.isSome_iff_exists.1 hlive
    rw [Medium.live?, Option.filter_eq_some_iff] at hs
    exact ⟨s, hs⟩
  · intro history st st' error huse hstep
    have hused := hsound.used r hr
    rw [huse] at hused
    obtain ⟨hunbroken, c, hc, hlife⟩ := hused
    cases hstep with
    | fail e n =>
      have hframe : c.frame.Valid := ((Link.Config.validate_eq_ok_iff c).1 hc).frame
      obtain ⟨rfl, op, hasked, hexceeds⟩ := hlife.fails_oversized hframe hunbroken
      exact ⟨n, op, rfl, hasked, hexceeds⟩

/-- Of two radios the first has gone; on the other a node has been asked to send two bytes in frames
of one. -/
theorem never_shut_down_driven : ∃ (e : Estate) (r : Holding) (h : History) (n : Node),
    e.Reach ∧ e.radios = [r] ∧ e.network.medium.stations.length = 2 ∧
    r.use = .driven h (.busy (.done (.error (.frame (.payloadTooLarge 2 1)), n))) ∧
    (e.radios.map (·.station)).Nodup ∧ ∀ r ∈ e.radios,
      (∃ s, e.network.medium.stations[r.station]? = some s ∧ s.attached = true) ∧
      (∀ call : Radio.Call, call.name ≠ .init →
        ∃ result, (e.network.call r.station call).1 = .ok result) ∧
      (∀ failure, (e.network.call r.station .init).1 = .error failure →
        ∃ reason, failure = .init reason) ∧
      ∀ history st st' error, r.use = .driven history st →
        st.Step (some (.ended (.error error))) st' →
        ∃ n op, st' = .resting n ∧ history.books.asked = some op ∧ op.Exceeds n.config error := by
  have hstart : Reach ⟨{}, []⟩ := .start _ rfl
  have hboth := (hstart.step (.attach none)).step (.attach none)
  have hone := hboth.step (.drop [] [_])
  have hraised := hone.step (.turn [] [] (.raise { frame := { maxPayload := 1 } }))
  have hinit := hraised.step (.ask [] [] (.rising (r := .radio .init)))
  have haddress := hinit.step (.ask [] [] (.rising (r := .radio (.setAddress 1 false))))
  have hlistening := haddress.step (.ask [] [] (.rising (r := .radio (.setMode .receive))))
  have hup := hlistening.step (.turn [] [] .raised)
  have hsending := hup.step
    (.turn [] [] (.act (.begin _ (.sendUnreliable 9 [1, 2])) nofun))
  exact ⟨_, _, _, _, hsending, rfl, rfl, rfl, hsending.never_shut_down⟩

end Estate
end PacketRadio
