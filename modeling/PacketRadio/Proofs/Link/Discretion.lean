/-
# A node that only listens

rflink specification, §10: the promiscuous node; §4.4: sniffed frames are
never acknowledged.

A node that is only asked to look at its radio and to hand over what it has
got acknowledges nothing as long as no frame that it takes is for it alone.
So it sends nothing, does not pause, and gives nothing into a channel.

| the node | asks |
| --- | --- |
| looks at its radio | for the mode, and calls the radio, but not to send |
| takes a datagram for others | for nothing; it tells that the datagram is in its own queue |
| hands over what it has got | for nothing |

Main statement: `discretion_sound`.
-/

import PacketRadio.Proofs.Link.Inbox

namespace PacketRadio
namespace Link

/-- What a radio took is a frame for this node alone. -/
def Config.isFor (c : Config) (r : Radio.Reception) : Bool :=
  match Frame.decode c.frame r.bytes with
  | .ok f => c.filter.isLocal f.header
  | .error _ => false

theorem Config.isFor_eq_false {c : Config} {r : Radio.Reception} :
    c.isFor r = false ↔ ∀ f, Frame.decode c.frame r.bytes = .ok f → f.header.dst ≠ c.address := by
  unfold Config.isFor
  split
  · rename_i f hf
    simp [hf, AddressFilter.isLocal, Config.filter]
  · rename_i e he
    simp [he]

/-- Nobody else can tell that it was asked. -/
def Request.isDiscreet : Request → Bool
  | .radio call => call.name != .transmit
  | .mode => true
  | .kept _ => true
  | _ => false

/-- The node is of this configuration and keeps its deliveries for itself. -/
structure Node.Listens (n : Node) (c : Config) : Prop where
  /-- It has its configuration. -/
  config : n.config = c
  /-- It has a queue of its own. -/
  sink : ∃ capacity waiting, n.sink = .queue capacity waiting

/-- The node is given no reason to send by it. -/
def Occurrence.isIdle (c : Config) : Occurrence → Bool
  | .began op => op = .poll ∨ op = .recv
  | .exchanged e => !e.heard.any c.isFor
  | .ended _ => true

theorem Occurrence.isIdle_of_heard {c : Config} {e : Exchange}
    (h : ∀ r ∈ e.heard.toList, c.isFor r = false) : (exchanged e).isIdle c = true := by
  cases hr : e.heard with
  | none => simp [isIdle, hr]
  | some r => simp [isIdle, hr, h r (by simp [hr])]

/-- The rules for a node that only listens.  They hold as long as it is given no reason to send. -/
def discretion (c : Config) : Discipline Bool where
  blank := true
  note g o := g && o.isIdle c
  permits g r := g = true → r.isDiscreet = true
  concludes _ _ := True
  AtRest g n := g = true → n.Listens c
  UnderWay g _ _ := g = false

variable {c : Config} {n n' n₁ : Node} {es es' : List Exchange}

/-! ## Stretches of exchanges -/

/-- As long as the node is given no reason to send, it makes these exchanges discreetly and listens
as before afterwards. -/
def Discreet (c : Config) (n : Node) (es : List Exchange) (n' : Node) : Prop :=
  n.Listens c → (discretion c).contract.Admits true es ∧
    (es.foldl (discretion c).contract.note true = true → n'.Listens c)

/-- Once it is given a reason, there are no rules. -/
theorem discretion_lapsed (es : List Exchange) : (discretion c).contract.Admits false es ∧
    es.foldl (discretion c).contract.note false = false := by
  induction es with
  | nil => exact ⟨trivial, rfl⟩
  | cons e es ih => exact ⟨⟨nofun, ih.1⟩, ih.2⟩

namespace Discreet

theorem trans (h : Discreet c n es n₁) (h' : Discreet c n₁ es' n') :
    Discreet c n (es ++ es') n' := by
  intro hn
  obtain ⟨hadmits, hn₁⟩ := h hn
  rw [Contract.admits_append, List.foldl_append]
  cases hg : es.foldl (discretion c).contract.note true with
  | false =>
    obtain ⟨hlapsed, hfalse⟩ := discretion_lapsed (c := c) es'
    exact ⟨⟨hadmits, hlapsed⟩, fun htrue => by simp [hfalse] at htrue⟩
  | true =>
    obtain ⟨hadmits', hn'⟩ := h' (hn₁ hg)
    exact ⟨⟨hadmits, hadmits'⟩, hn'⟩

/-- One exchange. -/
theorem single {e : Exchange} (hr : e.request.isDiscreet = true) : Discreet c n [e] n :=
  fun hn => ⟨⟨fun _ => hr, trivial⟩, fun _ => hn⟩

/-- Deliveries that the node keeps. -/
theorem kept (hes : ∀ e ∈ es, ∃ d, e = ⟨.kept d, ()⟩) (hn' : n'.Listens c) :
    Discreet c n es n' := by
  induction es generalizing n with
  | nil => exact fun _ => ⟨trivial, fun _ => hn'⟩
  | cons e es ih =>
    obtain ⟨d, rfl⟩ := hes e (List.mem_cons_self ..)
    have hfirst : Discreet c n [⟨.kept d, ()⟩] n := .single rfl
    exact hfirst.trans (ih fun e he => hes e (List.mem_cons_of_mem _ he))

end Discreet

/-! ## Looks at the radio -/

/-- What is not for the node alone is not acknowledged. -/
theorem Node.TakesIn.silent {f : Frame} {r : Radio.Reception} {acked : Except Error Unit}
    (ht : n.TakesIn r f) (hr : n.config.isFor r = false)
    (hk : Acknowledging n₁ f.header es n' acked) (hconfig : n₁.config = n.config) :
    es = [] ∧ n' = n₁ := by
  have hlocal : n.config.filter.isLocal f.header = false := by
    simpa [Config.isFor, ht.decoded] using hr
  have howes : n₁.owesAck f.header = false := by
    simp [Node.owesAck, hconfig, hlocal]
  cases hk with
  | unowed ho => exact ⟨rfl, rfl⟩
  | failed ho hs => simp [howes] at ho
  | sent ho hs => simp [howes] at ho

/-- A delivery is kept by the node, or there is no room for it. -/
theorem Delivering.discreet {d : Delivery} {taken : Bool} (hs : Delivering n d es n' taken)
    (hn : n.Listens c) : (∀ e ∈ es, e = ⟨.kept d, ()⟩) ∧ n'.Listens c := by
  cases hs with
  | kept hs room => exact ⟨by simp, hn.config, _, _, rfl⟩
  | full hs room => exact ⟨by simp, hn⟩
  | offered hs taken =>
    obtain ⟨capacity, waiting, hqueue⟩ := hn.sink
    exact absurd (hs.symm.trans hqueue) nofun

/-- A reception that is not for the node alone is handled without a word to anyone. -/
theorem Handling.discreet {r : Radio.Reception} {event : Except Error PollEvent}
    (hh : Handling n r es n' event) (hr : n.config.isFor r = false) (hn : n.Listens c) :
    (∀ e ∈ es, ∃ d, e = ⟨.kept d, ()⟩) ∧ n'.Listens c := by
  cases hh with
  | duplicate ht hack hd hk =>
    obtain ⟨rfl, rfl⟩ := ht.silent hr hk rfl
    exact ⟨by simp, hn.config, hn.sink⟩
  | overflowed ht hack hd hs =>
    obtain ⟨hes, hn₁⟩ := hs.discreet ⟨hn.config, hn.sink⟩
    exact ⟨fun e he => ⟨_, hes e he⟩, hn₁.config, hn₁.sink⟩
  | delivered ht hack hd hs hk =>
    obtain ⟨hes, hn₁⟩ := hs.discreet ⟨hn.config, hn.sink⟩
    obtain ⟨rfl, rfl⟩ := ht.silent hr hk hs.config_eq
    rw [List.append_nil]
    exact ⟨fun e he => ⟨_, hes e he⟩, hn₁.config, hn₁.sink⟩
  | _ => exact ⟨by simp, hn.config, hn.sink⟩

theorem Fetching.discreet {event : Except Error PollEvent} (hf : Fetching n es n' event) :
    Discreet c n es n' := by
  cases hf with
  | failed failure => exact .single rfl
  | nothing => exact .single rfl
  | @taken r es n' event hh =>
    intro hn
    cases hr : c.isFor r with
    | true =>
      have hnote : (discretion c).contract.note true ⟨.radio .receive, .ok (some r)⟩ = false :=
        congrArg Bool.not hr
      obtain ⟨hlapsed, hfalse⟩ := discretion_lapsed (c := c) es
      rw [Contract.Admits, List.foldl_cons, hnote, hfalse]
      exact ⟨⟨fun _ => rfl, hlapsed⟩, Bool.noConfusion⟩
    | false =>
      obtain ⟨hes, hn'⟩ := hh.discreet (hn.config ▸ hr) hn
      have htaken : Discreet c n [⟨.radio .receive, .ok (some r)⟩] n := .single rfl
      exact htaken.trans (.kept hes hn') hn

theorem Looking.discreet {event : Except Error PollEvent} (hl : Looking n es n' event) :
    Discreet c n es n' := by
  cases hl with
  | failed failure => exact .single rfl
  | nothing => exact .single rfl
  | ready hf restored =>
    have hready : Discreet c n [⟨.radio .frameReady, .ok true⟩] n := .single rfl
    exact (hready.trans hf.discreet).trans (.single rfl)

/-- **A look at the radio is discreet.** -/
theorem Polling.discreet {event : Except Error PollEvent} (hp : Polling n es n' event) :
    Discreet c n es n' := by
  have hmode : ∀ m, Discreet c n [⟨.mode, m⟩] n := fun m => .single rfl
  have hlisten : ∀ a, Discreet c n [⟨.radio (.setMode .receive), a⟩] n := fun a =>
    .single rfl
  cases hp with
  | deaf hm failure => exact (hmode _).trans (hlisten _)
  | roused hm hl => exact ((hmode _).trans (hlisten _)).trans hl.discreet
  | awake hl => exact (hmode _).trans hl.discreet

/-! ## The discipline -/

/-- A tree of a node that has been given a reason may ask for anything. -/
theorem Task.keeps_lapsed (t : Task (Except Error (Turn Activity Reply) × Node)) :
    t.Keeps (discretion c).contract false fun g p => (discretion c).Outcome g p.2 p.1 := by
  induction t with
  | done p =>
    obtain ⟨e | a | reply, n⟩ := p
    · exact ⟨trivial, nofun⟩
    · rfl
    · exact ⟨trivial, nofun⟩
  | ask r next ih => exact ⟨nofun, ih⟩

/-- **A node that only listens is discreet** as long as it is given no reason to send. -/
theorem discretion_sound (c : Config) : (discretion c).Sound where
  start g n op hg := by
    cases hnote : (discretion c).note g (.began op) with
    | false => exact Task.keeps_lapsed _
    | true =>
      simp only [discretion, Occurrence.isIdle, Bool.and_eq_true, decide_eq_true_eq] at hnote
      obtain ⟨rfl, rfl | rfl⟩ := hnote
      · refine (Action.keeps_bind _ _).2 (Task.Keeps.of_paths fun es p hpath => ?_)
        obtain ⟨event, n'⟩ := p
        have hp : Polling n es n' event := (poll_goes n).path hpath
        obtain ⟨hadmits, hlistens⟩ := hp.discreet (hg rfl)
        refine ⟨hadmits, ?_⟩
        cases event with
        | error e => exact ⟨trivial, fun hends => hlistens (Bool.and_eq_true_iff.1 hends).1⟩
        | ok event => exact ⟨trivial, fun hends => hlistens (Bool.and_eq_true_iff.1 hends).1⟩
      · obtain ⟨hconfig, capacity, waiting, hsink⟩ := hg rfl
        refine ⟨trivial, fun _ => ⟨hconfig, ?_⟩⟩
        show ∃ capacity waiting, n.sink.pop.2 = .queue capacity waiting
        rw [hsink]
        cases waiting with
        | nil => exact ⟨capacity, [], rfl⟩
        | cons d rest => exact ⟨capacity, rest, rfl⟩
  turn g n a hu := by
    obtain rfl : g = false := hu
    exact Task.keeps_lapsed _

end Link
end PacketRadio
