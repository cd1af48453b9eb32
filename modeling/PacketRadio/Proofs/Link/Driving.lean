/-
# How a node drives its radio

rflink specification, §4.4: after any transmit, Receive mode is restored.

The calls that a node makes to its radio, apart from reading its mode, form
sentences of a small grammar.  The answers may be anything.

| words | may be followed by |
| --- | --- |
| a call that neither takes nor sends a frame | anything |
| `setMode .transmit`, granted; `transmit`; `setMode .receive` | anything |
| `frameReady`, said yes; `receive` | anything |

So bytes are only sent by a radio that has just been switched to sending, which
is switched back at once, and frames are only taken when one has just been
announced.  The bytes are those of one frame, with the node's own address as
its source.

Main statement: `Life.calls_proper`.
-/

import PacketRadio.Proofs.Link.Stretches
import PacketRadio.Proofs.Frame.RoundTrip

namespace PacketRadio
namespace Link

open PacketRadio.Link.Action

/-! ## The grammar -/

/-- A call to a radio and how it was answered. -/
structure Made where
  /-- The call. -/
  call : Radio.Call
  /-- The answer. -/
  answer : Except Radio.Failure call.Result

/-- The call that an exchange was, if it was one that can fail. -/
def Exchange.made : Exchange → Option Made
  | ⟨.radio call, a⟩ => some ⟨call, a⟩
  | _ => none

/-- The calls among some exchanges. -/
def Exchange.calls (es : List Exchange) : List Made :=
  es.filterMap made

@[simp] theorem Exchange.calls_append (es es' : List Exchange) :
    calls (es ++ es') = calls es ++ calls es' :=
  List.filterMap_append

/-- The calls are a sentence of the grammar, for a node of this configuration. -/
inductive Driven (c : Config) : List Made → Prop where
  /-- Nothing has been called. -/
  | nil : Driven c []
  /-- A call that neither takes nor sends a frame. -/
  | plain {m : Made} {ms : List Made} (hm : (Request.radio m.call).isPlain = true)
      (rest : Driven c ms) : Driven c (m :: ms)
  /-- A frame of the node is sent. -/
  | send {f : Frame} {wire : Bytes} {sent restored : Except Radio.Failure Unit} {ms : List Made}
      (hsrc : f.header.src = c.address) (hw : f.encode c.frame = .ok wire) (rest : Driven c ms) :
      Driven c (⟨.setMode .transmit, .ok ()⟩ :: ⟨.transmit wire, sent⟩ ::
        ⟨.setMode .receive, restored⟩ :: ms)
  /-- A frame is taken. -/
  | take {taken : Except Radio.Failure (Option Radio.Reception)} {ms : List Made}
      (rest : Driven c ms) : Driven c (⟨.frameReady, .ok true⟩ :: ⟨.receive, taken⟩ :: ms)

/-- A call is in its place between those before and those after it. -/
structure Made.Proper (c : Config) (before : List Made) (m : Made) (after : List Made) : Prop where
  /-- What sends has just been switched to sending. -/
  announced : ∀ wire, m.call = .transmit wire → before.getLast? = some ⟨.setMode .transmit, .ok ()⟩
  /-- It is switched back at once. -/
  restored : ∀ wire, m.call = .transmit wire → ∃ a, after.head? = some ⟨.setMode .receive, a⟩
  /-- What is sent is one frame of the node, written into an empty buffer, and read as that. -/
  frame : ∀ wire, m.call = .transmit wire → ∃ f : Frame, f.header.src = c.address ∧
    f.encodeOnto c.frame [] = (wire, .ok ()) ∧ Frame.decode c.frame wire = .ok f
  /-- A frame that is taken has just been announced. -/
  ready : m.call = .receive → before.getLast? = some ⟨.frameReady, .ok true⟩

section

variable {c : Config} {ms ms' before after : List Made} {m : Made}

/-- What comes still earlier does not matter. -/
theorem Made.Proper.cons (h : m.Proper c before after) (first : Made) :
    m.Proper c (first :: before) after where
  announced wire hm := by rw [List.getLast?_cons, h.announced wire hm, Option.getD_some]
  restored := h.restored
  frame := h.frame
  ready hm := by rw [List.getLast?_cons, h.ready hm, Option.getD_some]

/-- A call that neither takes nor sends a frame has no wrong place. -/
theorem Made.Proper.of_isPlain (hm : (Request.radio m.call).isPlain = true) (before after) :
    m.Proper c before after := by
  obtain ⟨call, a⟩ := m
  cases call with
  | receive => cases hm
  | transmit wire => cases hm
  | _ => exact ⟨by simp, by simp, by simp, by simp⟩

namespace Driven

theorem append (h : Driven c ms) (h' : Driven c ms') : Driven c (ms ++ ms') := by
  induction h with
  | nil => exact h'
  | plain hm rest ih => exact .plain hm ih
  | send hsrc hw rest ih => exact .send hsrc hw ih
  | take rest ih => exact .take ih

theorem of_isPlain (h : ∀ m ∈ ms, (Request.radio m.call).isPlain = true) : Driven c ms := by
  induction ms with
  | nil => exact .nil
  | cons m ms ih =>
    exact .plain (h m List.mem_cons_self) (ih fun m' hm' => h m' (List.mem_cons_of_mem m hm'))

/-- **In a sentence every call is in its place.** -/
theorem proper (hc : c.frame.Valid) (h : Driven c ms) (hms : ms = before ++ m :: after) :
    m.Proper c before after := by
  induction h generalizing before with
  | nil => simp at hms
  | @plain m₁ ms hm rest ih =>
    rcases List.cons_eq_append_iff.1 hms with ⟨rfl, hfirst⟩ | ⟨before, rfl, hlater⟩
    · obtain ⟨rfl, rfl⟩ := List.cons.inj hfirst
      exact .of_isPlain hm _ _
    · exact (ih hlater).cons m₁
  | @send f wire sent restored ms hsrc hw rest ih =>
    rcases List.cons_eq_append_iff.1 hms with ⟨rfl, hfirst⟩ | ⟨before, rfl, hlater⟩
    · obtain ⟨rfl, rfl⟩ := List.cons.inj hfirst
      exact .of_isPlain rfl _ _
    rcases List.cons_eq_append_iff.1 hlater with ⟨rfl, hsecond⟩ | ⟨before, rfl, hlatest⟩
    · obtain ⟨rfl, rfl⟩ := List.cons.inj hsecond
      refine ⟨fun _ _ => rfl, fun _ _ => ⟨restored, rfl⟩, ?_, by simp⟩
      rintro _ ⟨⟩
      exact ⟨f, hsrc, by simp [Frame.encodeOnto, hw], Frame.decode_of_encode hc hw⟩
    rcases List.cons_eq_append_iff.1 hlatest with ⟨rfl, hthird⟩ | ⟨before, rfl, hrest⟩
    · obtain ⟨rfl, rfl⟩ := List.cons.inj hthird
      exact .of_isPlain rfl _ _
    · exact (((ih hrest).cons _).cons _).cons _
  | @take taken ms rest ih =>
    rcases List.cons_eq_append_iff.1 hms with ⟨rfl, hfirst⟩ | ⟨before, rfl, hlater⟩
    · obtain ⟨rfl, rfl⟩ := List.cons.inj hfirst
      exact .of_isPlain rfl _ _
    rcases List.cons_eq_append_iff.1 hlater with ⟨rfl, hsecond⟩ | ⟨before, rfl, hrest⟩
    · obtain ⟨rfl, rfl⟩ := List.cons.inj hsecond
      exact ⟨by simp, by simp, by simp, fun _ => rfl⟩
    · exact ((ih hrest).cons _).cons _

end Driven
end

/-! ## What a node does is a sentence -/

section

variable {n n' : Node} {es : List Exchange}

theorem Idling.driven (h : Idling n es n') (c : Config) : Driven c (Exchange.calls es) := by
  refine .of_isPlain fun m hm => ?_
  obtain ⟨⟨r, a⟩, he, hmade⟩ := List.mem_filterMap.1 hm
  have hplain := h.plain _ he
  cases r with
  | radio call =>
    obtain rfl := Option.some.inj hmade
    exact hplain
  | _ => cases hmade

theorem Sending.driven {c : Config} {f : Frame} {r : Except Error Unit}
    (hs : Sending c.frame f es r) (hsrc : f.header.src = c.address) :
    Driven c (Exchange.calls es) := by
  cases hs with
  | unwritten hw => exact .nil
  | refused hw failure => exact .plain rfl .nil
  | aired hw sent restored => exact .send hsrc hw .nil

theorem Acknowledging.driven {h : Header} {r : Except Error Unit}
    (hk : Acknowledging n h es n' r) : Driven n.config (Exchange.calls es) := by
  cases hk with
  | unowed ho => exact .nil
  | failed ho hs => exact hs.driven rfl
  | sent ho hs => exact hs.driven rfl

theorem Delivering.calls_eq_nil {d : Delivery} {taken : Bool} (hs : Delivering n d es n' taken) :
    Exchange.calls es = [] := by
  cases hs <;> rfl

theorem Handling.driven {r : Radio.Reception} {event : Except Error PollEvent}
    (hh : Handling n r es n' event) : Driven n.config (Exchange.calls es) := by
  cases hh with
  | dropped hf => exact .nil
  | filtered hf ha => exact .nil
  | matched ht hack hw => exact .nil
  | ignored ht hack hw => exact .nil
  | duplicate ht hack hd hk => exact hk.driven
  | overflowed ht hack hd hs =>
    rw [hs.calls_eq_nil]
    exact .nil
  | @delivered f es es' n₁ n' acked ht hack hd hs hk =>
    have hconfig : (n₁.accept f.header).config = n.config := hs.config_eq
    rw [Exchange.calls_append, hs.calls_eq_nil, List.nil_append]
    exact hconfig ▸ hk.driven

/-- A frame that has been announced is taken, if one is there, and handled. -/
theorem Fetching.driven {event : Except Error PollEvent} (hf : Fetching n es n' event) :
    Driven n.config (⟨.frameReady, .ok true⟩ :: Exchange.calls es) := by
  cases hf with
  | failed failure => exact .take .nil
  | nothing => exact .take .nil
  | taken r hh => exact .take hh.driven

theorem Looking.driven {event : Except Error PollEvent} (hl : Looking n es n' event) :
    Driven n.config (Exchange.calls es) := by
  cases hl with
  | failed failure => exact .plain rfl .nil
  | nothing => exact .plain rfl .nil
  | @ready es n' event hf restored =>
    have hcalls : Exchange.calls (⟨.radio .frameReady, .ok true⟩ :: es ++
        [⟨.radio (.setMode .receive), restored⟩]) =
        (⟨.frameReady, .ok true⟩ :: Exchange.calls es) ++ [⟨.setMode .receive, restored⟩] :=
      Exchange.calls_append _ _
    rw [hcalls]
    exact hf.driven.append (.plain rfl .nil)

theorem Polling.driven {event : Except Error PollEvent} (hp : Polling n es n' event) :
    Driven n.config (Exchange.calls es) := by
  cases hp with
  | deaf hm failure => exact .plain rfl .nil
  | roused hm hl => exact .plain rfl hl.driven
  | awake hl => exact hl.driven

theorem Passage.driven (h : Passage n es n') : Driven n.config (Exchange.calls es) := by
  have haround : ∀ {thing : Node → List Exchange → Node → Prop},
      (∀ n₁ es₁ n₂, n₁.config = n.config → thing n₁ es₁ n₂ →
        Driven n.config (Exchange.calls es₁)) →
      Around thing n es n' → Driven n.config (Exchange.calls es) := by
    rintro thing hthing ⟨before, middle, after⟩
    simp only [Exchange.calls_append]
    exact ((before.driven _).append (hthing _ _ _ before.kept.config middle)).append
      (after.driven _)
  cases h with
  | idled h => exact h.driven _
  | popped h =>
    refine haround (fun n₁ es₁ n₂ hc hpops => ?_) h
    obtain ⟨rfl, -⟩ := hpops
    exact .nil
  | begun h =>
    refine haround (fun n₁ es₁ n₂ hc hbegins => ?_) h
    obtain ⟨rfl, -⟩ := hbegins
    exact .nil
  | sent h =>
    refine haround (fun n₁ es₁ n₂ hc hsends => ?_) h
    obtain ⟨-, f, r, hsrc, -, hs⟩ := hsends
    rw [hc] at hs
    exact hs.driven (hsrc.trans (congrArg Config.address hc))
  | polled h =>
    refine haround (fun n₁ es₁ n₂ hc hpolls => ?_) h
    obtain ⟨event, hp⟩ := hpolls
    exact hc ▸ hp.driven

/-- Every stretch adds to the sentence. -/
theorem upheld_driven (c : Config) :
    Upheld fun es n => n.config = c ∧ Driven c (Exchange.calls es) where
  redirect _ _ _ h := h
  stretch := by
    rintro n₁ n es r n' ⟨rfl, hdriven⟩ hs
    obtain ⟨n₁, hpassage, -⟩ := hs.passage
    refine ⟨hs.config_eq, ?_⟩
    rw [Exchange.calls_append]
    exact hdriven.append hpassage.driven

end

/-! ## One look at the radio -/

/-- At most one frame is taken among the calls, and if one is, the last call makes the radio listen
again. -/
structure TakesOne (ms : List Made) : Prop where
  /-- At most one is taken. -/
  once : ms.countP (·.call = .receive) ≤ 1
  /-- The last call makes the radio listen again. -/
  restored : ∀ m ∈ ms, m.call = .receive → ∃ a, ms.getLast? = some ⟨.setMode .receive, a⟩

section

variable {n n' : Node} {es : List Exchange} {ms : List Made}

/-- No frame is taken among the calls. -/
def TakesNone (ms : List Made) : Prop :=
  ∀ m ∈ ms, m.call ≠ .receive

theorem TakesNone.takesOne (h : TakesNone ms) : TakesOne ms := by
  refine ⟨?_, fun m hm hcall => absurd hcall (h m hm)⟩
  rw [List.countP_eq_zero.2 (by simpa [TakesNone] using h)]
  exact Nat.zero_le 1

/-- What comes before a look takes nothing. -/
theorem TakesOne.cons (h : TakesOne ms) {m : Made} (hm : m.call ≠ .receive) :
    TakesOne (m :: ms) where
  once := by simpa [hm] using h.once
  restored m' hm' hcall := by
    rcases List.mem_cons.1 hm' with rfl | hm'
    · exact absurd hcall hm
    · obtain ⟨a, ha⟩ := h.restored m' hm' hcall
      exact ⟨a, by rw [List.getLast?_cons, ha, Option.getD_some]⟩

theorem Sending.takesNone {c : Frame.Config} {f : Frame} {r : Except Error Unit}
    (hs : Sending c f es r) : TakesNone (Exchange.calls es) := by
  cases hs <;> simp [TakesNone, Exchange.calls, Exchange.made]

theorem Acknowledging.takesNone {h : Header} {r : Except Error Unit}
    (hk : Acknowledging n h es n' r) : TakesNone (Exchange.calls es) := by
  cases hk with
  | unowed ho => simp [TakesNone, Exchange.calls]
  | failed ho hs => exact hs.takesNone
  | sent ho hs => exact hs.takesNone

theorem Handling.takesNone {r : Radio.Reception} {event : Except Error PollEvent}
    (hh : Handling n r es n' event) : TakesNone (Exchange.calls es) := by
  cases hh with
  | duplicate ht hack hd hk => exact hk.takesNone
  | overflowed ht hack hd hs => simp [hs.calls_eq_nil, TakesNone]
  | delivered ht hack hd hs hk => simpa [hs.calls_eq_nil] using hk.takesNone
  | _ => simp [TakesNone, Exchange.calls]

/-- Fetching a frame is one call, and nothing is taken after it. -/
theorem Fetching.calls_eq {event : Except Error PollEvent} (hf : Fetching n es n' event) :
    ∃ a ms, Exchange.calls es = ⟨.receive, a⟩ :: ms ∧ TakesNone ms := by
  cases hf with
  | failed failure => exact ⟨_, [], rfl, by simp [TakesNone]⟩
  | nothing => exact ⟨_, [], rfl, by simp [TakesNone]⟩
  | taken r hh => exact ⟨_, _, rfl, hh.takesNone⟩

theorem Looking.takesOne {event : Except Error PollEvent} (hl : Looking n es n' event) :
    TakesOne (Exchange.calls es) := by
  cases hl with
  | failed failure => exact TakesNone.takesOne (by simp [TakesNone, Exchange.calls, Exchange.made])
  | nothing => exact TakesNone.takesOne (by simp [TakesNone, Exchange.calls, Exchange.made])
  | @ready es n' event hf restored =>
    obtain ⟨a, ms, hcalls, hnone⟩ := hf.calls_eq
    have hall : Exchange.calls (⟨.radio .frameReady, .ok true⟩ :: es ++
        [⟨.radio (.setMode .receive), restored⟩]) =
        ⟨.frameReady, .ok true⟩ :: ⟨.receive, a⟩ :: (ms ++ [⟨.setMode .receive, restored⟩]) := by
      rw [Exchange.calls_append, ← List.cons_append, ← List.cons_append, ← hcalls]
      rfl
    rw [hall]
    refine ⟨?_, fun _ _ _ => ⟨restored, by simp [List.getLast?_cons]⟩⟩
    simpa [TakesNone] using hnone

/-- **A look at the radio takes at most one frame**, and if it takes one it ends with listening. -/
theorem Polling.takesOne {event : Except Error PollEvent} (hp : Polling n es n' event) :
    TakesOne (Exchange.calls es) := by
  cases hp with
  | deaf hm failure =>
    exact TakesNone.takesOne (by simp [TakesNone, Exchange.calls, Exchange.made])
  | roused hm hl => exact hl.takesOne.cons (by simp)
  | awake hl => exact hl.takesOne

end

/-! ## All its life -/

/-- **A node drives its radio as it should**, whatever its radio answers.  Whatever it is at, and
however that goes on, every call of its life is in its place; and no look at the radio takes more
than one frame or leaves the radio without telling it to listen after it has taken one. -/
theorem Life.calls_proper {c : Config} {es₀ : List Exchange} {n₀ : Node}
    (hup : Task.Path (bringUp c) es₀ (.done (.ok n₀))) {h : History} {st : Status}
    (hl : Life n₀ h st) :
    (st.Ends fun es _ => ∀ before m after,
      Exchange.calls (h.exchanges ++ es) = before ++ m :: after → m.Proper c before after) ∧
    ∀ n es event n', Task.Path (poll n) es (.done (event, n')) →
      TakesOne (Exchange.calls es) := by
  obtain ⟨hvalid, rfl⟩ := bringUp_path hup
  refine ⟨?_, fun n es event n' hpath => ((poll_goes n).path hpath).takesOne⟩
  have hends := hl.upholds (upheld_driven c) ⟨rfl, .nil⟩
  refine hends.imp ?_
  rintro es n ⟨-, hdriven⟩ before m after hms
  exact hdriven.proper hvalid.frame hms

/-- A node sends a datagram and its radio goes off the air over it: the node still tells it to
listen, and what it gave to the radio was one frame of its own. -/
theorem calls_proper_interrupted :
    ∃ h n before wire after, Life (Node.fresh {}) h (.resting n) ∧
      Exchange.calls h.exchanges = before ++ ⟨.transmit wire, .error .shutdown⟩ :: after ∧
      after = [⟨.setMode .receive, .error .shutdown⟩] ∧
      Made.Proper {} before ⟨.transmit wire, .error .shutdown⟩ after := by
  have hbegin : Life (Node.fresh {}) _ _ := Life.start.step (.begin _ (.sendUnreliable 2 [7]))
  have hswitch := hbegin.step (.exchange (.radio (.setMode .transmit)) _ (.ok ()))
  have hsend := hswitch.step (.exchange (.radio (.transmit _)) _ (.error .shutdown))
  have hset := hsend.step (.exchange (.radio (.setMode .receive)) _ (.error .shutdown))
  have hend := hset.step (.fail _ _)
  refine ⟨_, _, [⟨.setMode .transmit, .ok ()⟩], _, _, hend, rfl, rfl, ?_⟩
  exact (Life.calls_proper bringUp_usual hend).1 _ _ _ rfl

end Link
end PacketRadio
