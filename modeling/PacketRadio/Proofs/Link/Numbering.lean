/-
# The numbers of what a node sends

rflink specification, §3: the id wraps at 256; §4.4: each send allocates the
next one.

A send call whose payload fits into a frame takes the next number before it
does anything else, and keeps it whatever becomes of it.  So the numbers of a
node count its send calls, and none is skipped or comes early.

| a send call | takes a number | can fail with |
| --- | --- | --- |
| with too large a payload | no | that, before anything is done |
| with any other | yes | a failure of the radio |

Nothing can go wrong with writing a frame.  The payload was found to be within
the configured limit, which is the one in force under valid settings, and an
acknowledgment has no payload.

Main statement: `Life.numbers_sends`.
-/

import PacketRadio.Proofs.Link.Bookkeeping
import PacketRadio.Proofs.Link.Copies
import PacketRadio.Proofs.Link.Failures

namespace PacketRadio

/-- **A frame whose payload is within the configured limit can be written.** -/
theorem Frame.encode_of_le {c : Frame.Config} (hc : c.Valid) {f : Frame}
    (hf : f.payload.length ≤ c.maxPayload) : f.encode c = .ok (f.wire c) :=
  (encode_eq_ok_iff _ _ _).2 ⟨hc.preamble, hc.payloadLimit_eq.symm ▸ hf, rfl⟩

namespace Link

open PacketRadio.Link.Action

/-! ## Failures of the radio -/

/-- What goes wrong, if anything does, is the radio. -/
def BlamesRadio {α : Type} (r : Except Error α) : Prop :=
  ∀ e, r = .error e → ∃ failure, e = .radio failure

namespace BlamesRadio

variable {α β : Type}

theorem ok (a : α) : BlamesRadio (.ok a) := nofun

theorem radio (failure : Radio.Failure) : BlamesRadio (.error (.radio failure) : Except Error α) :=
  fun _ he => ⟨failure, (Except.error.inj he).symm⟩

theorem mapError (a : Except Radio.Failure α) : BlamesRadio (a.mapError .radio) := by
  cases a with
  | error failure => exact radio failure
  | ok a => exact ok a

theorem bind {r : Except Error α} {f : α → Except Error β} (h : BlamesRadio r)
    (hf : ∀ a, BlamesRadio (f a)) : BlamesRadio (r.bind f) := by
  cases r with
  | error e =>
    obtain ⟨failure, rfl⟩ := h e rfl
    exact radio failure
  | ok a => exact hf a

theorem map {r : Except Error α} (h : BlamesRadio r) (f : α → β) : BlamesRadio (r.map f) := by
  cases r with
  | error e =>
    obtain ⟨failure, rfl⟩ := h e rfl
    exact radio failure
  | ok a => exact ok _

/-- It does not matter what there would have been otherwise. -/
theorem of_error {e : Error} (h : BlamesRadio (.error e : Except Error α)) :
    BlamesRadio (.error e : Except Error β) :=
  fun _ he => h _ (congrArg _ (Except.error.inj he))

end BlamesRadio

section

variable {n n' : Node} {es : List Exchange}

/-- **Sending a frame goes wrong over the radio only**, if its payload is within the limit. -/
theorem Sending.blamesRadio {c : Frame.Config} {f : Frame} {r : Except Error Unit}
    (hs : Sending c f es r) (hc : c.Valid) (hf : f.payload.length ≤ c.maxPayload) :
    BlamesRadio r := by
  cases hs with
  | unwritten hw =>
    rw [Frame.encode_of_le hc hf] at hw
    cases hw
  | refused hw failure => exact .radio failure
  | aired hw sent restored => exact (BlamesRadio.mapError sent).bind fun _ => .mapError restored

/-- An acknowledgment has no payload. -/
theorem Acknowledging.blamesRadio {h : Header} {r : Except Error Unit}
    (hk : Acknowledging n h es n' r) (hc : n.config.frame.Valid) : BlamesRadio r := by
  cases hk with
  | unowed ho => exact .ok ()
  | failed ho hs => exact hs.blamesRadio hc (Nat.zero_le _)
  | sent ho hs => exact .ok ()

theorem Handling.blamesRadio {r : Radio.Reception} {event : Except Error PollEvent}
    (hh : Handling n r es n' event) (hc : n.config.frame.Valid) : BlamesRadio event := by
  cases hh with
  | duplicate ht hack hd hk => exact (hk.blamesRadio hc).map _
  | delivered ht hack hd hs hk =>
    refine (hk.blamesRadio ?_).map _
    rw [Node.accept, hs.config_eq]
    exact hc
  | _ => exact .ok _

theorem Looking.blamesRadio {event : Except Error PollEvent} (hl : Looking n es n' event)
    (hc : n.config.frame.Valid) : BlamesRadio event := by
  cases hl with
  | failed failure => exact .radio failure
  | nothing => exact .ok _
  | ready hf restored =>
    refine BlamesRadio.bind ?_ fun event => (BlamesRadio.mapError restored).map _
    cases hf with
    | failed failure => exact .radio failure
    | nothing => exact .ok _
    | taken r hh => exact hh.blamesRadio hc

/-- **A look at the radio goes wrong over the radio only.** -/
theorem Polling.blamesRadio {event : Except Error PollEvent} (hp : Polling n es n' event)
    (hc : n.config.frame.Valid) : BlamesRadio event := by
  cases hp with
  | deaf hm failure => exact .radio failure
  | roused hm hl => exact hl.blamesRadio hc
  | awake hl => exact hl.blamesRadio hc

theorem Watching.blamesRadio {length : Nat} {r : Except Error Unit}
    (hw : Watching n length es n' r) (hc : n.config.frame.Valid) : BlamesRadio r := by
  cases hw with
  | failed hp => exact (hp.blamesRadio hc).of_error
  | _ => exact .ok ()

theorem Posting.blamesRadio {f : Frame} {r : Except Error Unit} (hp : Posting n f es n' r)
    (hc : n.config.frame.Valid) (hf : f.payload.length ≤ n.config.frame.maxPayload) :
    BlamesRadio r := by
  cases hp with
  | failed hs => exact hs.blamesRadio hc hf
  | posted hs => exact .ok ()

end

/-! ## What an operation may come to -/

/-- The number that a reply tells of. -/
def Reply.id? : Reply → Option UInt8
  | .sent id => some id
  | .outcome o => some o.id
  | _ => none

/-- What the beginning of an operation, or a turn of it, may come to on any radio.  A send goes on
as one, and tells of a number in the end. -/
def Operation.MayCome (c : Config) (op : Operation) : Except Error (Turn Activity Reply) → Prop
  | .ok (.again a) => a.Fits c ∧ (op.payload?.isSome = true → a.send?.isSome = true)
  | .ok (.finish reply) => op.payload?.isSome = true → reply.id?.isSome = true
  | .error e => op.Exceeds c e ∨ ∃ failure, e = .radio failure

section

variable {n n' : Node} {es : List Exchange} {op : Operation}
  {r : Except Error (Turn Activity Reply)}

/-- What goes wrong over the radio only is as it may be if its results are. -/
theorem BlamesRadio.mayCome {α : Type} {c : Config} {result : Except Error α}
    (h : BlamesRadio result) {f : α → Turn Activity Reply}
    (hf : ∀ a, op.MayCome c (.ok (f a))) : op.MayCome c (result.map f) := by
  cases result with
  | error e => exact .inr (h e rfl)
  | ok a => exact hf a

theorem Dispatching.mayCome {d : Errand} (hd : Dispatching n d es n' r)
    (hc : n.config.frame.Valid) (hop : op.payload? = some d.payload) : op.MayCome n.config r := by
  cases hd with
  | oversized hsize => exact .inl ⟨d.payload, hop, hsize, rfl⟩
  | once hsize hd hp =>
    refine (hp.blamesRadio hc hsize).mayCome fun _ _ => ?_
    unfold Errand.reply
    split <;> simp [Reply.id?]
  | awaited hsize hd hdst t =>
    refine ⟨fun s hs => ?_, fun _ => rfl⟩
    obtain rfl := Option.some.inj hs
    exact hsize

/-- **An operation begins well**, or its payload is too large, or the radio fails. -/
theorem Starting.mayCome (hs : Starting n op es n' r) (hc : n.config.frame.Valid) :
    op.MayCome n.config r := by
  cases hs with
  | polled hp => exact (hp.blamesRadio hc).mayCome fun event hsend => by cases hsend
  | popped => exact fun hsend => by cases hsend
  | receiving timeout t => exact ⟨nofun, fun hsend => by cases hsend⟩
  | listening flag => exact ⟨nofun, fun hsend => by cases hsend⟩
  | sending hop hd => exact hd.mayCome hc (Operation.payload?_of_errand hop)

/-- **A turn of a send goes wrong over the radio only**, and carries the payload on. -/
theorem Pursuing.blamesRadio {s : Send} {r : Except Error (Turn Send SendOutcome)}
    (hp : Pursuing n s es n' r) (hc : n.config.frame.Valid)
    (hfits : s.payload.length ≤ n.config.frame.maxPayload) :
    BlamesRadio r ∧ ∀ s', r = .ok (.again s') → s'.payload = s.payload := by
  have hconfig := n.repeating_config s
  cases hp with
  | copied hphase hp t =>
    refine ⟨.ok _, ?_⟩
    rintro s' ⟨⟩
    rfl
  | unsent hphase hp =>
    refine ⟨?_, nofun⟩
    exact (hp.blamesRadio (hconfig ▸ hc) (hconfig ▸ hfits)).of_error
  | unwatched hphase ha ht hw => exact ⟨(hw.blamesRadio hc).of_error, nofun⟩
  | acked hphase ha t => exact ⟨.ok _, nofun⟩
  | exhausted hphase ha ht hmore t => exact ⟨.ok _, nofun⟩
  | watched hphase ha ht hw =>
    refine ⟨.ok _, ?_⟩
    rintro s' ⟨⟩
    rfl
  | retried hphase ha ht hmore =>
    refine ⟨.ok _, ?_⟩
    rintro s' ⟨⟩
    rfl

/-- **A turn of an operation goes wrong over the radio only.** -/
theorem Turning.mayCome {a : Activity} (ht : Turning n a es n' r) (hc : n.config.frame.Valid)
    (hfits : a.Fits n.config) (hsends : op.payload?.isSome = true → a.send?.isSome = true) :
    op.MayCome n.config r := by
  cases ht with
  | received deadline hd => exact fun hsend => by cases hsends hsend
  | expired hd ht => exact fun hsend => by cases hsends hsend
  | waited hd ht hw => exact (hw.blamesRadio hc).mayCome fun _ => ⟨nofun, hsends⟩
  | stopped flag idled => exact fun hsend => by cases hsends hsend
  | listened hw => exact ⟨nofun, hsends⟩
  | broken hw idled => exact .inr (hw.blamesRadio hc _ rfl)
  | @sending s es n' r hs =>
    obtain ⟨hradio, hsame⟩ := hs.blamesRadio hc (hfits s rfl)
    rcases r with e | s' | outcome
    · exact .inr (hradio e rfl)
    · refine ⟨fun s₁ hs₁ => ?_, fun _ => rfl⟩
      obtain rfl := Option.some.inj hs₁
      rw [hsame s' rfl]
      exact hfits s rfl
    · exact fun _ => rfl

/-- **However far an operation has come**, its payload was too large, or the radio fails, or it
goes on well. -/
theorem Operation.Reaches.mayCome (hr : op.Reaches n es (.done (r, n')))
    (hc : n.config.frame.Valid) : op.MayCome n.config r := by
  refine hr.holds (Q := fun _ r _ => op.MayCome n.config r)
    (fun _ _ _ hs => hs.mayCome hc) fun es a n₁ es' r n' hreaches hbefore ht => ?_
  have hconfig : n₁.config = n.config := hreaches.config_eq
  rw [← hconfig] at hbefore ⊢
  exact ht.mayCome (hconfig ▸ hc) hbefore.1 hbefore.2

/-- An action that fails at once does so whatever was to come after it. -/
theorem bind_of_failed {α β : Type} {x : Action α} {e : Error} (h : x n = .done (.error e, n))
    (f : α → Action β) : (x >>= f) n = .done (.error e, n) := by
  change (x n).bind _ = _
  rw [h]
  rfl

/-- **Too large a payload is refused** before anything is asked or changed. -/
theorem Operation.start_oversized {payload : Bytes} (hop : op.payload? = some payload)
    (hsize : n.config.frame.maxPayload < payload.length) :
    op.start n = .done
      (.error (.frame (.payloadTooLarge payload.length n.config.frame.maxPayload)), n) := by
  have hcheck : checkPayload payload n = .done
      (.error (.frame (.payloadTooLarge payload.length n.config.frame.maxPayload)), n) :=
    congrFun (if_pos hsize) n
  cases op <;> cases hop
  case sendUnreliable => exact bind_of_failed (bind_of_failed hcheck _) _
  case sendReliable => exact bind_of_failed (bind_of_failed hcheck _) _
  case sendReliableWith => exact bind_of_failed (bind_of_failed hcheck _) _

end

/-! ## Counting send calls -/

/-- How often a node was asked to send what fits into a frame. -/
def History.asked (limit : Nat) (h : History) : Nat :=
  (h.filterMap (Occurrence.datagram limit)).length

section

variable {c : Config} {h : History} {st : Status} {n n' : Node} {op : Operation}
  {es : List Exchange} {rest : Task (Except Error (Turn Activity Reply) × Node)}

/-- **What is on the ledger in the course of an operation.** -/
theorem record_reached (h : History) (op : Operation) (es : List Exchange) :
    ((bookkeeping c).record (h ++ .began op :: es.map .exchanged)).calls =
        h.filterMap (Occurrence.datagram c.frame.maxPayload) ++
          (op.datagram c.frame.maxPayload).toList ∧
      ((bookkeeping c).record (h ++ .began op :: es.map .exchanged)).current =
        op.datagram c.frame.maxPayload := by
  rw [Discipline.record, List.foldl_append, List.foldl_cons]
  obtain ⟨hcalls, hcurrent⟩ := @Ledger.calls_foldl_exchanged c.frame.maxPayload
    (es.map .exchanged) (by simp) (((bookkeeping c).record h).note c.frame.maxPayload (.began op))
  refine ⟨hcalls.trans ?_, hcurrent⟩
  exact congrArg (· ++ (op.datagram c.frame.maxPayload).toList)
    (Ledger.calls_foldl c.frame.maxPayload h {})

/-- **A node keeps to the rules of its ledger all its life**, whatever channels it is given. -/
theorem Life.kept (hc : c.frame.Valid) (hl : Life (Node.fresh c) h st) :
    (bookkeeping c).Holds ((bookkeeping c).record h) st := by
  induction hl with
  | start => exact atRest_fresh c (Node.fresh c).sink
  | redirect channel before ih => exact ⟨ih.1.congr rfl rfl, ih.2⟩
  | step before next ih =>
    have hstep := (bookkeeping_sound hc).step ih next
    rwa [Discipline.record, List.foldl_append]

/-- **The number of a send call** is how many there were before it. -/
theorem number_reached {d : Datagram} (hd : op.datagram c.frame.maxPayload = some d) :
    ((bookkeeping c).record (h ++ .began op :: es.map .exchanged)).number.toNat =
      h.asked c.frame.maxPayload % 256 := by
  obtain ⟨hcalls, -⟩ := record_reached (c := c) h op es
  rw [Ledger.number, hcalls, hd, List.length_append, Option.toList_some, List.length_singleton,
    Nat.add_sub_cancel, UInt8.toNat_ofNat', History.asked]

/-- What was given to the radio was given to it by a call. -/
theorem Exchange.exists_transmit {wire : Bytes} : {e : Exchange} → e.sent = some wire →
    e.request = .radio (.transmit wire)
  | ⟨.radio (.transmit _), _⟩, rfl => rfl

/-- **Every datagram that goes out in the course of a send call** is that of the call, under its
number. -/
theorem Operation.Reaches.carries (hr : op.Reaches n es rest) (hc : c.frame.Valid)
    (hl : Life (Node.fresh c) h (.resting n)) {d : Datagram}
    (hd : op.datagram c.frame.maxPayload = some d) :
    ∀ wire ∈ Exchange.datagrams c.frame es, ∃ id flags,
      Frame.decode c.frame wire = .ok ⟨⟨d.dst, c.address, id, flags⟩, d.payload⟩ ∧
        id.toNat = h.asked c.frame.maxPayload % 256 := by
  induction hr with
  | begun => simp [Exchange.datagrams]
  | turned before ih => exact ih
  | @asked es r next before a ih =>
    intro wire hwire
    rw [Exchange.datagrams_append] at hwire
    rcases List.mem_append.1 hwire with hwire | hwire
    · exact ih wire hwire
    · obtain ⟨hsent, hdatagram⟩ := List.mem_filter.1 hwire
      have hsent : Exchange.sent ⟨r, a⟩ = some wire := by simpa using hsent
      obtain rfl : r = .radio (.transmit wire) := Exchange.exists_transmit hsent
      -- The node was about to give these bytes to the radio, so its ledger permits it.
      have hairs : Ledger.Airs c _ wire := ((hl.reaches before).kept hc).1
      obtain ⟨f, rfl, hf, hsrc, hcarries | hanswers⟩ := hairs
      · obtain ⟨-, hid, hcurrent⟩ := hcarries
        rw [(record_reached h op es).2, hd] at hcurrent
        obtain rfl := Option.some.inj hcurrent
        refine ⟨f.header.id, f.header.flags, ?_, hid ▸ number_reached hd⟩
        rw [Frame.decode_wire hc hf, ← hsrc]
      · rw [isDatagram, Frame.decode_wire hc hf] at hdatagram
        simp [hanswers.1] at hdatagram

/-- **What a send call tells of in the end is its number.** -/
theorem Operation.Reaches.tells {reply : Reply} {id : UInt8}
    (hr : op.Reaches n es (.done (.ok (.finish reply), n'))) (hc : c.frame.Valid)
    (hl : Life (Node.fresh c) h (.resting n)) {d : Datagram}
    (hd : op.datagram c.frame.maxPayload = some d) (hid : reply.id? = some id) :
    id.toNat = h.asked c.frame.maxPayload % 256 := by
  have hconcludes : Ledger.Concludes c _ (.ok reply) := ((hl.reaches hr).kept hc).1
  cases reply with
  | sent id' =>
    obtain rfl := Option.some.inj hid
    rw [hconcludes.2]
    exact number_reached hd
  | outcome o =>
    obtain rfl := Option.some.inj hid
    rw [hconcludes.2.1]
    exact number_reached hd
  | _ => cases hid

end

/-- What asks for a datagram asks for something to be sent. -/
theorem Operation.payload?_of_datagram {op : Operation} {limit : Nat} {d : Datagram}
    (h : op.datagram limit = some d) : op.payload? = some d.payload := by
  cases op with
  | sendUnreliable | sendReliable | sendReliableWith =>
    simp only [datagram, Option.ite_none_right_eq_some, Option.some.injEq] at h
    rw [← h.2]
    rfl
  | _ => cases h

/-- **A node refuses what is too large to be sent and numbers the rest in order**, whatever its
radio does and whatever has become of earlier sends.  Too large a payload is refused without a call
to the radio, and the node stays as it is.  Nothing else can go wrong but the radio, with a send or
with anything else that the node is asked for: whatever is within the limit can be written, an
acknowledgment too.  A send call that is not refused has as its number how many there were before
it, as the numbers come round; each copy that goes out carries it, and so does the reply. -/
theorem Life.numbers_sends {c : Config} {es₀ : List Exchange} {n₀ : Node}
    (hup : Task.Path (bringUp c) es₀ (.done (.ok n₀))) {h : History} {n : Node}
    (hl : Life n₀ h (.resting n)) (op : Operation) :
    (∀ payload, op.payload? = some payload → c.frame.maxPayload < payload.length →
      op.start n = .done
        (.error (.frame (.payloadTooLarge payload.length c.frame.maxPayload)), n)) ∧
    (∀ es e n', op.Reaches n es (.done (.error e, n')) →
      op.Exceeds c e ∨ ∃ failure, e = .radio failure) ∧
    (∀ f : Frame, f.payload.length ≤ c.frame.maxPayload →
      f.encode n.config.frame = .ok (f.wire c.frame)) ∧
    ∀ d, op.datagram c.frame.maxPayload = some d → ∀ es rest, op.Reaches n es rest →
      (∀ wire ∈ Exchange.datagrams c.frame es, ∃ id flags,
        Frame.decode c.frame wire = .ok ⟨⟨d.dst, c.address, id, flags⟩, d.payload⟩ ∧
          id.toNat = h.asked c.frame.maxPayload % 256) ∧
      (∀ reply n', rest = .done (.ok (.finish reply), n') →
        ∃ id, reply.id? = some id ∧ id.toNat = h.asked c.frame.maxPayload % 256) := by
  obtain ⟨hvalid, rfl⟩ := bringUp_path hup
  have hc := hvalid.frame
  have hconfig : n.config = c := (hl.kept hc).1.config
  refine ⟨fun payload hop hsize => ?_, fun es e n' hr => ?_, fun f hf => ?_,
    fun d hd es rest hr => ⟨hr.carries hc hl hd, ?_⟩⟩
  · rw [← hconfig] at hsize ⊢
    exact Operation.start_oversized hop hsize
  · have hcome := hr.mayCome (hconfig ▸ hc)
    rw [hconfig] at hcome
    exact hcome
  · rw [hconfig]
    exact Frame.encode_of_le hc hf
  · rintro reply n' rfl
    have htold := hr.mayCome (hconfig ▸ hc) (by rw [Operation.payload?_of_datagram hd]; rfl)
    obtain ⟨id, hid⟩ := Option.isSome_iff_exists.1 htold
    exact ⟨id, hid, hr.tells hc hl hd hid⟩

/-- A node whose frames carry two bytes at most. -/
def narrow : Config :=
  { frame := { maxPayload := 2 } }

/-- The radio fails under the first send of a node, and the second is refused.  So the next one has
number 1, and a larger one would be refused again. -/
theorem numbers_sends_interrupted :
    ∃ h n es n', Life (Node.fresh narrow) h (.resting n) ∧
      (Operation.sendReliable 2 [1, 2, 3]).start n =
        .done (.error (.frame (.payloadTooLarge 3 2)), n) ∧
      (Operation.sendUnreliable 2 [5]).Reaches n es (.done (.ok (.finish (.sent 1)), n')) ∧
      Exchange.datagrams narrow.frame es ≠ [] ∧
      ∀ wire ∈ Exchange.datagrams narrow.frame es, ∃ id flags,
        Frame.decode narrow.frame wire = .ok ⟨⟨2, 1, id, flags⟩, [5]⟩ ∧ id.toNat = 1 := by
  have hup : Task.Path (bringUp narrow)
      [⟨.radio .init, .ok ()⟩, ⟨.radio (.setAddress 1 false), .ok ()⟩,
        ⟨.radio (.setMode .receive), .ok ()⟩] (.done (.ok (Node.fresh narrow))) :=
    .step (.step (.step (.here _)))
  let n : Node := { Node.fresh narrow with nextId := 1 }
  have hbegin : Life (Node.fresh narrow) _ _ :=
    Life.start.step (.begin _ (.sendReliableWith Address.broadcast [7] 1 1))
  have hswitch := hbegin.step (.exchange (.radio (.setMode .transmit)) _ (.error .shutdown))
  have hfailed := hswitch.step (.fail _ n)
  have hrefused := (hfailed.step (.begin n (.sendUnreliable 2 [1, 2, 3]))).step (.fail _ n)
  have hbegun : (Operation.sendUnreliable 2 [5]).Reaches n [] _ := .begun
  have hsent := ((hbegun.asked (r := .radio (.setMode .transmit)) (.ok ())).asked
    (r := .radio (.transmit _)) (.ok ())).asked (r := .radio (.setMode .receive)) (.ok ())
  refine ⟨_, n, _, _, hrefused, ?_, hsent, ?_, ?_⟩
  · exact (Life.numbers_sends hup hrefused (.sendReliable 2 [1, 2, 3])).1 _ rfl (by decide)
  · decide +kernel
  · exact ((Life.numbers_sends hup hrefused (.sendUnreliable 2 [5])).2.2.2 _ rfl _ _ hsent).1

end Link
end PacketRadio
