/-
# A datagram that finds no room

rflink specification, §5: an overflowed datagram is neither recorded in the
duplicate table nor acknowledged.

A node delivers to its own queue or to a channel.  Either may be full, and
nobody may receive from the channel any more.  A new datagram that comes then
leaves no trace, so it can come again, and is judged again when it does.

| a datagram | is counted as | makes its number known | is acknowledged |
| --- | --- | --- | --- |
| new, no room | overflowed | no | no |
| new, room | delivered | yes | if it is for this node and asks for it |
| known, room or not | duplicate | it is known | if it is for this node and asks for it |

Main statement: `Life.overflows_without_trace`.
-/

import PacketRadio.Proofs.Link.Acceptance
import PacketRadio.Proofs.Link.Expiry
import PacketRadio.Proofs.Link.Served

namespace PacketRadio
namespace Link

open PacketRadio.Link.Action

/-! ## Stretches that take something -/

/-- A turn ends by telling of this event, if it ends by telling of one. -/
def Turn.Tells (event : PollEvent) (result : Except Error (Turn Activity Reply)) : Prop :=
  ∀ told, result = .ok (.finish (.event told)) → told = event

/-- A turn that goes on tells of nothing. -/
theorem Turn.Tells.again {event : PollEvent} (a : Activity) : Turn.Tells event (.ok (.again a)) := by
  intro told htold
  cases htold

section

variable {n n' : Node} {es pre post : List Exchange} {r : Radio.Reception}
  {result : Except Error (Turn Activity Reply)}

/-- Without any failure there is none to switch the mode. -/
theorem modesHold_of_failed (h : es.any Exchange.failed = false) : ModesHold es := by
  intro mode failure he
  exact List.any_eq_false.1 h _ he rfl

/-- The one reception that is taken is handled. -/
theorem Polling.taking_of_heard {event : Except Error PollEvent} (hp : Polling n es n' event)
    (hr : es.filterMap Exchange.heard = [r]) : Taking n r es n' event := by
  rcases hp.taking with hnone | ⟨r', htaking⟩
  · rw [hnone.uneventful.heard] at hr
    cases hr
  · obtain rfl : r' = r := List.singleton_inj.1 (htaking.heard.symm.trans hr)
    exact htaking

/-- So it is with a pause, or the lack of one, after the look at the radio. -/
theorem Watching.taking {length : Nat} {outcome : Except Error Unit}
    (hw : Watching n length es n' outcome) (hc : n.config.frame.Valid)
    (hok : es.any Exchange.failed = false) (hr : es.filterMap Exchange.heard = [r]) :
    ∃ event, Taking n r es n' (.ok event) := by
  cases hw with
  | failed hp =>
    obtain ⟨⟨event, hevent⟩, -⟩ := (hp.routine hc).counted hok
    cases hevent
  | taken hp he => exact ⟨_, hp.taking_of_heard hr⟩
  | paused hp =>
    rw [List.filterMap_append, hp.unheard] at hr
    cases hr

/-- And with exchanges before it in which nothing is taken. -/
theorem Watching.taking_after {length : Nat} {outcome : Except Error Unit}
    (before : Uneventful pre) (hw : Watching n length es n' outcome) (hc : n.config.frame.Valid)
    (hok : (pre ++ es).any Exchange.failed = false)
    (hr : (pre ++ es).filterMap Exchange.heard = [r]) :
    outcome = .ok () ∧ ∃ event, Taking n r (pre ++ es) n' (.ok event) := by
  obtain ⟨-, hwatched⟩ := any_failed_append.1 hok
  rw [List.filterMap_append, before.heard, List.nil_append] at hr
  obtain ⟨⟨u, houtcome⟩, -⟩ := (hw.routine hc).counted hwatched
  obtain ⟨event, htaking⟩ := hw.taking hc hwatched hr
  have hnothing : Uneventful [] := ⟨rfl, rfl, rfl⟩
  have haround := htaking.around before hnothing fun _ he => he
  rw [List.append_nil] at haround
  exact ⟨houtcome, event, haround⟩

theorem Timing.uneventful {deadline : Deadline} {rest : Option Nat}
    (ht : Timing deadline es rest) : Uneventful es := by
  cases ht <;> exact ⟨rfl, rfl, rfl⟩

theorem Dispatching.unheard {d : Errand} (hd : Dispatching n d es n' result) :
    es.filterMap Exchange.heard = [] := by
  cases hd with
  | oversized hsize => rfl
  | once hsize hd hp => exact hp.sending.heard.1
  | awaited hsize hd hdst t => rfl

/-- A turn of a send that takes something waits. -/
theorem Pursuing.taking {s : Send} {outcome : Except Error (Turn Send SendOutcome)}
    (hp : Pursuing n s es n' outcome) (hc : n.config.frame.Valid)
    (hok : es.any Exchange.failed = false) (hr : es.filterMap Exchange.heard = [r]) :
    outcome = .ok (.again s) ∧ ∃ event, Taking n r es n' (.ok event) := by
  cases hp with
  | copied hphase hp t =>
    rw [List.filterMap_append, hp.sending.heard.1] at hr
    cases hr
  | unsent hphase hp =>
    rw [hp.sending.heard.1] at hr
    cases hr
  | acked hphase ha t => cases hr
  | watched hphase ha ht hw =>
    exact ⟨rfl, (hw.taking_after ht.uneventful hc hok hr).2⟩
  | unwatched hphase ha ht hw =>
    cases (hw.taking_after ht.uneventful hc hok hr).1
  | retried hphase ha ht hmore =>
    rw [ht.unheard] at hr
    cases hr
  | exhausted hphase ha ht hmore t =>
    rw [List.filterMap_append, ht.unheard] at hr
    cases hr

/-- **A stretch that takes something is a look at the radio** on one that does not fail, and changes
nothing else. -/
theorem Stretch.taking (hs : Stretch n es (result, n')) (hc : n.config.frame.Valid)
    (hok : es.any Exchange.failed = false) (hr : es.filterMap Exchange.heard = [r]) :
    ∃ event, Taking n r es n' (.ok event) ∧ Turn.Tells event result := by
  rcases hs.goes with ⟨op, hstart⟩ | ⟨a, hturn⟩
  · cases hstart with
    | polled hp =>
      obtain ⟨⟨event, rfl⟩, -⟩ := (hp.routine hc).counted hok
      refine ⟨event, hp.taking_of_heard hr, ?_⟩
      rintro told htold
      cases htold
      rfl
    | sending hop hd =>
      rw [hd.unheard] at hr
      cases hr
    | _ => cases hr
  · cases hturn with
    | expired hd ht =>
      rw [ht.unheard] at hr
      cases hr
    | waited hd ht hw =>
      obtain ⟨rfl, event, htaking⟩ := hw.taking_after ht.uneventful hc hok hr
      exact ⟨event, htaking, .again _⟩
    | @listened flag es n' hw =>
      have hstopped : Uneventful [⟨.stopped flag, false⟩] := ⟨rfl, rfl, rfl⟩
      obtain ⟨-, event, htaking⟩ := hw.taking_after hstopped hc hok hr
      exact ⟨event, htaking, .again _⟩
    | @broken flag es n' e hw idled =>
      have hwatched : es.any Exchange.failed = false := by
        simpa [Exchange.failed] using (any_failed_append.1 hok).1
      obtain ⟨⟨u, hu⟩, -⟩ := (hw.routine hc).counted hwatched
      cases hu
    | sending hp =>
      obtain ⟨rfl, event, htaking⟩ := hp.taking hc hok hr
      exact ⟨event, htaking, .again _⟩
    | _ => cases hr

end

/-! ## Room -/

/-- Every delivery that was offered was taken exactly if this channel takes it. -/
def Channel.Answers (ch : Channel) (es : List Exchange) : Prop :=
  ∀ id d taken, ⟨.offer id d, taken⟩ ∈ es → taken = (ch.push d).isSome

/-- What a node of this configuration sends about a datagram: its acknowledgment, if it is for this
node and asks for it. -/
def Config.answer (c : Config) (f : Frame) : List Bytes :=
  if f.header.dst = c.address ∧ Flag.has f.header.flags Flag.noAck = false then
    [(Frame.ackFor f.header c.address).wire c.frame]
  else []

section

variable {n n' : Node} {es : List Exchange} {r : Radio.Reception} {f : Frame} {ch : Channel}
  {event : Except Error PollEvent}

/-- **A delivery is taken exactly if there is a place for it**, in whatever place that is. -/
theorem Delivering.taken_eq {d : Delivery} {taken : Bool} (hs : Delivering n d es n' taken)
    (hch : ch.Answers es) : taken = ((n.store ch).push d).isSome := by
  cases hs with
  | kept hs room => simp [Node.store, hs, Sink.store, Channel.push, room]
  | full hs room => simp [Node.store, hs, Sink.store, Channel.push, room]
  | offered hs taken =>
    rw [Node.store, hs]
    exact hch _ _ _ List.mem_cons_self

/-- What is not taken changes nothing. -/
theorem Delivering.node_eq {d : Delivery} (hs : Delivering n d es n' false) : n' = n := by
  cases hs <;> rfl

/-- **What is sent about a datagram** is settled by its header. -/
theorem Acknowledging.sent_answer {outcome : Except Error Unit}
    (hk : Acknowledging n f.header es n' outcome) (hc : n.config.Valid)
    (hack : f.header.isAck = false) (hok : es.any Exchange.failed = false) :
    es.filterMap Exchange.sent = n.config.answer f := by
  have howed := Node.owesAck_iff hc.address f.header
  simp only [hack, true_and] at howed
  unfold Config.answer
  split
  · rename_i hasks
    have ho : n.owesAck f.header = true := howed.2 hasks.symm
    have hsome := hk.sent_of_modesHold hc.frame ho (modesHold_of_failed hok)
    exact (hk.sent_eq.resolve_left hsome).2
  · rename_i hasks
    refine hk.sent_eq.resolve_right fun hsent => hasks ?_
    exact (howed.1 hsent.1).symm

end

/-! ## What becomes of a datagram -/

namespace Node

/-- The node after a datagram found no room: it is counted, and its signal strength is noted. -/
def overflowing (n : Node) (f : Frame) (rssi : Int) : Node :=
  { n with telemetry := { n.telemetry with
      lastRssi := n.telemetry.lastRssi.insert f.header.src rssi
      deliveryOverflow := n.telemetry.deliveryOverflow + 1 } }

end Node

/-- A datagram is taken in on a radio that does not fail, these frames are sent and these deliveries
handed over, and this is told of it. -/
inductive Judging (n : Node) (r : Radio.Reception) (f : Frame) (ch : Channel) (sent : List Bytes)
    (handed : List Delivery) (n' : Node) : PollEvent → Prop where
  /-- Its number is known. -/
  | duplicate (known : n.lastAccepted.get? f.header.src = some f.header.id)
      (hsent : sent = n.config.answer f) :
      Judging n r f ch sent handed n' (.duplicate f.header.src f.header.id)
  /-- It is new and finds no room. -/
  | overflowed (new : n.lastAccepted.get? f.header.src ≠ some f.header.id)
      (full : (n.store ch).push (f.delivery r.rssi) = none)
      (node : n' = n.overflowing f r.rssi) (hsent : sent = []) (hhanded : handed = []) :
      Judging n r f ch sent handed n' (.overflowed f.header.src f.header.id)
  /-- It is new and finds room. -/
  | delivered (new : n.lastAccepted.get? f.header.src ≠ some f.header.id)
      (room : (n.store ch).push (f.delivery r.rssi) ≠ none)
      (hsent : sent = n.config.answer f) (hhanded : handed = [f.delivery r.rssi]) :
      Judging n r f ch sent handed n' (.delivered f.header.src f.header.id)

section

variable {n n' : Node} {es : List Exchange} {r : Radio.Reception} {f : Frame} {ch : Channel}
  {event : PollEvent}

/-- A reception is a new datagram exactly if its number is not the known one. -/
theorem Node.isDuplicate_eq_false_iff (h : Header) :
    n.isDuplicate h = false ↔ n.lastAccepted.get? h.src ≠ some h.id := by
  rw [Node.isDuplicate, beq_eq_false_iff_ne]

/-- **What becomes of a datagram that is handled.** -/
theorem Handling.judging {outcome : Except Error PollEvent} (hh : Handling n r es n' outcome)
    (hc : n.config.Valid) (ht : n.TakesIn r f) (hack : f.header.isAck = false)
    (hok : es.any Exchange.failed = false)
    (hch : n.lastAccepted.get? f.header.src ≠ some f.header.id → ch.Answers es)
    (htold : outcome = .ok event) :
    Judging n r f ch (es.filterMap Exchange.sent) (es.filterMap Exchange.handed) n' event := by
  cases hh with
  | dropped hf =>
    rw [ht.decoded] at hf
    cases hf
  | filtered hf ha =>
    obtain rfl := ht.eq_of_decode hf
    rw [ht.accepted] at ha
    cases ha
  | matched ht' hack' hw =>
    obtain rfl := ht.eq_of_decode ht'.decoded
    rw [hack] at hack'
    cases hack'
  | ignored ht' hack' hw =>
    obtain rfl := ht.eq_of_decode ht'.decoded
    rw [hack] at hack'
    cases hack'
  | @duplicate g es n' acked ht' hack' hd hk =>
    obtain rfl := ht.eq_of_decode ht'.decoded
    cases acked with
    | error e => cases htold
    | ok u =>
      cases htold
      exact .duplicate (by simpa [Node.isDuplicate] using hd) (hk.sent_answer hc hack hok)
  | @overflowed g es n₁ ht' hack' hd hs =>
    obtain rfl := ht.eq_of_decode ht'.decoded
    cases htold
    have hnew := (Node.isDuplicate_eq_false_iff _).1 hd
    have hfull : ((n.store ch).push (f.delivery r.rssi)).isSome = false :=
      (hs.taken_eq (hch hnew)).symm
    obtain rfl := hs.node_eq
    refine .overflowed hnew (by simpa using hfull) rfl hs.sent_eq ?_
    rw [hs.handed_eq, if_neg Bool.false_ne_true]
  | @delivered g es es' n₁ n' acked ht' hack' hd hs hk =>
    obtain rfl := ht.eq_of_decode ht'.decoded
    have hnew := (Node.isDuplicate_eq_false_iff _).1 hd
    obtain ⟨-, hanswered⟩ := any_failed_append.1 hok
    have hoffered : ch.Answers es := fun id d taken he =>
      hch hnew id d taken (List.mem_append_left _ he)
    have hroom : ((n.store ch).push (f.delivery r.rssi)).isSome = true :=
      (hs.taken_eq hoffered).symm
    have hconfig : (n₁.accept f.header).config = n.config := hs.config_eq
    have hsent := hk.sent_answer (hconfig ▸ hc) hack hanswered
    rw [hconfig] at hsent
    rw [List.filterMap_append, List.filterMap_append, hs.sent_eq, hs.handed_eq, hk.heard.2, hsent]
    cases acked with
    | error e => cases htold
    | ok u =>
      cases htold
      exact .delivered hnew (Option.isSome_iff_ne_none.1 hroom) rfl rfl

/-- **What becomes of a datagram that a stretch takes in.** -/
theorem Stretch.judging {result : Except Error (Turn Activity Reply)}
    (hs : Stretch n es (result, n')) (hc : n.config.Valid)
    (hok : es.any Exchange.failed = false) (hr : es.filterMap Exchange.heard = [r])
    (ht : n.TakesIn r f) (hack : f.header.isAck = false) (ch : Channel)
    (hch : n.lastAccepted.get? f.header.src ≠ some f.header.id → ch.Answers es) :
    ∃ event, Turn.Tells event result ∧ Judging n r f ch (es.filterMap Exchange.sent)
      (es.filterMap Exchange.handed) n' event := by
  obtain ⟨event, htaking, htells⟩ := hs.taking hc.frame hok hr
  obtain @⟨es₁, _, hh, htold, hpart, -, hsent, hhanded⟩ := htaking
  have hworked : es₁.any Exchange.failed = false := by
    rw [List.any_eq_false] at hok ⊢
    exact fun e he => hok e (hpart he)
  have hoffered : n.lastAccepted.get? f.header.src ≠ some f.header.id → ch.Answers es₁ :=
    fun hnew id d taken he => hch hnew id d taken (hpart he)
  refine ⟨event, htells, ?_⟩
  rw [hsent, hhanded]
  exact hh.judging hc ht hack hworked hoffered (htold _ rfl)

end

/-! ## One sender -/

/-- Every datagram of this sender that was taken in at this configuration had this number. -/
def Exchange.Repeating (c : Config) (src : Address) (id : UInt8) (es : List Exchange) : Prop :=
  ∀ r ∈ es.filterMap Exchange.heard, ∀ f, Frame.decode c.frame r.bytes = .ok f →
    c.filter.accepts f.header = true → f.header.isAck = false → f.header.src = src →
      f.header.id = id

/-- **A number stays known** as long as its sender repeats it. -/
theorem upheld_repeating (c : Config) (src : Address) (id : UInt8) :
    Upheld fun es n => n.config = c ∧
      (Exchange.Repeating c src id es → n.lastAccepted.get? src = some id) where
  redirect _ _ _ h := h
  stretch := by
    rintro es n es' result n' ⟨rfl, hknown⟩ hs
    refine ⟨hs.config_eq, fun hrepeating => ?_⟩
    have hbefore : n.lastAccepted.get? src = some id := by
      refine hknown fun r hr => hrepeating r ?_
      rw [List.filterMap_append]
      exact List.mem_append_left _ hr
    rcases hs.handled with hunheard | ⟨r, hhandled⟩
    · rw [hunheard.lastAccepted, hbefore]
    rcases hhandled.accepts_or_declines with ⟨f, ha⟩ | hd
    · rw [ha.lastAccepted]
      by_cases hsrc : f.header.src = src
      · have hr : r ∈ (es ++ es').filterMap Exchange.heard := by
          rw [List.filterMap_append, hhandled.heard]
          simp
        rw [← hrepeating r hr f ha.taken.decoded ha.taken.accepted ha.data hsrc, ← hsrc]
        exact PeerTable.get?_insert_self _ _ _
      · rw [PeerTable.get?_insert_of_ne _ _ (Ne.symm hsrc), hbefore]
    · rw [hd.lastAccepted, hbefore]

/-- A new datagram found no room, and nothing came of it. -/
structure Overflows (n : Node) (r : Radio.Reception) (f : Frame) (es : List Exchange)
    (result : Except Error (Turn Activity Reply)) (n' : Node) : Prop where
  /-- The node counts it and notes its signal strength, and is the same otherwise. -/
  node : n' = n.overflowing f r.rssi
  /-- Nothing is sent. -/
  unsent : es.filterMap Exchange.sent = []
  /-- Nothing is handed over. -/
  unhanded : es.filterMap Exchange.handed = []
  /-- A look at the radio tells of it. -/
  told : Turn.Tells (.overflowed f.header.src f.header.id) result

/-- A new datagram found room and was delivered. -/
structure Delivers (n : Node) (r : Radio.Reception) (f : Frame) (es : List Exchange)
    (result : Except Error (Turn Activity Reply)) (n' : Node) : Prop where
  /-- It is handed over, counted and known from now on. -/
  accepted : Accepts n r f es n'
  /-- It is acknowledged, if it is for this node and asks for that. -/
  sent : es.filterMap Exchange.sent = n.config.answer f
  /-- A look at the radio tells of it. -/
  told : Turn.Tells (.delivered f.header.src f.header.id) result

/-- A datagram came again after it had been delivered. -/
structure Doubles (n : Node) (r : Radio.Reception) (f : Frame) (es : List Exchange)
    (result : Except Error (Turn Activity Reply)) (n' : Node) : Prop where
  /-- It is counted as a duplicate, and not handed over. -/
  repeated : Repeated n.config n r f es n'
  /-- It is acknowledged, if it is for this node and asks for that. -/
  sent : es.filterMap Exchange.sent = n.config.answer f
  /-- A look at the radio tells of it. -/
  told : Turn.Tells (.duplicate f.header.src f.header.id) result

section

variable {n n' : Node} {es : List Exchange} {r : Radio.Reception} {f : Frame} {ch : Channel}
  {result : Except Error (Turn Activity Reply)}

/-- **A new datagram without room leaves no trace.** -/
theorem Stretch.overflows (hs : Stretch n es (result, n')) (hc : n.config.Valid)
    (hok : es.any Exchange.failed = false) (hr : es.filterMap Exchange.heard = [r])
    (ht : n.TakesIn r f) (hack : f.header.isAck = false)
    (hnew : n.lastAccepted.get? f.header.src ≠ some f.header.id) (hch : ch.Answers es)
    (hfull : (n.store ch).push (f.delivery r.rssi) = none) : Overflows n r f es result n' := by
  obtain ⟨event, htells, hjudging⟩ := hs.judging hc hok hr ht hack ch fun _ => hch
  cases hjudging with
  | duplicate known hsent => exact absurd known hnew
  | overflowed new full node hsent hhanded => exact ⟨node, hsent, hhanded, htells⟩
  | delivered new room hsent hhanded => exact absurd hfull room

/-- **With room it is delivered.** -/
theorem Stretch.delivers (hs : Stretch n es (result, n')) (hc : n.config.Valid)
    (hok : es.any Exchange.failed = false) (hr : es.filterMap Exchange.heard = [r])
    (ht : n.TakesIn r f) (hack : f.header.isAck = false)
    (hnew : n.lastAccepted.get? f.header.src ≠ some f.header.id) (hch : ch.Answers es)
    (hroom : (n.store ch).push (f.delivery r.rssi) ≠ none) : Delivers n r f es result n' := by
  obtain ⟨event, htells, hjudging⟩ := hs.judging hc hok hr ht hack ch fun _ => hch
  cases hjudging with
  | duplicate known hsent => exact absurd known hnew
  | overflowed new full node hsent hhanded => exact absurd full hroom
  | delivered new room hsent hhanded =>
    refine ⟨?_, hsent, htells⟩
    rcases (hs.handled_of_heard hr).accepts_or_declines with ⟨g, ha⟩ | hd
    · obtain rfl := ht.eq_of_decode ha.taken.decoded
      exact ha
    · rw [hd.handed] at hhanded
      cases hhanded

/-- **Once it is known it is a duplicate**, and is acknowledged all the same. -/
theorem Stretch.doubles (hs : Stretch n es (result, n')) (hc : n.config.Valid)
    (hok : es.any Exchange.failed = false) (hr : es.filterMap Exchange.heard = [r])
    (ht : n.TakesIn r f) (hack : f.header.isAck = false)
    (hknown : n.lastAccepted.get? f.header.src = some f.header.id) :
    Doubles n r f es result n' := by
  -- Nothing is offered, so any channel will do.
  obtain ⟨event, htells, hjudging⟩ :=
    hs.judging hc hok hr ht hack (.ofCapacity 0) fun hnew => absurd hknown hnew
  cases hjudging with
  | duplicate known hsent =>
    exact ⟨(hs.handled_of_heard hr).repeated hc ht hack hknown, hsent, htells⟩
  | overflowed new full node hsent hhanded => exact absurd hknown new
  | delivered new room hsent hhanded => exact absurd hknown new

end

/-- **A datagram that finds no room leaves no trace, and can be sent again.**  Take a node at any
time of its life, with its own queue or a channel, full or empty or closed, and a datagram that it
takes in and whose number is not the one known of its sender, on a radio that does not fail.

- If there is no room for its delivery, nothing is sent and the node stays as it was, but for a
  count and the signal strength of the sender.
- If there is room, whatever found none before, it is delivered, and acknowledged if it is for this
  node and asks for that.  From then on and as long as its sender sends nothing else, every copy of
  it is a duplicate that is acknowledged again, whether there is room or not. -/
theorem Life.overflows_without_trace {c : Config} {es₀ : List Exchange} {n₀ : Node}
    (hup : Task.Path (bringUp c) es₀ (.done (.ok n₀))) {h : History} {st : Status}
    (hl : Life n₀ h st) {n : Node} (hn : st.node? = some n) {es : List Exchange}
    {result : Except Error (Turn Activity Reply)} {n' : Node} (hs : Stretch n es (result, n'))
    (hok : es.any Exchange.failed = false) {r : Radio.Reception} {f : Frame}
    (hr : es.filterMap Exchange.heard = [r]) (ht : n.TakesIn r f) (hack : f.header.isAck = false)
    (hnew : n.lastAccepted.get? f.header.src ≠ some f.header.id) {ch : Channel}
    (hch : ch.Answers es) :
    ((n.store ch).push (f.delivery r.rssi) = none → Overflows n r f es result n') ∧
    ((n.store ch).push (f.delivery r.rssi) ≠ none → Delivers n r f es result n' ∧
      ∀ h' st' m, (Status.busy (.done (result, n'))).Onward h' st' → st'.node? = some m →
        Exchange.Repeating c f.header.src f.header.id h'.exchanges →
        ∀ es' result' m' r' f', Stretch m es' (result', m') →
          es'.any Exchange.failed = false → es'.filterMap Exchange.heard = [r'] →
          m.TakesIn r' f' → f'.header.isAck = false → f'.header.src = f.header.src →
          f'.header.id = f.header.id → Doubles m r' f' es' result' m') := by
  obtain ⟨hvalid, rfl⟩ := bringUp_path hup
  have hconfig : n.config = c := hl.visible (upheld_config c) rfl hn
  subst hconfig
  refine ⟨hs.overflows hvalid hok hr ht hack hnew hch, fun hroom => ?_⟩
  have hdelivers := hs.delivers hvalid hok hr ht hack hnew hch hroom
  refine ⟨hdelivers, ?_⟩
  intro h' st' m honward hm hrepeating es' result' m' r' f' hs' hok' hr' ht' hack' hsrc hid
  have hconfig : n'.config = n.config := hs.config_eq
  have hafter : (Status.busy (.done (result, n'))).Ends fun es n' => n'.config = n.config ∧
      (Exchange.Repeating n.config f.header.src f.header.id es →
        n'.lastAccepted.get? f.header.src = some f.header.id) := by
    rintro _ _ _ (_ | _)
    refine ⟨hconfig, fun _ => ?_⟩
    rw [hdelivers.accepted.lastAccepted]
    exact PeerTable.get?_insert_self _ _ _
  have hends := honward.upholds (upheld_repeating n.config f.header.src f.header.id) hafter
  obtain ⟨hsame, hknown⟩ := hends.visible hm
  rw [List.append_nil] at hknown
  refine hs'.doubles (hsame ▸ hvalid) hok' hr' ht' hack' ?_
  rw [hsrc, hid]
  exact hknown hrepeating

set_option maxRecDepth 2000 in
/-- A node delivers to a channel that has room for one.  A datagram comes while another delivery is
in it, and leaves no trace.  When that has been collected the datagram comes again and is delivered.
When its delivery fills the channel it comes once more, and is a duplicate. -/
theorem overflows_without_trace_retried :
    ∃ (f : Frame) (d : Delivery) (n n₁ n₂ n₃ : Node) (es₁ es₂ es₃ : List Exchange),
      f = ⟨⟨1, 2, 5, 0⟩, [9]⟩ ∧ n = (Node.fresh {}).withChannel 3 ∧
      (n.store ⟨1, [d], true⟩).push (f.delivery (-40)) = none ∧
      Overflows n ⟨f.wire {}, -40⟩ f es₁ (.ok (.finish (.event (.overflowed 2 5)))) n₁ ∧
      (n₁.store ⟨1, [], true⟩).push (f.delivery (-40)) ≠ none ∧
      Delivers n₁ ⟨f.wire {}, -40⟩ f es₂ (.ok (.finish (.event (.delivered 2 5)))) n₂ ∧
      Doubles n₂ ⟨f.wire {}, -40⟩ f es₃ (.ok (.finish (.event (.duplicate 2 5)))) n₃ := by
  obtain ⟨f, hf⟩ : ∃ f : Frame, f = ⟨⟨1, 2, 5, 0⟩, [9]⟩ := ⟨_, rfl⟩
  obtain ⟨n, hn⟩ : ∃ n, n = (Node.fresh {}).withChannel 3 := ⟨_, rfl⟩
  obtain ⟨n₁, n₂, n₃, hpath₁, hpath₂, hpath₃, hnode₁, hconfig₂⟩ : ∃ n₁ n₂ n₃,
      Task.Path (Operation.poll.start n)
        [⟨.mode, .receive⟩, ⟨.radio .frameReady, .ok true⟩,
          ⟨.radio .receive, .ok (some ⟨f.wire {}, -40⟩)⟩, ⟨.offer 3 (f.delivery (-40)), false⟩,
          ⟨.radio (.setMode .receive), .ok ()⟩]
        (.done (.ok (.finish (.event (.overflowed 2 5))), n₁)) ∧
      Task.Path (Operation.poll.start n₁)
        [⟨.mode, .receive⟩, ⟨.radio .frameReady, .ok true⟩,
          ⟨.radio .receive, .ok (some ⟨f.wire {}, -40⟩)⟩, ⟨.offer 3 (f.delivery (-40)), true⟩,
          ⟨.radio (.setMode .transmit), .ok ()⟩,
          ⟨.radio (.transmit ((Frame.ackFor f.header 1).wire {})), .ok ()⟩,
          ⟨.radio (.setMode .receive), .ok ()⟩, ⟨.radio (.setMode .receive), .ok ()⟩]
        (.done (.ok (.finish (.event (.delivered 2 5))), n₂)) ∧
      Task.Path (Operation.poll.start n₂)
        [⟨.mode, .receive⟩, ⟨.radio .frameReady, .ok true⟩,
          ⟨.radio .receive, .ok (some ⟨f.wire {}, -40⟩)⟩, ⟨.radio (.setMode .transmit), .ok ()⟩,
          ⟨.radio (.transmit ((Frame.ackFor f.header 1).wire {})), .ok ()⟩,
          ⟨.radio (.setMode .receive), .ok ()⟩, ⟨.radio (.setMode .receive), .ok ()⟩]
        (.done (.ok (.finish (.event (.duplicate 2 5))), n₃)) ∧
      n₁ = n.overflowing f (-40) ∧ n₂.config = {} := by
    subst hf hn
    exact ⟨_, _, _, .step (.step (.step (.step (.step (.here _))))),
      .step (.step (.step (.step (.step (.step (.step (.step (.here _)))))))),
      .step (.step (.step (.step (.step (.step (.step (.here _))))))), rfl, rfl⟩
  have hvalid : ({} : Config).frame.Valid := (bringUp_path bringUp_usual).1.frame
  have hdecode : Frame.decode {} (f.wire {}) = .ok f :=
    Frame.decode_wire hvalid (by subst hf; decide)
  have htaken : ∀ m : Node, m.config = {} → m.TakesIn ⟨f.wire {}, -40⟩ f := by
    rintro m hm
    refine ⟨by rwa [hm], ?_⟩
    rw [hm, hf]
    rfl
  have hdata : f.header.isAck = false := by rw [hf]; decide
  have hnew : n.lastAccepted.get? f.header.src ≠ some f.header.id := by
    rw [hn, hf]
    decide
  have hnew₁ : n₁.lastAccepted.get? f.header.src ≠ some f.header.id := by
    rw [hnode₁]
    exact hnew
  have hlife : Life (Node.fresh {}) [] (.resting n) := hn ▸ .redirect 3 .start
  have hlife₁ := hlife.reaches (Operation.Reaches.begun.path hpath₁)
  have hfull : Channel.Answers ⟨1, [f.delivery 0], true⟩
      [⟨.mode, .receive⟩, ⟨.radio .frameReady, .ok true⟩,
        ⟨.radio .receive, .ok (some ⟨f.wire {}, -40⟩)⟩, ⟨.offer 3 (f.delivery (-40)), false⟩,
        ⟨.radio (.setMode .receive), .ok ()⟩] := by
    intro id d taken he
    obtain ⟨⟨rfl, rfl⟩, htaken⟩ : (id = 3 ∧ d = f.delivery (-40)) ∧ taken ≍ false := by
      simpa using he
    exact eq_of_heq htaken
  have hroom : Channel.Answers ⟨1, [], true⟩
      [⟨.mode, .receive⟩, ⟨.radio .frameReady, .ok true⟩,
        ⟨.radio .receive, .ok (some ⟨f.wire {}, -40⟩)⟩, ⟨.offer 3 (f.delivery (-40)), true⟩,
        ⟨.radio (.setMode .transmit), .ok ()⟩,
        ⟨.radio (.transmit ((Frame.ackFor f.header 1).wire {})), .ok ()⟩,
        ⟨.radio (.setMode .receive), .ok ()⟩, ⟨.radio (.setMode .receive), .ok ()⟩] := by
    intro id d taken he
    obtain ⟨⟨rfl, rfl⟩, htaken⟩ : (id = 3 ∧ d = f.delivery (-40)) ∧ taken ≍ true := by
      simpa using he
    exact eq_of_heq htaken
  obtain ⟨hover, -⟩ := Life.overflows_without_trace bringUp_usual hlife rfl (.start .poll hpath₁)
    rfl rfl (htaken n (by rw [hn]; rfl)) hdata hnew hfull
  obtain ⟨-, hagain⟩ := Life.overflows_without_trace bringUp_usual hlife₁ rfl (.start .poll hpath₂)
    rfl rfl (htaken n₁ (by rw [hnode₁, hn]; rfl)) hdata hnew₁ hroom
  have hsink : (n.store ⟨1, [f.delivery 0], true⟩).push (f.delivery (-40)) = none := by
    rw [hn]
    rfl
  have hsink₁ : (n₁.store ⟨1, [], true⟩).push (f.delivery (-40)) ≠ none := by
    rw [hnode₁, hn]
    exact Option.some_ne_none _
  obtain ⟨hdelivers, hcopies⟩ := hagain hsink₁
  have hdoubles := hcopies [] _ n₂ .here rfl (by simp [Exchange.Repeating, History.exchanges]) _ _
    n₃ _ f (.start .poll hpath₃) rfl rfl (htaken n₂ hconfig₂) hdata rfl rfl
  subst hf
  exact ⟨_, _, n, n₁, n₂, n₃, _, _, _, rfl, hn, hsink, hover hsink, hsink₁, hdelivers, hdoubles⟩

end Link
end PacketRadio
