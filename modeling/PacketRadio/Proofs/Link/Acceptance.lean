/-
# What a node has accepted

rflink specification, §4.4: a duplicate has the last accepted id of its
sender.

The numbers that a node knows are those of the deliveries it made: from each
sender the last one.  So a datagram counts as a duplicate exactly if its number
is that of the latest delivery from its sender, and no two deliveries in a row
from one sender have one number.

A delivery is recorded together with the reception that it came from.  If its
acknowledgment can not be sent, or the radio can not be told to listen again,
it has been made all the same; when the datagram comes again it is a duplicate
and is acknowledged.

Main statement: `Life.knows_deliveries`.
-/

import PacketRadio.Proofs.Link.Answering

namespace PacketRadio
namespace Link

open PacketRadio.Link.Action

/-! ## What is known -/

/-- The node knows the latest number from each sender, and none came twice in a row. -/
structure Node.Knows (n : Node) (ds : List Delivery) : Prop where
  /-- It knows the latest number. -/
  table : ∀ a, n.lastAccepted.get? a = (idsFrom a ds).getLast?
  /-- No number came twice in a row. -/
  ids : ∀ a, (idsFrom a ds).IsChain (· ≠ ·)

/-- A delivery was made, of this frame and in this stretch. -/
structure Accepts (n : Node) (r : Radio.Reception) (f : Frame) (es : List Exchange) (n' : Node) :
    Prop where
  /-- The frame is taken in. -/
  taken : n.TakesIn r f
  /-- It is no acknowledgment. -/
  data : f.header.isAck = false
  /-- Its number is not the one that is known. -/
  new : n.lastAccepted.get? f.header.src ≠ some f.header.id
  /-- It alone is handed over. -/
  handed : es.filterMap Exchange.handed = [f.delivery r.rssi]
  /-- Its number is known from now on. -/
  lastAccepted : n'.lastAccepted = n.lastAccepted.insert f.header.src f.header.id
  /-- It is counted. -/
  counted : Raises (some .delivered) n.telemetry n'.telemetry
  /-- It waits in the node's own queue, if the node has one. -/
  queued : ∀ capacity waiting, n.sink = .queue capacity waiting →
    n'.sink = .queue capacity (waiting ++ [f.delivery r.rssi])

/-- The reception is a datagram whose number is the one that is known. -/
def Node.Repeats (n : Node) (r : Radio.Reception) : Prop :=
  ∃ f, n.TakesIn r f ∧ f.header.isAck = false ∧
    n.lastAccepted.get? f.header.src = some f.header.id

/-- No delivery was made in this stretch, in which the reception was taken. -/
structure Declines (n : Node) (r : Radio.Reception) (es : List Exchange) (n' : Node) : Prop where
  /-- Nothing is handed over. -/
  handed : es.filterMap Exchange.handed = []
  /-- The same numbers are known. -/
  lastAccepted : n'.lastAccepted = n.lastAccepted
  /-- The reception is counted as something else, and as a duplicate if it is one. -/
  counted : ∃ k, Raises (some k) n.telemetry n'.telemetry ∧ k ≠ .delivered ∧
    (k = .duplicates ↔ n.Repeats r)

section

variable {n n' : Node} {es : List Exchange} {r : Radio.Reception} {f : Frame} {c : Config}
  {ds : List Delivery}

/-- **Nothing is known of a sender from whom nothing was delivered.** -/
theorem Node.knows_fresh (c : Config) : (Node.fresh c).Knows [] :=
  ⟨fun _ => PeerTable.get?_empty _, fun _ => List.isChain_nil⟩

theorem Node.Knows.congr (h : n.Knows ds) (hknown : n'.lastAccepted = n.lastAccepted) :
    n'.Knows ds :=
  ⟨fun a => hknown ▸ h.table a, h.ids⟩

/-- **A delivery with another number than the last is known from now on.** -/
theorem Node.Knows.concat (h : n.Knows ds) {d : Delivery}
    (hnew : n.lastAccepted.get? d.src ≠ some d.id)
    (hknown : n'.lastAccepted = n.lastAccepted.insert d.src d.id) : n'.Knows (ds ++ [d]) := by
  constructor
  case table =>
    intro a
    rw [hknown, idsFrom_append, idsFrom_singleton]
    split
    · rename_i ha
      subst ha
      simp
    · rename_i ha
      rw [PeerTable.get?_insert_of_ne _ _ (Ne.symm ha), h.table, List.append_nil]
  case ids => exact idsFrom_isChain_concat h.ids fun hlast => hnew ((h.table _).trans hlast)

/-! ## Handling -/

/-- A reception from which this frame can be read repeats what is known if the frame does. -/
theorem Node.TakesIn.repeats_iff (h : n.TakesIn r f) (hack : f.header.isAck = false) :
    n.Repeats r ↔ n.isDuplicate f.header = true := by
  rw [Node.isDuplicate, beq_iff_eq]
  constructor
  · rintro ⟨g, hg, -, hlast⟩
    obtain rfl := h.eq_of_decode hg.decoded
    exact hlast
  · exact fun hlast => ⟨f, h, hack, hlast⟩

theorem Delivering.lastAccepted_eq {d : Delivery} {taken : Bool}
    (hs : Delivering n d es n' taken) : n'.lastAccepted = n.lastAccepted := by
  cases hs <;> rfl

/-- What is taken by the node's own queue waits there. -/
theorem Delivering.queued {d : Delivery} (hs : Delivering n d es n' true) {capacity : Nat}
    {waiting : List Delivery} (hqueue : n.sink = .queue capacity waiting) :
    n'.sink = .queue capacity (waiting ++ [d]) := by
  cases hs with
  | kept hs room =>
    obtain ⟨rfl, rfl⟩ := Sink.queue.inj (hs.symm.trans hqueue)
    rfl
  | offered hs taken => rw [hs] at hqueue; cases hqueue

/-- **Whatever reception is handled, a delivery is made and recorded, or neither.** -/
theorem Handling.accepts_or_declines {event : Except Error PollEvent}
    (hh : Handling n r es n' event) : (∃ f, Accepts n r f es n') ∨ Declines n r es n' := by
  cases hh with
  | dropped hf =>
    refine .inr ⟨rfl, rfl, _, raises_record _ _, by simp, ?_⟩
    simp only [reduceCtorEq, false_iff]
    rintro ⟨f, ht, -⟩
    rw [ht.decoded] at hf
    cases hf
  | filtered hf ha =>
    refine .inr ⟨rfl, rfl, .filtered, fun k => by cases k <;> rfl, by simp, ?_⟩
    simp only [reduceCtorEq, false_iff]
    rintro ⟨f, ht, -⟩
    obtain rfl := ht.eq_of_decode hf
    rw [ht.accepted] at ha
    cases ha
  | matched ht hack hw =>
    refine .inr ⟨rfl, rfl, .acksReceived, fun k => by cases k <;> rfl, by simp, ?_⟩
    simp only [reduceCtorEq, false_iff]
    rintro ⟨f, hf, hdata, -⟩
    obtain rfl := ht.eq_of_decode hf.decoded
    rw [hack] at hdata
    cases hdata
  | ignored ht hack hw =>
    refine .inr ⟨rfl, rfl, .unmatchedAcks, fun k => by cases k <;> rfl, by simp, ?_⟩
    simp only [reduceCtorEq, false_iff]
    rintro ⟨f, hf, hdata, -⟩
    obtain rfl := ht.eq_of_decode hf.decoded
    rw [hack] at hdata
    cases hdata
  | duplicate ht hack hd hk =>
    have hraised := (n.raises_duplicates _ _).trans_right hk.kept.counters
    refine .inr ⟨hk.heard.2, hk.kept.lastAccepted, _, hraised, by simp, ?_⟩
    simp only [true_iff]
    exact (ht.repeats_iff hack).2 hd
  | @overflowed f es n₁ ht hack hd hs =>
    refine .inr ⟨hs.handed_eq, hs.lastAccepted_eq, .overflow, fun k => ?_, by simp, ?_⟩
    · have htelemetry := hs.telemetry_eq
      cases k <;> simp [Telemetry.tally, Node.count, htelemetry, Node.hearing]
    · simp [ht.repeats_iff hack, hd]
  | @delivered f es es' n₁ n' acked ht hack hd hs hk =>
    refine .inl ⟨f, ht, hack, by simpa [Node.isDuplicate] using hd, ?_, ?_, ?_, ?_⟩
    · rw [List.filterMap_append, hs.handed_eq, hk.heard.2]
      rfl
    · rw [hk.kept.lastAccepted, Node.accept, hs.lastAccepted_eq]
      rfl
    · exact (hs.raises_delivered _).trans_right hk.kept.counters
    · intro capacity waiting hqueue
      exact hk.kept.sink.trans (hs.queued hqueue)

/-! ## In a stretch -/

theorem Node.TakesIn.congr (h : n'.TakesIn r f) (hconfig : n'.config = n.config) : n.TakesIn r f :=
  ⟨hconfig ▸ h.decoded, hconfig ▸ h.accepted⟩

theorem Node.Repeats.congr (h : n'.Repeats r) (hconfig : n'.config = n.config)
    (hknown : n'.lastAccepted = n.lastAccepted) : n.Repeats r :=
  let ⟨f, ht, hack, hlast⟩ := h
  ⟨f, ht.congr hconfig, hack, hknown ▸ hlast⟩

/-- Idling before and after changes nothing about that. -/
theorem Handled.accepts_or_declines (h : Handled n r es n') :
    (∃ f, Accepts n r f es n') ∨ Declines n r es n' := by
  obtain ⟨hbefore, hh, hafter, -, -, -, hhanded⟩ := h
  rcases hh.accepts_or_declines with ⟨f, ha⟩ | hd
  · refine .inl ⟨f, ha.taken.congr hbefore.config, ha.data, ?_, ?_, ?_, ?_, ?_⟩
    · exact hbefore.lastAccepted ▸ ha.new
    · exact hhanded.trans ha.handed
    · rw [hafter.lastAccepted, ha.lastAccepted, hbefore.lastAccepted]
    · exact (hbefore.counters.trans_left ha.counted).trans_right hafter.counters
    · intro capacity waiting hqueue
      exact hafter.sink.trans (ha.queued capacity waiting (hbefore.sink.trans hqueue))
  · obtain ⟨k, hraised, hk, hrepeats⟩ := hd.counted
    refine .inr ⟨hhanded.trans hd.handed, ?_, k, ?_, hk,
      hrepeats.trans ⟨fun hr => ?_, fun hr => ?_⟩⟩
    · rw [hafter.lastAccepted, hd.lastAccepted, hbefore.lastAccepted]
    · exact (hbefore.counters.trans_left hraised).trans_right hafter.counters
    · exact hr.congr hbefore.config hbefore.lastAccepted
    · exact hr.congr hbefore.config.symm hbefore.lastAccepted.symm

/-- **A reception that repeats what is known is a duplicate**, and no other is. -/
theorem Handled.duplicates_iff (h : Handled n r es n') :
    Raises (some .duplicates) n.telemetry n'.telemetry ↔ n.Repeats r := by
  rcases h.accepts_or_declines with ⟨f, ha⟩ | hd
  · constructor
    · intro hraised
      cases ha.counted.unique hraised
    · rintro ⟨g, hg, -, hlast⟩
      obtain rfl := ha.taken.eq_of_decode hg.decoded
      exact absurd hlast ha.new
  · obtain ⟨k, hraised, -, hrepeats⟩ := hd.counted
    rw [← hrepeats]
    exact ⟨fun hduplicates => hduplicates.unique hraised, fun hk => hk ▸ hraised⟩

/-- A node goes on knowing what it should. -/
theorem Node.Knows.stretch (h : n.Knows ds) {result : Except Error (Turn Activity Reply)}
    (hs : Stretch n es (result, n')) : n'.Knows (ds ++ es.filterMap Exchange.handed) := by
  rcases hs.handled with hunheard | ⟨r, hhandled⟩
  · rw [hunheard.handed, List.append_nil]
    exact h.congr hunheard.lastAccepted
  · rcases hhandled.accepts_or_declines with ⟨f, ha⟩ | hd
    · rw [ha.handed]
      exact h.concat ha.new ha.lastAccepted
    · rw [hd.handed, List.append_nil]
      exact h.congr hd.lastAccepted

end

/-! ## All its life -/

/-- What becomes of a datagram that comes again, whose number is the one that is known. -/
structure Repeated (c : Config) (n : Node) (r : Radio.Reception) (f : Frame) (es : List Exchange)
    (n' : Node) : Prop where
  /-- It is counted as a duplicate. -/
  counted : Raises (some .duplicates) n.telemetry n'.telemetry
  /-- It is not delivered. -/
  declined : Declines n r es n'
  /-- It is acknowledged once more, if it is for this node and asks for that. -/
  acknowledged : f.header.dst = c.address → Flag.has f.header.flags Flag.noAck = false →
    ModesHold es → ∃ wire, es.filterMap Exchange.sent = [wire] ∧
      Frame.decode c.frame wire = .ok ⟨⟨f.header.src, c.address, f.header.id, Flag.ack⟩, []⟩

/-- What becomes of a reception, when these deliveries were made before. -/
structure Judged (c : Config) (n : Node) (ds : List Delivery) (r : Radio.Reception)
    (es : List Exchange) (n' : Node) : Prop where
  /-- A delivery is made, counted, recorded and queued, or none of that. -/
  settled : (∃ f, Accepts n r f es n') ∨ Declines n r es n'
  /-- It is delivered exactly if it is counted so. -/
  delivered : Raises (some .delivered) n.telemetry n'.telemetry ↔ ∃ f, Accepts n r f es n'
  /-- What is counted in any other way changes nothing that is known. -/
  unchanged : ∀ k, Raises (some k) n.telemetry n'.telemetry → k ≠ .delivered →
    n'.lastAccepted = n.lastAccepted
  /-- A datagram that is taken in is a duplicate exactly if its number is that of the latest
  delivery from its sender. -/
  duplicate : ∀ f, n.TakesIn r f → f.header.isAck = false →
    (Raises (some .duplicates) n.telemetry n'.telemetry ↔
      (idsFrom f.header.src ds).getLast? = some f.header.id)
  /-- A duplicate is acknowledged like the first copy. -/
  again : ∀ f, n.TakesIn r f → f.header.isAck = false →
    (idsFrom f.header.src ds).getLast? = some f.header.id → Repeated c n r f es n'

section

variable {c : Config} {n n' : Node} {es : List Exchange} {r : Radio.Reception} {f : Frame}
  {ds : List Delivery}

theorem Handled.repeated (h : Handled n r es n') (hc : n.config.Valid) (ht : n.TakesIn r f)
    (hack : f.header.isAck = false) (hlast : n.lastAccepted.get? f.header.src = some f.header.id) :
    Repeated n.config n r f es n' := by
  refine ⟨h.duplicates_iff.2 ⟨f, ht, hack, hlast⟩, ?_, fun hhere hasks hmodes => ?_⟩
  · rcases h.accepts_or_declines with ⟨g, ha⟩ | hd
    · obtain rfl := ht.eq_of_decode ha.taken.decoded
      exact absurd hlast ha.new
    · exact hd
  · have hacks := h.acknowledges hc
    have hsent : es.filterMap Exchange.sent ≠ [] :=
      (hacks.due hmodes).2 ⟨f, ht.decoded, hack, hasks, hhere, .inr hlast⟩
    obtain ⟨wire, rest, hsent⟩ := List.exists_cons_of_ne_nil hsent
    have hone := hacks.once
    rw [hsent, List.length_cons] at hone
    obtain rfl : rest = [] := List.eq_nil_of_length_eq_zero (by omega)
    obtain ⟨g, hdue, hwire⟩ := hacks.ack wire (by simp [hsent])
    obtain rfl := ht.eq_of_decode hdue.decoded
    exact ⟨wire, hsent, hwire⟩

theorem Handled.judged (h : Handled n r es n') (hc : n.config.Valid) (hn : n.Knows ds) :
    Judged n.config n ds r es n' where
  settled := h.accepts_or_declines
  delivered := by
    refine ⟨fun hraised => h.accepts_or_declines.resolve_right fun hd => ?_,
      fun ⟨f, ha⟩ => ha.counted⟩
    obtain ⟨k, hk, hne, -⟩ := hd.counted
    exact hne (hraised.unique hk)
  unchanged k hk hne := by
    rcases h.accepts_or_declines with ⟨f, ha⟩ | hd
    · exact absurd (ha.counted.unique hk) hne
    · exact hd.lastAccepted
  duplicate f ht hack := by
    rw [h.duplicates_iff, ht.repeats_iff hack, Node.isDuplicate, beq_iff_eq, hn.table]
  again f ht hack hlast := h.repeated hc ht hack ((hn.table _).trans hlast)

end

/-- Every stretch keeps a node in the know. -/
theorem upheld_knows (c : Config) :
    Upheld fun es n => n.config = c ∧ n.Knows (es.filterMap Exchange.handed) where
  redirect _ _ _ h := ⟨h.1, h.2.table, h.2.ids⟩
  stretch := by
    rintro es n es' r n' ⟨rfl, hn⟩ hs
    refine ⟨hs.config_eq, ?_⟩
    rw [List.filterMap_append]
    exact hn.stretch hs

/-- **A node knows exactly what it has delivered**, all its life: from each sender the number of the
latest delivery, and none comes twice in a row.  So it tells duplicates by it, in every stretch that
takes a reception; a delivery that it makes is recorded even if the stretch fails, and the next copy
of it is a duplicate. -/
theorem Life.knows_deliveries {c : Config} {es₀ : List Exchange} {n₀ : Node}
    (hup : Task.Path (bringUp c) es₀ (.done (.ok n₀))) {h : History} {st : Status}
    (hl : Life n₀ h st) :
    (st.Ends fun es n => n.Knows ((h.exchanges ++ es).filterMap Exchange.handed)) ∧
    ∀ n, st.node? = some n → ∀ es result n', Stretch n es (result, n') →
      (es.filterMap Exchange.heard = [] → n'.lastAccepted = n.lastAccepted ∧
        es.filterMap Exchange.handed = []) ∧
      ∀ r, es.filterMap Exchange.heard = [r] →
        Judged c n (h.exchanges.filterMap Exchange.handed) r es n' ∧
        ∀ f, Accepts n r f es n' → ∀ es' result' n'' r' f', Stretch n' es' (result', n'') →
          es'.filterMap Exchange.heard = [r'] → n'.TakesIn r' f' → f'.header.isAck = false →
            f'.header.src = f.header.src → f'.header.id = f.header.id →
              Repeated c n' r' f' es' n'' := by
  obtain ⟨hvalid, rfl⟩ := bringUp_path hup
  have hends := hl.upholds (upheld_knows c) ⟨rfl, Node.knows_fresh c⟩
  refine ⟨hends.imp fun _ _ hn => hn.2, fun n hn es result n' hs => ?_⟩
  obtain ⟨rfl, hknows⟩ := hends.visible hn
  rw [List.append_nil] at hknows
  refine ⟨fun hnone => ?_, fun r hr => ?_⟩
  · rcases hs.handled with hunheard | ⟨r, hhandled⟩
    · exact ⟨hunheard.lastAccepted, hunheard.handed⟩
    · rw [hhandled.heard] at hnone
      cases hnone
  · have hhandled := hs.handled_of_heard hr
    refine ⟨hhandled.judged hvalid hknows, ?_⟩
    intro f ha es' result' n'' r' f' hs' hr' ht' hack' hsrc hid
    have hconfig : n'.config = n.config := hs.config_eq
    have hlast : n'.lastAccepted.get? f'.header.src = some f'.header.id := by
      rw [ha.lastAccepted, hsrc, hid]
      exact PeerTable.get?_insert_self _ _ _
    exact hconfig ▸ (hs'.handled_of_heard hr').repeated (hconfig ▸ hvalid) ht' hack' hlast

set_option maxRecDepth 2000 in
/-- A fresh node takes a datagram from node 2, and its radio goes off the air over the
acknowledgment.  The next copy of the datagram is a duplicate and is acknowledged. -/
theorem knows_deliveries_interrupted :
    ∃ (f f' : Frame) (es es' : List Exchange) (n' n'' : Node),
      f = ⟨⟨1, 2, 5, 0⟩, [9]⟩ ∧ f' = ⟨⟨1, 2, 5, Flag.retry⟩, [9]⟩ ∧
      Stretch (Node.fresh {}) es (.error (.radio .shutdown), n') ∧
      es.filterMap Exchange.heard = [⟨f.wire {}, -40⟩] ∧
      Accepts (Node.fresh {}) ⟨f.wire {}, -40⟩ f es n' ∧
      Repeated {} n' ⟨f'.wire {}, -40⟩ f' es' n'' := by
  obtain ⟨f, hf⟩ : ∃ f : Frame, f = ⟨⟨1, 2, 5, 0⟩, [9]⟩ := ⟨_, rfl⟩
  obtain ⟨f', hf'⟩ : ∃ f' : Frame, f' = ⟨⟨1, 2, 5, Flag.retry⟩, [9]⟩ := ⟨_, rfl⟩
  obtain ⟨n', n'', hpath, hpath', hconfig⟩ : ∃ n' n'',
      Task.Path (Operation.poll.start (Node.fresh {}))
        [⟨.mode, .receive⟩, ⟨.radio .frameReady, .ok true⟩,
          ⟨.radio .receive, .ok (some ⟨f.wire {}, -40⟩)⟩, ⟨.kept (f.delivery (-40)), ()⟩,
          ⟨.radio (.setMode .transmit), .ok ()⟩,
          ⟨.radio (.transmit ((Frame.ackFor f.header 1).wire {})), .error .shutdown⟩,
          ⟨.radio (.setMode .receive), .ok ()⟩, ⟨.radio (.setMode .receive), .error .shutdown⟩]
        (.done (.error (.radio .shutdown), n')) ∧
      Task.Path (Operation.poll.start n')
        [⟨.mode, .receive⟩, ⟨.radio .frameReady, .ok true⟩,
          ⟨.radio .receive, .ok (some ⟨f'.wire {}, -40⟩)⟩,
          ⟨.radio (.setMode .transmit), .ok ()⟩,
          ⟨.radio (.transmit ((Frame.ackFor f'.header 1).wire {})), .ok ()⟩,
          ⟨.radio (.setMode .receive), .ok ()⟩, ⟨.radio (.setMode .receive), .ok ()⟩]
        (.done (.ok (.finish (.event (.duplicate 2 5))), n'')) ∧ n'.config = {} := by
    subst hf hf'
    exact ⟨_, _, .step (.step (.step (.step (.step (.step (.step (.step (.here _)))))))),
      .step (.step (.step (.step (.step (.step (.step (.here _))))))), rfl⟩
  have hs := Stretch.start .poll hpath
  have hs' := Stretch.start .poll hpath'
  have hlife := (Life.knows_deliveries bringUp_usual .start).2 _ rfl _ _ _ hs
  obtain ⟨hjudged, hagain⟩ := hlife.2 _ rfl
  obtain ⟨g, ha⟩ := hjudged.settled.resolve_right fun hd => by cases hd.handed
  have hvalid : ({} : Config).frame.Valid := (bringUp_path bringUp_usual).1.frame
  have hdecode : Frame.decode {} (f.wire {}) = .ok f :=
    Frame.decode_wire hvalid (by subst hf; decide)
  have hdecode' : Frame.decode {} (f'.wire {}) = .ok f' :=
    Frame.decode_wire hvalid (by subst hf'; decide)
  obtain rfl : g = f := Except.ok.inj (ha.taken.decoded.symm.trans hdecode)
  have htaken : n'.TakesIn ⟨f'.wire {}, -40⟩ f' :=
    ⟨hconfig ▸ hdecode', by rw [hconfig, hf']; rfl⟩
  have hrepeated := hagain g ha _ _ n'' _ f' hs' rfl htaken (by rw [hf']; decide)
    (by rw [hf, hf']) (by rw [hf, hf'])
  exact ⟨g, f', _, _, n', n'', hf, hf', hs, rfl, ha, hrepeated⟩

end Link
end PacketRadio
