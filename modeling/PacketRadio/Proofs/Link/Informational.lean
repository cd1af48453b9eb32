/-
# Flag bits that say nothing to a node

rflink specification, §3: `RETRY` and the reserved bits never change
acceptance or acknowledgment.

Two flag bits say something to the node that receives a frame: `ACK` and
`NO_ACK`.  The others, `RETRY` among them, go into the delivery and nowhere
else.  Two runs in which frames come with other such bits are alike
(`Likeness`): they differ in the flags of deliveries and in nothing else.

| bytes of a reception | in the other run |
| --- | --- |
| before the header | the same |
| destination, source, id | the same |
| flags | the same `ACK` and `NO_ACK`, any other bits |
| length and payload | the same |
| checksum | that of the other bytes |
| of no frame | the same |

Main statement: `Status.Course.flags_informational`.
-/

import PacketRadio.Proofs.Frame.RoundTrip
import PacketRadio.Proofs.Link.Likeness
import PacketRadio.Proofs.Link.Served

namespace PacketRadio

/-! ## Other flags in the same place -/

namespace Frame

/-- What is left after the sync word is shorter by the sync word at least. -/
theorem afterSync_length {sync : SyncWord} {window : Nat} {data body : Bytes}
    (h : afterSync sync window data = some body) : body.length + syncSize ≤ data.length := by
  fun_induction afterSync sync window data with
  | case1 window a b rest hsync =>
    obtain rfl := Option.some.inj h
    simp [syncSize]
  | case2 a b rest hsync => cases h
  | case3 a b rest hsync window ih =>
    have hrest := ih h
    simp only [List.length_cons] at hrest ⊢
    omega
  | case4 => cases h

/-- **The sync word is found in the same place**, whatever comes after it. -/
theorem afterSync_lead {sync : SyncWord} {window : Nat} {lead body : Bytes} (body' : Bytes)
    (h : afterSync sync window (lead ++ body) = some body) :
    afterSync sync window (lead ++ body') = some body' := by
  induction lead generalizing window with
  | nil =>
    have hlength := afterSync_length h
    simp only [List.nil_append, syncSize] at hlength
    omega
  | cons a lead ih =>
    cases lead with
    | nil =>
      have hlength := afterSync_length h
      simp only [List.cons_append, List.nil_append, List.length_cons, syncSize] at hlength
      omega
    | cons b lead =>
      simp only [List.cons_append] at h ⊢
      unfold afterSync at h ⊢
      split at h
      · rename_i hsync
        have hbody : lead ++ body = body := Option.some.inj h
        obtain rfl : lead = [] := by simpa using hbody
        rw [if_pos hsync]
        rfl
      · rename_i hsync
        rw [if_neg hsync]
        cases window with
        | zero => cases h
        | succ window => exact ih h

/-- **A frame is read where another with as much payload was.** -/
theorem decode_lead {c : Config} {lead : Bytes} {f f' : Frame}
    (h : decode c (lead ++ f.body) = .ok f) (hpayload : f'.payload = f.payload) :
    decode c (lead ++ f'.body) = .ok f' := by
  unfold decode at h ⊢
  split at h
  · cases h
  · rename_i body hsync
    obtain ⟨rfl, hlimit⟩ := body_of_parse h
    have hlimit' : f'.payload.length ≤ c.payloadLimit := by rw [hpayload]; exact hlimit
    have hlength : f'.payload.length ≤ lengthLimit := Nat.le_trans hlimit' (Nat.min_le_right _ _)
    rw [afterSync_lead f'.body hsync]
    simp only [parseBody_body hlength, if_neg (Nat.not_lt.2 hlimit')]

end Frame

namespace Link

/-- Runs in which frames come with any other bits than `ACK` and `NO_ACK`. -/
def Likeness.informational (frame : Frame.Config) : Likeness where
  frame := frame
  flags f f' := f' &&& (Flag.ack ||| Flag.noAck) = f &&& (Flag.ack ||| Flag.noAck)
  counters t t' := t' = t
  refl _ := rfl
  acks := by
    intro f f' h
    have hpart : ∀ mask : UInt8, (Flag.ack ||| Flag.noAck) &&& mask = mask →
        Flag.has f' mask = Flag.has f mask := by
      intro mask hmask
      rw [Flag.has, Flag.has, ← hmask, ← UInt8.and_assoc, ← UInt8.and_assoc, h]
    exact ⟨hpart Flag.ack (by decide), hpart Flag.noAck (by decide)⟩
  counted k _ _ h := congrArg k h

section

variable {c : Frame.Config} {n : Node} {st st' : Status} {os os' : List (Option Occurrence)}

/-- **A frame with other such bits, and the checksum that goes with them**, in the place of one that
can be read. -/
theorem Likeness.Receptions.of_lead {lead : Bytes} {f f' : Frame}
    (hread : Frame.decode c (lead ++ f.body) = .ok f)
    (hf : (Likeness.informational c).Frames f f') (rssi : Int) :
    (Likeness.informational c).Receptions ⟨lead ++ f.body, rssi⟩ ⟨lead ++ f'.body, rssi⟩ :=
  ⟨rfl, .inr ⟨f, f', hread, Frame.decode_lead hread hf.payload, hf⟩⟩

/-- A node is like itself. -/
theorem Likeness.Nodes.informational (n : Node) :
    (Likeness.informational n.config.frame).Nodes n n := by
  have hsink : ∀ s : Sink, (Likeness.informational n.config.frame).Sinks s s := by
    rintro (⟨capacity, w⟩ | id)
    · exact .queue capacity (List.forall₂_same.2 fun d _ => .refl d)
    · exact .channel id
  exact ⟨rfl, rfl, rfl, rfl, rfl, hsink n.sink, rfl⟩

/-- The call to the radio that was made. -/
def Occurrence.call? : Occurrence → Option Radio.Call
  | .exchanged ⟨.radio call, _⟩ => some call
  | _ => none

/-- The calls to the radio in a course. -/
def Status.Course.calls (os : List (Option Occurrence)) : List Radio.Call :=
  os.filterMap fun o => o.bind Occurrence.call?

/-- Courses that are alike make the same calls. -/
theorem Likeness.Occurrences.calls {L : Likeness}
    (h : List.Forall₂ (Option.Rel L.Occurrences) os os') :
    Status.Course.calls os' = Status.Course.calls os := by
  have hcall : ∀ {o o' : Option Occurrence}, Option.Rel L.Occurrences o o' →
      o'.bind Occurrence.call? = o.bind Occurrence.call? := by
    intro o o' ho
    cases ho with
    | none => rfl
    | some h =>
      cases h with
      | began op => rfl
      | ended h => rfl
      | exchanged h => cases h <;> rfl
  induction h with
  | nil => rfl
  | cons ho hos ih =>
    simp only [Status.Course.calls, List.filterMap_cons, hcall ho] at ih ⊢
    rw [ih]

/-- Of two statuses that are alike, either both can be looked at or none. -/
theorem Likeness.Statuses.between {L : Likeness} {m : Node} (h : L.Statuses st st')
    (hm : st.between? = some m) : ∃ m', st'.between? = some m' ∧ L.Nodes m m' := by
  rcases h.kinds with ⟨n, n', rfl, rfl, hn⟩ | ⟨r, next, r', next', rfl, rfl, -, -⟩ |
    ⟨r, n, r', n', rfl, rfl, hr, hn⟩
  · obtain rfl := Option.some.inj hm
    exact ⟨n', rfl, hn⟩
  · cases hm
  · cases hr with
    | error e => cases hm
    | ok ht =>
      cases ht with
      | again a =>
        obtain rfl := Option.some.inj hm
        exact ⟨n', rfl, hn⟩
      | finish hreply => cases hm

/-- **`RETRY` and the reserved bits are informational.**  Let a node, in any state, run twice, with
the same operations asked for and the same answers given, but that frames may come with other such
bits.  Then in every step the two runs do the same: they begin the same operation, make the same
request but for the flags of deliveries, or end with the same result but for those.  They make the
same calls to the radio, with the same bytes.  And whenever the node can be looked at, it is the
same but for the flags of the deliveries that wait. -/
theorem Status.Course.flags_informational (hc : (Status.resting n).Course os st)
    (hc' : (Status.resting n).Course os' st')
    (hsame : List.Forall₂ (Likeness.informational n.config.frame).Prompts os os') :
    List.Forall₂ (Option.Rel (Likeness.informational n.config.frame).Occurrences) os os' ∧
    Status.Course.calls os' = Status.Course.calls os ∧
    (Likeness.informational n.config.frame).Statuses st st' ∧
    ∀ m, st.between? = some m → ∃ m', st'.between? = some m' ∧
      m'.lastAccepted = m.lastAccepted ∧ m'.pending = m.pending ∧ m'.nextId = m.nextId ∧
      m'.telemetry = m.telemetry ∧ m'.config = m.config ∧
      m'.queued.length = m.queued.length ∧
      List.Forall₂ (Likeness.informational n.config.frame).Deliveries m.queued m'.queued := by
  have hself : (Likeness.informational n.config.frame).Statuses (.resting n) (.resting n) :=
    Likeness.Nodes.informational n
  obtain ⟨halike, hstatus⟩ := hself.course hc hc' hsame
  refine ⟨halike, Likeness.Occurrences.calls halike, hstatus, fun m hm => ?_⟩
  obtain ⟨m', hm', hnodes⟩ := hstatus.between hm
  have hqueued : List.Forall₂ (Likeness.informational n.config.frame).Deliveries
      m.queued m'.queued := by
    have hsink := hnodes.sink
    unfold Node.queued
    generalize m.sink = s at hsink ⊢
    generalize m'.sink = s' at hsink ⊢
    cases hsink with
    | queue capacity h => exact h
    | channel id => exact .nil
  exact ⟨m', hm', hnodes.lastAccepted, hnodes.pending, hnodes.nextId, hnodes.telemetry,
    hnodes.config, hqueued.length_eq.symm, hqueued⟩

end

set_option maxRecDepth 2000 in
/-- A node looks at its radio and hands over what it found there.  In one run the datagram comes
without flags, in the other with `RETRY` and a reserved bit; the node acknowledges it with the same
bytes, and the deliveries have the flags that they came with. -/
theorem flags_informational_retry :
    ∃ (f f' : Frame) (os os' : List (Option Occurrence)) (st st' : Status),
      f = ⟨⟨1, 2, 5, 0⟩, [9]⟩ ∧ f' = ⟨⟨1, 2, 5, 0x84⟩, [9]⟩ ∧
      (Status.resting (Node.fresh {})).Course os st ∧
      (Status.resting (Node.fresh {})).Course os' st' ∧
      List.Forall₂ (Likeness.informational {}).Prompts os os' ∧
      os.getLast? = some (some (.ended (.ok (.delivery (some (f.delivery (-40))))))) ∧
      os'.getLast? = some (some (.ended (.ok (.delivery (some (f'.delivery (-40))))))) ∧
      .transmit ((Frame.ackFor f.header 1).wire {}) ∈ Status.Course.calls os ∧
      Status.Course.calls os' = Status.Course.calls os := by
  obtain ⟨f, hf⟩ : ∃ f : Frame, f = ⟨⟨1, 2, 5, 0⟩, [9]⟩ := ⟨_, rfl⟩
  obtain ⟨f', hf'⟩ : ∃ f' : Frame, f' = ⟨⟨1, 2, 5, 0x84⟩, [9]⟩ := ⟨_, rfl⟩
  let taking (g : Frame) : List Exchange :=
    [⟨.mode, .receive⟩, ⟨.radio .frameReady, .ok true⟩,
      ⟨.radio .receive, .ok (some ⟨g.wire {}, -40⟩)⟩, ⟨.kept (g.delivery (-40)), ()⟩,
      ⟨.radio (.setMode .transmit), .ok ()⟩,
      ⟨.radio (.transmit ((Frame.ackFor g.header 1).wire {})), .ok ()⟩,
      ⟨.radio (.setMode .receive), .ok ()⟩, ⟨.radio (.setMode .receive), .ok ()⟩]
  let occurrences (g : Frame) : List (Option Occurrence) :=
    some (.began .poll) :: (taking g).map (fun e => some (.exchanged e)) ++
      [some (.ended (.ok (.event (.delivered 2 5)))), some (.began .recv),
        some (.ended (.ok (.delivery (some (g.delivery (-40))))))]
  -- Either frame is taken, and then handed over.
  have hcourse : ∀ g : Frame, g = f ∨ g = f' →
      ∃ st, (Status.resting (Node.fresh {})).Course (occurrences g) st := by
    intro g hg
    obtain ⟨n₁, n₂, hpath, hrecv⟩ : ∃ n₁ n₂,
        Task.Path (Operation.poll.start (Node.fresh {})) (taking g)
          (.done (.ok (.finish (.event (.delivered 2 5))), n₁)) ∧
        Operation.recv.start n₁ =
          .done (.ok (.finish (.delivery (some (g.delivery (-40))))), n₂) := by
      rcases hg with rfl | rfl
      · subst hf
        exact ⟨_, _, .step (.step (.step (.step (.step (.step (.step (.step (.here _)))))))), rfl⟩
      · subst hf'
        exact ⟨_, _, .step (.step (.step (.step (.step (.step (.step (.step (.here _)))))))), rfl⟩
    refine ⟨.resting n₂, .step (.begin _ .poll) ((Status.Course.path hpath).trans ?_)⟩
    refine .step (.finish _ n₁) (.step (.begin n₁ .recv) ?_)
    rw [hrecv]
    exact .step (.finish _ n₂) (.here _)
  obtain ⟨st, hc⟩ := hcourse f (.inl rfl)
  obtain ⟨st', hc'⟩ := hcourse f' (.inr rfl)
  have hframes : (Likeness.informational {}).Frames f f' := by
    subst hf hf'
    exact ⟨⟨rfl, rfl, rfl, rfl⟩, rfl⟩
  have hread : Frame.decode {} (f.wire {}) = .ok f :=
    Frame.decode_wire (bringUp_path bringUp_usual).1.frame (by subst hf; decide)
  have hreceived := Likeness.Receptions.of_lead hread hframes (-40)
  have hdelivery := hframes.delivery (-40)
  have hack : Frame.ackFor f'.header 1 = Frame.ackFor f.header 1 := hframes.header.ackFor 1
  have hsame : List.Forall₂ (Likeness.informational {}).Prompts (occurrences f)
      (occurrences f') := by
    have hexchanges : List.Forall₂ (Likeness.informational {}).Exchanges (taking f)
        (taking f') := by
      have hacked : (Likeness.informational {}).Exchanges
          ⟨.radio (.transmit ((Frame.ackFor f.header 1).wire {})), .ok ()⟩
          ⟨.radio (.transmit ((Frame.ackFor f'.header 1).wire {})), .ok ()⟩ := by
        rw [hack]
        exact .same _
      exact .cons (.same _) (.cons (.same _) (.cons (.received hreceived) (.cons (.kept hdelivery)
        (.cons (.same _) (.cons hacked (.cons (.same _) (.cons (.same _) .nil)))))))
    have hlast := Likeness.Outcomes.ok (Likeness.Replies.delivery hdelivery)
    have hevent := Likeness.Outcomes.ok
      (Likeness.Replies.same (L := .informational {}) (.event (.delivered 2 5)))
    refine List.Forall₂.imp (fun _ _ => Likeness.Prompts.of_occurrences)
      (.cons (.some (.began .poll)) (List.rel_append ?_ ?_))
    · exact List.rel_map (fun _ _ he => .some (.exchanged he)) hexchanges
    · exact .cons (.some (.ended hevent)) (.cons (.some (.began .recv))
        (.cons (.some (.ended hlast)) .nil))
  obtain ⟨-, hcalls, -, -⟩ := Status.Course.flags_informational hc hc' hsame
  exact ⟨f, f', _, _, st, st', hf, hf', hc, hc', hsame, rfl, rfl, by simp [occurrences, taking,
    Status.Course.calls, Occurrence.call?], hcalls⟩

end Link
end PacketRadio
