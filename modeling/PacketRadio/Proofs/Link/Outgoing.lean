/-
# What a node sends as a matter of routine

rflink specification, §4.5: the counters of what is sent.

Beside its own datagrams a node sends acknowledgments, one for each that is
owed.  As long as no call to the radio fails it counts each of them, and a
frame that can be written goes on the air exactly once.

| relation | sends | counts |
| --- | --- | --- |
| `Sending` | its frame | nothing |
| `Posting` | its frame | a copy of a datagram |
| `Acknowledging` | what is owed | an acknowledgment |
| `Delivering`, `Timing` | nothing | nothing that is sent |
| `Polling`, `Watching` | what is owed | acknowledgments |

Main statements: `Polling.routine`, `Watching.routine` and `Posting.counted`.
-/

import PacketRadio.Proofs.Link.Turns

namespace PacketRadio
namespace Link

open PacketRadio.Link.Action

/-- How often bytes were put on the air in some exchanges. -/
def Exchange.aired (es : List Exchange) : Nat :=
  (es.filterMap sent).length

@[simp] theorem Exchange.aired_nil : aired [] = 0 := rfl

@[simp] theorem Exchange.aired_append (es es' : List Exchange) :
    aired (es ++ es') = aired es + aired es' := by
  simp [aired]

theorem Exchange.aired_cons (e : Exchange) (es : List Exchange) :
    aired (e :: es) = e.sent.toList.length + aired es := by
  cases h : e.sent <;> simp [aired, h, Nat.add_comm]

/-! ## Looking at the radio -/

/-- From one node to the other so many acknowledgments were sent and counted, and of what was sent
nothing else has changed. -/
structure Node.Acks (n : Node) (k : Nat) (n' : Node) : Prop where
  /-- The configuration is the same. -/
  config : n'.config = n.config
  /-- As many copies of datagrams are counted. -/
  data : n'.telemetry.dataSent = n.telemetry.dataSent
  /-- As many of them as repeated. -/
  retries : n'.telemetry.retries = n.telemetry.retries
  /-- As many sends as given up. -/
  failed : n'.telemetry.failed = n.telemetry.failed
  /-- The acknowledgments are counted. -/
  acks : n'.telemetry.acksSent = n.telemetry.acksSent + k
  /-- A send is pending if one was. -/
  pending : n'.pending.isSome = n.pending.isSome
  /-- An acknowledgment that was waited for is counted when it resolves the send. -/
  acked : n'.telemetry.acksReceived + n.heeded.toNat = n.telemetry.acksReceived + n'.heeded.toNat

/-- A node goes on without a failure of its own, and sends nothing but acknowledgments. -/
structure Routine {α : Type} (n : Node) (es : List Exchange) (n' : Node) (r : Except Error α) :
    Prop where
  /-- The radio is not brought up again. -/
  requests : ∀ e ∈ es, Traffic.Permits e.request
  /-- Unless the radio fails, all goes well and what is sent is counted. -/
  counted : es.any Exchange.failed = false → (∃ a, r = .ok a) ∧ n.Acks (Exchange.aired es) n'

section

variable {n n' n'' : Node} {es es' : List Exchange} {k k' : Nat}

theorem Node.Acks.refl (n : Node) : n.Acks 0 n := ⟨rfl, rfl, rfl, rfl, rfl, rfl, rfl⟩

theorem Node.Acks.trans (h : n.Acks k n') (h' : n'.Acks k' n'') : n.Acks (k + k') n'' where
  config := h'.config.trans h.config
  data := h'.data.trans h.data
  retries := h'.retries.trans h.retries
  failed := h'.failed.trans h.failed
  acks := by rw [h'.acks, h.acks, Nat.add_assoc]
  pending := h'.pending.trans h.pending
  acked := by
    have hfirst := h.acked
    have hsecond := h'.acked
    omega

/-- Neither does a delivery that is given out. -/
theorem Node.Acks.popped (n : Node) : n.Acks 0 { n with sink := n.sink.pop.2 } :=
  ⟨rfl, rfl, rfl, rfl, rfl, rfl, rfl⟩

theorem any_failed_append : (es ++ es').any Exchange.failed = false ↔
    es.any Exchange.failed = false ∧ es'.any Exchange.failed = false := by
  rw [List.any_append, Bool.or_eq_false_iff]

theorem Sending.permitted {c : Frame.Config} {f : Frame} {r : Except Error Unit}
    (hs : Sending c f es r) : ∀ e ∈ es, Traffic.Permits e.request := by
  cases hs <;> simp [Traffic.Permits]

/-- **A frame that can be written is sent once**, unless the radio fails. -/
theorem Sending.once {c : Frame.Config} {f : Frame} {r : Except Error Unit}
    (hs : Sending c f es r) (hc : c.Valid) (hf : f.payload.length ≤ c.maxPayload)
    (hfailed : es.any Exchange.failed = false) : r = .ok () ∧ Exchange.aired es = 1 := by
  have hencode : f.encode c = .ok (f.wire c) :=
    (Frame.encode_eq_ok_iff _ _ _).2 ⟨hc.preamble, by rwa [hc.payloadLimit_eq], rfl⟩
  cases hs with
  | unwritten hw =>
    rw [hencode] at hw
    cases hw
  | refused hw failure => cases hfailed
  | aired hw sent restored =>
    cases sent with
    | error failure => cases hfailed
    | ok u =>
      cases restored with
      | error failure => cases hfailed
      | ok u => exact ⟨rfl, rfl⟩

/-- What is owed is acknowledged and counted. -/
theorem Acknowledging.routine {h : Header} {r : Except Error Unit}
    (hk : Acknowledging n h es n' r) (hc : n.config.frame.Valid) : Routine n es n' r := by
  have hsize : (Frame.ackFor h n.address).payload.length ≤ n.config.frame.maxPayload :=
    Nat.zero_le _
  cases hk with
  | unowed ho => exact ⟨by simp, fun _ => ⟨⟨(), rfl⟩, .refl n⟩⟩
  | failed ho hs =>
    refine ⟨hs.permitted, fun hfailed => ?_⟩
    obtain ⟨herror, -⟩ := hs.once hc hsize hfailed
    cases herror
  | sent ho hs =>
    refine ⟨hs.permitted, fun hfailed => ?_⟩
    obtain ⟨-, hone⟩ := hs.once hc hsize hfailed
    rw [hone]
    exact ⟨⟨(), rfl⟩, rfl, rfl, rfl, rfl, rfl, rfl, rfl⟩

theorem Delivering.routine {d : Delivery} {taken : Bool} (hs : Delivering n d es n' taken) :
    (∀ e ∈ es, Traffic.Permits e.request) ∧ Exchange.aired es = 0 ∧ n.Acks 0 n' := by
  cases hs with
  | kept hs room => exact ⟨by simp [Traffic.Permits], rfl, rfl, rfl, rfl, rfl, rfl, rfl, rfl⟩
  | full hs room => exact ⟨by simp, rfl, .refl n⟩
  | offered hs taken => exact ⟨by simp [Traffic.Permits], rfl, .refl n⟩

/-- What is counted beside a reception does not matter for what is sent. -/
theorem Node.Acks.hearing (f : Frame) (rssi : Int) (n : Node) : n.Acks 0 (n.hearing f rssi) :=
  ⟨rfl, rfl, rfl, rfl, rfl, rfl, rfl⟩

/-- **The acknowledgment that is waited for** resolves the send and is counted. -/
theorem Node.Acks.resolve {h : Header} (hw : n.awaits h = true) : n.Acks 0 n.resolve := by
  have hpending : ∃ p, n.pending = some p ∧ p.acked = false := by
    unfold Node.awaits at hw
    cases hp : n.pending with
    | none => simp [hp] at hw
    | some p =>
      refine ⟨p, rfl, ?_⟩
      simp only [hp, Bool.and_eq_true, Bool.not_eq_true'] at hw
      exact hw.2.1.1
  obtain ⟨p, hp, hunacked⟩ := hpending
  refine ⟨rfl, rfl, rfl, rfl, rfl, ?_, ?_⟩
  · simp [Node.resolve]
  · simp [Node.resolve, Node.heeded, hp, hunacked]

/-- **What becomes of a reception** is acknowledged and counted. -/
theorem Handling.routine {r : Radio.Reception} {event : Except Error PollEvent}
    (hh : Handling n r es n' event) (hc : n.config.frame.Valid) : Routine n es n' event := by
  have hnothing : ∀ {n' : Node} {event : PollEvent}, n.Acks 0 n' →
      Routine n [] n' (.ok event) := fun h => ⟨by simp, fun _ => ⟨⟨_, rfl⟩, h⟩⟩
  cases hh with
  | dropped hf => exact hnothing ⟨rfl, rfl, rfl, rfl, rfl, rfl, rfl⟩
  | filtered hf ha => exact hnothing ⟨rfl, rfl, rfl, rfl, rfl, rfl, rfl⟩
  | @matched f ht hack hw =>
    have hheard := Node.Acks.hearing f r.rssi n
    exact hnothing (hheard.trans (Node.Acks.resolve (h := f.header) hw))
  | ignored ht hack hw => exact hnothing ⟨rfl, rfl, rfl, rfl, rfl, rfl, rfl⟩
  | @duplicate f es n' acked ht hack hd hk =>
    have hbefore : n.Acks 0
        ((n.hearing f r.rssi).count fun t => { t with duplicates := t.duplicates + 1 }) :=
      ⟨rfl, rfl, rfl, rfl, rfl, rfl, rfl⟩
    have hroutine := hk.routine hc
    refine ⟨hroutine.requests, fun hfailed => ?_⟩
    obtain ⟨⟨u, rfl⟩, hacks⟩ := hroutine.counted hfailed
    have hboth := hbefore.trans hacks
    rw [Nat.zero_add] at hboth
    exact ⟨⟨_, rfl⟩, hboth⟩
  | @overflowed f es n' ht hack hd hs =>
    obtain ⟨hrequests, hnone, hacks⟩ := hs.routine
    have hafter : n'.Acks 0
        (n'.count fun t => { t with deliveryOverflow := t.deliveryOverflow + 1 }) :=
      ⟨rfl, rfl, rfl, rfl, rfl, rfl, rfl⟩
    refine ⟨hrequests, fun _ => ⟨⟨_, rfl⟩, ?_⟩⟩
    rw [hnone]
    exact ((Node.Acks.hearing f r.rssi n).trans hacks).trans hafter
  | @delivered f es es' n₁ n' acked ht hack hd hs hk =>
    obtain ⟨hrequests, hnone, hacks⟩ := hs.routine
    have haccept : n₁.Acks 0 (n₁.accept f.header) := ⟨rfl, rfl, rfl, rfl, rfl, rfl, rfl⟩
    have hbefore := ((Node.Acks.hearing f r.rssi n).trans hacks).trans haccept
    have hroutine := hk.routine (by rw [hbefore.config]; exact hc)
    refine ⟨fun e he => ?_, fun hfailed => ?_⟩
    · rcases List.mem_append.1 he with he | he
      · exact hrequests e he
      · exact hroutine.requests e he
    · obtain ⟨⟨u, rfl⟩, hacked⟩ := hroutine.counted (any_failed_append.1 hfailed).2
      have hboth := hbefore.trans hacked
      rw [Nat.zero_add] at hboth
      rw [Exchange.aired_append, hnone, Nat.zero_add]
      exact ⟨⟨_, rfl⟩, hboth⟩

/-- Exchanges that send nothing, before and after. -/
theorem Routine.around {α β : Type} {r : Except Error α} {r' : Except Error β}
    (h : Routine n es n' r) {pre post : List Exchange}
    (before : (∀ e ∈ pre, Traffic.Permits e.request) ∧ Exchange.aired pre = 0)
    (after : (∀ e ∈ post, Traffic.Permits e.request) ∧ Exchange.aired post = 0)
    (hr : (pre ++ es ++ post).any Exchange.failed = false → ∀ a, r = .ok a → ∃ b, r' = .ok b) :
    Routine n (pre ++ es ++ post) n' r' := by
  refine ⟨fun e he => ?_, fun hfailed => ?_⟩
  · rcases List.mem_append.1 he with he | he
    · rcases List.mem_append.1 he with he | he
      · exact before.1 e he
      · exact h.requests e he
    · exact after.1 e he
  · obtain ⟨⟨a, ha⟩, hacks⟩ :=
      h.counted (any_failed_append.1 (any_failed_append.1 hfailed).1).2
    rw [Exchange.aired_append, Exchange.aired_append, before.2, after.2, Nat.zero_add,
      Nat.add_zero]
    exact ⟨hr hfailed a ha, hacks⟩

theorem Fetching.routine {event : Except Error PollEvent} (hf : Fetching n es n' event)
    (hc : n.config.frame.Valid) : Routine n es n' event := by
  cases hf with
  | failed failure => exact ⟨by simp [Traffic.Permits], nofun⟩
  | nothing => exact ⟨by simp [Traffic.Permits], fun _ => ⟨⟨_, rfl⟩, .refl n⟩⟩
  | @taken r es n' event hh =>
    have hroutine : Routine n ([⟨.radio .receive, .ok (some r)⟩] ++ es ++ []) n' event :=
      (hh.routine hc).around ⟨by simp [Traffic.Permits], rfl⟩ ⟨by simp, rfl⟩
        fun _ a ha => ⟨a, ha⟩
    rwa [List.append_nil] at hroutine

theorem Looking.routine {event : Except Error PollEvent} (hl : Looking n es n' event)
    (hc : n.config.frame.Valid) : Routine n es n' event := by
  cases hl with
  | failed failure => exact ⟨by simp [Traffic.Permits], nofun⟩
  | nothing => exact ⟨by simp [Traffic.Permits], fun _ => ⟨⟨_, rfl⟩, .refl n⟩⟩
  | @ready es n' event hf restored =>
    have hready : (∀ e ∈ [⟨.radio .frameReady, .ok true⟩], Traffic.Permits (Exchange.request e)) ∧
        Exchange.aired [⟨.radio .frameReady, .ok true⟩] = 0 := ⟨by simp [Traffic.Permits], rfl⟩
    refine (hf.routine hc).around hready ⟨by simp [Traffic.Permits], rfl⟩ ?_
    rintro hfailed a rfl
    cases restored with
    | error failure => simp [Exchange.failed] at hfailed
    | ok u => exact ⟨a, rfl⟩

/-- **A look at the radio** acknowledges what is owed, and counts that. -/
theorem Polling.routine {event : Except Error PollEvent} (hp : Polling n es n' event)
    (hc : n.config.frame.Valid) : Routine n es n' event := by
  cases hp with
  | deaf hm failure =>
    refine ⟨by simp [Traffic.Permits], fun hfailed => ?_⟩
    simp [Exchange.failed] at hfailed
  | @roused m hm es n' event hl =>
    have hroutine : Routine n ([⟨.mode, m⟩, ⟨.radio (.setMode .receive), .ok ()⟩] ++ es ++ []) n'
        event :=
      (hl.routine hc).around ⟨by simp [Traffic.Permits], rfl⟩ ⟨by simp, rfl⟩
        fun _ a ha => ⟨a, ha⟩
    rwa [List.append_nil] at hroutine
  | @awake es n' event hl =>
    have hroutine : Routine n ([⟨.mode, .receive⟩] ++ es ++ []) n' event :=
      (hl.routine hc).around ⟨by simp [Traffic.Permits], rfl⟩ ⟨by simp, rfl⟩
        fun _ a ha => ⟨a, ha⟩
    rwa [List.append_nil] at hroutine

/-- So does one with a pause. -/
theorem Watching.routine {length : Nat} {r : Except Error Unit} (hw : Watching n length es n' r)
    (hc : n.config.frame.Valid) : Routine n es n' r := by
  cases hw with
  | @failed es n' e hp =>
    have hroutine := hp.routine hc
    refine ⟨hroutine.requests, fun hfailed => ?_⟩
    obtain ⟨⟨event, hevent⟩, -⟩ := hroutine.counted hfailed
    cases hevent
  | @taken es n' event hp he =>
    have hroutine := hp.routine hc
    exact ⟨hroutine.requests, fun hfailed => ⟨⟨(), rfl⟩, (hroutine.counted hfailed).2⟩⟩
  | @paused es n' hp =>
    have hroutine : Routine n ([] ++ es ++ [⟨.sleep length, ()⟩]) n' (.ok ()) :=
      (hp.routine hc).around ⟨by simp, rfl⟩ ⟨by simp [Traffic.Permits], rfl⟩
        fun _ _ _ => ⟨(), rfl⟩
    rwa [List.nil_append] at hroutine

theorem Timing.routine {deadline : Deadline} {rest : Option Nat} (ht : Timing deadline es rest) :
    (∀ e ∈ es, Traffic.Permits e.request) ∧ Exchange.aired es = 0 := by
  cases ht with
  | endless => exact ⟨by simp, rfl⟩
  | read instant t => exact ⟨by simp [Traffic.Permits], rfl⟩

/-- A look at the radio when there is time left. -/
theorem Timing.before {deadline : Deadline} {rest : Option Nat} (ht : Timing deadline es rest)
    {r : Except Error Unit} (hr : Routine n es' n' r) : Routine n (es ++ es') n' r := by
  have hroutine : Routine n (es ++ es' ++ []) n' r :=
    hr.around ht.routine ⟨by simp, rfl⟩ fun _ a ha => ⟨a, ha⟩
  rwa [List.append_nil] at hroutine

theorem Watching.config_eq {length : Nat} {r : Except Error Unit} (hw : Watching n length es n' r) :
    n'.config = n.config := by
  obtain ⟨looked, pause, event, -, hp, -⟩ := hw.polling
  exact hp.config_eq

theorem Posting.permitted {f : Frame} {r : Except Error Unit} (hp : Posting n f es n' r) :
    ∀ e ∈ es, Traffic.Permits e.request := by
  cases hp with
  | failed hs => exact hs.permitted
  | posted hs => exact hs.permitted

theorem Posting.config_eq {f : Frame} {r : Except Error Unit} (hp : Posting n f es n' r) :
    n'.config = n.config := by
  cases hp <;> rfl

/-- **A copy that is sent is counted**, unless the radio fails. -/
theorem Posting.counted {f : Frame} {r : Except Error Unit} (hp : Posting n f es n' r)
    (hc : n.config.frame.Valid) (hf : f.payload.length ≤ n.config.frame.maxPayload)
    (hfailed : es.any Exchange.failed = false) : r = .ok () ∧ Exchange.aired es = 1 ∧
      n' = n.count fun t => { t with dataSent := t.dataSent + 1 } := by
  cases hp with
  | failed hs =>
    obtain ⟨herror, -⟩ := hs.once hc hf hfailed
    cases herror
  | posted hs => exact ⟨rfl, (hs.once hc hf hfailed).2, rfl⟩

end

end Link
end PacketRadio
