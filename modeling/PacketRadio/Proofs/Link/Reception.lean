/-
# What becomes of a reception

rflink specification, §4.4: inbound frames.

For each part of the way of a frame that comes in, a relation lists all that
can happen: the exchanges, the node afterwards and the result, one constructor
for each case.  Nothing is left out and no answer is ruled out, so what a look
at the radio does on any radio is found by cases on `Polling`.

| relation | of |
| --- | --- |
| `Sending` | a frame that is sent |
| `Acknowledging` | the acknowledgment of a datagram, if one is owed |
| `Delivering` | a delivery that is offered to the sink |
| `Handling` | a reception |
| `Fetching`, `Looking`, `Polling` | a look at the radio, from its last part to the whole |

Main statements: `handle_goes` and `poll_goes`.
-/

import PacketRadio.Proofs.Link.Ledger

namespace PacketRadio
namespace Link

open PacketRadio.Link.Action

/-! ## Exchanges on record -/

/-- The contract that records every exchange and forbids none. -/
def verbatim : Contract (List Exchange) :=
  ⟨fun es e => es ++ [e], fun _ _ => True⟩

@[simp] theorem verbatim_note (es : List Exchange) (e : Exchange) :
    verbatim.note es e = es ++ [e] := rfl

@[simp] theorem verbatim_permits (es : List Exchange) (r : Request) :
    verbatim.permits es r ↔ True := Iff.rfl

theorem foldl_verbatim (es es' : List Exchange) :
    es'.foldl verbatim.note es = es ++ es' := by
  induction es' generalizing es with
  | nil => simp
  | cons e es' ih => simp [ih]

/-- The record of a tree only grows at its end. -/
theorem Task.keeps_verbatim {α : Type} {t : Task α} {es : List Exchange}
    {Q : List Exchange → α → Prop} :
    t.Keeps verbatim es Q ↔ t.Keeps verbatim [] fun es' a => Q (es ++ es') a := by
  have hfrom : ∀ (t : Task α) (es es₀ : List Exchange),
      t.Keeps verbatim (es ++ es₀) Q ↔ t.Keeps verbatim es₀ fun es' a => Q (es ++ es') a := by
    intro t
    induction t with
    | done a => exact fun es es₀ => Iff.rfl
    | ask r next ih =>
      intro es es₀
      simp only [Task.Keeps, verbatim_note, verbatim_permits, true_and, List.append_assoc, ih]
  simpa using hfrom t es []

namespace Action

variable {α β : Type}

/-- However the action goes from a node, the exchanges, the node that it leaves and its result are
as `P` says. -/
abbrev Goes (x : Action α) (n : Node) (P : List Exchange → Node → Except Error α → Prop) : Prop :=
  x.Keeps verbatim [] n P

variable {x : Action α} {n n' : Node} {P : List Exchange → Node → Except Error α → Prop}

/-- **What an action does, along every path that it can take.** -/
theorem Goes.path (h : x.Goes n P) {es : List Exchange} {r : Except Error α}
    (hp : Task.Path (x n) es (.done (r, n'))) : P es n' r := by
  have hP := Task.Keeps.path h hp
  rwa [foldl_verbatim, List.nil_append] at hP

/-- What an action does after some exchanges is what it does, with those in front. -/
theorem Goes.after {es : List Exchange} (h : x.Goes n fun es' => P (es ++ es')) :
    x.Keeps verbatim es n P :=
  Task.keeps_verbatim.2 h

/-- **One action after another.** -/
theorem Goes.bind {f : α → Action β} {Q : List Exchange → Node → Except Error β → Prop}
    (hx : x.Goes n P)
    (hf : ∀ es n₁ a, P es n₁ (.ok a) → (f a).Goes n₁ fun es' => Q (es ++ es'))
    (herror : ∀ es n₁ e, P es n₁ (.error e) → Q es n₁ (.error e)) : (x >>= f).Goes n Q :=
  Keeps.bind hx (fun es n₁ a h => (hf es n₁ a h).after) herror

end Action

/-! ## Sending and acknowledging -/

/-- A frame is written and sent. -/
inductive Sending (c : Frame.Config) (f : Frame) : List Exchange → Except Error Unit → Prop where
  /-- It cannot be written. -/
  | unwritten {e : Frame.Error} (hw : f.encode c = .error e) : Sending c f [] (.error (.frame e))
  /-- The radio does not switch to sending. -/
  | refused {wire : Bytes} (hw : f.encode c = .ok wire) (failure : Radio.Failure) :
      Sending c f [⟨.radio (.setMode .transmit), .error failure⟩] (.error (.radio failure))
  /-- The radio is given the bytes and then switched back, and either may fail. -/
  | aired {wire : Bytes} (hw : f.encode c = .ok wire) (sent restored : Except Radio.Failure Unit) :
      Sending c f [⟨.radio (.setMode .transmit), .ok ()⟩, ⟨.radio (.transmit wire), sent⟩,
          ⟨.radio (.setMode .receive), restored⟩]
        ((sent.mapError .radio).bind fun _ => restored.mapError .radio)

/-- The acknowledgment of a datagram is sent if it is owed. -/
inductive Acknowledging (n : Node) (h : Header) :
    List Exchange → Node → Except Error Unit → Prop where
  /-- It is not owed. -/
  | unowed (ho : n.owesAck h = false) : Acknowledging n h [] n (.ok ())
  /-- It is owed, and sending it goes wrong. -/
  | failed {es : List Exchange} {e : Error} (ho : n.owesAck h = true)
      (hs : Sending n.config.frame (Frame.ackFor h n.address) es (.error e)) :
      Acknowledging n h es n (.error e)
  /-- It is owed and sent. -/
  | sent {es : List Exchange} (ho : n.owesAck h = true)
      (hs : Sending n.config.frame (Frame.ackFor h n.address) es (.ok ())) :
      Acknowledging n h es (n.count fun t => { t with acksSent := t.acksSent + 1 }) (.ok ())

theorem transmit_goes (f : Frame) (n : Node) :
    (transmit f).Goes n fun es n' r => n' = n ∧ Sending n.config.frame f es r := by
  simp only [transmit, keeps_bind, keeps_node, onward_ok]
  split
  · rename_i e hw
    exact ⟨rfl, .unwritten hw⟩
  · rename_i wire hw
    refine (keeps_bind _ _).2 ((keeps_setMode _).2 ⟨trivial, fun a => ?_⟩)
    cases a with
    | error failure => exact ⟨rfl, .refused hw failure⟩
    | ok u =>
      simp only [Except.mapError, onward_ok, keeps_bind, keeps_attempt, keeps_setMode,
        keeps_ofExcept]
      refine ⟨trivial, fun sent => ⟨trivial, fun restored => ?_⟩⟩
      have hsent := Sending.aired hw sent restored
      cases sent with
      | error failure => exact ⟨rfl, hsent⟩
      | ok u => exact ⟨rfl, hsent⟩

/-- What is owed is acknowledged. -/
theorem acknowledge_goes {h : Header} {n : Node} {owed : Bool} (e : PollEvent)
    (howed : n.owesAck h = owed) :
    (if owed then sendAck h >>= fun _ => pure e else pure e : Action PollEvent).Goes n
      fun es n' r => ∃ r', Acknowledging n h es n' r' ∧ r = r'.map fun _ => e := by
  subst howed
  split
  · rename_i ho
    simp only [sendAck, keeps_bind, keeps_node, onward_ok]
    refine (transmit_goes _ n).imp ?_
    rintro es n' (failure | u) ⟨rfl, hs⟩
    · exact ⟨_, .failed ho hs, rfl⟩
    · exact ⟨_, .sent ho hs, rfl⟩
  · rename_i ho
    exact ⟨_, .unowed (Bool.eq_false_iff.2 ho), rfl⟩

/-! ## Delivering -/

/-- A delivery is offered to the sink, which takes it or not. -/
inductive Delivering (n : Node) (d : Delivery) : List Exchange → Node → Bool → Prop where
  /-- The node's own queue has room. -/
  | kept {capacity : Nat} {waiting : List Delivery} (hs : n.sink = .queue capacity waiting)
      (room : waiting.length < capacity) :
      Delivering n d [⟨.kept d, ()⟩] { n with sink := .queue capacity (waiting ++ [d]) } true
  /-- It has none. -/
  | full {capacity : Nat} {waiting : List Delivery} (hs : n.sink = .queue capacity waiting)
      (room : capacity ≤ waiting.length) : Delivering n d [] n false
  /-- A channel has the say. -/
  | offered {channel : Nat} (hs : n.sink = .channel channel) (taken : Bool) :
      Delivering n d [⟨.offer channel d, taken⟩] n taken

theorem deliver_goes (d : Delivery) (n : Node) :
    (deliver d).Goes n fun es n' r => ∃ taken, r = .ok taken ∧ Delivering n d es n' taken := by
  simp only [deliver, keeps_bind, keeps_node, onward_ok]
  split
  · rename_i channel hs
    exact ⟨trivial, fun taken => ⟨taken, rfl, .offered hs taken⟩⟩
  · rename_i capacity waiting hs
    split
    · exact ⟨trivial, fun _ => ⟨true, rfl, .kept hs ‹_›⟩⟩
    · exact ⟨false, rfl, .full hs (Nat.le_of_not_lt ‹_›)⟩

/-! ## Handling -/

namespace Node

/-- The reception is a frame that the node takes in. -/
structure TakesIn (n : Node) (r : Radio.Reception) (f : Frame) : Prop where
  /-- It can be read. -/
  decoded : Frame.decode n.config.frame r.bytes = .ok f
  /-- It is for the node, for everyone, or the node listens to all. -/
  accepted : n.config.filter.accepts f.header = true

/-- Only one frame can be read from a reception. -/
theorem TakesIn.eq_of_decode {n : Node} {r : Radio.Reception} {f g : Frame} (h : n.TakesIn r f)
    (hg : Frame.decode n.config.frame r.bytes = .ok g) : f = g :=
  Except.ok.inj (h.decoded.symm.trans hg)

/-- The node after a frame that it takes in, before anything comes of that. -/
def hearing (n : Node) (f : Frame) (rssi : Int) : Node :=
  n.count fun t => { t with lastRssi := t.lastRssi.insert f.header.src rssi }

end Node

/-- A reception is handled. -/
inductive Handling (n : Node) (r : Radio.Reception) :
    List Exchange → Node → Except Error PollEvent → Prop where
  /-- It is no frame. -/
  | dropped {defect : Frame.Defect} (hf : Frame.decode n.config.frame r.bytes = .error defect) :
      Handling n r [] (n.count fun t => { t with dropped := t.dropped.record defect.kind })
        (.ok (.dropped defect.kind))
  /-- It is a frame for another node. -/
  | filtered {f : Frame} (hf : Frame.decode n.config.frame r.bytes = .ok f)
      (ha : n.config.filter.accepts f.header = false) :
      Handling n r [] (n.count fun t => { t with filtered := t.filtered + 1 })
        (.ok (.filtered f.header.dst))
  /-- It is the acknowledgment that the pending send waits for. -/
  | matched {f : Frame} (ht : n.TakesIn r f) (hack : f.header.isAck = true)
      (hw : n.awaits f.header = true) :
      Handling n r [] (n.hearing f r.rssi).resolve (.ok (.ackMatched f.header.src f.header.id))
  /-- It is any other acknowledgment. -/
  | ignored {f : Frame} (ht : n.TakesIn r f) (hack : f.header.isAck = true)
      (hw : n.awaits f.header = false) :
      Handling n r []
        ((n.hearing f r.rssi).count fun t => { t with unmatchedAcks := t.unmatchedAcks + 1 })
        (.ok (.ackIgnored f.header.src f.header.id))
  /-- It is a datagram that has come before. -/
  | duplicate {f : Frame} {es : List Exchange} {n' : Node} {acked : Except Error Unit}
      (ht : n.TakesIn r f) (hack : f.header.isAck = false) (hd : n.isDuplicate f.header = true)
      (hk : Acknowledging
        ((n.hearing f r.rssi).count fun t => { t with duplicates := t.duplicates + 1 })
        f.header es n' acked) :
      Handling n r es n' (acked.map fun _ => .duplicate f.header.src f.header.id)
  /-- It is a new datagram, and there is no room for it. -/
  | overflowed {f : Frame} {es : List Exchange} {n' : Node} (ht : n.TakesIn r f)
      (hack : f.header.isAck = false) (hd : n.isDuplicate f.header = false)
      (hs : Delivering (n.hearing f r.rssi) (f.delivery r.rssi) es n' false) :
      Handling n r es
        (n'.count fun t => { t with deliveryOverflow := t.deliveryOverflow + 1 })
        (.ok (.overflowed f.header.src f.header.id))
  /-- It is a new datagram, and is delivered. -/
  | delivered {f : Frame} {es es' : List Exchange} {n₁ n' : Node} {acked : Except Error Unit}
      (ht : n.TakesIn r f) (hack : f.header.isAck = false) (hd : n.isDuplicate f.header = false)
      (hs : Delivering (n.hearing f r.rssi) (f.delivery r.rssi) es n₁ true)
      (hk : Acknowledging (n₁.accept f.header) f.header es' n' acked) :
      Handling n r (es ++ es') n' (acked.map fun _ => .delivered f.header.src f.header.id)

section

variable {n n' : Node} {es : List Exchange}

theorem Acknowledging.config_eq {h : Header} {r : Except Error Unit}
    (hk : Acknowledging n h es n' r) : n'.config = n.config := by
  cases hk <;> rfl

theorem Delivering.config_eq {d : Delivery} {taken : Bool} (hs : Delivering n d es n' taken) :
    n'.config = n.config := by
  cases hs <;> rfl

theorem Handling.config_eq {r : Radio.Reception} {event : Except Error PollEvent}
    (hh : Handling n r es n' event) : n'.config = n.config := by
  cases hh with
  | duplicate ht hack hd hk => exact hk.config_eq
  | overflowed ht hack hd hs => exact hs.config_eq
  | delivered ht hack hd hs hk => exact hk.config_eq.trans hs.config_eq
  | _ => rfl

end

theorem handleAck_goes {f : Frame} {n : Node} {r : Radio.Reception} (ht : n.TakesIn r f)
    (hack : f.header.isAck = true) :
    (handleAck f.header).Goes (n.hearing f r.rssi) (Handling n r) := by
  simp only [handleAck, keeps_bind, keeps_node, onward_ok]
  split
  · exact .matched ht hack ‹_›
  · exact .ignored ht hack (Bool.eq_false_iff.2 ‹_›)

theorem handleData_goes {f : Frame} {n : Node} {r : Radio.Reception} (ht : n.TakesIn r f)
    (hack : f.header.isAck = false) :
    (handleData f r.rssi).Goes (n.hearing f r.rssi) (Handling n r) := by
  simp only [handleData, keeps_bind, keeps_node, onward_ok]
  split
  · rename_i hd
    simp only [keeps_bind, keeps_count, onward_ok]
    refine (acknowledge_goes _ ?_).imp ?_
    · rfl
    rintro es n' _ ⟨acked, hk, rfl⟩
    exact .duplicate ht hack hd hk
  · rename_i hd
    have hd : n.isDuplicate f.header = false := Bool.eq_false_iff.2 hd
    refine (deliver_goes _ _).bind ?_ ?_
    · rintro es n₁ taken ⟨taken', htaken, hs⟩
      obtain rfl := Except.ok.inj htaken
      cases taken with
      | false => simpa using Handling.overflowed ht hack hd hs
      | true =>
        have howed : (n₁.accept f.header).owesAck f.header =
            (n.hearing f r.rssi).owesAck f.header := by
          simp only [Node.owesAck, Node.accept, hs.config_eq]
        simp only [if_true, keeps_bind, keeps_modify, onward_ok]
        refine (acknowledge_goes _ howed).imp ?_
        rintro es' n' _ ⟨acked, hk, rfl⟩
        exact .delivered ht hack hd hs hk
    · rintro es n₁ e ⟨taken, he, -⟩
      cases he

/-- **What becomes of a reception**, on any radio and with any sink. -/
theorem handle_goes (r : Radio.Reception) (n : Node) : (handle r).Goes n (Handling n r) := by
  simp only [handle, keeps_bind, keeps_node, onward_ok]
  split
  · exact .dropped ‹_›
  · rename_i f hf
    split
    · rename_i ha
      have ht : n.TakesIn r f := ⟨hf, ha⟩
      simp only [keeps_bind, keeps_count, onward_ok]
      cases hack : f.header.isAck with
      | true => exact handleAck_goes ht hack
      | false => exact handleData_goes ht hack
    · exact .filtered hf (Bool.eq_false_iff.2 ‹_›)

/-! ## Looking at the radio -/

/-- A frame is fetched from the radio. -/
inductive Fetching (n : Node) : List Exchange → Node → Except Error PollEvent → Prop where
  /-- The radio fails. -/
  | failed (failure : Radio.Failure) :
      Fetching n [⟨.radio .receive, .error failure⟩] n (.error (.radio failure))
  /-- There is none. -/
  | nothing : Fetching n [⟨.radio .receive, .ok none⟩] n (.ok .idle)
  /-- There is one. -/
  | taken (r : Radio.Reception) {es : List Exchange} {n' : Node}
      {event : Except Error PollEvent} (hh : Handling n r es n' event) :
      Fetching n (⟨.radio .receive, .ok (some r)⟩ :: es) n' event

/-- A radio that listens is looked at. -/
inductive Looking (n : Node) : List Exchange → Node → Except Error PollEvent → Prop where
  /-- It does not say whether a frame has come in. -/
  | failed (failure : Radio.Failure) :
      Looking n [⟨.radio .frameReady, .error failure⟩] n (.error (.radio failure))
  /-- None has. -/
  | nothing : Looking n [⟨.radio .frameReady, .ok false⟩] n (.ok .idle)
  /-- One has; the radio is told to listen again after it was fetched. -/
  | ready {es : List Exchange} {n' : Node} {event : Except Error PollEvent}
      (hf : Fetching n es n' event) (restored : Except Radio.Failure Unit) :
      Looking n (⟨.radio .frameReady, .ok true⟩ :: es ++ [⟨.radio (.setMode .receive), restored⟩])
        n' (event.bind fun event => (restored.mapError .radio).map fun _ => event)

/-- A radio is looked at, which is to listen first. -/
inductive Polling (n : Node) : List Exchange → Node → Except Error PollEvent → Prop where
  /-- It does not listen and cannot be told to. -/
  | deaf {m : Radio.Mode} (hm : m ≠ .receive) (failure : Radio.Failure) :
      Polling n [⟨.mode, m⟩, ⟨.radio (.setMode .receive), .error failure⟩] n
        (.error (.radio failure))
  /-- It does not listen and is told to. -/
  | roused {m : Radio.Mode} (hm : m ≠ .receive) {es : List Exchange} {n' : Node}
      {event : Except Error PollEvent} (hl : Looking n es n' event) :
      Polling n (⟨.mode, m⟩ :: ⟨.radio (.setMode .receive), .ok ()⟩ :: es) n' event
  /-- It listens. -/
  | awake {es : List Exchange} {n' : Node} {event : Except Error PollEvent}
      (hl : Looking n es n' event) : Polling n (⟨.mode, .receive⟩ :: es) n' event

/-- A look at the radio changes no configuration. -/
theorem Polling.config_eq {n n' : Node} {es : List Exchange} {event : Except Error PollEvent}
    (hp : Polling n es n' event) : n'.config = n.config := by
  have hfetching : ∀ {es event}, Fetching n es n' event → n'.config = n.config := by
    rintro es event (_ | _ | ⟨r, hh⟩)
    · rfl
    · rfl
    · exact hh.config_eq
  have hlooking : ∀ {es event}, Looking n es n' event → n'.config = n.config := by
    rintro es event (_ | _ | ⟨hf, restored⟩)
    · rfl
    · rfl
    · exact hfetching hf
  cases hp with
  | deaf hm failure => rfl
  | roused hm hl => exact hlooking hl
  | awake hl => exact hlooking hl

theorem fetch_goes (n : Node) : fetch.Goes n (Fetching n) := by
  refine (keeps_bind _ _).2 (keeps_receive.2 ⟨trivial, fun a => ?_⟩)
  rcases a with failure | _ | r
  · exact .failed failure
  · exact .nothing
  · refine Goes.after ((handle_goes r n).imp ?_)
    exact fun es n' event hh => .taken r hh

theorem look_goes (n : Node) : look.Goes n (Looking n) := by
  refine (keeps_bind _ _).2 ((keeps_radio _).2 ⟨trivial, fun a => ?_⟩)
  rcases a with failure | _ | _
  · exact .failed failure
  · exact .nothing
  · refine Goes.after (x := if true then _ else _) ?_
    simp only [if_true, keeps_bind, keeps_attempt]
    refine (fetch_goes n).imp ?_
    intro es n' event hf
    refine ⟨trivial, fun restored => ?_⟩
    have hready := Looking.ready hf restored
    rcases event with e | event <;> rcases restored with failure | u <;> exact hready

/-- **What a look at the radio does**, on any radio. -/
theorem poll_goes (n : Node) : poll.Goes n (Polling n) := by
  refine (keeps_bind _ _).2 ((keeps_ask _).2 ⟨trivial, fun m => ?_⟩)
  rw [onward_ok]
  dsimp only
  split
  · rename_i hm
    refine (keeps_bind _ _).2 ((keeps_setMode _).2 ⟨trivial, fun a => ?_⟩)
    cases a with
    | error failure => exact .deaf hm failure
    | ok u => exact Goes.after ((look_goes n).imp fun es n' event hl => .roused hm hl)
  · rename_i hm
    obtain rfl : m = .receive := Decidable.not_not.1 hm
    exact Goes.after ((look_goes n).imp fun es n' event hl => .awake hl)

end Link
end PacketRadio
