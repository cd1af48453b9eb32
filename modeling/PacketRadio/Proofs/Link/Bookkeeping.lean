/-
# Nodes keep to the rules of their ledger

rflink specification, §3: sequence numbers and the per-peer receive state;
§4.4: data and acknowledgments.

Every action of a node is looked at once.  What comes in can change three
things that a send under way relies on, and `Goes` says how: the ledger only
grows, no number is used up, and the pending send either stays as it is or is
marked as acknowledged, the latter only if its acknowledgment has been heard.

Main statement: `bookkeeping_sound`.
-/

import PacketRadio.Proofs.Link.Ledger

namespace PacketRadio
namespace Link

open Link.Action

variable {c : Config} {g g' g'' : Ledger} {n n' n'' : Node}

/-! ## What the contract notes and permits -/

@[simp] theorem bookkeeping_note (g : Ledger) (e : Exchange) :
    (bookkeeping c).contract.note g e = (g.hear e.heard).hand e.handed := rfl

@[simp] theorem bookkeeping_permits (g : Ledger) (r : Request) :
    (bookkeeping c).contract.permits g r ↔ g.Permits c r := Iff.rfl

@[simp] theorem Exchange.handed_radio (call : Radio.Call)
    (a : Except Radio.Failure call.Result) : Exchange.handed ⟨.radio call, a⟩ = none := rfl

/-! ## What looking at the radio can change -/

/-- Two nodes differ at most in what waits in their sinks and in what they have counted. -/
structure Node.Alike (n n' : Node) : Prop where
  /-- They have one configuration. -/
  config : n'.config = n.config
  /-- They have one next number. -/
  nextId : n'.nextId = n.nextId
  /-- They know the same numbers. -/
  lastAccepted : n'.lastAccepted = n.lastAccepted
  /-- The same send is pending. -/
  pending : n'.pending = n.pending

theorem Node.Alike.refl (n : Node) : n.Alike n := ⟨rfl, rfl, rfl, rfl⟩

namespace Ledger

/-- Only the configuration and the known numbers matter to a ledger. -/
theorem Matches.congr (h : g.Matches c n) (hconfig : n'.config = n.config)
    (htable : n'.lastAccepted = n.lastAccepted) : g.Matches c n' :=
  ⟨hconfig.trans h.config, fun a => by rw [htable, h.table a], h.handed⟩

theorem Matches.alike (h : g.Matches c n) (hn : n.Alike n') : g.Matches c n' :=
  h.congr hn.config hn.lastAccepted

theorem Numbered.alike (h : g.Numbered n) (hn : n.Alike n') : g.Numbered n' :=
  hn.nextId.trans h

theorem Matches.hear (h : g.Matches c n) (r : Option Radio.Reception) :
    (g.hear r).Matches c n := by
  cases r with
  | none => exact h
  | some r =>
    refine ⟨h.config, h.table, ?_⟩
    rw [Ledger.hear, arrivals_append]
    exact h.handed.trans (List.sublist_append_left _ _)

theorem Heeded.mono {peer : Address} {id : UInt8} (h : g.Heeded c peer id)
    (hn : g.news.Subset g'.news) : g'.Heeded c peer id := by
  obtain ⟨r, hr, f, hf⟩ := h
  exact ⟨r, hn hr, f, hf⟩

/-- What has become of the ledger and the node when nothing new was asked for. -/
structure Goes (c : Config) (g : Ledger) (n : Node) (g' : Ledger) (n' : Node) : Prop where
  /-- Nothing was asked for. -/
  calls : g'.calls = g.calls
  /-- The node is at the same datagram. -/
  current : g'.current = g.current
  /-- Nothing heard is forgotten. -/
  news : g.news.Subset g'.news
  /-- No number was used up. -/
  nextId : n'.nextId = n.nextId
  /-- The pending send is as it was, or has rightly been marked as acknowledged. -/
  pending : n'.pending = n.pending ∨
    ∃ p, n.pending = some p ∧ n'.pending = some { p with acked := true } ∧ g'.Heeded c p.dst p.id

theorem Goes.of_alike (h : n.Alike n') : Goes c g n g n' :=
  ⟨rfl, rfl, List.Subset.refl _, h.nextId, .inl h.pending⟩

theorem Goes.refl (g : Ledger) (n : Node) : Goes c g n g n :=
  .of_alike (.refl n)

theorem Goes.trans (h : Goes c g n g' n') (h' : Goes c g' n' g'' n'') : Goes c g n g'' n'' := by
  refine ⟨h'.calls.trans h.calls, h'.current.trans h.current, h.news.trans h'.news,
    h'.nextId.trans h.nextId, ?_⟩
  rcases h'.pending with hsame' | ⟨p', hp', hacked', hheard'⟩
  · rcases h.pending with hsame | ⟨p, hp, hacked, hheard⟩
    · exact .inl (hsame'.trans hsame)
    · exact .inr ⟨p, hp, hsame'.trans hacked, hheard.mono h'.news⟩
  · rcases h.pending with hsame | ⟨p, hp, hacked, hheard⟩
    · exact .inr ⟨p', hsame ▸ hp', hacked', hheard'⟩
    · obtain rfl : { p with acked := true } = p' := Option.some.inj (hacked ▸ hp')
      exact .inr ⟨p, hp, hacked', hheard'⟩

theorem Goes.hear (g : Ledger) (n : Node) (r : Option Radio.Reception) :
    Goes c g n (g.hear r) n := by
  cases r with
  | none => exact .refl g n
  | some r => exact ⟨rfl, rfl, List.subset_append_left _ _, rfl, .inl rfl⟩

/-- The node still matches its ledger after an action that asks for nothing new. -/
def Steady (c : Config) (g : Ledger) (n : Node) (g' : Ledger) (n' : Node) : Prop :=
  g'.Matches c n' ∧ Goes c g n g' n'

theorem Steady.of_alike (h : g.Matches c n) (hn : n.Alike n') : Steady c g n g n' :=
  ⟨h.alike hn, .of_alike hn⟩

theorem Steady.trans (h : Steady c g n g' n') (h' : Steady c g' n' g'' n'') :
    Steady c g n g'' n'' :=
  ⟨h'.1, h.2.trans h'.2⟩

theorem Steady.hear (h : g.Matches c n) (r : Option Radio.Reception) :
    Steady c g n (g.hear r) n :=
  ⟨h.hear r, .hear g n r⟩

/-- A send under way stays that of the datagram asked for last. -/
theorem Sends.goes {s : Send} (h : g.Sends c n s) (hg : Goes c g n g' n') : g'.Sends c n' s := by
  refine ⟨hg.current.trans h.call, ?_, h.payload, ?_⟩
  · rw [h.id, number, number, hg.calls]
  · obtain ⟨acked, hp, hacked⟩ := h.pending
    rcases hg.pending with hsame | ⟨p, hp', hmarked, hheard⟩
    · exact ⟨acked, hsame.trans hp, fun ha => (hacked ha).mono hg.news⟩
    · obtain rfl : p = ⟨s.dst, s.id, acked⟩ := Option.some.inj (hp' ▸ hp)
      exact ⟨true, hmarked, fun _ => hheard⟩

theorem Numbered.goes (h : g.Numbered n) (hg : Goes c g n g' n') : g'.Numbered n' := by
  rw [Numbered, hg.nextId, hg.calls]
  exact h

end Ledger

open Ledger

/-! ## Sending a frame -/

/-- **A frame that may be sent is sent, and nothing else changes**, however that ends. -/
theorem transmit_keeps {f : Frame} {Q : Ledger → Node → Except Error Unit → Prop}
    (hc : c.frame.Valid) (hn : n.config = c) (hp : g.Airs c (f.wire c.frame))
    (hlen : f.payload.length ≤ c.frame.payloadLimit) (hQ : ∀ r, Q g n r) :
    (transmit f).Keeps (bookkeeping c).contract g n Q := by
  have henc : f.encode n.config.frame = .ok (f.wire c.frame) := by
    rw [hn]
    exact (Frame.encode_eq_ok_iff _ _ _).2 ⟨hc.preamble, hlen, rfl⟩
  simp only [transmit, keeps_bind, keeps_node, onward_ok, henc, keeps_setMode,
    bookkeeping_permits, bookkeeping_note, Exchange.handed_radio]
  refine ⟨trivial, fun a => ?_⟩
  cases a with
  | error e => exact hQ _
  | ok u =>
    simp only [Except.mapError, onward_ok, keeps_bind, keeps_attempt, keeps_setMode,
      keeps_ofExcept, bookkeeping_permits, bookkeeping_note, Exchange.handed_radio]
    refine ⟨hp, fun sent => ⟨trivial, fun restored => ?_⟩⟩
    cases sent with
    | error e => exact hQ _
    | ok u => exact hQ _

/-- **An acknowledgment is sent for what has been handed over last.** -/
theorem sendAck_keeps {h : Header} (hc : c.frame.Valid) (hm : g.Matches c n)
    (hd : (idsFrom h.src g.handed).getLast? = some h.id) :
    (sendAck h).Keeps (bookkeeping c).contract g n fun g' n' _ => g' = g ∧ n.Alike n' := by
  simp only [sendAck, keeps_bind, keeps_node, onward_ok]
  refine transmit_keeps hc hm.config ?_ (Nat.zero_le _) fun r => ?_
  · exact ⟨_, rfl, Nat.zero_le _, by rw [← hm.config]; rfl, .inr ⟨Header.ackFor_isAck _ _, hd⟩⟩
  · cases r with
    | error e => exact ⟨rfl, .refl n⟩
    | ok u => exact ⟨rfl, rfl, rfl, rfl, rfl⟩

/-! ## What comes in -/

/-- **An acknowledgment resolves the pending send only if it is the one waited for.** -/
theorem handleAck_keeps {h : Header} (hm : g.Matches c n) {r : Radio.Reception} (hr : r ∈ g.news)
    {f : Frame} (hf : Frame.decode c.frame r.bytes = .ok f) (hh : f.header = h)
    (hack : h.isAck = true) :
    (handleAck h).Keeps (bookkeeping c).contract g n fun g' n' _ => Steady c g n g' n' := by
  subst hh
  simp only [handleAck, keeps_bind, keeps_node, onward_ok]
  split
  · rename_i ha
    simp only [keeps_bind, keeps_modify, onward_ok, keeps_pure]
    refine ⟨⟨hm.config, hm.table, hm.handed⟩, rfl, rfl, List.Subset.refl _, rfl, .inr ?_⟩
    unfold Node.awaits at ha
    rw [Bool.and_eq_true] at ha
    obtain ⟨hlocal, hpending⟩ := ha
    cases hp : n.pending with
    | none => simp [hp] at hpending
    | some p =>
      simp only [hp, Bool.and_eq_true, beq_iff_eq] at hpending
      refine ⟨p, rfl, by simp [Node.resolve, hp], r, hr, f, hf, hack, ?_⟩
      have hdst : f.header.dst = c.address := by
        rw [← hm.config]
        exact beq_iff_eq.1 hlocal
      rw [hpending.1.2, hpending.2, ← hdst]
  · simp only [keeps_bind, keeps_count, onward_ok, keeps_pure]
    exact .of_alike hm ⟨rfl, rfl, rfl, rfl⟩

/-- **A delivery goes to the sink, or it does not.** -/
theorem deliver_keeps {d : Delivery} {Q : Ledger → Node → Except Error Bool → Prop}
    (hd : g.Takes c d) (htaken : ∀ n', n.Alike n' → Q (g.hand (some d)) n' (.ok true))
    (hrefused : Q g n (.ok false)) :
    (deliver d).Keeps (bookkeeping c).contract g n Q := by
  simp only [deliver, keeps_bind, keeps_node, onward_ok]
  cases n.sink with
  | channel id =>
    refine ⟨hd, fun b => ?_⟩
    cases b with
    | false => exact hrefused
    | true => exact htaken n (.refl n)
  | queue capacity waiting =>
    dsimp only
    split
    · simp only [keeps_bind, keeps_modify, onward_ok]
      exact ⟨hd, fun _ => htaken _ ⟨rfl, rfl, rfl, rfl⟩⟩
    · exact hrefused

/-- What has just been handed over is the last from its sender. -/
theorem getLast?_idsFrom_hand (g : Ledger) (d : Delivery) :
    (idsFrom d.src (g.hand (some d)).handed).getLast? = some d.id := by
  rw [Ledger.hand, idsFrom_append, idsFrom_singleton, if_pos rfl, List.getLast?_append,
    List.getLast?_singleton, Option.some_or]

/-- The node knows the number of a delivery that it has just accepted. -/
theorem matches_accept {h : Header} {d : Delivery} (hm : g.Matches c n) (hd : g.Takes c d)
    (hn : n.Alike n') (hsrc : d.src = h.src) (hid : d.id = h.id) :
    (g.hand (some d)).Matches c (n'.accept h) := by
  refine ⟨hn.config.trans hm.config, fun a => ?_, hd.1.2⟩
  by_cases ha : a = h.src
  · rw [ha, ← hsrc, getLast?_idsFrom_hand, hid, hsrc]
    exact PeerTable.get?_insert_self _ _ _
  · rw [Ledger.hand, idsFrom_append, idsFrom_singleton,
      if_neg (fun hda => ha (hda.symm.trans hsrc)), List.append_nil, ← hm.table a, ← hn.lastAccepted]
    exact PeerTable.get?_insert_of_ne _ _ ha

theorem handleData_keeps {f : Frame} {rssi : Int} (hc : c.frame.Valid) (hm : g.Matches c n)
    (hat : g.AtHand c (f.delivery rssi)) :
    (handleData f rssi).Keeps (bookkeeping c).contract g n fun g' n' _ => Steady c g n g' n' := by
  simp only [handleData, keeps_bind, keeps_node, onward_ok]
  split
  · rename_i hdup
    have hlast : (idsFrom f.header.src g.handed).getLast? = some f.header.id := by
      rw [← hm.table]
      exact beq_iff_eq.1 hdup
    simp only [keeps_bind, keeps_count, onward_ok]
    split
    · have hcount : n.Alike (n.count fun t => { t with duplicates := t.duplicates + 1 }) :=
        ⟨rfl, rfl, rfl, rfl⟩
      refine (keeps_bind _ _).2 ((sendAck_keeps hc (hm.alike hcount) hlast).imp ?_)
      rintro g' n' (e | u) ⟨rfl, hn⟩
      · exact .of_alike hm ⟨hn.config, hn.nextId, hn.lastAccepted, hn.pending⟩
      · exact .of_alike hm ⟨hn.config, hn.nextId, hn.lastAccepted, hn.pending⟩
    · exact .of_alike hm ⟨rfl, rfl, rfl, rfl⟩
  · rename_i hnew
    have hd : g.Takes c (f.delivery rssi) := by
      refine ⟨hat, fun hlast => hnew ?_⟩
      rw [Node.isDuplicate, hm.table]
      exact beq_iff_eq.2 hlast
    refine (keeps_bind _ _).2 (deliver_keeps hd (fun n' hn => ?_) ?_)
    · have hm' := matches_accept (h := f.header) hm hd hn rfl rfl
      have hgo : Goes c g n (g.hand (some (f.delivery rssi))) (n'.accept f.header) :=
        ⟨rfl, rfl, List.Subset.refl _, hn.nextId, .inl hn.pending⟩
      simp only [onward_ok, if_true, keeps_bind, keeps_modify]
      split
      · have hhanded := getLast?_idsFrom_hand g (f.delivery rssi)
        refine (keeps_bind _ _).2 ((sendAck_keeps hc hm' hhanded).imp ?_)
        rintro g' n'' (e | u) ⟨rfl, hn'⟩
        · exact ⟨hm'.alike hn', hgo.trans (.of_alike hn')⟩
        · exact ⟨hm'.alike hn', hgo.trans (.of_alike hn')⟩
      · exact ⟨hm', hgo⟩
    · exact .of_alike hm ⟨rfl, rfl, rfl, rfl⟩

theorem handle_keeps {r : Radio.Reception} (hc : c.frame.Valid) (hm : g.Matches c n)
    (hr : r ∈ g.news) (hat : ∀ d, arrival c.frame r = some d → g.AtHand c d) :
    (handle r).Keeps (bookkeeping c).contract g n fun g' n' _ => Steady c g n g' n' := by
  simp only [handle, keeps_bind, keeps_node, onward_ok, hm.config]
  cases hf : Frame.decode c.frame r.bytes with
  | error defect => exact .of_alike hm ⟨rfl, rfl, rfl, rfl⟩
  | ok f =>
    dsimp only
    split
    · have hcount : n.Alike (n.count fun t =>
          { t with lastRssi := t.lastRssi.insert f.header.src r.rssi }) := ⟨rfl, rfl, rfl, rfl⟩
      have hm' := hm.alike hcount
      have hstart : Steady c g n g _ := .of_alike hm hcount
      simp only [keeps_bind, keeps_count, onward_ok]
      cases hack : f.header.isAck with
      | true => exact (handleAck_keeps hm' hr hf rfl hack).imp fun g' n' _ h => hstart.trans h
      | false =>
        have harrival : arrival c.frame r = some (f.delivery r.rssi) := by
          simp [arrival, hf, hack]
        exact (handleData_keeps hc hm' (hat _ harrival)).imp fun g' n' _ h => hstart.trans h
    · exact .of_alike hm ⟨rfl, rfl, rfl, rfl⟩

/-! ## Actions that ask for nothing new -/

/-- However the action goes, it asks for nothing new and the node still matches its ledger. -/
def Calm {α : Type} (c : Config) (x : Action α) : Prop :=
  ∀ g n, g.Matches c n →
    x.Keeps (bookkeeping c).contract g n fun g' n' _ => Steady c g n g' n'

namespace Calm

variable {α β : Type}

theorem bind {x : Action α} {f : α → Action β} (hx : Calm c x) (hf : ∀ a, Calm c (f a)) :
    Calm c (x >>= f) := by
  intro g n hm
  refine (keeps_bind _ _).2 ((hx g n hm).imp fun g' n' r h => ?_)
  cases r with
  | error e => exact h
  | ok a => exact (hf a g' n' h.1).imp fun g'' n'' _ h' => h.trans h'

theorem attempt {x : Action α} (hx : Calm c x) : Calm c (Action.attempt x) := fun g n hm =>
  (keeps_attempt x).2 (hx g n hm)

theorem pure (a : α) : Calm c (Pure.pure a : Action α) := fun _ n hm => .of_alike hm (.refl n)

theorem ofExcept (x : Except Error α) : Calm c (Action.ofExcept x) := fun _ n hm =>
  .of_alike hm (.refl n)

theorem fail (e : Error) : Calm c (Action.fail e : Action α) := fun _ n hm =>
  .of_alike hm (.refl n)

theorem node : Calm c Action.node := fun _ n hm => .of_alike hm (.refl n)

theorem setMode (m : Radio.Mode) : Calm c (Action.setMode m) := fun _ n hm =>
  ⟨trivial, fun _ => .of_alike hm (.refl n)⟩

theorem frameReady : Calm c Action.frameReady := fun _ n hm =>
  ⟨trivial, fun _ => .of_alike hm (.refl n)⟩

theorem mode : Calm c Action.mode := fun _ n hm => ⟨trivial, fun _ => .of_alike hm (.refl n)⟩

theorem now : Calm c Action.now := fun _ n hm => ⟨trivial, fun _ => .of_alike hm (.refl n)⟩

theorem sleep (duration : Nat) : Calm c (Action.sleep duration) := fun _ n hm =>
  ⟨trivial, fun _ => .of_alike hm (.refl n)⟩

theorem stopped (flag : Nat) : Calm c (ask (.stopped flag)) := fun _ n hm =>
  ⟨trivial, fun _ => .of_alike hm (.refl n)⟩

theorem left (deadline : Deadline) : Calm c (Action.left deadline) := by
  cases deadline with
  | none => exact pure _
  | some t => exact now.bind fun _ => pure _

theorem recv : Calm c Action.recv := fun _ _ hm => .of_alike hm ⟨rfl, rfl, rfl, rfl⟩

/-- A reception leaves room in what came in for the delivery it stands for. -/
theorem fetch (hc : c.frame.Valid) : Calm c Action.fetch := by
  intro g n hm
  refine (keeps_bind _ _).2 (keeps_receive.2 ⟨trivial, fun a => ?_⟩)
  cases a with
  | error e => exact .of_alike hm (.refl n)
  | ok reception =>
    cases reception with
    | none => exact .of_alike hm (.refl n)
    | some r =>
      have hstart : Steady c g n (g.hear (some r)) n := .hear hm _
      refine (handle_keeps hc hstart.1 (List.mem_append_right _ (List.mem_singleton_self r))
        fun d hd => ⟨⟨r, List.getLast?_concat, hd⟩, ?_⟩).imp fun g' n' _ h => hstart.trans h
      rw [Ledger.hear, arrivals_append]
      exact hm.handed.append (by simp [arrivals, hd])

theorem look (hc : c.frame.Valid) : Calm c Action.look := by
  refine frameReady.bind fun ready => ?_
  cases ready with
  | false => exact pure _
  | true =>
    exact (fetch hc).attempt.bind fun event => (setMode _).attempt.bind fun restored =>
      (ofExcept event).bind fun event => (ofExcept restored).bind fun _ => pure event

theorem poll (hc : c.frame.Valid) : Calm c Action.poll := by
  refine mode.bind fun m => ?_
  dsimp only
  split
  · exact (setMode _).bind fun _ => look hc
  · exact look hc

theorem pollOrPause (hc : c.frame.Valid) (limit : Nat) : Calm c (Action.pollOrPause limit) := by
  refine (poll hc).bind fun event => ?_
  split
  · exact node.bind fun n => sleep _
  · exact pure _

theorem receiveTurn (hc : c.frame.Valid) (deadline : Deadline) :
    Calm c (Action.receiveTurn deadline) := by
  refine recv.bind fun delivery => ?_
  cases delivery with
  | some d => exact pure _
  | none =>
    refine (left deadline).bind fun rest => ?_
    cases rest with
    | none => exact pure _
    | some rest => exact (pollOrPause hc rest).bind fun _ => pure _

theorem goIdle : Calm c Action.goIdle :=
  (setMode _).attempt.bind fun _ => pure _

theorem listenTurn (hc : c.frame.Valid) (flag : Nat) : Calm c (Action.listenTurn flag) := by
  refine (stopped flag).bind fun b => ?_
  cases b with
  | true => exact goIdle.bind fun _ => pure _
  | false =>
    have hlook : Calm c (Action.poll >>= fun event =>
        if event = .idle then Action.node >>= fun n => Action.sleep n.config.pollInterval
        else Pure.pure ()) := by
      refine (poll hc).bind fun event => ?_
      split
      · exact node.bind fun n => sleep _
      · exact pure _
    refine hlook.attempt.bind fun looked => ?_
    cases looked with
    | ok u => exact pure _
    | error e => exact goIdle.bind fun _ => fail e

end Calm

/-! ## Sends -/

/-- How a turn of a send, or its beginning, leaves the ledger and the node. -/
def Ledger.Proceeds (c : Config) (g : Ledger) (n : Node) :
    Except Error (Turn Send SendOutcome) → Prop
  | .ok (.again s) => g.Matches c n ∧ g.Numbered n ∧ g.Sends c n s
  | .ok (.finish outcome) =>
    g.Matches c n ∧ g.Numbered n ∧ g.Concludes c (.ok (.outcome outcome))
  | .error _ => g.Matches c n ∧ g.Numbered n

/-- **A copy of the datagram that the node is at may be sent.** -/
theorem sendData_keeps {dst : Address} {id flags : UInt8} {payload : Bytes}
    (hc : c.frame.Valid) (hm : g.Matches c n) (hcall : g.current = some ⟨dst, payload⟩)
    (hid : id = g.number) (hlen : payload.length ≤ c.frame.maxPayload)
    (hflags : Flag.has flags Flag.ack = false) :
    (sendData dst id flags payload).Keeps (bookkeeping c).contract g n
      fun g' n' _ => g' = g ∧ n.Alike n' := by
  have hfit : payload.length ≤ c.frame.payloadLimit := hc.payloadLimit_eq.symm ▸ hlen
  simp only [sendData, keeps_bind, keeps_node, onward_ok]
  refine transmit_keeps hc hm.config ?_ hfit fun r => ?_
  · exact ⟨_, rfl, hfit, by rw [← hm.config]; rfl, .inl ⟨hflags, hid, hcall⟩⟩
  · cases r with
    | error e => exact ⟨rfl, .refl n⟩
    | ok u => exact ⟨rfl, rfl, rfl, rfl, rfl⟩

/-- The ledger after a datagram was asked for. -/
def Ledger.called (g : Ledger) (call : Datagram) : Ledger :=
  { g with calls := g.calls ++ [call], current := some call, news := [] }

namespace Ledger

theorem called_number (g : Ledger) (call : Datagram) :
    (g.called call).number = UInt8.ofNat g.calls.length := by
  simp [number, called]

theorem Matches.called (hm : g.Matches c n) (call : Datagram) : (g.called call).Matches c n :=
  ⟨hm.config, hm.table, hm.handed⟩

/-- The next number is free once a datagram has been asked for, and comes after that then. -/
theorem Numbered.called (hn : g.Numbered n) (call : Datagram) :
    (g.called call).Numbered { n with nextId := n.nextId + 1 } := by
  have hnext : n.nextId = UInt8.ofNat g.calls.length := hn
  simp [Numbered, Ledger.called, hnext, UInt8.ofNat_add]

end Ledger

theorem checkPayload_keeps {payload : Bytes} {Q : Ledger → Node → Except Error Unit → Prop}
    (hm : g.Matches c n)
    (hfits : payload.length ≤ c.frame.maxPayload → Q g n (.ok ()))
    (hlong : c.frame.maxPayload < payload.length → ∀ e, Q g n (.error e)) :
    (checkPayload payload).Keeps (bookkeeping c).contract g n Q := by
  simp only [checkPayload, keeps_bind, keeps_node, onward_ok, hm.config]
  split
  · exact hlong ‹_› _
  · exact hfits (Nat.le_of_not_lt ‹_›)

/-- The operation asks for this datagram, if the payload is within the limit. -/
def Operation.Asks (op : Operation) (dst : Address) (payload : Bytes) : Prop :=
  ∀ limit, op.datagram limit = if payload.length ≤ limit then some ⟨dst, payload⟩ else none

section

variable {op : Operation} {dst : Address} {payload : Bytes}

theorem Ledger.ask_of_le {limit : Nat} (hop : op.Asks dst payload) (h : payload.length ≤ limit) :
    g.ask limit op = g.called ⟨dst, payload⟩ := by
  rw [Ledger.ask, hop limit, if_pos h]
  rfl

theorem Ledger.ask_of_none {limit : Nat} (h : op.datagram limit = none) :
    g.ask limit op = { g with current := none, news := [] } := by
  rw [Ledger.ask, h, Option.toList_none, List.append_nil]

/-- **What asks for a datagram goes on under the number that is due**, or gives up without having
asked. -/
theorem asking_keeps {α : Type} {f : UInt8 → Action α} {Q : Ledger → Node → Except Error α → Prop}
    (hm : g.Matches c n) (hn : g.Numbered n) (hop : op.Asks dst payload)
    (hfits : ∀ n', payload.length ≤ c.frame.maxPayload →
      (g.called ⟨dst, payload⟩).Matches c n' → (g.called ⟨dst, payload⟩).Numbered n' →
      (f (g.called ⟨dst, payload⟩).number).Keeps (bookkeeping c).contract
        (g.called ⟨dst, payload⟩) n' Q)
    (hlong : ∀ g' e, g'.Matches c n → g'.Numbered n → Q g' n (.error e)) :
    (checkPayload payload >>= fun _ => allocateId >>= f).Keeps (bookkeeping c).contract
      (g.ask c.frame.maxPayload op) n Q := by
  have hm' : (g.ask c.frame.maxPayload op).Matches c n := ⟨hm.config, hm.table, hm.handed⟩
  refine (keeps_bind _ _).2 (checkPayload_keeps hm' (fun hlen => ?_) fun hlen e => ?_)
  · rw [ask_of_le hop hlen, onward_ok]
    simp only [keeps_bind, allocateId, keeps_node, keeps_modify, keeps_pure, onward_ok]
    have hid : n.nextId = (g.called ⟨dst, payload⟩).number := hn.trans (g.called_number _).symm
    rw [hid]
    exact hfits _ hlen ((hm.called _).congr rfl rfl) (hid ▸ hn.called _)
  · have hnone : op.datagram c.frame.maxPayload = none := by
      rw [hop, if_neg (Nat.not_le.2 hlen)]
    rw [ask_of_none hnone]
    exact hlong _ e ⟨hm.config, hm.table, hm.handed⟩ hn

/-- **A datagram goes out once under the number that is due.** -/
theorem sendUnreliable_keeps (hc : c.frame.Valid) (hm : g.Matches c n) (hn : g.Numbered n)
    (hop : op.Asks dst payload) :
    (sendUnreliable dst payload).Keeps (bookkeeping c).contract (g.ask c.frame.maxPayload op) n
      fun g' n' r => g'.Matches c n' ∧ g'.Numbered n' ∧
        ∀ id, r = .ok id → g'.current.isSome ∧ id = g'.number := by
  refine asking_keeps hm hn hop (fun n₁ hlen hm₁ hn₁ => ?_) fun g' e hm' hn' => ⟨hm', hn', by simp⟩
  refine (keeps_bind _ _).2 ((sendData_keeps hc hm₁ rfl rfl hlen (by decide)).imp
    fun g' n' r h => ?_)
  obtain ⟨rfl, hn'⟩ := h
  cases r with
  | error e => exact ⟨hm₁.alike hn', hn₁.alike hn', by simp⟩
  | ok u =>
    refine ⟨hm₁.alike hn', hn₁.alike hn', fun id hsent => ⟨rfl, ?_⟩⟩
    exact (Except.ok.inj hsent).symm

/-- **A reliable send begins under the number that is due.** -/
theorem startSend_keeps {maxRetries timeout : Nat} (hc : c.frame.Valid) (hm : g.Matches c n)
    (hn : g.Numbered n) (hop : op.Asks dst payload) :
    (startSend dst payload maxRetries timeout).Keeps (bookkeeping c).contract
      (g.ask c.frame.maxPayload op) n fun g' n' r => g'.Proceeds c n' r := by
  refine asking_keeps hm hn hop (fun n₁ hlen hm₁ hn₁ => ?_) fun g' e hm' hn' => ⟨hm', hn'⟩
  split
  · refine (keeps_bind _ _).2 ((sendData_keeps hc hm₁ rfl rfl hlen (by decide)).imp
      fun g' n' r h => ?_)
    obtain ⟨rfl, hn'⟩ := h
    cases r with
    | error e => exact ⟨hm₁.alike hn', hn₁.alike hn'⟩
    | ok u => exact ⟨hm₁.alike hn', hn₁.alike hn', rfl, rfl, by simp [SendOutcome.isAcked]⟩
  · simp only [keeps_bind, keeps_modify, onward_ok, keeps_now]
    refine ⟨trivial, fun t => ⟨hm₁.congr rfl rfl, hn₁, ?_⟩⟩
    exact ⟨rfl, rfl, hlen, false, rfl, by simp⟩

end

/-! ## Turns -/

section

variable {s : Send}

theorem transmitCopy_keeps (hc : c.frame.Valid) (hm : g.Matches c n) (hn : g.Numbered n)
    (hs : g.Sends c n s) :
    s.transmitCopy.Keeps (bookkeeping c).contract g n fun g' n' r => g'.Proceeds c n' r := by
  have hflags : Flag.has s.flags Flag.ack = false := by
    unfold Send.flags
    split <;> decide
  have key : ∀ n', n.Alike n' →
      (sendData s.dst s.id s.flags s.payload >>= fun _ => now >>= fun t =>
        pure (.again { s with phase := .waiting (Deadline.after t s.timeout) })).Keeps
          (bookkeeping c).contract g n' fun g' n' r => g'.Proceeds c n' r := by
    intro n' hn'
    refine (keeps_bind _ _).2
      ((sendData_keeps hc (hm.alike hn') hs.call hs.id hs.payload hflags).imp fun g' n'' r h => ?_)
    obtain ⟨rfl, hn''⟩ := h
    have hm'' := (hm.alike hn').alike hn''
    have hnum := (hn.alike hn').alike hn''
    cases r with
    | error e => exact ⟨hm'', hnum⟩
    | ok u =>
      have hs'' : g'.Sends c n'' s := (hs.goes (.of_alike hn')).goes (.of_alike hn'')
      exact (keeps_bind _ _).2
        ⟨trivial, fun t => ⟨hm'', hnum, hs''.call, hs''.id, hs''.payload, hs''.pending⟩⟩
  unfold Send.transmitCopy
  split
  · exact (keeps_bind _ _).2 (key _ ⟨rfl, rfl, rfl, rfl⟩)
  · exact key n (.refl n)

theorem await_keeps (hc : c.frame.Valid) (hm : g.Matches c n) (hn : g.Numbered n)
    (hs : g.Sends c n s) (deadline : Deadline) :
    (s.await deadline).Keeps (bookkeeping c).contract g n fun g' n' r => g'.Proceeds c n' r := by
  obtain ⟨acked, hpending, hheeded⟩ := hs.pending
  simp only [Send.await, isAcked, keeps_bind, keeps_node, onward_ok, keeps_pure, hpending]
  cases acked with
  | true =>
    have hsome : g.current.isSome := by rw [hs.call]; rfl
    refine (keeps_bind _ _).2 ⟨trivial, fun t => ⟨hm, hn, hsome, hs.id, fun _ => ⟨_, hs.call, ?_⟩⟩⟩
    exact hs.id ▸ hheeded rfl
  | false =>
    refine (keeps_bind _ _).2 ((Calm.left deadline g n hm).imp fun g₁ n₁ r h₁ => ?_)
    have hn₁ := hn.goes h₁.2
    have hs₁ := hs.goes h₁.2
    cases r with
    | error e => exact ⟨h₁.1, hn₁⟩
    | ok rest =>
      cases rest with
      | some rest =>
        refine (keeps_bind _ _).2 ((Calm.pollOrPause hc rest g₁ n₁ h₁.1).imp fun g₂ n₂ r h₂ => ?_)
        cases r with
        | error e => exact ⟨h₂.1, hn₁.goes h₂.2⟩
        | ok u => exact ⟨h₂.1, hn₁.goes h₂.2, hs₁.goes h₂.2⟩
      | none =>
        rw [onward_ok]
        dsimp only
        split
        · exact ⟨h₁.1, hn₁, hs₁.call, hs₁.id, hs₁.payload, hs₁.pending⟩
        · have hsome : g₁.current.isSome := by rw [hs₁.call]; rfl
          exact (keeps_bind _ _).2
            ⟨trivial, fun t => ⟨h₁.1, hn₁, hsome, hs₁.id, by simp [SendOutcome.isAcked]⟩⟩

theorem step_keeps (hc : c.frame.Valid) (hm : g.Matches c n) (hn : g.Numbered n)
    (hs : g.Sends c n s) :
    s.step.Keeps (bookkeeping c).contract g n fun g' n' r => g'.Proceeds c n' r := by
  unfold Send.step
  split
  · exact transmitCopy_keeps hc hm hn hs
  · exact await_keeps hc hm hn hs _

/-- **A turn of a send proceeds as its step does**, and clears the pending send at the end. -/
theorem turn_keeps (hc : c.frame.Valid) (hm : g.Matches c n) (hn : g.Numbered n)
    (hs : g.Sends c n s) :
    s.turn.Keeps (bookkeeping c).contract g n fun g' n' r => g'.Proceeds c n' r := by
  refine (keeps_bind _ _).2 ((keeps_attempt _).2 ((step_keeps hc hm hn hs).imp fun g' n' r h => ?_))
  cases r with
  | error e => exact ⟨h.1.congr rfl rfl, h.2⟩
  | ok turn =>
    cases turn with
    | again s' => exact h
    | finish outcome =>
      simp only [onward_ok, keeps_bind, keeps_modify]
      split
      · exact ⟨h.1.congr rfl rfl, h.2.1, h.2.2⟩
      · exact ⟨h.1.congr rfl rfl, h.2.1, h.2.2⟩

end

/-! ## Whole operations -/

/-- An operation that asks for nothing new ends, or goes on, as any may. -/
theorem outcome_of_calm {α : Type} {x : Action α} {turn : α → Turn Activity Reply} (hx : Calm c x)
    (hm : g.Matches c n) (hn : g.Numbered n)
    (hturn : ∀ a g' n', (bookkeeping c).AtRest g' n' →
      (bookkeeping c).Outcome g' n' (.ok (turn a))) :
    (x >>= fun a => pure (turn a)).Keeps (bookkeeping c).contract g n (bookkeeping c).Outcome := by
  refine (keeps_bind _ _).2 ((hx g n hm).imp fun g' n' r h => ?_)
  have hrest : (bookkeeping c).AtRest g' n' := ⟨h.1, hn.goes h.2⟩
  cases r with
  | error e => exact ⟨trivial, hrest⟩
  | ok a => exact hturn a g' n' hrest

theorem Ledger.Proceeds.outcome {r : Except Error (Turn Send SendOutcome)}
    (h : g.Proceeds c n r) :
    (bookkeeping c).Outcome g n (r.map fun turn => turn.map .sending .outcome) := by
  cases r with
  | error e => exact ⟨trivial, h⟩
  | ok turn =>
    cases turn with
    | again s => exact h
    | finish outcome => exact ⟨h.2.2, h.1, h.2.1⟩

/-- **A node keeps to the rules of its ledger, whatever it is answered.** -/
theorem bookkeeping_sound (hc : c.frame.Valid) : (bookkeeping c).Sound where
  start := by
    intro g n op ⟨hm, hn⟩
    have hask : op.datagram c.frame.maxPayload = none →
        (g.ask c.frame.maxPayload op).Matches c n ∧ (g.ask c.frame.maxPayload op).Numbered n := by
      intro hnone
      rw [ask_of_none hnone]
      exact ⟨⟨hm.config, hm.table, hm.handed⟩, hn⟩
    cases op with
    | poll =>
      refine outcome_of_calm (Calm.poll hc) (hask rfl).1 (hask rfl).2 ?_
      exact fun _ _ _ hrest => ⟨trivial, hrest⟩
    | recv =>
      refine outcome_of_calm Calm.recv (hask rfl).1 (hask rfl).2 ?_
      exact fun _ _ _ hrest => ⟨trivial, hrest⟩
    | recvTimeout timeout =>
      refine outcome_of_calm Calm.now (hask rfl).1 (hask rfl).2 ?_
      exact fun _ _ _ hrest => hrest
    | listen flag => exact hask rfl
    | sendUnreliable dst payload =>
      refine (keeps_bind _ _).2
        ((sendUnreliable_keeps hc hm hn fun limit => rfl).imp fun g' n' r h => ?_)
      cases r with
      | error e => exact ⟨trivial, h.1, h.2.1⟩
      | ok id => exact ⟨h.2.2 id rfl, h.1, h.2.1⟩
    | sendReliable dst payload =>
      refine (keeps_bind _ _).2 (keeps_node.2 ((keeps_bind _ _).2
        ((startSend_keeps hc hm hn fun limit => rfl).imp fun g' n' r h => ?_)))
      cases r with
      | error e => exact h.outcome
      | ok turn => exact h.outcome
    | sendReliableWith dst payload maxRetries timeout =>
      refine (keeps_bind _ _).2
        ((startSend_keeps hc hm hn fun limit => rfl).imp fun g' n' r h => ?_)
      cases r with
      | error e => exact h.outcome
      | ok turn => exact h.outcome
  turn := by
    intro g n a h
    cases a with
    | receiving deadline =>
      refine outcome_of_calm (Calm.receiveTurn hc deadline) h.1 h.2 ?_
      intro turn _ _ hrest
      cases turn with
      | again d => exact hrest
      | finish d => exact ⟨trivial, hrest⟩
    | listening flag =>
      refine outcome_of_calm (Calm.listenTurn hc flag) h.1 h.2 ?_
      intro turn _ _ hrest
      cases turn with
      | again u => exact hrest
      | finish u => exact ⟨trivial, hrest⟩
    | sending s =>
      refine (keeps_bind _ _).2 ((turn_keeps hc h.1 h.2.1 h.2.2).imp fun g' n' r h' => ?_)
      cases r with
      | error e => exact h'.outcome
      | ok turn => exact h'.outcome

/-- A node that has just been brought up matches an empty ledger, wherever its deliveries go. -/
theorem atRest_fresh (c : Config) (sink : Sink) :
    (bookkeeping c).AtRest {} { Node.fresh c with sink } :=
  ⟨⟨rfl, fun _ => rfl, List.Sublist.refl _⟩, rfl⟩

end Link
end PacketRadio
