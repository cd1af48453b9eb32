/-
# The life of a node

rflink specification, §4.4: the operations of the manager; §5: attaching a
channel.

A run (`Run`) takes the place where deliveries go as settled.  In its life a
node may also be given a channel for them, whenever it rests.  So its life is
a succession of stretches (`Stretch`), each from one time that the node can be
looked at to the next, with channels given in between.

What holds of the exchanges so far and of the node whenever it can be looked
at is therefore shown one stretch at a time.  In the middle of a stretch it
holds of every way in which that can end.

Main statements: `Life.upholds`, and `Operation.Reaches.upholds`, which says
the same of one operation from its beginning on.
-/

import PacketRadio.Proofs.Link.Counting

namespace PacketRadio
namespace Link

variable {n₀ n n' : Node} {h : History} {st : Status} {es : List Exchange}

/-- The exchange that was made. -/
def Occurrence.exchange? : Occurrence → Option Exchange
  | .exchanged e => some e
  | _ => none

/-- The exchanges in a history. -/
def History.exchanges (h : History) : List Exchange :=
  h.filterMap Occurrence.exchange?

namespace History

@[simp] theorem exchanges_append (h h' : History) :
    exchanges (h ++ h') = h.exchanges ++ h'.exchanges :=
  List.filterMap_append

@[simp] theorem exchanges_began (op : Operation) : exchanges [.began op] = [] := rfl

@[simp] theorem exchanges_exchanged (e : Exchange) : exchanges [.exchanged e] = [e] := rfl

@[simp] theorem exchanges_ended (r : Except Error Reply) : exchanges [.ended r] = [] := rfl

end History

/-! ## From the beginning on -/

/-- What a node that was brought up as `n₀` has come to.  Whenever it rests it may be given a
channel for its deliveries. -/
inductive Life (n₀ : Node) : History → Status → Prop where
  /-- It has just been brought up. -/
  | start : Life n₀ [] (.resting n₀)
  /-- Its deliveries go into another channel from now on. -/
  | redirect {h : History} {n : Node} (channel : Nat) (before : Life n₀ h (.resting n)) :
      Life n₀ h (.resting (n.withChannel channel))
  /-- One more step. -/
  | step {h : History} {st st' : Status} {o : Option Occurrence} (before : Life n₀ h st)
      (next : st.Step o st') : Life n₀ (h ++ o.toList) st'

/-- **A run is a life without changes of channel.** -/
theorem Run.life (hr : Run n₀ h st) : Life n₀ h st := by
  induction hr with
  | start => exact .start
  | step before next ih => exact .step ih next

/-- The exchanges and the node at the end of the turn at hand are as `Q` says, however it ends.  At
rest, and between two turns, that is where the node is. -/
def Status.Ends (Q : List Exchange → Node → Prop) : Status → Prop
  | .resting n => Q [] n
  | .busy rest => ∀ es r n', Task.Path rest es (.done (r, n')) → Q es n'

/-- Less may be said of the ends. -/
theorem Status.Ends.imp {Q Q' : List Exchange → Node → Prop} (hs : st.Ends Q)
    (hQ : ∀ es n, Q es n → Q' es n) : st.Ends Q' := by
  cases st with
  | resting n => exact hQ [] n hs
  | busy rest => exact fun es r n' hpath => hQ es n' (hs es r n' hpath)

/-- **What holds of every end holds of a node that can be looked at.** -/
theorem Status.Ends.visible {Q : List Exchange → Node → Prop} (hs : st.Ends Q)
    (hn : st.node? = some n) : Q [] n := by
  match st, hn with
  | .resting n, rfl => exact hs
  | .busy (.done (r, n)), rfl => exact hs [] r n (.here _)

/-- Whatever a node does from one time that it can be looked at to the next keeps to `P`, which is
about the exchanges so far and the node. -/
structure Upheld (P : List Exchange → Node → Prop) : Prop where
  /-- A channel does not matter. -/
  redirect : ∀ es n channel, P es n → P es (n.withChannel channel)
  /-- A stretch keeps to it. -/
  stretch : ∀ es n es' r n', P es n → Stretch n es' (r, n') → P (es ++ es') n'

/-- From one status a node has gone on to another, with this history since.  Whenever it rests it
may be given a channel for its deliveries. -/
inductive Status.Onward (st₀ : Status) : History → Status → Prop where
  /-- It has not gone on yet. -/
  | here : Onward st₀ [] st₀
  /-- Its deliveries go into another channel from now on. -/
  | redirect {h : History} {n : Node} (channel : Nat) (before : Onward st₀ h (.resting n)) :
      Onward st₀ h (.resting (n.withChannel channel))
  /-- One more step. -/
  | step {h : History} {st st' : Status} {o : Option Occurrence} (before : Onward st₀ h st)
      (next : st.Step o st') : Onward st₀ (h ++ o.toList) st'

/-- A life goes on from the node that was brought up. -/
theorem Life.onward (hl : Life n₀ h st) : (Status.resting n₀).Onward h st := by
  induction hl with
  | start => exact .here
  | redirect channel before ih => exact .redirect channel ih
  | step before next ih => exact .step ih next

/-- **What every stretch upholds goes on to hold.** -/
theorem Status.Onward.upholds {P : List Exchange → Node → Prop} (hP : Upheld P) {st₀ : Status}
    (h₀ : st₀.Ends P) (hl : st₀.Onward h st) : st.Ends fun es n => P (h.exchanges ++ es) n := by
  induction hl with
  | here => exact h₀
  | redirect channel before ih => exact hP.redirect _ _ channel ih
  | step before next ih =>
    cases next with
    | begin n op =>
      intro es r n' hpath
      have hn := hP.stretch _ _ _ _ _ ih (.start op hpath)
      simpa using hn
    | exchange req next a =>
      intro es r n' hpath
      have hn := ih _ r n' (.step hpath)
      simpa using hn
    | turn a n =>
      intro es r n' hpath
      have hn := hP.stretch _ _ _ _ _ (ih [] _ n (.here _)) (.turn a hpath)
      simpa using hn
    | finish reply n =>
      have hn := ih [] _ n (.here _)
      simpa [Status.Ends] using hn
    | fail e n =>
      have hn := ih [] _ n (.here _)
      simpa [Status.Ends] using hn

/-- **What every stretch upholds holds all the time.** -/
theorem Life.upholds {P : List Exchange → Node → Prop} (hP : Upheld P) (h₀ : P [] n₀)
    (hl : Life n₀ h st) : st.Ends fun es n => P (h.exchanges ++ es) n := by
  have hrests : (Status.resting n₀).Ends P := h₀
  exact hl.onward.upholds hP hrests

/-- **What every stretch upholds holds of a node that can be looked at.** -/
theorem Life.visible {P : List Exchange → Node → Prop} (hP : Upheld P) (h₀ : P [] n₀)
    (hl : Life n₀ h st) (hn : st.node? = some n) : P h.exchanges n := by
  have hends := (hl.upholds hP h₀).visible hn
  rwa [List.append_nil] at hends

/-- A node that has been brought up is a fresh one, of a configuration that can be used. -/
theorem bringUp_path {c : Config} {es₀ : List Exchange}
    (hup : Task.Path (Action.bringUp c) es₀ (.done (.ok n₀))) : c.Valid ∧ n₀ = Node.fresh c := by
  let anything : Contract Unit := ⟨fun _ _ => (), fun _ _ => True⟩
  refine ⟨?_, (bringUp_keeps (C := anything) () fun _ _ _ => trivial).path hup n₀ rfl⟩
  rw [← Config.validate_eq_ok_iff]
  unfold Action.bringUp at hup
  split at hup
  · cases hup
  · assumption

/-- A node of the usual configuration is brought up by three calls. -/
theorem bringUp_usual : Task.Path (Action.bringUp {})
    [⟨.radio .init, .ok ()⟩, ⟨.radio (.setAddress 1 false), .ok ()⟩,
      ⟨.radio (.setMode .receive), .ok ()⟩] (.done (.ok (Node.fresh {}))) :=
  .step (.step (.step (.here _)))

/-! ## One operation -/

/-- The operation, begun at a node, has come to what is left of a turn, after these exchanges. -/
inductive Operation.Reaches (op : Operation) (n : Node) :
    List Exchange → Task (Except Error (Turn Activity Reply) × Node) → Prop where
  /-- It has just begun. -/
  | begun : Reaches op n [] (op.start n)
  /-- A request has been answered. -/
  | asked {es : List Exchange} {r : Request} {next} (before : Reaches op n es (.ask r next))
      (a : r.Answer) : Reaches op n (es ++ [⟨r, a⟩]) (next a)
  /-- The next turn has begun. -/
  | turned {es : List Exchange} {a : Activity} {n' : Node}
      (before : Reaches op n es (.done (.ok (.again a), n'))) : Reaches op n es (a.turn n')

variable {op : Operation} {rest : Task (Except Error (Turn Activity Reply) × Node)}

/-- **A path that an operation takes is part of its way.** -/
theorem Operation.Reaches.path {es' : List Exchange} {rest'} (h : op.Reaches n es rest)
    (hpath : Task.Path rest es' rest') : op.Reaches n (es ++ es') rest' := by
  induction hpath generalizing es with
  | here t => rwa [List.append_nil]
  | @step r next a es' t' rest ih =>
    rw [List.append_cons]
    exact ih (h.asked a)

/-- **An operation that a node at rest begins is part of its life.** -/
theorem Life.reaches (hl : Life n₀ h (.resting n)) (hr : op.Reaches n es rest) :
    Life n₀ (h ++ .began op :: es.map .exchanged) (.busy rest) := by
  induction hr with
  | begun => exact hl.step (.begin n op)
  | asked before a ih => simpa using ih.step (.exchange _ _ a)
  | turned before ih => simpa using ih.step (.turn _ _)

/-- **A busy node is at an operation that it began at rest.** -/
theorem Life.exists_reaches (hl : Life n₀ h (.busy rest)) :
    ∃ h₀ n op es, h = h₀ ++ .began op :: es.map .exchanged ∧ Life n₀ h₀ (.resting n) ∧
      op.Reaches n es rest := by
  generalize hst : Status.busy rest = st at hl
  induction hl generalizing rest with
  | start => cases hst
  | redirect channel before ih => cases hst
  | step before next ih =>
    cases next with
    | begin n op =>
      obtain rfl := Status.busy.inj hst
      exact ⟨_, n, op, [], rfl, before, .begun⟩
    | exchange r next a =>
      obtain rfl := Status.busy.inj hst
      obtain ⟨h₀, n, op, es, rfl, hrest, hreach⟩ := ih rfl
      exact ⟨h₀, n, op, es ++ [⟨r, a⟩], by simp, hrest, hreach.asked a⟩
    | turn a n' =>
      obtain rfl := Status.busy.inj hst
      obtain ⟨h₀, n, op, es, rfl, hrest, hreach⟩ := ih rfl
      exact ⟨h₀, n, op, es, by simp, hrest, hreach.turned⟩
    | finish reply n => cases hst
    | fail e n => cases hst

/-- A node to which nothing has happened is as it started. -/
theorem Run.eq_resting {h : History} {st : Status} (hr : Run n₀ h st) (hh : h = []) :
    st = .resting n₀ := by
  induction hr with
  | start => rfl
  | step before next ih =>
    obtain ⟨hbefore, hnone⟩ := List.append_eq_nil_iff.1 hh
    obtain rfl := ih hbefore
    cases next with
    | begin n op => cases hnone

/-- **A node that has begun an operation and is not over with it** is at that operation. -/
theorem Run.reaches {h : History} {st : Status} (hr : Run n₀ h st) (op : Operation)
    (es : List Exchange) (hh : h = .began op :: es.map .exchanged) :
    ∃ rest, st = .busy rest ∧ op.Reaches n₀ es rest := by
  induction hr generalizing es with
  | start => cases hh
  | @step h st st' o before next ih =>
    -- the last exchange, if there is any, is the end of the history
    have hlast : ∀ o, h ++ [o] = .began op :: es.map .exchanged →
        (h = [] ∧ o = .began op ∧ es = []) ∨
          ∃ es' e, es = es' ++ [e] ∧ o = .exchanged e ∧
            h = .began op :: es'.map .exchanged := by
      intro o ho
      rcases List.eq_nil_or_concat es with rfl | ⟨es', e, rfl⟩
      · have hfirst : h ++ [o] = [] ++ [.began op] := ho
        obtain ⟨rfl, hsame⟩ := List.append_inj' hfirst rfl
        exact .inl ⟨rfl, List.singleton_inj.1 hsame, rfl⟩
      · rw [List.concat_eq_append, List.map_append, ← List.cons_append] at ho
        obtain ⟨rfl, hsame⟩ := List.append_inj' ho rfl
        exact .inr ⟨es', e, List.concat_eq_append, List.singleton_inj.1 hsame, rfl⟩
    cases next with
    | begin n op' =>
      rcases hlast _ hh with ⟨rfl, hop, rfl⟩ | ⟨es', e, -, hop, -⟩
      · cases hop
        obtain rfl := Status.resting.inj (before.eq_resting rfl)
        exact ⟨_, rfl, .begun⟩
      · cases hop
    | exchange r next a =>
      rcases hlast _ hh with ⟨-, hop, -⟩ | ⟨es', e, rfl, he, hbefore⟩
      · cases hop
      · cases he
        obtain ⟨rest, hrest, hreaches⟩ := ih es' hbefore
        cases hrest
        exact ⟨_, rfl, hreaches.asked a⟩
    | turn a n =>
      obtain ⟨rest, hrest, hreaches⟩ := ih es ((List.append_nil h).symm.trans hh)
      cases hrest
      exact ⟨_, rfl, hreaches.turned⟩
    | finish reply n =>
      rcases hlast _ hh with ⟨-, hop, -⟩ | ⟨es', e, -, he, -⟩
      · cases hop
      · cases he
    | fail error n =>
      rcases hlast _ hh with ⟨-, hop, -⟩ | ⟨es', e, -, he, -⟩
      · cases hop
      · cases he

/-- **A node that is over with its first operation** has come to its result. -/
theorem Run.ended {h : History} {n : Node} {op : Operation} {es : List Exchange}
    {result : Except Error Reply} (hr : Run n₀ h (.resting n))
    (hh : h = .began op :: es.map .exchanged ++ [.ended result]) :
    op.Reaches n₀ es (.done (result.map .finish, n)) := by
  generalize hst : Status.resting n = st at hr
  cases hr with
  | start => cases hh
  | step before next =>
    cases next with
    | finish reply n' =>
      cases hst
      obtain ⟨rfl, hlast⟩ := List.append_inj' hh rfl
      cases hlast
      obtain ⟨_, ⟨⟩, hreaches⟩ := before.reaches op es rfl
      exact hreaches
    | fail e n' =>
      cases hst
      obtain ⟨rfl, hlast⟩ := List.append_inj' hh rfl
      cases hlast
      obtain ⟨_, ⟨⟩, hreaches⟩ := before.reaches op es rfl
      exact hreaches
    | _ => cases hst

/-- **What the beginning of an operation and each of its turns uphold holds at the end of every
turn.** -/
theorem Operation.Reaches.upholds
    {Q : List Exchange → Except Error (Turn Activity Reply) → Node → Prop}
    (hstart : ∀ es r n', Task.Path (op.start n) es (.done (r, n')) → Q es r n')
    (hturn : ∀ es a n₁ es' r n', Q es (.ok (.again a)) n₁ →
      Task.Path (a.turn n₁) es' (.done (r, n')) → Q (es ++ es') r n')
    (hr : op.Reaches n es rest) {es' : List Exchange} {r : Except Error (Turn Activity Reply)}
    {n' : Node} (hpath : Task.Path rest es' (.done (r, n'))) : Q (es ++ es') r n' := by
  induction hr generalizing es' r n' with
  | begun => exact hstart es' r n' hpath
  | asked before a ih => simpa using ih (.step hpath)
  | @turned es a n₁ before ih =>
    have hbefore := ih (.here _)
    rw [List.append_nil] at hbefore
    exact hturn es a n₁ es' r n' hbefore hpath

end Link
end PacketRadio
