/-
# What an operation can fail with

rflink specification, §7: retry exhaustion is a value, and frame-level errors
are recoverable.

On a radio that does not fail a node has one thing left to complain about: it
is asked to send more than its frames carry.  That is found out before
anything is sent, so a send under way has nothing to complain about.

| part | fails on a radio that does not |
| --- | --- |
| the beginning of an operation | over too large a payload |
| a turn of an operation | never |

Main statement: `Life.fails_oversized`.
-/

import PacketRadio.Proofs.Link.Accounting

namespace PacketRadio
namespace Link

open PacketRadio.Link.Action

/-- What an operation asks to be sent, if it asks for that. -/
def Operation.payload? : Operation → Option Bytes
  | .sendUnreliable _ payload | .sendReliable _ payload | .sendReliableWith _ payload _ _ =>
    some payload
  | _ => none

/-- What an errand carries is what the operation asks to be sent. -/
theorem Operation.payload?_of_errand {op : Operation} {c : Config} {d : Errand}
    (h : op.errand c = some d) : op.payload? = some d.payload := by
  cases op <;> cases h <;> rfl

/-- What a send under way carries fits into the frames of this configuration. -/
def Activity.Fits (c : Config) (a : Activity) : Prop :=
  ∀ s, a.send? = some s → s.payload.length ≤ c.frame.maxPayload

/-- The operation asks for more to be sent than fits into a frame, and this is the error. -/
def Operation.Exceeds (c : Config) (op : Operation) (e : Error) : Prop :=
  ∃ payload, op.payload? = some payload ∧ c.frame.maxPayload < payload.length ∧
    e = .frame (.payloadTooLarge payload.length c.frame.maxPayload)

/-- How the beginning of an operation, or a turn of it, may end. -/
def Operation.MayEnd (c : Config) (op : Operation) : Except Error (Turn Activity Reply) → Prop
  | .ok (.again a) => a.Fits c
  | .ok (.finish _) => True
  | .error e => op.Exceeds c e

section

variable {n n' : Node} {es : List Exchange} {op : Operation}
  {r : Except Error (Turn Activity Reply)}

/-! ## One turn -/

/-- **A send that begins fails only over its payload**, unless the radio does. -/
theorem Dispatching.mayEnd {d : Errand} (hd : Dispatching n d es n' r) (hc : n.config.frame.Valid)
    (hop : op.payload? = some d.payload) (hes : es.any Exchange.failed = false) :
    n'.config = n.config ∧ op.MayEnd n.config r := by
  cases hd with
  | oversized hsize => exact ⟨rfl, d.payload, hop, hsize, rfl⟩
  | @once es n' sent hsize hd hp =>
    obtain ⟨rfl, -, -⟩ := hp.counted hc hsize hes
    exact ⟨hp.config_eq, trivial⟩
  | awaited hsize hd hdst t =>
    refine ⟨rfl, fun s hs => ?_⟩
    obtain rfl := Option.some.inj hs
    exact hsize

/-- **So does an operation that begins.** -/
theorem Starting.mayEnd (hs : Starting n op es n' r) (hc : n.config.frame.Valid)
    (hes : es.any Exchange.failed = false) : n'.config = n.config ∧ op.MayEnd n.config r := by
  cases hs with
  | polled hp =>
    obtain ⟨⟨event, rfl⟩, hacks⟩ := (hp.routine hc).counted hes
    exact ⟨hacks.config, trivial⟩
  | popped => exact ⟨rfl, trivial⟩
  | receiving timeout t => exact ⟨rfl, nofun⟩
  | listening flag => exact ⟨rfl, nofun⟩
  | sending hop hd => exact hd.mayEnd hc (Operation.payload?_of_errand hop) hes

/-- **A turn of a send does not fail**, unless the radio does. -/
theorem Pursuing.mayEnd {s : Send} {r : Except Error (Turn Send SendOutcome)}
    (hp : Pursuing n s es n' r) (hc : n.config.frame.Valid)
    (hfits : s.payload.length ≤ n.config.frame.maxPayload) (hes : es.any Exchange.failed = false) :
    n'.config = n.config ∧ ∃ turn, r = .ok turn ∧
      ∀ s', turn = .again s' → s'.payload = s.payload := by
  cases hp with
  | copied hphase hp t =>
    refine ⟨hp.config_eq.trans (n.repeating_config s), _, rfl, fun s' hs' => ?_⟩
    cases hs'
    rfl
  | unsent hphase hp =>
    obtain ⟨herror, -⟩ :=
      hp.counted (by rwa [n.repeating_config]) (by rwa [n.repeating_config]) hes
    cases herror
  | acked hphase ha t => exact ⟨rfl, _, rfl, nofun⟩
  | watched hphase ha ht hw =>
    refine ⟨hw.config_eq, _, rfl, fun s' hs' => ?_⟩
    cases hs'
    rfl
  | unwatched hphase ha ht hw =>
    obtain ⟨⟨u, herror⟩, -⟩ := (hw.routine hc).counted (any_failed_append.1 hes).2
    cases herror
  | retried hphase ha ht hmore =>
    refine ⟨rfl, _, rfl, fun s' hs' => ?_⟩
    cases hs'
    rfl
  | exhausted hphase ha ht hmore t => exact ⟨rfl, _, rfl, nofun⟩

/-- **Nor does a turn of any operation.** -/
theorem Turning.mayEnd {a : Activity} (ht : Turning n a es n' r) (hc : n.config.frame.Valid)
    (hfits : a.Fits n.config) (hes : es.any Exchange.failed = false) :
    n'.config = n.config ∧ op.MayEnd n.config r := by
  cases ht with
  | received deadline hd => exact ⟨rfl, trivial⟩
  | expired hd ht => exact ⟨rfl, trivial⟩
  | waited hd ht hw =>
    obtain ⟨⟨u, rfl⟩, hacks⟩ := (hw.routine hc).counted (any_failed_append.1 hes).2
    exact ⟨hacks.config, nofun⟩
  | stopped flag idled => exact ⟨rfl, trivial⟩
  | listened hw => exact ⟨hw.config_eq, nofun⟩
  | @broken flag es n' e hw idled =>
    have hlook : es.any Exchange.failed = false := by
      simpa [Exchange.failed] using (any_failed_append.1 hes).1
    obtain ⟨⟨u, herror⟩, -⟩ := (hw.routine hc).counted hlook
    cases herror
  | @sending s es n' r hs =>
    obtain ⟨hconfig, turn, rfl, hsame⟩ := hs.mayEnd hc (hfits s rfl) hes
    refine ⟨hconfig, ?_⟩
    cases turn with
    | again s' =>
      intro s₁ hs₁
      obtain rfl := Option.some.inj hs₁
      rw [hsame s' rfl]
      exact hfits s rfl
    | finish outcome => trivial

/-! ## All turns -/

variable {rest : Task (Except Error (Turn Activity Reply) × Node)}

/-- **An operation goes on without a failure of its own**, unless the radio fails. -/
theorem Operation.Reaches.mayEnd (hr : op.Reaches n es rest) (hc : n.config.frame.Valid)
    {es' : List Exchange} (hpath : Task.Path rest es' (.done (r, n')))
    (hes : (es ++ es').any Exchange.failed = false) :
    n'.config = n.config ∧ op.MayEnd n.config r := by
  refine hr.upholds (Q := fun es r n' => es.any Exchange.failed = false →
    n'.config = n.config ∧ op.MayEnd n.config r) ?_ ?_ hpath hes
  · intro es r n' hpath hes
    have hs : Starting n op es n' r := (start_goes op n).path hpath
    exact hs.mayEnd hc hes
  · intro es a n₁ es' r n' hbefore hpath hes
    obtain ⟨hes₁, hes₂⟩ := any_failed_append.1 hes
    obtain ⟨hconfig, hfits⟩ := hbefore hes₁
    have ht : Turning n₁ a es' n' r := (turn_goes a n₁).path hpath
    have hend : n'.config = n₁.config ∧ op.MayEnd n₁.config r :=
      ht.mayEnd (by rwa [hconfig]) (by rwa [hconfig]) hes₂
    obtain ⟨hconfig', hends⟩ := hend
    rw [hconfig] at hconfig' hends
    exact ⟨hconfig', hends⟩

/-- The books about an operation under way. -/
theorem History.books_reached (h₀ : History) (op : Operation) (es : List Exchange) :
    History.books (h₀ ++ .began op :: es.map .exchanged) =
      (h₀.books.note (.began op)).exchange es := by
  rw [History.books, List.foldl_append, List.foldl_cons, List.foldl_map,
    ← Books.foldl_note (c := {})]
  rfl

/-- **What a node fails with on a radio that does not**: it was asked to send more than its frames
carry. -/
theorem Life.fails_oversized {c : Config} (hc : c.frame.Valid) {sink : Sink} {h : History}
    {e : Error} (hl : Life { Node.fresh c with sink } h (.busy (.done (.error e, n))))
    (hok : h.books.broken = false) :
    n.config = c ∧ ∃ op, h.books.asked = some op ∧ op.Exceeds c e := by
  obtain ⟨h₀, n₁, op, es, rfl, hrest, hreach⟩ := hl.exists_reaches
  obtain ⟨hconfig, -, -⟩ := hrest.accounted hc
  rw [History.books_reached] at hok ⊢
  have hes : (es ++ []).any Exchange.failed = false := by
    rw [List.append_nil]
    exact (Books.unbroken hok).2
  obtain ⟨hsame, hexceeds⟩ := hreach.mayEnd (by rwa [hconfig]) (.here _) hes
  rw [hconfig] at hsame hexceeds
  exact ⟨hsame, op, rfl, hexceeds⟩

end

end Link
end PacketRadio
