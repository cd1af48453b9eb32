/-
# Faults of a radio

rflink specification, §4.2: every operation of the capability but `mode` can
fail; §7: with which errors.

A fault makes some of the calls of one name go wrong before they reach the
radio: it lets so many pass and then spoils so many.  Of several faults the
one added first is looked at first, and a call that one of them lets pass
goes on to the next.

Main statement: `strike_of_ne` (a call of another name is never spoilt).
-/

import PacketRadio.Radio.Basic

namespace PacketRadio
namespace Scenario

/-- How a fault spoils a call. -/
inductive Fault.Effect where
  /-- The call fails. -/
  | fail (failure : Radio.Failure)
  /-- The call answers that there is nothing. -/
  | nothing
  deriving DecidableEq, Repr

/-- A fault of a radio. -/
structure Fault where
  /-- The calls it applies to. -/
  call : Radio.Call.Name
  /-- How many of them still pass. -/
  skip : Nat := 0
  /-- How many of them are spoilt after that. -/
  count : Nat := 1
  /-- What happens to those. -/
  effect : Fault.Effect
  deriving DecidableEq, Repr

namespace Fault

/-- What faults do to a call, and the faults afterwards. -/
def strike (call : Radio.Call.Name) : List Fault → Option Effect × List Fault
  | [] => (none, [])
  | f :: rest =>
    if f.call = call ∧ f.skip = 0 ∧ 0 < f.count then
      (some f.effect, { f with count := f.count - 1 } :: rest)
    else
      let f := if f.call = call ∧ 0 < f.skip then { f with skip := f.skip - 1 } else f
      let (effect, rest) := strike call rest
      (effect, f :: rest)

/-- The answer that there is nothing. -/
def noResult : (c : Radio.Call) → c.Result
  | .init => ()
  | .setAddress _ _ => ()
  | .setMode _ => ()
  | .frameReady => false
  | .receive => none
  | .transmit _ => ()

/-- The answer to a spoilt call. -/
def Effect.answer (e : Effect) (c : Radio.Call) : Except Radio.Failure c.Result :=
  match e with
  | .fail failure => .error failure
  | .nothing => .ok (noResult c)

/-- **A call of another name is never spoilt**, and uses up nothing. -/
theorem strike_of_ne {call : Radio.Call.Name} {faults : List Fault}
    (h : ∀ f ∈ faults, f.call ≠ call) : strike call faults = (none, faults) := by
  induction faults with
  | nil => rfl
  | cons f rest ih =>
    have hf : f.call ≠ call := h f (by simp)
    simp [strike, hf, ih fun g hg => h g (by simp [hg])]

end Fault
end Scenario
end PacketRadio
