/-
# Time

rflink specification, §9: duration strings and timeouts; §4.4: the deadline of
a pending send.

Spans of time and points in time are counts of nanoseconds, the latter since
the clock started.  A clock does not reach arbitrarily far: a deadline beyond
its range never comes.

Main statements: `Deadline.left_eq_none_iff` (a deadline has passed exactly
when it is an instant that is not ahead), and `Deadline.left_pos` (time that
is left is never nothing).
-/

namespace PacketRadio

namespace Duration

/-- One thousandth of a second. -/
def millisecond : Nat := 1000000

/-- One second. -/
def second : Nat := 1000000000

/-- The longest span that can be told: 64 bits of seconds and a fraction. -/
def longest : Nat := (Nat.pow 2 64 - 1) * second + 999999999

/-- A span in whole milliseconds. -/
def inMilliseconds (d : Nat) : Nat := d / millisecond

/-- The digits of a fraction of a second, without zeros at its end. -/
def fraction (nanoseconds : Nat) : List Char :=
  let digits := Nat.toDigits 10 nanoseconds
  let padded := List.replicate (9 - digits.length) '0' ++ digits
  (padded.reverse.dropWhile (· == '0')).reverse

/-- A span of at least a second, in seconds with as many places as it takes. -/
def inSeconds (d : Nat) : String :=
  let whole := toString (d / second)
  if d % second = 0 then whole ++ "s"
  else whole ++ "." ++ String.ofList (fraction (d % second)) ++ "s"

end Duration

/-- An instant to wait for, or none if it lies beyond the clock. -/
abbrev Deadline := Option Nat

namespace Deadline

/-- The first instant that a clock cannot tell: it counts 63 bits of seconds. -/
def beyond : Nat := Nat.pow 2 63 * Duration.second

/-- The deadline that lies `timeout` after `now`. -/
def after (now : Nat) (timeout : Nat) : Deadline :=
  if now + timeout < beyond then some (now + timeout) else none

/-- The time left at `now`; nothing once the deadline has come. -/
def left (now : Nat) : Deadline → Option Nat
  | some deadline => if now < deadline then some (deadline - now) else none
  | none => some Duration.longest

/-- **A deadline has passed exactly when it is an instant that is not ahead.** -/
theorem left_eq_none_iff (now : Nat) (d : Deadline) :
    d.left now = none ↔ ∃ t, d = some t ∧ t ≤ now := by
  cases d with
  | none => simp [left]
  | some t =>
    by_cases h : now < t
    · simp [left, h]
    · simp [left, h]; omega

/-- **Time that is left is never nothing.** -/
theorem left_pos {now : Nat} {d : Deadline} {r : Nat} (h : d.left now = some r) :
    0 < r := by
  cases d with
  | none =>
    obtain rfl := Option.some.inj h
    decide
  | some t =>
    simp only [left] at h
    split at h
    · obtain rfl := Option.some.inj h
      omega
    · cases h

end Deadline
end PacketRadio
