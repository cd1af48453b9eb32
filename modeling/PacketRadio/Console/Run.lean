/-
# The program

rflink specification, §10: the command line.

Everything that the program does with its arguments, up to the bytes that it
prints and the code that it ends with.
-/

import PacketRadio.Console.Request

namespace PacketRadio
namespace Console

/-- What the program says about its version. -/
def versionLine : String := "rflink 0.1.0"

/-- How the program is used. -/
def usageLines : List String :=
  ["Reliable datagrams over packet radio", "", "Usage: rflink [OPTIONS] <COMMAND>", "",
    "Commands: simulate, encode, decode, version"]

/-- Does what was asked for.  No result means that a simulation was not over after `patience`
steps. -/
def perform (patience : Nat) (format : Format) : Request → Option Output
  | .version => some { status := .success, stdout := lineBytes [versionLine] }
  | .help => some { status := .success, stdout := lineBytes usageLines }
  | .encode settings => some (runEncode settings format)
  | .decode settings => some (runDecode settings format)
  | .simulate settings => runSimulate patience settings format

/-- The program.  `terminal` says whether what it prints goes to one. -/
def run (patience : Nat) (terminal : Bool) (env : Environment) (args : List (List Char)) :
    Option Output :=
  match readRequest env args with
  | .error problem => some (.ofRefusal ⟨.arguments, problem.message⟩)
  | .ok (format, request) => perform patience (format.getD (.default terminal)) request

/-- **More patience changes no output.** -/
theorem run_mono {p q : Nat} (hpq : p ≤ q) {terminal : Bool} {env : Environment}
    {args : List (List Char)} {o : Output} (h : run p terminal env args = some o) :
    run q terminal env args = some o := by
  unfold run at h ⊢
  cases hr : readRequest env args with
  | error problem => simpa [hr] using h
  | ok r =>
    obtain ⟨format, request⟩ := r
    simp only [hr] at h ⊢
    cases request with
    | simulate settings => exact runSimulate_mono hpq h
    | _ => exact h

end Console
end PacketRadio
