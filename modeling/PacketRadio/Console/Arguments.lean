/-
# Arguments

rflink specification, §10: the command line.

| argument | is |
| --- | --- |
| `--name` | an option, whose value is the next argument, or a switch |
| `--name=value` | an option with its value |
| `-x…` | one of the letters that ask for help or for the version |
| `--` | the end of options: what follows is taken as it is |
| anything else, `-` included | a command, or an argument in its place |

An option's value cannot look like an option unless it stands behind `=`.
Arguments are looked at in order, and a question for help or for the version
is answered without a look at what follows, or at the arguments as a whole.
What is wrong with one of the arguments before it comes first.

Main statement: `scanWith_endOfOptions` (what follows the end of options is
taken as it is).
-/

import PacketRadio.Bytes

namespace PacketRadio
namespace Console

/-! ## Single arguments -/

/-- What an argument looks like. -/
inductive Word where
  /-- The end of options. -/
  | endOfOptions
  /-- A name behind two dashes, perhaps with a value. -/
  | long (name : List Char) (value : Option (List Char))
  /-- Letters behind a dash. -/
  | short (letter : Char)
  /-- Anything else. -/
  | plain
  deriving DecidableEq, Repr

/-- What stands before the first `=`, and what stands behind it. -/
def splitEquals : List Char → List Char × Option (List Char)
  | [] => ([], none)
  | '=' :: rest => ([], some rest)
  | c :: rest => (c :: (splitEquals rest).1, (splitEquals rest).2)

/-- What an argument looks like. -/
def Word.ofText : List Char → Word
  | ['-', '-'] => .endOfOptions
  | '-' :: '-' :: rest => .long (splitEquals rest).1 (splitEquals rest).2
  | '-' :: letter :: _ => .short letter
  | _ => .plain

/-! ## Scanning -/

/-- What is wrong with arguments. -/
inductive ArgumentProblem where
  /-- There is no such option. -/
  | unknownOption (name : String)
  /-- An option lacks its value. -/
  | missingValue (name : String)
  /-- A switch has a value. -/
  | unexpectedValue (name : String)
  /-- An option is given more than once. -/
  | repeated (name : String)
  /-- An option's value is not one it can have. -/
  | badValue (name : String)
  /-- Two options exclude each other. -/
  | conflict (first second : String)
  /-- Something that has to be given is not. -/
  | required (name : String)
  /-- There is an argument too many. -/
  | unexpectedArgument (text : String)
  /-- There is no command. -/
  | noCommand
  deriving DecidableEq, Repr

/-- The wording of a problem. -/
def ArgumentProblem.message : ArgumentProblem → String
  | .unknownOption name => "unknown option " ++ name
  | .missingValue name => "a value is required for --" ++ name
  | .unexpectedValue name => "no value is allowed for --" ++ name
  | .repeated name => "--" ++ name ++ " cannot be used multiple times"
  | .badValue name => "invalid value for --" ++ name
  | .conflict first second => "--" ++ first ++ " cannot be used with --" ++ second
  | .required name => name ++ " is required"
  | .unexpectedArgument text => "unexpected argument " ++ text
  | .noCommand => "a command is required"

/-- The problem lies in one argument, which is enough to see it. -/
def ArgumentProblem.isOfOne : ArgumentProblem → Bool
  | .conflict .. => false
  | .required _ => false
  | .noCommand => false
  | _ => true

/-- What arguments may hold. -/
structure Grammar where
  /-- The options with values. -/
  options : List String
  /-- The options without. -/
  switches : List String := []
  /-- How many arguments stand in a place of their own. -/
  places : Nat := 0
  /-- The commands. -/
  commands : List String := []
  /-- The version may be asked for. -/
  versioned : Bool := false

/-- Where the scan of arguments ends. -/
inductive Ending where
  /-- After the last of them. -/
  | finished
  /-- At a command; the rest is the command's. -/
  | command (name : String) (rest : List (List Char))
  /-- At a question for the version. -/
  | version
  /-- At a question for help. -/
  | help
  /-- At a problem. -/
  | problem (p : ArgumentProblem)
  deriving DecidableEq, Repr

/-- What arguments hold. -/
structure Scan where
  /-- The options and their values. -/
  options : List (String × List Char) := []
  /-- The switches. -/
  switches : List String := []
  /-- The arguments in places of their own. -/
  places : List (List Char) := []
  /-- Where the scan ended. -/
  ending : Ending
  deriving DecidableEq, Repr

namespace Scan

/-- With one more option in front. -/
def addOption (name : String) (value : List Char) (s : Scan) : Scan :=
  { s with options := (name, value) :: s.options }

/-- With one more switch in front. -/
def addSwitch (name : String) (s : Scan) : Scan :=
  { s with switches := name :: s.switches }

/-- With one more argument in a place of its own in front. -/
def addPlace (text : List Char) (s : Scan) : Scan :=
  { s with places := text :: s.places }

end Scan

/-- The scan that ends at a name which no option has. -/
def scanOther (g : Grammar) (name : String) (value : Option (List Char)) : Scan :=
  if value.isSome then { ending := .problem (.unknownOption name) }
  else if name = "help" then { ending := .help }
  else if name = "version" && g.versioned then { ending := .version }
  else { ending := .problem (.unknownOption name) }

/-- The scan that ends at a letter. -/
def scanLetter (g : Grammar) (letter : Char) : Scan :=
  if letter = 'h' then { ending := .help }
  else if letter = 'V' && g.versioned then { ending := .version }
  else { ending := .problem (.unknownOption ("-" ++ toString letter)) }

/-- The scan of arguments that are taken as they are. -/
def scanPlain (room : Nat) (args : List (List Char)) : Scan :=
  match args.drop room with
  | [] => { places := args, ending := .finished }
  | extra :: _ =>
    { places := args.take room, ending := .problem (.unexpectedArgument (String.ofList extra)) }

/-- Scans arguments with `room` places left. -/
def scanWith (g : Grammar) (room : Nat) (args : List (List Char)) : Scan :=
  match args with
  | [] => { ending := .finished }
  | word :: rest =>
    match Word.ofText word with
    | .endOfOptions => scanPlain room rest
    | .short letter => scanLetter g letter
    | .plain =>
      if g.commands.contains (String.ofList word) then
        { ending := .command (String.ofList word) rest }
      else
        match room with
        | 0 => { ending := .problem (.unexpectedArgument (String.ofList word)) }
        | room + 1 => (scanWith g room rest).addPlace word
    | .long name value =>
      let name := String.ofList name
      if g.switches.contains name then
        if value.isSome then { ending := .problem (.unexpectedValue name) }
        else (scanWith g room rest).addSwitch name
      else if g.options.contains name then
        match value, rest with
        | some value, rest => (scanWith g room rest).addOption name value
        | none, [] => { ending := .problem (.missingValue name) }
        | none, value :: rest =>
          if Word.ofText value = .plain then (scanWith g room rest).addOption name value
          else { ending := .problem (.missingValue name) }
      else scanOther g name value
  termination_by args.length

/-- Scans arguments. -/
def scan (g : Grammar) (args : List (List Char)) : Scan :=
  scanWith g g.places args

/-! ## Reading what was scanned -/

/-- The variables that options may come with instead of arguments, with their values. -/
abbrev Environment := List (String × List Char)

namespace Scan

/-- The value of an option; it may be given once. -/
def given (s : Scan) (name : String) : Except ArgumentProblem (Option (List Char)) :=
  match s.options.filter fun p => p.1 == name with
  | [] => .ok none
  | [p] => .ok (some p.2)
  | _ => .error (.repeated name)

/-- Reads the value of an option, or else of a variable. -/
def option {α : Type} (s : Scan) (env : Environment) (name : String) (variableName : Option String)
    (read : List Char → Option α) : Except ArgumentProblem (Option α) := do
  match (← s.given name).or (variableName.bind fun v => env.lookup v) with
  | none => return none
  | some text =>
    match read text with
    | some a => return some a
    | none => throw (.badValue name)

/-- Whether a switch is given; it may be once. -/
def switch (s : Scan) (name : String) : Except ArgumentProblem Bool :=
  match s.switches.count name with
  | 0 => .ok false
  | 1 => .ok true
  | _ => .error (.repeated name)

/-- What has to be given. -/
def require {α : Type} (name : String) (value : Option α) : Except ArgumentProblem α :=
  match value with
  | some a => .ok a
  | none => .error (.required name)

end Scan

/-- **After the end of options everything is taken as it is.** -/
theorem scanWith_endOfOptions (g : Grammar) (room : Nat) (rest : List (List Char)) :
    scanWith g room (['-', '-'] :: rest) = scanPlain room rest := by
  rw [scanWith.eq_def]; rfl

end Console
end PacketRadio
