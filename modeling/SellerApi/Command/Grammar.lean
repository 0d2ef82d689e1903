import SellerApi.Text.Integer

/-! # Command lines

What a command line may hold, and how one is taken apart. A group of commands has its own options
and further commands; a command has options and a fixed number of texts in order. An option is
given in long form or by a letter, its value behind it or attached to it. A value that stands by
itself is checked when something else of the same level is read, or at the end: so a fault further
on may be told first. -/

namespace SellerApi.Command

open SellerApi.Text

/-- Why a command line is not accepted, or not carried out. -/
inductive Usage where
  | help
  | version
  /-- A group of commands stands alone. -/
  | helpForGroup
  /-- A group has options but no command. -/
  | noCommand
  | unknownCommand
  | unknownArgument
  | missingArgument
  /-- A value is missing or is none of the choices. -/
  | badChoice
  /-- A value does not read as a number. -/
  | badNumber
  /-- An option that can be given once is given twice. -/
  | repeated
  /-- A flag has a value. -/
  | unwantedValue
  deriving DecidableEq, Repr

namespace Usage

/-- What a user is told. -/
def message : Usage → String
  | .help => "help was asked for"
  | .version => "the version was asked for"
  | .helpForGroup | .noCommand => "a command is missing"
  | .unknownCommand => "no such command"
  | .unknownArgument => "unexpected argument"
  | .missingArgument => "an argument is missing"
  | .badChoice => "a value is missing or not among the choices"
  | .badNumber => "a value is no number in range"
  | .repeated => "an option is given twice"
  | .unwantedValue => "a flag takes no value"

/-- Whether the user asked for a text and made no mistake. -/
def isRequest : Usage → Bool
  | .help | .version => true
  | _ => false

end Usage

/-- What an option takes. -/
inductive Shape where
  | flag
  | help
  | version
  | text
  /-- The path of a file. -/
  | path
  /-- A natural number of 32 bits. -/
  | count
  /-- A natural number of 64 bits. -/
  | span
  /-- `true` or `false`. -/
  | truth
  /-- One of some words. -/
  | word (choices : List String)
  deriving DecidableEq, Repr

/-- An option. -/
structure Opt where
  name : String
  letter : Option Char := none
  shape : Shape := .text
  /-- Whether it may be given several times. -/
  many : Bool := false
  /-- Whether its value may start with a dash. -/
  dashed : Bool := false
  deriving DecidableEq, Repr

def Shape.takesValue : Shape → Bool
  | .flag | .help | .version => false
  | _ => true

/-- A count: a whole number of 32 bits. -/
def count? (s : String) : Option Nat :=
  (readInt64? s.toList).bind fun n => if 0 ≤ n ∧ n < bound32 then some n.toNat else none

/-- A number of seconds: a whole number of 64 bits without a minus sign. -/
def span? (s : String) : Option Nat := readBelow? bound64 s.toList

def truth? (s : String) : Option Bool :=
  if s = "true" then some true else if s = "false" then some false else none

/-- Checks a value. -/
def Shape.check (shape : Shape) (value : String) : Except Usage Unit :=
  match shape with
  | .path => if value = "" then .error .badChoice else .ok ()
  | .count => if (count? value).isSome then .ok () else .error .badNumber
  | .span => if (span? value).isSome then .ok () else .error .badNumber
  | .truth => if (truth? value).isSome then .ok () else .error .badChoice
  | .word choices => if choices.contains value then .ok () else .error .badChoice
  | _ => .ok ()

/-- What a command line says on one level. -/
structure Matches where
  /-- The options with their values in order; a flag has none. -/
  options : List (String × List String) := []
  /-- The texts that belong to no option. -/
  texts : List String := []
  deriving DecidableEq, Repr

namespace Matches

def values (m : Matches) (name : String) : List String :=
  ((m.options.find? (·.1 = name)).map (·.2)).getD []

def has (m : Matches) (name : String) : Bool := m.options.any (·.1 = name)

def value? (m : Matches) (name : String) : Option String := (m.values name).head?

/-- The text at a position. -/
def textAt (m : Matches) (i : Nat) : String := m.texts.getD i ""

/-- Adds values to an option. -/
def add (m : Matches) (name : String) (values : List String) : Matches :=
  if m.has name then
    let extend : String × List String → String × List String := fun (n, vs) =>
      if n = name then (n, vs ++ values) else (n, vs)
    { m with options := m.options.map extend }
  else { m with options := m.options ++ [(name, values)] }

end Matches

/-- A command, or a group of them, that leads to a result. -/
inductive Spec (α : Type) where
  | group (options : List Opt) (commands : List (String × Spec α))
  | command (options : List Opt) (arity : Nat) (result : Matches → α)

namespace Spec

variable {α : Type}

def options : Spec α → List Opt
  | .group options _ | .command options _ _ => options

def commands : Spec α → List (String × Spec α)
  | .group _ commands => commands
  | .command .. => []

/-- How many texts belong to no option. -/
def arity : Spec α → Nat
  | .group .. => 0
  | .command _ arity _ => arity

def isGroup : Spec α → Bool
  | .group .. => true
  | .command .. => false

def find? (s : Spec α) (name : String) : Option (Spec α) :=
  (s.commands.find? (·.1 = name)).map (·.2)

/-- What the word `help` and the words behind it ask for. -/
def helpFor (s : Spec α) : List String → Usage
  | [] => .help
  | name :: names =>
    match s.find? name with
    | some sub => sub.helpFor names
    | none => if s.isGroup && name = "help" && names.isEmpty then .help else .unknownCommand

end Spec

/-- The state within one level. -/
structure Level where
  found : Matches := {}
  /-- An option given in two parts, with its value if that was read; still to be checked. -/
  pending : Option (Opt × Option String) := none
  /-- Whether `--` was read: what follows is no option. -/
  escaped : Bool := false

namespace Level

/-- The option that the next argument is the value of. -/
def awaiting? (l : Level) : Option Opt :=
  match l.pending with
  | some (o, none) => some o
  | _ => none

/-- Takes an option with its value. -/
def take (l : Level) (o : Opt) (value : Option String) : Except Usage Level := do
  if !o.many && l.found.has o.name then throw .repeated
  if let some v := value then o.shape.check v
  return { l with found := l.found.add o.name value.toList }

/-- Checks and takes the option that is still open. -/
def settle (l : Level) : Except Usage Level :=
  match l.pending with
  | none => .ok l
  | some (_, none) => .error .badChoice
  | some (o, some v) => { l with pending := none }.take o (some v)

/-- An option without an attached value: a flag counts at once, another one awaits its value. -/
def start (l : Level) (o : Opt) : Except Usage Level := do
  let l ← l.settle
  match o.shape with
  | .help => throw .help
  | .version => throw .version
  | .flag => l.take o none
  | _ => return { l with pending := some (o, none) }

/-- An option with an attached value. -/
def attach (l : Level) (o : Opt) (value : String) : Except Usage Level := do
  if o.shape.takesValue then (← l.settle).take o (some value) else throw .unwantedValue

/-- An option in long form, behind its dashes. -/
def readLong (l : Level) (options : List Opt) (arg : List Char) : Except Usage Level :=
  let name := String.ofList (arg.takeWhile (· ≠ '='))
  match options.find? (·.name = name) with
  | none => .error .unknownArgument
  | some o =>
    match arg.dropWhile (· ≠ '=') with
    | '=' :: value => l.attach o (String.ofList value)
    | _ => l.start o

/-- Options by their letters, behind the dash. What follows an option with a value is its value. -/
def readLetters (options : List Opt) (l : Level) : List Char → Except Usage Level
  | [] => .ok l
  | c :: cs =>
    match options.find? (·.letter = some c) with
    | none => .error .unknownArgument
    | some o =>
      if o.shape.takesValue then
        match cs with
        | [] => l.start o
        | '=' :: value => l.attach o (String.ofList value)
        | value => l.attach o (String.ofList value)
      else do readLetters options (← l.start o) cs

/-- A text that belongs to no option. A group of commands takes none. -/
def readText {α : Type} (l : Level) (s : Spec α) (arg : String) : Except Usage Level :=
  if l.found.texts.length < s.arity then do
    let l ← l.settle
    return { l with found := { l.found with texts := l.found.texts ++ [arg] } }
  else if s.isGroup ∧ ¬(l.escaped ∧ ((s.find? arg).isSome ∨ arg = "help")) then
    .error .unknownCommand
  else .error .unknownArgument

/-- The end of a level on which no further command was named. -/
def finish {α : Type} (l : Level) (s : Spec α) : Except Usage (α × List Matches) := do
  let l ← l.settle
  match s with
  | .group .. => throw (if l.found.options.isEmpty then .helpForGroup else .noCommand)
  | .command _ arity result =>
    if l.found.texts.length < arity then throw .missingArgument
    return (result l.found, [l.found])

/-- One argument that names no command. -/
def step {α : Type} (l : Level) (s : Spec α) (arg : String) : Except Usage Level :=
  let asValue (l : Level) : Except Usage Level :=
    match l.awaiting? with
    | some o => .ok { l with pending := some (o, some arg) }
    | none => l.readText s arg
  if l.escaped then l.readText s arg
  else if l.awaiting?.any (·.dashed) then asValue l
  else
    match arg.toList with
    | ['-', '-'] => .ok { l with escaped := true }
    | '-' :: '-' :: long => l.readLong s.options long
    | '-' :: c :: letters => readLetters s.options l (c :: letters)
    | _ => asValue l

end Level

/-- Takes a command line apart: the result of its command, and what was found on each level, the
innermost one first. -/
def Spec.read {α : Type} (s : Spec α) (l : Level) : List String → Except Usage (α × List Matches)
  | [] => l.finish s
  | arg :: args =>
    if l.escaped ∨ l.awaiting?.isSome then do (s.read (← l.step s arg) args)
    else
      match s.find? arg with
      | some sub => do
        let (result, found) ← sub.read {} args
        let l ← l.settle
        return (result, found ++ [l.found])
      | none =>
        if s.isGroup ∧ arg = "help" then .error (s.helpFor args)
        else do (s.read (← l.step s arg) args)

end SellerApi.Command
