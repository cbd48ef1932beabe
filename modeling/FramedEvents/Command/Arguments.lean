/-
Reading the arguments of a command by a grammar.

A grammar lists the options, at most one positional argument, and the names of
commands, any of which ends the arguments that the grammar is about. Arguments
are read from left to right. The value of an option that stands in an argument
of its own is looked at only when the next option or positional argument is
met, so a fault in between comes first. After `--` there are no more options.

The arguments are read by the library clap, and the reading here follows its documentation,
as far as the grammars of the program go: long and short options with and without a value,
values from the environment, positional arguments and subcommands.
-/

import FramedEvents.Command.UsageError

namespace FramedEvents

/-- What an option stands for, or which values an argument may take. -/
inductive Expects where
  | help
  | version
  | presence
  | choice (names : List String)
  | number
  | path
  deriving DecidableEq

structure Parameter where
  name : String
  letter : Option Char := none
  expects : Expects
  /-- The environment variable that is used if the option is not given. -/
  environmentName : Option String := none
  deriving DecidableEq

structure Grammar where
  options : List Parameter
  positional : Option Parameter := none
  commands : List String := []

inductive ArgumentValue where
  | present
  | chosen (name : String)
  | number (value : Nat)
  | path (path : String)
  deriving DecidableEq

/-! ### Values -/

/-- Decimal digits, with a plus sign in front or without, of a number of 64 bits. -/
def readNumber? (text : String) : Option Nat :=
  let digits := match text.toList with
    | '+' :: rest => rest
    | all => all
  if digits ≠ [] ∧ digits.all Char.isDigit then
    let value := digits.foldl (fun number digit => number * 10 + (digit.toNat - 48)) 0
    if value < UInt64.size then some value else none
  else none

namespace Expects

def takesValue : Expects → Bool
  | .choice _ | .number | .path => true
  | _ => false

def read (text : String) : Expects → Except UsageError ArgumentValue
  | .help => .error .helpRequested
  | .version => .error .versionRequested
  | .presence => .ok .present
  | .choice names => if names.contains text then .ok (.chosen text) else .error .invalidValue
  | .number =>
      match readNumber? text with
      | some value => .ok (.number value)
      | none => .error .invalidNumber
  | .path => if text = "" then .error .invalidValue else .ok (.path text)

end Expects

/-! ### Reading one argument after the other -/

structure Reading where
  given : List (String × ArgumentValue) := []
  /-- The option or positional argument met last, with its value if it has come. -/
  pending : Option (Parameter × Option String) := none
  escaped : Bool := false
  positionalMet : Bool := false

namespace Reading

def add (parameter : Parameter) (text : String) (reading : Reading) : Except UsageError Reading :=
  if (reading.given.lookup parameter.name).isSome then .error .repeatedArgument
  else do
    let value ← parameter.expects.read text
    return { reading with given := (parameter.name, value) :: reading.given }

def settle (reading : Reading) : Except UsageError Reading :=
  match reading.pending with
  | none => .ok reading
  | some (_, none) => .error .invalidValue
  | some (parameter, some text) => { reading with pending := none }.add parameter text

def complete (parameter : Parameter) (text : String) (reading : Reading) :
    Except UsageError Reading := do
  (← reading.settle).add parameter text

def await (parameter : Parameter) (text : Option String) (reading : Reading) :
    Except UsageError Reading := do
  return { ← reading.settle with pending := some (parameter, text) }

def awaited? (reading : Reading) : Option Parameter :=
  match reading.pending with
  | some (parameter, none) => some parameter
  | _ => none

/-- An option by its name, with the value that an equals sign attaches to it. -/
def readLong (grammar : Grammar) (text : List Char) (reading : Reading) :
    Except UsageError Reading :=
  let name := String.ofList (text.takeWhile (· != '='))
  let attached : Option String := match text.dropWhile (· != '=') with
    | [] => none
    | _ :: value => some (String.ofList value)
  match grammar.options.find? (·.name == name) with
  | none => .error .unknownArgument
  | some parameter =>
      match parameter.expects.takesValue, attached with
      | true, none => reading.await parameter none
      | true, some value => reading.complete parameter value
      | false, some _ => .error .unexpectedValue
      | false, none => reading.complete parameter ""

/-- Options by their letters. What follows the letter of an option that takes a
value is its value. -/
def readLetters (grammar : Grammar) : List Char → Reading → Except UsageError Reading
  | [], reading => .ok reading
  | letter :: rest, reading =>
      match grammar.options.find? (·.letter == some letter) with
      | none => .error .unknownArgument
      | some parameter =>
          if parameter.expects.takesValue then
            match rest with
            | [] => reading.await parameter none
            | '=' :: value => reading.complete parameter (String.ofList value)
            | value => reading.complete parameter (String.ofList value)
          else do readLetters grammar rest (← reading.complete parameter "")

def readPositional (grammar : Grammar) (argument : String) (reading : Reading) :
    Except UsageError Reading :=
  match grammar.positional with
  | some parameter =>
      if reading.positionalMet then .error .unknownArgument
      else { reading with positionalMet := true }.await parameter (some argument)
  | none =>
      if grammar.commands = [] then .error .unknownArgument
      else if reading.escaped && grammar.commands.contains argument then .error .unknownArgument
      else .error .unknownCommand

def step (grammar : Grammar) (reading : Reading) (argument : String) : Except UsageError Reading :=
  if reading.escaped then reading.readPositional grammar argument
  else
    match argument.toList with
    | ['-', '-'] => .ok { reading with escaped := true }
    | '-' :: '-' :: text => reading.readLong grammar text
    | '-' :: letter :: more => readLetters grammar (letter :: more) reading
    | _ =>
        match reading.awaited? with
        | some parameter => .ok { reading with pending := some (parameter, some argument) }
        | none => reading.readPositional grammar argument

/-- Reads arguments up to the first that names a command. The answer has that
name and the arguments after it. -/
def readAll (grammar : Grammar) :
    Reading → List String → Except UsageError (Reading × Option (String × List String))
  | reading, [] => .ok (reading, none)
  | reading, argument :: rest =>
      if !reading.escaped && reading.awaited?.isNone && grammar.commands.contains argument then
        .ok (reading, some (argument, rest))
      else do readAll grammar (← reading.step grammar argument) rest

def finish (grammar : Grammar) (environment : List (String × String)) (reading : Reading) :
    Except UsageError Reading := do
  grammar.options.foldlM
    (fun reading parameter =>
      if (reading.given.lookup parameter.name).isSome then .ok reading
      else
        match parameter.environmentName.bind fun name => environment.lookup name with
        | none => .ok reading
        | some text => reading.add parameter text)
    (← reading.settle)

/-! ### What has been given -/

def number? (reading : Reading) (name : String) : Option Nat :=
  match reading.given.lookup name with
  | some (.number value) => some value
  | _ => none

def path? (reading : Reading) (name : String) : Option String :=
  match reading.given.lookup name with
  | some (.path path) => some path
  | _ => none

def choice? (reading : Reading) (name : String) : Option String :=
  match reading.given.lookup name with
  | some (.chosen chosen) => some chosen
  | _ => none

def isPresent (reading : Reading) (name : String) : Bool := (reading.given.lookup name).isSome

end Reading

end FramedEvents
