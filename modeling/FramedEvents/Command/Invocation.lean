/-
The command line: what can be asked for, and how it is asked for.
-/

import FramedEvents.Chunk.Source
import FramedEvents.Command.Arguments
import FramedEvents.Report.Format
import FramedEvents.Wire.Frame

namespace FramedEvents

/-- What a command is to do. A source is a path, or `-` for standard input. -/
inductive Job where
  | decode (source : String) (chunkSize : Nat) (count : Option Nat) (limits : Limits)
  | inspect (source : String) (count : Option Nat) (limits : Limits)
  | encode (source : String) (output : Option String) (limits : Limits)
  | version (extended : Bool)

structure Invocation where
  format : Format
  job : Job

def Job.source? : Job → Option String
  | .decode source .. | .inspect source .. | .encode source .. => some source
  | .version _ => none

def Job.output? : Job → Option String
  | .encode _ output _ => output
  | _ => none

namespace Invocation

/-! ### Grammar -/

def help : Parameter := { name := "help", letter := some 'h', expects := .help }

def shared : List Parameter :=
  [{ name := "format", expects := .choice ["json", "table", "pretty", "raw"] },
    { name := "log-format", expects := .choice ["text", "json"] },
    { name := "log-level", expects := .choice ["error", "warn", "info", "debug", "trace"] },
    help]

def messageVariable : String := "EVFLOW_MAX_MESSAGE_SIZE"

def headersVariable : String := "EVFLOW_MAX_HEADERS_SIZE"

def limits : List Parameter :=
  [{ name := "max-message-size", expects := .number, environmentName := some messageVariable },
    { name := "max-headers-size", expects := .number, environmentName := some headersVariable }]

def input : Parameter := { name := "input", expects := .path }

def chunkSize : Parameter := { name := "chunk-size", expects := .number }

def count : Parameter := { name := "count", expects := .number }

def output : Parameter := { name := "output", letter := some 'o', expects := .path }

def extended : Parameter := { name := "extended", expects := .presence }

def helpCommand : String := "help"

def commands : List (String × Grammar) :=
  [("decode", { options := [chunkSize, count] ++ limits ++ shared, positional := some input }),
    ("inspect", { options := count :: limits ++ shared, positional := some input }),
    ("encode", { options := output :: limits ++ shared, positional := some input }),
    ("version", { options := extended :: shared })]

def outer : Grammar where
  options := { name := "version", letter := some 'V', expects := .version } :: shared
  commands := commands.map Prod.fst ++ [helpCommand]

/-! ### Reading -/

def formatNamed : String → Format
  | "table" => .table
  | "pretty" => .pretty
  | "raw" => .raw
  | _ => .json

def readHelp : List String → UsageError
  | [] => .helpRequested
  | [name] => if outer.commands.contains name then .helpRequested else .unknownCommand
  | _ => .unknownCommand

def limitsOf (reading : Reading) : Limits :=
  let standard : Limits := {}
  { message := (reading.number? "max-message-size").getD standard.message
    headers := (reading.number? "max-headers-size").getD standard.headers }

def jobOf (command : String) (reading : Reading) : Job :=
  let source := (reading.path? "input").getD "-"
  match command with
  | "decode" =>
      .decode source ((reading.number? "chunk-size").getD Source.defaultBlockSize)
        (reading.number? "count") (limitsOf reading)
  | "inspect" => .inspect source (reading.number? "count") (limitsOf reading)
  | "encode" => .encode source (reading.path? "output") (limitsOf reading)
  | _ => .version (reading.isPresent "extended")

/-- Reads a command line. Faults after the command's name come before those in
front of it that are found late, and an option after it before one in front. The
fallback is the format if none is given. -/
def parse (fallback : Format) (environment : List (String × String)) (arguments : List String) :
    Except UsageError Invocation := do
  match ← Reading.readAll outer {} arguments with
  | (before, none) =>
      let before ← before.finish outer environment
      throw (if before.given = [] then .nothingGiven else .commandMissing)
  | (before, some (command, rest)) =>
      if command = helpCommand then throw (readHelp rest)
      let grammar := (commands.lookup command).getD { options := [] }
      let (after, _) ← Reading.readAll grammar {} rest
      let after ← after.finish grammar environment
      let before ← before.finish outer environment
      let format := (after.choice? "format").or (before.choice? "format")
      return ⟨(format.map formatNamed).getD fallback, jobOf command after⟩

end Invocation

end FramedEvents
