/-
Why a command line is not carried out.

A request for help or for the version is one of the reasons, though no fault. The reasons are
kinds of errors that clap documents.
-/

namespace FramedEvents

inductive UsageError where
  | helpRequested
  | versionRequested
  | nothingGiven
  | commandMissing
  | unknownCommand
  | unknownArgument
  /-- A value is missing, or is none of those that are allowed. -/
  | invalidValue
  | invalidNumber
  | repeatedArgument
  /-- A value was given to an option that takes none. -/
  | unexpectedValue
  deriving DecidableEq

def UsageError.code : UsageError → Nat
  | .helpRequested | .versionRequested => 0
  | _ => 2

end FramedEvents
