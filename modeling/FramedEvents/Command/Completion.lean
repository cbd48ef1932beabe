/-
How a command ends: what it has written, and its failure if it failed.
-/

import FramedEvents.Command.Failure
import FramedEvents.Command.Workspace

namespace FramedEvents

structure Completion where
  output : Bytes := []
  failure : Option Failure := none
  workspace : Workspace

namespace Completion

def code (completion : Completion) : Nat :=
  match completion.failure with
  | none => 0
  | some failure => failure.code

def refused (workspace : Workspace) (failure : Failure) : Completion :=
  { failure := some failure, workspace := workspace }

end Completion

/-! ### Sources -/

def standardSource : String := "-"

def sourceName (source : String) : String :=
  if source = standardSource then "<stdin>" else source

def Workspace.openSource (workspace : Workspace) (source : String) : Except Failure Workspace.Handle :=
  if source = standardSource then .ok .standardInput
  else (workspace.openPath source).mapError (Failure.ofIo s!"cannot open {source}")

end FramedEvents
