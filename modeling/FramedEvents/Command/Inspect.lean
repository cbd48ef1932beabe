/-
The command that shows the messages of a stream one by one.
-/

import FramedEvents.Command.Completion
import FramedEvents.Report.MessageRecord
import FramedEvents.Wire.Reader

namespace FramedEvents.Inspect

/-- At most `most` messages from a reader, and the failure that ends them. -/
def messages : (most : Nat) → Reader → List Message × Option FrameError
  | 0, _ => ([], none)
  | most + 1, reader =>
      match reader.read? with
      | (.error error, _) => ([], some error)
      | (.ok none, _) => ([], none)
      | (.ok (some message), after) =>
          let (others, failure) := messages most after
          (message :: others, failure)

def bound (script : ReadScript) : Nat := script.weight + 1

def run (format : Format) (source : String) (count : Option Nat) (limits : Limits)
    (workspace : Workspace) : Completion :=
  match workspace.openSource source with
  | .error failure => .refused workspace failure
  | .ok handle =>
      let script := workspace.script handle Reader.blockSize
      let most := min (count.getD (bound script)) (bound script)
      let (seen, failure) := messages most { script := script, limits := limits }
      { output := (seen.zipIdx 1).flatMap fun (message, index) =>
          MessageRecord.print ⟨index, message⟩ format
        failure := failure.map (Failure.ofFrame "read failed")
        workspace := workspace }

end FramedEvents.Inspect
