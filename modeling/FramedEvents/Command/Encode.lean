/-
The command that encodes lines of text as messages.

Lines are dealt with one by one, so all messages before a faulty line have been
written. Blank lines are passed over, but count.
-/

import FramedEvents.Command.Completion
import FramedEvents.Command.MessageLine
import FramedEvents.Text.Blank
import FramedEvents.Wire.Writer

namespace FramedEvents.Encode

def notText : IoError := ⟨.invalidData, some "stream did not contain valid UTF-8"⟩

def readLine (number : Nat) (line : Bytes) : Except Failure (Option Message) :=
  match line.text? with
  | none => .error (Failure.ofIo "read failed" notText)
  | some text =>
      if Blank.isBlankText text then .ok none
      else
        match MessageLine.parse line with
        | .ok message => .ok (some message)
        | .error reason => .error ⟨Failure.invalidData, s!"line {number}: {reason}"⟩

/-- Writes the messages of lines, of which the first has the given number. -/
def writeLines : (number : Nat) → Writer → List Bytes → Option Failure × Writer
  | _, writer, [] => (none, writer)
  | number, writer, line :: rest =>
      match readLine number line with
      | .error failure => (some failure, writer)
      | .ok none => writeLines (number + 1) writer rest
      | .ok (some message) =>
          match writer.write message with
          | (.ok (), after) => writeLines (number + 1) after rest
          | (.error error, after) => (some (Failure.ofFrame "write failed" error), after)

/-- Encodes all that can be read. The answer is what has been written. -/
def encode (limits : Limits) (text : Except IoError Bytes) : Option Failure × Bytes :=
  match text with
  | .error error => (some (Failure.ofIo "read failed" error), [])
  | .ok bytes =>
      let (failure, writer) := writeLines 1 { limits := limits } (MessageLine.lines bytes)
      (failure, writer.sink.received)

def run (source : String) (output : Option String) (limits : Limits) (workspace : Workspace) :
    Completion :=
  match workspace.openSource source with
  | .error failure => .refused workspace failure
  | .ok handle =>
      match output with
      | none =>
          let (failure, written) := encode limits (workspace.contents handle)
          { output := written, failure := failure, workspace := workspace }
      | some path =>
          match workspace.create path with
          | .error error => .refused workspace (Failure.ofIo s!"cannot create {path}" error)
          | .ok (name?, created) =>
              let (failure, written) := encode limits (created.contents handle)
              let kept := (name?.map (created.write · written)).getD created
              { failure := failure, workspace := kept }

end FramedEvents.Encode
