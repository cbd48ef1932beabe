/-
The command line tool: it collects what a command line needs from the system,
carries it out, and hands over what has come out.
-/

import FramedEvents.Command.Run

namespace FramedEvents.Tool

def ioError : IO.Error → IoError
  | .noFileOrDirectory .. | .noSuchThing .. => .notFound
  | .permissionDenied .. => ⟨.permissionDenied, some "Permission denied (os error 13)"⟩
  | .inappropriateType .. => .isADirectory
  | error => ⟨.other, some (toString error)⟩

/-- Reads a file into the workspace, or notes why it cannot be read. -/
def load (path : String) (workspace : Workspace) : IO Workspace := do
  try
    let bytes ← IO.FS.readBinFile path
    return workspace.write path bytes.data.toList
  catch error =>
    let reason := ioError error
    if reason = .isADirectory then
      return { workspace with directories := path :: workspace.directories }
    else return { workspace with refused := (path, reason) :: workspace.refused }

def makeEmpty (path : String) (workspace : Workspace) : IO Workspace := do
  try
    IO.FS.writeBinFile path ⟨#[]⟩
    return workspace.write path []
  catch error =>
    return { workspace with refused := (path, ioError error) :: workspace.refused }

partial def readToEnd (stream : IO.FS.Stream) (bytes : ByteArray) : IO ByteArray := do
  let piece ← stream.read 65536
  if piece.isEmpty then return bytes else readToEnd stream (bytes ++ piece)

def loadSource (source : String) (workspace : Workspace) : IO Workspace := do
  if source = standardSource then
    let bytes ← readToEnd (← IO.getStdin) ByteArray.empty
    return { workspace with standardInput := bytes.data.toList }
  else load source workspace

def canOpen (source : String) : IO Bool := do
  if source = standardSource then return true
  let loaded ← load source {}
  return (loaded.openSource source).isOk

/-- What a job will use. Its output is made before its source is read, since
both may be the same file, but only if the source can be opened. -/
def collect (job : Job) : IO Workspace := do
  match job.source?, job.output? with
  | some source, some output =>
      if ← canOpen source then loadSource source (← makeEmpty output {})
      else loadSource source {}
  | some source, none => loadSource source {}
  | none, _ => return {}

def environment : IO (List (String × String)) := do
  let read (name : String) : IO (List (String × String)) := do
    return (← IO.getEnv name).toList.map fun value => (name, value)
  return (← read Invocation.messageVariable) ++ (← read Invocation.headersVariable)

def usageText : String :=
  "usage: evflow [--format FORMAT] [--log-format FORMAT] [--log-level LEVEL] COMMAND\n" ++
    "commands: decode, inspect, encode, version, help"

end FramedEvents.Tool

open FramedEvents

def main (arguments : List String) : IO UInt32 := do
  let output ← IO.getStdout
  let standard := Format.standard (← output.isTty)
  match Invocation.parse standard (← Tool.environment) arguments with
  | .error reason =>
      match reason with
      | .versionRequested => IO.println (versionText false)
      | .helpRequested => IO.println Tool.usageText
      | _ => IO.eprintln Tool.usageText
      return reason.code.toUInt32
  | .ok invocation =>
      let ended := invocation.run (← Tool.collect invocation.job)
      output.write ⟨ended.output.toArray⟩
      output.flush
      if let some path := invocation.job.output? then
        if let some bytes := ended.workspace.files.lookup path then
          IO.FS.writeBinFile path ⟨bytes.toArray⟩
      if let some failure := ended.failure then IO.eprintln s!"error: {failure.message}"
      return ended.code.toUInt32
