/-
Carrying out a command line.
-/

import FramedEvents.Command.Decode
import FramedEvents.Command.Encode
import FramedEvents.Command.Inspect
import FramedEvents.Command.Invocation

namespace FramedEvents

def version : String := "0.1.0"

/-- The name and the version, on one line or with what is known of the build. -/
def versionText (extended : Bool) : String :=
  if extended then
    "name: evflow\nversion: " ++ version ++ "\ntarget: unknown\ntarget_os: linux\n" ++
      "target_arch: x86_64\ngit_hash: unknown\nfeatures: async=false, cli=true"
  else "evflow " ++ version

def Invocation.run (invocation : Invocation) (workspace : Workspace) : Completion :=
  match invocation.job with
  | .decode source chunkSize count limits =>
      Decode.run invocation.format source chunkSize count limits workspace
  | .inspect source count limits => Inspect.run invocation.format source count limits workspace
  | .encode source output limits => Encode.run source output limits workspace
  | .version extended =>
      { output := Bytes.ofLine (versionText extended), workspace := workspace }

end FramedEvents
