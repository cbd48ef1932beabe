/-
How a command that failed ends: an exit code for the kind of failure, and a
line that says what was being done.
-/

import FramedEvents.Flow.FlowError

namespace FramedEvents

structure Failure where
  code : Nat
  message : String
  deriving DecidableEq

namespace Failure

/-! ### Exit codes -/

def peerFailed : Nat := 1

def transportFailed : Nat := 3

def permissionDenied : Nat := 50

def invalidData : Nat := 60

def usage : Nat := 64

def notFound : Nat := 66

def timedOut : Nat := 124

def internal : Nat := 125

def codeOfKind : IoKind → Nat
  | .notFound => notFound
  | .permissionDenied => permissionDenied
  | .timedOut | .wouldBlock => timedOut
  | .brokenPipe | .connectionReset => transportFailed
  | _ => internal

/-! ### Failures of each layer -/

def ofIo (context : String) (error : IoError) : Failure :=
  ⟨codeOfKind error.kind, s!"{context}: {error.message}"⟩

def ofFrame (context : String) : FrameError → Failure
  | .io error => ofIo context error
  | .connectionClosed => ⟨invalidData, s!"{context}: truncated message"⟩
  | error => ⟨invalidData, s!"{context}: {error.message}"⟩

def ofTransport (context : String) (error : TransportError) : Failure :=
  let code := match error with
    | .io cause => codeOfKind cause.kind
    | _ => transportFailed
  ⟨code, s!"{context}: {error.message}"⟩

def ofFlow (context : String) (error : FlowError) : Failure :=
  match error with
  | .transport cause => ofTransport context cause
  | .protocol .. => ⟨peerFailed, s!"{context}: {error.message}"⟩
  | .decode _ | .client _ => ⟨invalidData, s!"{context}: {error.message}"⟩
  | _ => ⟨internal, s!"{context}: {error.message}"⟩

end Failure

end FramedEvents
