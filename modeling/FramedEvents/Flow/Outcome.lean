/-
The outcome of a stream: resolved once, with the first result, and taken once.
-/

import FramedEvents.Flow.FlowError

namespace FramedEvents

inductive Outcome (ω : Type) where
  | pending
  | ready (result : Except FlowError ω)
  | taken

namespace Outcome

variable {ω : Type}

def isResolved : Outcome ω → Bool
  | .pending => false
  | _ => true

/-- Only the first result counts. -/
def resolve (result : Except FlowError ω) : Outcome ω → Outcome ω
  | .pending => .ready result
  | outcome => outcome

/-- The result, if there is one by now. It can be taken once. -/
def take? : Outcome ω → Option (Except FlowError ω) × Outcome ω
  | .pending => (none, .pending)
  | .ready result => (some result, .taken)
  | .taken => (some (.error .outcomeUnavailable), .taken)

end Outcome

end FramedEvents
