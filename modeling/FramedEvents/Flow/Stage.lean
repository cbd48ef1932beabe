/-
The stage of an event stream: running, or ended once and for all.

The first terminal transition wins. Every later attempt changes nothing and
learns how the stream ended.
-/

import FramedEvents.Flow.FlowError

namespace FramedEvents

inductive Stage where
  | running
  | failed (cause : FlowError)
  | completed
  deriving DecidableEq

/-- The answer to an attempt at ending a stream. -/
inductive Transition where
  | won
  | alreadyFailed (cause : FlowError)
  | alreadyCompleted
  deriving DecidableEq

namespace Stage

def isDone : Stage → Bool
  | .running => false
  | _ => true

def failure? : Stage → Option FlowError
  | .failed cause => some cause
  | _ => none

def finish (final : Stage) : Stage → Transition × Stage
  | .running => (.won, final)
  | .failed cause => (.alreadyFailed cause, .failed cause)
  | .completed => (.alreadyCompleted, .completed)

def fail (cause : FlowError) (stage : Stage) : Transition × Stage := finish (.failed cause) stage

def complete (stage : Stage) : Transition × Stage := finish .completed stage

end Stage

end FramedEvents
