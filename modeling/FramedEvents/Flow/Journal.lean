/-
The journal of a stream: what its handler and its subscribers write down about
the calls they get, and short descriptions of the parts they hold.
-/

import FramedEvents.Flow.EventStream

namespace FramedEvents

/-- What is written down about a signal. Only those who notice the end write
about it. -/
def EventSignal.line (noticesEnd : Bool) : EventSignal String → Option String
  | .subscribed => some "subscribed"
  | .next event => some s!"next:{event}"
  | .failed cause => if noticesEnd then some s!"error:{cause.message}" else none
  | .completed => if noticesEnd then some "complete" else none

def Entry.line (noticesEnd : Nat → Bool) : Entry String String → Option String
  | .streamReady => some "handler:stream"
  | .responded response => some s!"handler:response:{response}"
  | .failureReported cause => some s!"handler:error:{cause.message}"
  | .completionReported => some "handler:complete"
  | .signalled subscriber signal =>
      (signal.line (noticesEnd subscriber)).map fun text => s!"s{subscriber}:{text}"
  | .refused subscriber reason => some s!"s{subscriber}:refused:{reason.message}"
  | _ => none

def Entry.handlerLine : Entry String String → Option String
  | .signalled .. | .refused .. => none
  | entry => entry.line fun _ => true

def describe (name : String) (fields : List (String × String)) : String :=
  let shown := fields.map fun field => s!"{field.1}: {field.2}"
  name ++ " \x7b " ++ String.intercalate ", " shown ++ " \x7d"

namespace Flow

variable {ε ρ ω σ : Type}

def describePublisher (flow : Flow ε ρ ω σ) : String :=
  describe "EventPublisher"
    [("subscribed", toString flow.subscriber.isSome),
      ("outstanding", toString flow.demand.outstanding)]

def newEntries (before after : Flow ε ρ ω σ) : List (Entry ε ρ) :=
  (after.log.take (after.log.length - before.log.length)).reverse

end Flow

def Outcome.describe {ω : Type} (outcome : Outcome ω) : String :=
  FramedEvents.describe "Outcome" [("resolved", toString outcome.isResolved)]

def EventStream.describe (stream : EventStream) : String :=
  FramedEvents.describe "EventStream"
    [("in_flight", toString stream.awaiting), ("done", toString stream.done)]

end FramedEvents
