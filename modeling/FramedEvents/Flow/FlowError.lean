/-
Why an event stream ends other than by completing, and the words for it.
-/

import FramedEvents.Chunk.TransportError
import FramedEvents.Wire.FrameError

namespace FramedEvents

inductive FlowError where
  | transport (cause : TransportError)
  | decode (cause : FrameError)
  | protocol (code text : String)
  /-- An event could not be read or was rejected, in the words of the one who
  refused it. -/
  | client (reason : String)
  | noSubscriber
  | alreadySubscribed
  | alreadyCompleted
  | outcomeUnavailable
  deriving DecidableEq

namespace FlowError

def message : FlowError → String
  | .transport cause => s!"transport error: {cause.message}"
  | .decode cause => s!"decode error: {cause.message}"
  | .protocol code text => s!"error message received ({code}): {text}"
  | .client reason => s!"client error: {reason}"
  | .noSubscriber => "event received before a subscriber was attached"
  | .alreadySubscribed => "event publisher already has a subscriber"
  | .alreadyCompleted => "event stream already completed"
  | .outcomeUnavailable => "event stream outcome unavailable"

def missingEventType : FlowError := .client "event message has no :event-type header"

end FlowError

end FramedEvents
