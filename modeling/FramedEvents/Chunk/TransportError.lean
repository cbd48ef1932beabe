/-
Why a byte transport fails, and the words for it.
-/

import FramedEvents.Io

namespace FramedEvents

inductive TransportError where
  | io (error : IoError)
  | alreadySubscribed
  /-- The transport gave up, for the reason it states. -/
  | aborted (reason : String)
  deriving DecidableEq

def TransportError.message : TransportError → String
  | .io error => s!"transport I/O error: {error.message}"
  | .alreadySubscribed => "publisher already has a subscriber"
  | .aborted reason => s!"transport aborted: {reason}"

end FramedEvents
