/-
Payloads as they are shown.
-/

import FramedEvents.Json.Parser
import FramedEvents.Wire.Header

namespace FramedEvents.Payload

def preview (payload : Bytes) : String := payload.text?.getD payload.placeholder

def document (payload : Bytes) : Json.Value :=
  match Json.Value.parse false payload with
  | .ok value => value
  | .error _ => .string (preview payload)

end FramedEvents.Payload
