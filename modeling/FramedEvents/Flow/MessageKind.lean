/-
What a message means to an event stream.

The message type decides first. Only a string counts as a type; the code and
the text of a reported error may be values of any type.
-/

import FramedEvents.Wire.Message

namespace FramedEvents

inductive MessageKind where
  | initialResponse
  | event
  | missingEventType
  | error (code text : String)
  /-- A message of another type, or of none, which is ignored. -/
  | other (type : Option String)
  deriving DecidableEq

def Headers.textOrEmpty (headers : Headers) (name : String) : String :=
  ((headers.get? name).map HeaderValue.text).getD ""

def Message.kind (message : Message) : MessageKind :=
  match message.type? with
  | none => .other none
  | some type =>
      if type = Reserved.event then
        match message.eventType? with
        | none => .missingEventType
        | some eventType =>
            if eventType = Reserved.initialResponse then .initialResponse else .event
      else if type = Reserved.error then
        .error (message.headers.textOrEmpty Reserved.errorCode)
          (message.headers.textOrEmpty Reserved.errorMessage)
      else .other (some type)

end FramedEvents
