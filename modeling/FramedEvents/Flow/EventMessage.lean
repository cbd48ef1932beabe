/-
The view of an event message that is handed on to be read: its headers as
texts, and its payload as a body. Reading may consult attributes that all
events of a stream share.
-/

import FramedEvents.Wire.Message

namespace FramedEvents

structure EventMessage where
  headers : List (String × String)
  body : Bytes
  deriving DecidableEq

abbrev Attributes := List (String × String)

namespace EventMessage

def ofMessage (message : Message) : EventMessage :=
  ⟨message.headers.map fun header => (header.name, header.value.text), message.payload⟩

def header? (event : EventMessage) (name : String) : Option String := event.headers.lookup name

end EventMessage

namespace Attributes

def get? (attributes : Attributes) (name : String) : Option String := attributes.lookup name

def insert (attributes : Attributes) (name text : String) : Attributes :=
  (name, text) :: attributes

end Attributes

/-- How an event message is read as an event, or why it cannot be. -/
abbrev ReadEvent (ε : Type) := EventMessage → Attributes → Except String ε

end FramedEvents
