/-
Typed message headers.

A header is a name and a value of one of nine types. A message keeps its
headers in order and may repeat a name; looking a name up finds the first.
Names that begin with a colon belong to the protocol itself.
-/

import FramedEvents.Bytes

namespace FramedEvents

structure Uuid where
  bytes : Bytes
  length_bytes : bytes.length = 16
  deriving DecidableEq

inductive HeaderValue where
  | bool (value : Bool)
  | byte (value : Int8)
  | short (value : Int16)
  | integer (value : Int32)
  | long (value : Int64)
  | binary (value : Bytes)
  | string (value : String)
  | timestamp (value : Int64)
  | uuid (value : Uuid)
  deriving DecidableEq

structure Header where
  name : String
  value : HeaderValue
  deriving DecidableEq

abbrev Headers := List Header

def Uuid.text (uuid : Uuid) : String :=
  let group (start length : Nat) := Bytes.hex ((uuid.bytes.drop start).take length)
  String.intercalate "-" [group 0 4, group 4 2, group 6 2, group 8 2, group 10 6]

def Bytes.placeholder (bytes : Bytes) : String := s!"<binary {bytes.length} bytes>"

def HeaderValue.text : HeaderValue → String
  | .bool value => toString value
  | .byte value => toString value.toInt
  | .short value => toString value.toInt
  | .integer value => toString value.toInt
  | .long value => toString value.toInt
  | .binary value => value.placeholder
  | .string value => value
  | .timestamp value => toString value.toInt
  | .uuid value => value.text

def HeaderValue.string? : HeaderValue → Option String
  | .string value => some value
  | _ => none

namespace Headers

/-- The value of the first header with this name. -/
def get? (headers : Headers) (name : String) : Option HeaderValue :=
  (headers.find? fun header => header.name == name).map Header.value

/-- The value of the first header with this name, if it is a string. -/
def getString? (headers : Headers) (name : String) : Option String :=
  (headers.get? name).bind HeaderValue.string?

def ofStrings (pairs : List (String × String)) : Headers :=
  pairs.map fun pair => ⟨pair.1, .string pair.2⟩

end Headers

/-! ### Names and values that the protocol reserves -/

namespace Reserved

def messageType : String := ":message-type"

def eventType : String := ":event-type"

def errorCode : String := ":error-code"

def errorMessage : String := ":error-message"

/-- The message type of events. -/
def event : String := "event"

/-- The message type of errors reported by the peer. -/
def error : String := "error"

/-- The event type that marks where the initial response is due. -/
def initialResponse : String := "initial-response"

end Reserved

end FramedEvents
