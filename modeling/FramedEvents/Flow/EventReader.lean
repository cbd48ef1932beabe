/-
Ways to read an event message as an event.

Each is an ordinary function of the message and of the attributes that the
events of a stream share. What cannot be read is refused in words.
-/

import FramedEvents.Flow.EventMessage
import FramedEvents.Json.Record

namespace FramedEvents.EventReader

def notText : String := "stream did not contain valid UTF-8"

def plainText (refused : String) : ReadEvent String := fun event _ =>
  match event.body.text? with
  | none => .error notText
  | some text => if text = refused then .error "refusing to unmarshal" else .ok text

def document : ReadEvent Json.Value := fun event _ =>
  (Json.Value.parse true event.body).mapError Json.Problem.message

def record (record : Json.Record) : ReadEvent (List Json.Value) := fun event _ =>
  (record.parse true event.body).mapError Json.Problem.message

def reading : Json.Record where
  name := "Reading"
  fields := [{ name := "sensor", type := .text }, { name := "value", type := .int64 }]

def measurement : ReadEvent String := fun event attributes =>
  (record reading event attributes).map fun values =>
    match values with
    | [.string sensor, .number value] => s!"{sensor}={value.text}"
    | _ => ""

/-- The type of the event after the attribute `prefix`. The body is not read. -/
def labelled : ReadEvent String := fun event attributes =>
  match attributes.get? "prefix" with
  | none => .error "no prefix"
  | some label => .ok (label ++ (event.header? Reserved.eventType).getD "?")

end FramedEvents.EventReader
