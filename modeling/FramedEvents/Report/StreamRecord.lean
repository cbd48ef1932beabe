/-
Records about a decoded stream: one for the initial response, and one for every
event, numbered from one.
-/

import FramedEvents.Report.Format
import FramedEvents.Report.Payload
import FramedEvents.Report.Table

namespace FramedEvents

/-- An event as it is read for a record. -/
structure ReceivedEvent where
  type : Option String
  payload : Bytes
  deriving DecidableEq

structure StreamRecord where
  kind : String
  index : Nat
  eventType : Option String
  payloadSize : Nat
  payload : Json.Value
  raw : Bytes

namespace StreamRecord

/-- The record of the initial response, which names the source of the stream. -/
def initialResponse (source : String) : StreamRecord where
  kind := "initial-response"
  index := 0
  eventType := none
  payloadSize := 0
  payload := .object [("source", .string source)]
  raw := []

def ofEvent (index : Nat) (event : ReceivedEvent) : StreamRecord where
  kind := "event"
  index := index
  eventType := event.type
  payloadSize := event.payload.length
  payload := Payload.document event.payload
  raw := event.payload

/-- The record as a document. An event without a type has no field for it. -/
def document (record : StreamRecord) : Json.Value :=
  .object <|
    [("kind", .string record.kind), ("index", .number (.integer record.index))] ++
    record.eventType.toList.map (fun type => ("event_type", .string type)) ++
    [("payload_size", .number (.integer record.payloadSize)), ("payload", record.payload)]

/-- The payload as text: a string as it is, all else as a document. -/
def payloadText (record : StreamRecord) : String :=
  match record.payload with
  | .string text => text
  | value => value.text

def table (record : StreamRecord) : Table where
  header := ["#", "KIND", "EVENT TYPE", "SIZE", "PAYLOAD"]
  rows :=
    [[toString record.index, record.kind, record.eventType.getD "", toString record.payloadSize,
      record.payloadText]]

def summary (record : StreamRecord) : String :=
  let type := record.eventType.getD "-"
  s!"#{record.index} {record.kind} type={type} size={record.payloadSize} " ++
    s!"payload={record.payloadText}"

def print (record : StreamRecord) : Format → Bytes
  | .json => Bytes.ofLine record.document.text
  | .table => Bytes.ofLine record.table.text
  | .pretty => Bytes.ofLine record.summary
  | .raw => record.raw

end StreamRecord

end FramedEvents
