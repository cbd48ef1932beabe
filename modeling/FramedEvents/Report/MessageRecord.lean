/-
Records about single messages: their headers, and their payload as a preview.
-/

import FramedEvents.Report.Format
import FramedEvents.Report.Payload
import FramedEvents.Report.Table
import FramedEvents.Wire.Message

namespace FramedEvents

structure MessageRecord where
  index : Nat
  message : Message
  deriving DecidableEq

namespace MessageRecord

/-- The headers by name, as text. Of several headers with one name, the last
is shown. -/
def headers (record : MessageRecord) : Json.Fields :=
  Json.Fields.ofList <|
    record.message.headers.map fun header => (header.name, .string header.value.text)

def document (record : MessageRecord) : Json.Value :=
  let text? (value : Option String) : Json.Value := (value.map Json.Value.string).getD .null
  .object
    [("index", .number (.integer record.index)),
      ("message_type", text? record.message.type?),
      ("event_type", text? record.message.eventType?),
      ("headers", .object record.headers),
      ("payload_size", .number (.integer record.message.payload.length)),
      ("payload", .string (Payload.preview record.message.payload))]

def table (record : MessageRecord) : Table where
  header := ["#", "HEADER", "VALUE"]
  rows :=
    record.message.headers.map
      (fun header => [toString record.index, header.name, header.value.text]) ++
    [[toString record.index, "<payload>", s!"{record.message.payload.length} bytes"]]

def summary (record : MessageRecord) : String :=
  let headers := record.message.headers.map fun header => s!"{header.name}={header.value.text}"
  let listed := String.intercalate ", " headers
  s!"#{record.index} size={record.message.size} headers=[{listed}] " ++
    s!"payload={Payload.preview record.message.payload}"

def print (record : MessageRecord) : Format → Bytes
  | .json => Bytes.ofLine record.document.text
  | .table => Bytes.ofLine record.table.text
  | .pretty => Bytes.ofLine record.summary
  | .raw => record.message.payload

end MessageRecord

end FramedEvents
