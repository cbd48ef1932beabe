/-
Messages given as lines of text, each a document with headers and a payload.

Headers become typed values: strings, truth values, and whole numbers in the
smaller of two widths that holds them. A payload that is a string stands for
its text, any other for its compact document, and none for no bytes.
-/

import FramedEvents.Json.Record
import FramedEvents.Wire.Message

namespace FramedEvents.MessageLine

/-! ### Lines -/

/-- Puts a byte in front of lines. A line feed begins a new first line. -/
def pushFront (byte : UInt8) (lines : List Bytes) : List Bytes :=
  if byte = 10 then [] :: lines else (byte :: lines.headD []) :: lines.tail

/-- The carriage return before a line feed belongs to the end of the line. -/
def withoutReturn (line : Bytes) : Bytes :=
  if line.getLast? = some 13 then line.dropLast else line

/-- The lines of a text without their ends. A text that ends with a line feed
has no further line after it. -/
def lines (text : Bytes) : List Bytes :=
  let parts := text.foldr pushFront [[]]
  let last := parts.getLastD []
  parts.dropLast.map withoutReturn ++ if last = [] then [] else [last]

/-! ### Messages -/

def record : Json.Record where
  name := "EncodeLine"
  fields :=
    [{ name := "headers", type := .map, fallback := some (.object []) },
      { name := "payload", type := .any, fallback := some .null }]

def headerValue (name : String) : Json.Value → Except String HeaderValue
  | .string text => .ok (.string text)
  | .bool value => .ok (.bool value)
  | .number (.integer value) =>
      if -2147483648 ≤ value ∧ value ≤ 2147483647 then .ok (.integer (Int32.ofInt value))
      else if value ≤ 9223372036854775807 then .ok (.long (Int64.ofInt value))
      else .error s!"header {name}: {value} is not an integer"
  | .number number => .error s!"header {name}: {number.text} is not an integer"
  | value => .error s!"header {name}: unsupported value {value.text}"

def headers (fields : Json.Fields) : Except String Headers :=
  fields.mapM fun field => do return ⟨field.1, ← headerValue field.1 field.2⟩

def payload : Json.Value → Bytes
  | .null => []
  | .string text => Bytes.ofText text
  | value => value.print

/-- The message that a line stands for, or what is wrong with the line. -/
def parse (line : Bytes) : Except String Message := do
  match ← (record.parse false line).mapError Json.Problem.message with
  | [.object fields, value] => return ⟨← headers fields, payload value⟩
  | _ => return {}

end FramedEvents.MessageLine
