/-
What has been encoded from lines, decoded again.

Every line of an event becomes a record: the events are numbered in the order of the lines,
and a record shows the type of its event and its payload. Payloads are written as text and
read as documents, so a text that is a document itself shows as that document.
-/

import FramedEvents.Proofs.Command.Decoding
import FramedEvents.Proofs.Command.Encoding
import FramedEvents.Proofs.Command.Spelling
import FramedEvents.Proofs.Json.SingleLine
import Mathlib.Tactic.ByContra
import Mathlib.Data.List.Forall2

namespace FramedEvents

/-! ### Lines of events -/

namespace MessageLine

end MessageLine

/-! ### Payloads -/

/-- How a payload shows once it has been written and read again. -/
inductive Payload.Shows : Json.Value → Json.Value → Prop where
  | bool (value : Bool) : Shows (.bool value) (.bool value)
  | integer (value : Int) : Shows (.number (.integer value)) (.number (.integer value))
  | array (items : List Json.Value) (whole : ∀ item ∈ items, item.Whole) :
      Shows (.array items) (.array items)
  | object (fields : Json.Fields) (whole : ∀ field ∈ fields, field.2.Whole) :
      Shows (.object fields) (.object fields)
  | text (text : String) {problem : Json.Problem}
      (refused : Json.Value.parse false (Bytes.ofText text) = .error problem) :
      Shows (.string text) (.string text)
  | null : Shows .null (.string "")

/-- A record shows an event, of which the number is given as well. -/
structure StreamRecord.Shows (record : StreamRecord) (event : (String × Json.Value) × Nat) :
    Prop where
  kind : record.kind = "event"
  index : record.index = event.2
  eventType : record.eventType = some event.1.1
  payload : ∀ shown, Payload.Shows event.1.2 shown → record.payload = shown

namespace Decode

theorem lines_print (records : List StreamRecord) :
    MessageLine.lines (records.flatMap (·.print .json)) =
      records.map (·.document.print) := by
  have documents := MessageLine.lines_documents (records.map StreamRecord.document)
    (by simp [StreamRecord.document])
  rwa [List.flatMap_map, List.map_map] at documents

def tickFields : Json.Fields :=
  [(Reserved.eventType, .string "tick"), (Reserved.messageType, .string Reserved.event)]

def tickOf (payload : Json.Value) : Message :=
  ⟨[⟨Reserved.eventType, .string "tick"⟩, ⟨Reserved.messageType, .string Reserved.event⟩],
    MessageLine.payload payload⟩

/-- The line of a tick that can be encoded. -/
structure IsTick (line : String) (payload : Json.Value) : Prop where
  printed : (MessageLine.spelled tickFields payload).print = Bytes.ofText line
  visible : Encode.isBlank (Bytes.ofText line) = false
  formed : payload.Formed (Json.depthLimit - 1)
  whole : payload.Whole
  fits : ∃ frame, Frame.encode {} (tickOf payload) = .ok frame

namespace IsTick

variable {line : String} {payload : Json.Value}

theorem read (tick : IsTick line payload) :
    MessageLine.record.parse false (Bytes.ofText line) = .ok [.object tickFields, payload] := by
  have ordered : tickFields.Ordered := by
    unfold Json.Fields.Ordered tickFields
    decide
  have headers : (Json.Value.object tickFields).Formed (Json.depthLimit - 1) := by
    refine .object tickFields (by decide) ordered fun field member => ?_
    rcases List.mem_pair.mp member with rfl | rfl
    · exact .string _
    · exact .string _
  have plain : (Json.Value.object tickFields).Whole := by
    refine .object tickFields fun field member => ?_
    rcases List.mem_pair.mp member with rfl | rfl
    · exact .string _
    · exact .string _
  rw [← tick.printed]
  exact MessageLine.parse_spelled headers plain tick.formed tick.whole

theorem accepted (tick : IsTick line payload) (number : Nat) :
    ∃ written, Encode.Accepted {} (Bytes.ofText line, number) written := by
  have parsed : MessageLine.parse (Bytes.ofText line) = .ok (tickOf payload) := by
    unfold MessageLine.parse
    rw [tick.read]
    rfl
  obtain ⟨frame, framed⟩ := tick.fits
  exact ⟨(tickOf payload, frame), parsed, MessageLine.spells_parse parsed, framed⟩

theorem unbroken (tick : IsTick line payload) : (Bytes.ofText line).Unbroken := by
  rw [← tick.printed]
  exact Json.unbroken_print _

end IsTick

end Decode

end FramedEvents
