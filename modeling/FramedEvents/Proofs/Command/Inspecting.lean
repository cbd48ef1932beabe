/-
What the inspect command shows of the headers of a message.

Every message of the input gets a record, up to the first failure and to the count that was
asked for. A header that is looked up is the first one of its name. A record lists its headers
by name, and under each name it shows the last header of that name. So what is shown and what
is looked up agree exactly where the first header of every name has the text of the last one.
-/

import FramedEvents.Command.Inspect
import FramedEvents.Proofs.Chunk.Blocks
import FramedEvents.Proofs.Command.Spelling

namespace FramedEvents

/-! ### Headers by name -/

namespace Headers

variable {headers : Headers} {name : String}

def firstText? (headers : Headers) (name : String) : Option String :=
  (headers.get? name).map HeaderValue.text

def lastText? (headers : Headers) (name : String) : Option String := firstText? headers.reverse name

theorem get?_cons (header : Header) (later : Headers) (name : String) :
    get? (header :: later) name =
      if header.name = name then some header.value else later.get? name := by
  unfold get?
  rw [List.find?_cons]
  by_cases same : header.name = name
  · simp [same]
  · rw [if_neg same, beq_eq_false_iff_ne.mpr same]

theorem get?_eq_none_iff : headers.get? name = none ↔ ∀ header ∈ headers, header.name ≠ name := by
  simp [get?]

theorem lastText?_eq_none_iff : headers.lastText? name = none ↔ headers.get? name = none := by
  simp [lastText?, firstText?, get?_eq_none_iff]

theorem firstText?_of_getString? {text : String} (held : headers.getString? name = some text) :
    headers.firstText? name = some text := by
  rcases Option.bind_eq_some_iff.mp held with ⟨value, found, string⟩
  cases value with
  | string text =>
      cases string
      rw [firstText?, found]
      rfl
  | _ => cases string

theorem lookup_texts (headers : Headers) (name : String) :
    (headers.map fun header => (header.name, Json.Value.string header.value.text)).lookup name =
      (headers.firstText? name).map .string := by
  induction headers with
  | nil => rfl
  | cons header later ih =>
      rw [List.map_cons, List.lookup_cons, ih, firstText?, firstText?, get?_cons]
      by_cases same : header.name = name
      · simp [same]
      · rw [if_neg same, beq_eq_false_iff_ne.mpr (Ne.symm same)]

end Headers

/-! ### Records -/

def Json.Value.field? (name : String) : Json.Value → Option Json.Value
  | .object fields => fields.lookup name
  | _ => none

namespace MessageRecord

def shown? (record : MessageRecord) (name : String) : Option Json.Value :=
  (record.document.field? "headers").bind (Json.Value.field? name)

theorem shown?_eq (record : MessageRecord) (name : String) :
    record.shown? name = (record.message.headers.lastText? name).map .string := by
  have same : record.shown? name = record.headers.lookup name := rfl
  rw [same, headers, Json.Fields.lookup_ofList, ← List.map_reverse, Headers.lookup_texts]
  rfl

/-- What is looked up shows for every name exactly if the last header of every name has the
text of the first. -/
theorem agrees_iff (record : MessageRecord) :
    (∀ name value, record.message.headers.get? name = some value →
        record.shown? name = some (.string value.text)) ↔
      ∀ name, record.message.headers.firstText? name = record.message.headers.lastText? name := by
  simp only [shown?_eq]
  constructor
  · intro agrees name
    unfold Headers.firstText?
    cases found : record.message.headers.get? name with
    | none => exact (Headers.lastText?_eq_none_iff.mpr found).symm
    | some value =>
        have shows := agrees name value found
        rw [Option.map_eq_some_iff] at shows
        obtain ⟨text, last, same⟩ := shows
        injection same with sameText
        rw [last, sameText]
        rfl
  · intro same name value found
    rw [← same name, Headers.firstText?, found]
    rfl

theorem lines_print (records : List MessageRecord) :
    MessageLine.lines (records.flatMap (·.print .json)) = records.map (·.document.print) := by
  have documents := MessageLine.lines_documents (records.map document) (by simp [document])
  rwa [List.flatMap_map, List.map_map] at documents

end MessageRecord

/-! ### Messages of an input -/

theorem ReadScript.Brings.length_le {script : ReadScript} {bytes : Bytes}
    (brings : script.Brings bytes) : bytes.length ≤ script.weight := by
  induction brings with
  | done => exact Nat.le_refl 0
  | data front _ _ ih =>
      simp only [List.length_append, weight]
      omega
  | interrupted error _ _ ih =>
      simp only [weight]
      omega
  | eof _ ih =>
      simp only [weight]
      omega

namespace Inspect

/-- At most so many messages of the input are read, and the failure behind them is met only
if there are fewer. -/
theorem messages_eq {reader : Reader} {bytes : Bytes} (brings : reader.script.Brings bytes)
    (most : Nat) :
    (messages most reader).1 =
      (Frame.messages reader.limits (reader.pending ++ bytes)).1.take most := by
  induction most generalizing reader bytes with
  | zero => rfl
  | succ most ih =>
      rcases decoded : Frame.decode reader.limits (reader.pending ++ bytes) with ⟨answer, rest⟩
      rw [messages]
      cases answer with
      | error error =>
          obtain ⟨after, read⟩ := Reader.read?_failed brings decoded
          rw [read, Frame.messages_failed decoded]
          rfl
      | ok found =>
          cases found with
          | none =>
              obtain ⟨after, read⟩ := Reader.read?_ended brings decoded
              rw [read, Frame.messages_waiting decoded]
              by_cases clean : rest = []
              · rw [if_pos clean]
                rfl
              · rw [if_neg clean]
                rfl
          | some message =>
              obtain ⟨after, later, read, same, remains, left⟩ :=
                Reader.read?_message brings decoded
              have others := ih remains
              rw [same, left] at others
              rw [read, Frame.messages_message decoded, List.take_succ_cons, ← others]

def asked (count : Option Nat) (limits : Limits) (bytes : Bytes) : List Message :=
  let found := (Frame.messages limits bytes).1
  found.take (count.getD found.length)

def records (messages : List Message) : List MessageRecord :=
  (messages.zipIdx 1).map fun (message, index) => ⟨index, message⟩

/-- The output of the command is made of the records of the messages that are asked for. -/
theorem output_run {source : String} {limits : Limits} {workspace : Workspace}
    {handle : Workspace.Handle} {bytes : Bytes} (format : Format) (count : Option Nat)
    (opened : workspace.openSource source = .ok handle)
    (readable : workspace.contents handle = .ok bytes) :
    (run format source count limits workspace).output =
      (records (asked count limits bytes)).flatMap (·.print format) := by
  have brings := Workspace.script_brings readable Reader.blockSize
  let script := workspace.script handle Reader.blockSize
  have few : (Frame.messages limits bytes).1.length ≤ bound script := by
    have := Frame.length_messages_le limits bytes
    have : bytes.length ≤ script.weight := brings.length_le
    unfold bound
    omega
  have seen : (messages (min (count.getD (bound script)) (bound script))
      { script := script, limits := limits }).1 = asked count limits bytes := by
    refine (messages_eq brings _).trans ?_
    change (Frame.messages limits ([] ++ bytes)).1.take _ = _
    unfold asked
    rw [List.nil_append, List.take_eq_take_iff]
    cases count with
    | none =>
        simp only [Option.getD_none]
        omega
    | some most =>
        simp only [Option.getD_some]
        omega
  unfold run records
  rw [opened, List.flatMap_map, ← seen]

/-- Every message that is asked for gets a line with its record, in the order of the input.
Under each name a record shows the last header with this name, and for the type of the message
and of its event the first one. It agrees with the headers that are looked up exactly if the
last header of every name has the text of the first. -/
theorem run_shows_last {source : String} {limits : Limits} {workspace : Workspace}
    {handle : Workspace.Handle} {bytes : Bytes} (count : Option Nat)
    (opened : workspace.openSource source = .ok handle)
    (readable : workspace.contents handle = .ok bytes) :
    let completion := run .json source count limits workspace
    let shown := records (asked count limits bytes)
    shown.map MessageRecord.message = asked count limits bytes ∧
      MessageLine.lines completion.output = shown.map (·.document.print) ∧
      ∀ record ∈ shown,
        (∀ name, record.shown? name = (record.message.headers.lastText? name).map .string) ∧
        (∀ type, record.message.type? = some type →
          record.message.headers.firstText? Reserved.messageType = some type ∧
          record.document.field? "message_type" = some (.string type)) ∧
        (∀ type, record.message.eventType? = some type →
          record.message.headers.firstText? Reserved.eventType = some type ∧
          record.document.field? "event_type" = some (.string type)) ∧
        ((∀ name value, record.message.headers.get? name = some value →
            record.shown? name = some (.string value.text)) ↔
          ∀ name,
            record.message.headers.firstText? name = record.message.headers.lastText? name) := by
  intro completion shown
  refine ⟨?_, ?_, ?_⟩
  · simp [shown, records, Function.comp_def, List.zipIdx_map_fst]
  · rw [show completion.output = _ from output_run .json count opened readable]
    exact MessageRecord.lines_print _
  · intro record _
    refine ⟨record.shown?_eq, ?_, ?_, record.agrees_iff⟩
    · intro type held
      constructor
      · exact Headers.firstText?_of_getString? held
      · simp [MessageRecord.document, Json.Value.field?, held, List.lookup_cons]
    · intro type held
      constructor
      · exact Headers.firstText?_of_getString? held
      · simp [MessageRecord.document, Json.Value.field?, held, List.lookup_cons]

def twiceTyped : Message :=
  ⟨[⟨Reserved.eventType, .string "a"⟩, ⟨Reserved.eventType, .string "b"⟩], []⟩

def twiceTypedFrame : Bytes :=
  [0, 0, 0, 48, 0, 0, 0, 32, 255, 109, 71, 39, 11, 58, 101, 118, 101, 110, 116, 45, 116, 121, 112,
    101, 7, 0, 1, 97, 11, 58, 101, 118, 101, 110, 116, 45, 116, 121, 112, 101, 7, 0, 1, 98, 29, 215,
    179, 160]

theorem messages_twiceTyped : Frame.messages {} twiceTypedFrame = ([twiceTyped], .ok []) := by
  have encoded : Frame.encode {} twiceTyped = .ok twiceTypedFrame := by decide +kernel
  have decoded : Frame.decode {} (twiceTypedFrame ++ []) = (.ok (some twiceTyped), []) :=
    Frame.decode_eq_iff.mpr (Frame.Reading.of_encode encoded [])
  rw [List.append_nil] at decoded
  rw [Frame.messages_message decoded, Frame.messages_nil]

/-- Asked for one message, the command shows the record of it. -/
theorem run_shows_last_once :
    let workspace : Workspace := { standardInput := twiceTypedFrame }
    workspace.openSource "-" = .ok .standardInput ∧
      workspace.contents .standardInput = .ok twiceTypedFrame ∧
      MessageLine.lines (run .json "-" (some 1) {} workspace).output =
        [(⟨1, twiceTyped⟩ : MessageRecord).document.print] := by
  intro workspace
  have all : asked (some 1) {} twiceTypedFrame = [twiceTyped] := by
    unfold asked
    rw [messages_twiceTyped]
    rfl
  obtain ⟨_, shown, _⟩ :=
    @run_shows_last "-" {} workspace .standardInput twiceTypedFrame (some 1) rfl rfl
  rw [all] at shown
  exact ⟨rfl, rfl, shown⟩

/-- A lookup of the type of the event finds the first one, which is the type in the record as
well. Among the headers of the record there is the last one. -/
theorem looks_up_first_shows_last :
    let workspace : Workspace := { standardInput := twiceTypedFrame }
    let record : MessageRecord := ⟨1, twiceTyped⟩
    (run .json "-" none {} workspace).output = record.print .json ∧
      twiceTyped.headers.get? Reserved.eventType = some (.string "a") ∧
      record.document.field? "event_type" = some (.string "a") ∧
      record.shown? Reserved.eventType = some (.string "b") := by
  intro workspace record
  have all : asked none {} twiceTypedFrame = [twiceTyped] := by
    unfold asked
    rw [messages_twiceTyped]
    rfl
  have output := @output_run "-" {} workspace .standardInput twiceTypedFrame .json none rfl rfl
  rw [all] at output
  refine ⟨?_, by decide, ?_, ?_⟩
  · rw [output]
    simp [records, record]
  · have first : twiceTyped.eventType? = some "a" := by decide
    simp [MessageRecord.document, Json.Value.field?, List.lookup_cons, record, first]
  · have last : twiceTyped.headers.lastText? Reserved.eventType = some "b" := by decide
    rw [record.shown?_eq, last]
    rfl

end Inspect

end FramedEvents
