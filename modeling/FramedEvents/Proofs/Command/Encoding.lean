/-
What the encode command writes.

Of the lines that are not blank, the command takes those in front of the first that is no
message or has no frame. Their frames are all that is written, and a reader gets their
messages back.
-/

import FramedEvents.Command.Encode
import FramedEvents.Proofs.Command.Lines
import FramedEvents.Proofs.Wire.Sending

namespace FramedEvents

/-! ### Messages without a frame -/

namespace HeaderBlock

theorem encode_fault {headers : Headers} {error : FrameError}
    (refused : encode headers = .error error) : ∃ fault, error = .malformedHeader fault := by
  induction headers with
  | nil => cases refused
  | cons header rest ih =>
      rcases bind_eq_error_iff.mp refused with front | ⟨_, _, later⟩
      · unfold encodeHeader at front
        dsimp only at front
        split at front
        · have body := map_eq_error_iff.mp front
          have counted {bytes : Bytes} (failed : encodeCounted header.name bytes = .error error) :
              ∃ fault, error = .malformedHeader fault := by
            unfold encodeCounted at failed
            dsimp only at failed
            split at failed
            · cases failed
            · cases failed
              exact ⟨_, rfl⟩
          cases same : header.value with
          | binary bytes =>
              rw [same] at body
              exact counted body
          | string text =>
              rw [same] at body
              exact counted body
          | _ =>
              rw [same] at body
              cases body
        · cases front
          exact ⟨_, rfl⟩
      · rcases bind_eq_error_iff.mp later with back | ⟨_, _, impossible⟩
        · exact ih back
        · cases impossible

end HeaderBlock

theorem Frame.encode_fault {limits : Limits} {message : Message} {error : FrameError}
    (refused : Frame.encode limits message = .error error) : ¬error.OfStream := by
  unfold Frame.encode at refused
  dsimp only at refused
  split at refused
  · cases refused
    exact not_false
  · split at refused
    · cases refused
      exact not_false
    · obtain ⟨fault, rfl⟩ := HeaderBlock.encode_fault (HeaderBlock.map_eq_error_iff.mp refused)
      exact not_false

theorem Failure.code_ofFrame (context : String) {error : FrameError} (ofBytes : ¬error.OfStream) :
    (Failure.ofFrame context error).code = 60 := by
  cases error with
  | io error => exact absurd trivial ofBytes
  | connectionClosed => exact absurd trivial ofBytes
  | _ => rfl

/-! ### Writing to a sink that takes everything -/

structure Sink.TakesAll (sink : Sink) : Prop where
  writes : sink.writes = []
  flushes : sink.flushes = []

namespace Sink.TakesAll

variable {sink : Sink}

theorem writeAll (takes : sink.TakesAll) (bytes : Bytes) :
    ∃ after, sink.writeAll bytes = (.ok (), after) ∧ after.TakesAll ∧
      after.received = sink.received ++ bytes := by
  obtain ⟨_, written⟩ := sink.writeAll_deliver bytes
  rw [takes.writes, WriteStep.deliver_nil] at written
  exact ⟨_, written, ⟨rfl, takes.flushes⟩, rfl⟩

theorem flushAll (takes : sink.TakesAll) :
    ∃ after, sink.flushAll = (.ok (), after) ∧ after.TakesAll ∧
      after.received = sink.received := by
  obtain ⟨_, settled⟩ := sink.flushAll_settle
  rw [takes.flushes] at settled
  exact ⟨_, settled, ⟨takes.writes, rfl⟩, rfl⟩

theorem write {writer : Writer} (takes : writer.sink.TakesAll) {message : Message} {frame : Bytes}
    (framed : Frame.encode writer.limits message = .ok frame) :
    ∃ after, writer.write message = (.ok (), after) ∧ after.limits = writer.limits ∧
      after.sink.TakesAll ∧ after.sink.received = writer.sink.received ++ frame := by
  obtain ⟨taken, wrote, still, received⟩ := takes.writeAll frame
  obtain ⟨flushed, done, stillToo, same⟩ := still.flushAll
  refine ⟨{ writer with sink := flushed, written := writer.written + 1, scratch := frame },
    ?_, rfl, stillToo, ?_⟩
  · rw [Writer.write_framed framed, wrote]
    dsimp only [Writer.flush]
    rw [done]
  · rw [← received]
    exact same

end Sink.TakesAll

namespace Encode

/-! ### Lines -/

def isBlank (line : Bytes) : Bool := line.text?.any Blank.isBlankText

def solid (first : Nat) (lines : List Bytes) : List (Bytes × Nat) :=
  (lines.zipIdx first).filter fun line => !isBlank line.1

/-- A line that is accepted: the message that it spells, and the frame of that message. -/
structure Accepted (limits : Limits) (line : Bytes × Nat) (written : Message × Bytes) : Prop where
  parsed : MessageLine.parse line.1 = .ok written.1
  spelled : MessageLine.Spells line.1 written.1
  framed : Frame.encode limits written.1 = .ok written.2

/-- A line that is rejected, and the failure that it is. -/
inductive Rejected (limits : Limits) (line : Bytes × Nat) : Failure → Prop where
  | unread {reason : String} (refused : MessageLine.parse line.1 = .error reason) :
      Rejected limits line ⟨60, s!"line {line.2}: {reason}"⟩
  | unframed {message : Message} {error : FrameError}
      (parsed : MessageLine.parse line.1 = .ok message)
      (refused : Frame.encode limits message = .error error) :
      Rejected limits line (Failure.ofFrame "write failed" error)

theorem Rejected.code {limits : Limits} {line : Bytes × Nat} {failure : Failure}
    (rejected : Rejected limits line failure) : failure.code = 60 := by
  cases rejected with
  | unread refused => rfl
  | unframed parsed refused => exact Failure.code_ofFrame _ (Frame.encode_fault refused)

theorem Accepted.not_rejected {limits : Limits} {line : Bytes × Nat} {written : Message × Bytes}
    (accepted : Accepted limits line written) {failure : Failure} :
    ¬Rejected limits line failure := by
  intro rejected
  cases rejected with
  | unread refused =>
      rw [accepted.parsed] at refused
      cases refused
  | unframed parsed refused =>
      rw [accepted.parsed] at parsed
      cases parsed
      rw [accepted.framed] at refused
      cases refused

/-- How encoding ends in front of the lines that are left. -/
inductive Ends (limits : Limits) : List (Bytes × Nat) → Option Failure → Prop where
  | complete : Ends limits [] none
  | rejected {line : Bytes × Nat} {later : List (Bytes × Nat)} {failure : Failure}
      (rejected : Rejected limits line failure) : Ends limits (line :: later) (some failure)

theorem Ends.code {limits : Limits} {behind : List (Bytes × Nat)} {completion : Completion}
    (ends : Ends limits behind completion.failure) :
    completion.code = if behind = [] then 0 else 60 := by
  unfold Completion.code
  generalize completion.failure = failure at ends ⊢
  cases ends with
  | complete => rfl
  | rejected rejected => exact rejected.code

theorem solid_blank {number : Nat} {line : Bytes} {later : List Bytes} (blank : isBlank line) :
    solid number (line :: later) = solid (number + 1) later := by
  unfold solid
  rw [List.zipIdx_cons, List.filter_cons_of_neg (by simp [blank])]

theorem solid_cons {number : Nat} {line : Bytes} {later : List Bytes}
    (visible : isBlank line = false) :
    solid number (line :: later) = (line, number) :: solid (number + 1) later := by
  unfold solid
  rw [List.zipIdx_cons, List.filter_cons_of_pos (by simp [visible])]

theorem readLine_eq {line : Bytes} (isText : line.IsText) (number : Nat) :
    readLine number line =
      if isBlank line then .ok none
      else
        match MessageLine.parse line with
        | .ok message => .ok (some message)
        | .error reason => .error ⟨60, s!"line {number}: {reason}"⟩ := by
  obtain ⟨text, rfl⟩ := isText
  unfold readLine isBlank
  rw [Bytes.text?_ofText]
  rfl

/-! ### Writing the messages of lines -/

/-- The lines in front of the first that is rejected are written. The induction is on the
lines. -/
theorem writeLines_eq {lines : List Bytes} (texts : ∀ line ∈ lines, line.IsText) (number : Nat)
    {writer : Writer} (takes : writer.sink.TakesAll) :
    ∃ front behind written, solid number lines = front ++ behind ∧
      List.Forall₂ (Accepted writer.limits) front written ∧
      Ends writer.limits behind (writeLines number writer lines).1 ∧
      (writeLines number writer lines).2.sink.received =
        writer.sink.received ++ (written.map Prod.snd).flatten := by
  induction lines generalizing number writer with
  | nil => exact ⟨[], [], [], rfl, .nil, .complete, (List.append_nil _).symm⟩
  | cons line later ih =>
      obtain ⟨isText, others⟩ := List.forall_mem_cons.mp texts
      have read := readLine_eq isText number
      unfold writeLines
      cases visible : isBlank line with
      | true =>
          rw [visible, if_pos rfl] at read
          rw [read, solid_blank visible]
          exact ih others (number + 1) takes
      | false =>
          rw [visible, if_neg (by decide)] at read
          rw [read, solid_cons visible]
          cases parsed : MessageLine.parse line with
          | error reason =>
              exact ⟨[], _, [], rfl, .nil, .rejected (.unread parsed), (List.append_nil _).symm⟩
          | ok message =>
              dsimp only
              cases framed : Frame.encode writer.limits message with
              | error error =>
                  rw [Writer.write_refused framed]
                  exact ⟨[], _, [], rfl, .nil, .rejected (.unframed parsed framed),
                    (List.append_nil _).symm⟩
              | ok frame =>
                  obtain ⟨after, wrote, same, still, received⟩ := takes.write framed
                  rw [wrote]
                  obtain ⟨front, behind, written, parts, accepted, ends, more⟩ :=
                    ih others (number + 1) still
                  rw [same] at accepted ends
                  have first : Accepted writer.limits (line, number) (message, frame) :=
                    ⟨parsed, MessageLine.spells_parse parsed, framed⟩
                  refine ⟨(line, number) :: front, behind, (message, frame) :: written, ?_,
                    .cons first accepted, ends, ?_⟩
                  · rw [parts, List.cons_append]
                  · rw [more, received, List.map_cons, List.flatten_cons, List.append_assoc]

theorem encode_text (limits : Limits) (text : String) :
    ∃ front behind written,
      solid 1 (MessageLine.lines (Bytes.ofText text)) = front ++ behind ∧
      List.Forall₂ (Accepted limits) front written ∧
      Ends limits behind (encode limits (.ok (Bytes.ofText text))).1 ∧
      (encode limits (.ok (Bytes.ofText text))).2 = (written.map Prod.snd).flatten := by
  have texts : ∀ line ∈ MessageLine.lines (Bytes.ofText text), line.IsText := fun line member =>
    MessageLine.isText_lines (Bytes.isText_ofText text) member
  exact @writeLines_eq _ texts 1 { limits := limits } ⟨rfl, rfl⟩

theorem messages_written {limits : Limits} {lines : List (Bytes × Nat)}
    {written : List (Message × Bytes)} (accepted : List.Forall₂ (Accepted limits) lines written) :
    Frame.messages limits (written.map Prod.snd).flatten = (written.map Prod.fst, .ok []) := by
  induction accepted with
  | nil => exact Frame.messages_nil
  | cons first _ ih =>
      rw [List.map_cons, List.map_cons, List.flatten_cons,
        Frame.messages_message (Frame.decode_eq_iff.mpr (.of_encode first.framed _)), ih]

end Encode

/-! ### Where a command writes to -/

inductive Destination where
  | standardOutput
  | file (name : String)
  | nowhere

/-- The destination of a command has been made, and these are the files then. -/
inductive Destination.Made (workspace : Workspace) :
    Option String → Destination → Workspace → Prop where
  | standardOutput : Made workspace none .standardOutput workspace
  | file {path name : String} {created : Workspace}
      (made : workspace.create path = .ok (some name, created)) :
      Made workspace (some path) (.file name) created
  | nowhere {path : String} {created : Workspace}
      (made : workspace.create path = .ok (none, created)) :
      Made workspace (some path) .nowhere created

/-- These bytes have come out of a destination, if it keeps any, and nothing has elsewhere. -/
def Completion.Wrote (completion : Completion) (bytes : Bytes) : Destination → Prop
  | .standardOutput => completion.output = bytes
  | .file name => completion.output = [] ∧ completion.workspace.files.lookup name = some bytes
  | .nowhere => completion.output = []

namespace Encode

theorem run_eq_encode {source : String} {output : Option String} (limits : Limits)
    {workspace created : Workspace} {handle : Workspace.Handle} {destination : Destination}
    (opened : workspace.openSource source = .ok handle)
    (made : destination.Made workspace output created) :
    let encoded := encode limits (created.contents handle)
    (run source output limits workspace).failure = encoded.1 ∧
      (run source output limits workspace).Wrote encoded.2 destination := by
  unfold run
  rw [opened]
  cases made with
  | standardOutput => exact ⟨rfl, rfl⟩
  | file made =>
      dsimp only
      rw [made]
      exact ⟨rfl, rfl, List.lookup_cons_self⟩
  | nowhere made =>
      dsimp only
      rw [made]
      exact ⟨rfl, rfl⟩

/-- The frames of the messages in front of the first line that is rejected are what is written,
and a reader gets these messages out of them and comes to a clean end. -/
theorem run_writes_until_rejected {source : String} {output : Option String} (limits : Limits)
    {workspace created : Workspace} {handle : Workspace.Handle} {destination : Destination}
    {text : String} (opened : workspace.openSource source = .ok handle)
    (made : destination.Made workspace output created)
    (readable : created.contents handle = .ok (Bytes.ofText text)) :
    let completion := run source output limits workspace
    ∃ front behind written,
      solid 1 (MessageLine.lines (Bytes.ofText text)) = front ++ behind ∧
      List.Forall₂ (Accepted limits) front written ∧
      Ends limits behind completion.failure ∧
      completion.code = (if behind = [] then 0 else 60) ∧
      completion.Wrote (written.map Prod.snd).flatten destination ∧
      ∀ script : ReadScript, script.Brings (written.map Prod.snd).flatten →
        Reader.readAll { script := script, limits := limits } =
          (written.map Prod.fst, .ok ()) := by
  intro completion
  obtain ⟨failed, wrote⟩ := run_eq_encode limits opened made
  obtain ⟨front, behind, written, parts, accepted, ends, output⟩ := encode_text limits text
  rw [readable] at failed wrote
  rw [output] at wrote
  rw [← failed] at ends
  refine ⟨front, behind, written, parts, accepted, ends, ends.code, wrote, ?_⟩
  intro script brings
  have read := @Reader.readAll_eq_messages { script := script, limits := limits } _ brings
  have whole := messages_written accepted
  rw [read]
  dsimp only
  rw [List.nil_append, whole]
  rfl

/-- An empty message, a blank line, and a list that is not closed. -/
theorem run_writes_until_rejected_third :
    let text := "\x7b\x7d\n\n["
    let workspace : Workspace := { standardInput := Bytes.ofText text }
    let completion := run "-" none {} workspace
    let frame : Bytes := [0, 0, 0, 16, 0, 0, 0, 0, 5, 194, 72, 235, 125, 152, 200, 255]
    workspace.openSource "-" = .ok .standardInput ∧
      workspace.contents .standardInput = .ok (Bytes.ofText text) ∧
      completion.output = frame ∧ completion.code = 60 ∧
      (∃ reason : String, completion.failure = some ⟨60, s!"line {3}: {reason}"⟩) ∧
      Reader.readAll { script := [.data frame] } = ([⟨[], []⟩], .ok ()) := by
  have visible : isBlank [123, 125] = false := rfl
  have blank : isBlank [] = true := rfl
  have visibleToo : isBlank [91] = false := rfl
  intro text workspace completion frame
  have empty : MessageLine.parse [123, 125] = .ok ⟨[], []⟩ := rfl
  have framed : Frame.encode {} ⟨[], []⟩ = .ok frame := by decide +kernel
  have problem : MessageLine.record.parse false [91] = .error ⟨.endInList, ⟨1, 1⟩⟩ := by rfl
  have unclosed : MessageLine.parse [91] = .error (Json.Problem.message ⟨.endInList, ⟨1, 1⟩⟩) := by
    unfold MessageLine.parse
    rw [problem]
    rfl
  have numbered : solid 1 (MessageLine.lines (Bytes.ofText text)) =
      [([123, 125], 1), ([91], 3)] := by
    have lines : MessageLine.lines (Bytes.ofText text) = [[123, 125], [], [91]] := by rfl
    rw [lines, solid_cons visible, solid_blank blank, solid_cons visibleToo]
    rfl
  have opened : workspace.openSource "-" = .ok .standardInput := rfl
  obtain ⟨front, behind, written, parts, accepted, ends, code, wrote, read⟩ :=
    @run_writes_until_rejected "-" none {} workspace workspace .standardInput .standardOutput text
      opened .standardOutput rfl
  rw [numbered] at parts
  have taken : Accepted {} ([123, 125], 1) (⟨[], []⟩, frame) :=
    ⟨empty, MessageLine.spells_parse empty, framed⟩
  cases accepted with
  | nil =>
      obtain rfl : _ = behind := parts
      change Ends {} _ completion.failure at ends
      generalize completion.failure = failure at ends
      cases ends with
      | rejected rejected => exact absurd rejected taken.not_rejected
  | @cons _ pair _ _ first more =>
      obtain ⟨rfl, behindFirst⟩ := List.cons.inj parts
      cases more with
      | cons second _ =>
          obtain ⟨rfl, _⟩ := List.cons.inj behindFirst
          have impossible := second.parsed
          rw [unclosed] at impossible
          cases impossible
      | nil =>
          obtain rfl : _ = behind := behindFirst
          obtain ⟨message, bytes⟩ := pair
          have parsed := first.parsed
          rw [empty] at parsed
          cases parsed
          obtain rfl : frame = bytes := Except.ok.inj (framed.symm.trans first.framed)
          have output : completion.output = frame := wrote.trans (List.append_nil frame)
          have failure : ∃ reason : String,
              completion.failure = some ⟨60, s!"line {3}: {reason}"⟩ := by
            change Ends {} [([91], 3)] completion.failure at ends
            generalize completion.failure = failure at ends ⊢
            cases ends with
            | rejected rejected =>
                cases rejected with
                | unread refused => exact ⟨_, rfl⟩
                | unframed parsed _ =>
                    rw [unclosed] at parsed
                    cases parsed
          exact ⟨opened, rfl, output, code, failure,
            read [.data frame] (.data frame .done fun _ => rfl)⟩

end Encode

end FramedEvents
