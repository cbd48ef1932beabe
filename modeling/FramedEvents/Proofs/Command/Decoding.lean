/-
What the decode command makes of its input.

Without a count the printer asks for everything, so the stream runs to its end before
the command looks at it. What is shown and how the command ends then depends on the
messages of the whole input alone, up to the first failure among them, and not on the
size of the chunks in which the input has been read.
-/

import FramedEvents.Command.Decode
import FramedEvents.Proofs.Chunk.Blocks
import FramedEvents.Proofs.Flow.Execution
import Mathlib.Data.List.Basic
import Mathlib.Data.List.TakeWhile

namespace FramedEvents

def Message.fault? (message : Message) : Option FlowError :=
  match message.kind with
  | .missingEventType => some .missingEventType
  | .error code text => some (.protocol code text)
  | _ => none

def Message.isSound (message : Message) : Bool := message.fault?.isNone

def Message.isUnmarked (message : Message) : Bool := decide (message.kind ≠ .initialResponse)

def Message.received (message : Message) : ReceivedEvent := ⟨message.eventType?, message.payload⟩

namespace Decode

/-! ### The account of a whole input -/

/-- The messages in front of the first that is a failure. -/
def sound (messages : List Message) : List Message := messages.takeWhile Message.isSound

def stopFailure? : Except FrameError Bytes → Option FlowError
  | .error malformed => some (.decode malformed)
  | .ok _ => none

/-- The first failure of an input. -/
def firstFailure? (limits : Limits) (bytes : Bytes) : Option FlowError :=
  let (messages, stop) := Frame.messages limits bytes
  (messages.findSome? Message.fault?).or (stopFailure? stop)

def numbered (first : Nat) (messages : List Message) : List StreamRecord :=
  ((messages.filter Message.isEvent).zipIdx first).map fun (message, index) =>
    .ofEvent index message.received

/-- The records of all events, and one of the initial response where its first marker
stands. -/
def transcript (source : String) (first : Nat) (messages : List Message) : List StreamRecord :=
  let before := messages.takeWhile Message.isUnmarked
  let behind := messages.dropWhile Message.isUnmarked
  let marked :=
    .initialResponse source :: numbered (first + before.countP Message.isEvent) behind
  numbered first before ++ if behind = [] then [] else marked

/-- How the command ends, told from all bytes of its input. -/
def account (format : Format) (source : String) (limits : Limits) (workspace : Workspace)
    (bytes : Bytes) : Completion where
  output := (transcript (sourceName source) 1 (sound (Frame.messages limits bytes).1)).flatMap
    (·.print format)
  failure := (firstFailure? limits bytes).map (Failure.ofFlow "decode failed")
  workspace := workspace

/-- The exit code for the first failure: one if the peer has reported it. -/
def exitCode : Option FlowError → Nat
  | none => 0
  | some (.protocol _ _) => 1
  | some _ => 60

theorem sound_of_faultless {messages : List Message}
    (faultless : messages.findSome? Message.fault? = none) : sound messages = messages := by
  apply List.takeWhile_eq_self_iff.mpr
  intro message member
  unfold Message.isSound
  rw [List.findSome?_eq_none_iff.mp faultless message member]
  rfl

/-! ### Records of messages -/

theorem numbered_event {first : Nat} {message : Message} (event : message.kind = .event)
    (later : List Message) :
    numbered first (message :: later) =
      .ofEvent first message.received :: numbered (first + 1) later := by
  have isEvent : message.isEvent = true := decide_eq_true event
  unfold numbered
  rw [List.filter_cons_of_pos isEvent, List.zipIdx_cons, List.map_cons]

theorem numbered_other {first : Nat} {message : Message} (other : message.kind ≠ .event)
    (later : List Message) : numbered first (message :: later) = numbered first later := by
  have notEvent : ¬message.isEvent = true := by
    rw [Message.isEvent, decide_eq_true_eq]
    exact other
  unfold numbered
  rw [List.filter_cons_of_neg notEvent]

/-- The records that are still to come, given the initial response if it is still held. -/
def remaining : Option String → Nat → List Message → List StreamRecord
  | some source => transcript source
  | none => numbered

theorem transcript_marker {source : String} {first : Nat} {message : Message}
    (marker : message.kind = .initialResponse) (later : List Message) :
    transcript source first (message :: later) =
      .initialResponse source :: numbered first later := by
  have stops : ¬message.isUnmarked = true := by
    rw [Message.isUnmarked, decide_eq_true_eq]
    exact not_not_intro marker
  have other : message.kind ≠ .event := by
    rw [marker]
    exact MessageKind.noConfusion
  unfold transcript
  dsimp only
  rw [List.takeWhile_cons_of_neg stops, List.dropWhile_cons_of_neg stops,
    if_neg (List.cons_ne_nil _ _), List.countP_nil, numbered_other other]
  rfl

theorem transcript_event {source : String} {first : Nat} {message : Message}
    (event : message.kind = .event) (later : List Message) :
    transcript source first (message :: later) =
      .ofEvent first message.received :: transcript source (first + 1) later := by
  have goes : message.isUnmarked = true := by
    rw [Message.isUnmarked, event]
    rfl
  have isEvent : message.isEvent = true := decide_eq_true event
  unfold transcript
  dsimp only
  rw [List.takeWhile_cons_of_pos goes, List.dropWhile_cons_of_pos goes, numbered_event event,
    List.countP_cons_of_pos isEvent, List.cons_append, Nat.add_assoc, Nat.add_comm 1]

theorem transcript_other {source : String} {first : Nat} {message : Message}
    (other : message.kind ≠ .event) (plain : message.kind ≠ .initialResponse)
    (later : List Message) :
    transcript source first (message :: later) = transcript source first later := by
  have goes : message.isUnmarked = true := decide_eq_true plain
  have notEvent : ¬message.isEvent = true := by
    rw [Message.isEvent, decide_eq_true_eq]
    exact other
  unfold transcript
  dsimp only
  rw [List.takeWhile_cons_of_pos goes, List.dropWhile_cons_of_pos goes, numbered_other other,
    List.countP_cons_of_neg notEvent]

theorem remaining_event {held : Option String} {first : Nat} {message : Message}
    (event : message.kind = .event) (later : List Message) :
    remaining held first (message :: later) =
      .ofEvent first message.received :: remaining held (first + 1) later := by
  cases held with
  | none => exact numbered_event event later
  | some source => exact transcript_event event later

theorem remaining_other {held : Option String} {first : Nat} {message : Message}
    (other : message.kind ≠ .event) (plain : message.kind ≠ .initialResponse)
    (later : List Message) :
    remaining held first (message :: later) = remaining held first later := by
  cases held with
  | none => exact numbered_other other later
  | some source => exact transcript_other other plain later

/-! ### Records of calls -/

def tells : Entry ReceivedEvent String → Bool
  | .responded _ => true
  | .signalled _ (.next _) => true
  | _ => false

theorem records_quiet {limit : Option Nat} {printed : Nat} {entry : Entry ReceivedEvent String}
    (quiet : tells entry = false) (rest : List (Entry ReceivedEvent String)) :
    records limit printed (entry :: rest) = records limit printed rest := by
  cases entry with
  | responded source => cases quiet
  | signalled number signal =>
      cases signal with
      | next event => cases quiet
      | _ => rfl
  | _ => rfl

theorem records_calls (limit : Option Nat) (printed : Nat)
    (log : List (Entry ReceivedEvent String)) :
    records limit printed (log.filter Entry.isCall) = records limit printed log := by
  induction log generalizing printed with
  | nil => rfl
  | cons entry rest ih =>
      cases quiet : tells entry with
      | false =>
          rw [records_quiet quiet, ← ih]
          cases call : entry.isCall with
          | false => rw [List.filter_cons_of_neg (by rw [call]; exact Bool.false_ne_true)]
          | true => rw [List.filter_cons_of_pos call, records_quiet quiet]
      | true =>
          cases entry with
          | responded source =>
              exact congrArg (StreamRecord.initialResponse source :: ·) (ih printed)
          | signalled number signal =>
              cases signal with
              | next event =>
                  rw [List.filter_cons_of_pos rfl]
                  unfold records
                  rw [ih, ih]
              | _ => cases quiet
          | _ => cases quiet

theorem records_append_quiet {limit : Option Nat} (printed : Nat)
    (front : List (Entry ReceivedEvent String)) {back : List (Entry ReceivedEvent String)}
    (quiet : ∀ entry ∈ back, tells entry = false) :
    records limit printed (front ++ back) = records limit printed front := by
  induction front generalizing printed with
  | nil =>
      induction back with
      | nil => rfl
      | cons entry rest ih =>
          obtain ⟨first, later⟩ := List.forall_mem_cons.mp quiet
          exact (records_quiet first rest).trans (ih later)
  | cons entry front ih =>
      cases quiet : tells entry with
      | false => rw [List.cons_append, records_quiet quiet, records_quiet quiet, ih]
      | true =>
          cases entry with
          | responded source =>
              exact congrArg (StreamRecord.initialResponse source :: ·) (ih printed)
          | signalled number signal =>
              cases signal with
              | next event =>
                  rw [List.cons_append]
                  unfold records
                  rw [ih, ih]
              | _ => cases quiet
          | _ => cases quiet

/-! ### What the printer hears -/

theorem lookup_texts (headers : Headers) (name : String) :
    (headers.map fun header => (header.name, header.value.text)).lookup name =
      (headers.get? name).map HeaderValue.text := by
  induction headers with
  | nil => rfl
  | cons header rest ih =>
      unfold Headers.get? at ih ⊢
      rw [List.map_cons, List.lookup_cons, List.find?_cons, ih, Bool.beq_comm]
      cases header.name == name with
      | true => rfl
      | false => rfl

theorem receive_event {message : Message} (event : message.kind = .event)
    (attributes : Attributes) :
    receive (EventMessage.ofMessage message) attributes = .ok message.received := by
  have typed : ∃ type, message.eventType? = some type := by
    unfold Message.kind at event
    split at event
    · cases event
    · split at event
      · split at event
        · cases event
        · exact ⟨_, ‹_›⟩
      · split at event
        · cases event
        · cases event
  obtain ⟨type, found⟩ := typed
  obtain ⟨value, held, text⟩ := Option.bind_eq_some_iff.mp found
  have same : value.text = type := by
    cases value with
    | string value => exact Option.some.inj text
    | _ => cases text
  have read : (EventMessage.ofMessage message).header? Reserved.eventType = some type := by
    unfold EventMessage.header? EventMessage.ofMessage
    rw [lookup_texts, held, Option.map_some, same]
  unfold receive Message.received
  rw [read, found]
  rfl

/-- A message that is no failure is heard, and the records of what it adds are in front
of those that are still to come. -/
theorem hear_tells (limits : Limits) {message : Message} (soundMessage : message.fault? = none)
    (listener : Listener ReceivedEvent String Nat) (first : Nat) :
    ∃ next more passed, listener.hear (setup limits none) 0 message = (next, .ok ()) ∧
      next.calls = listener.calls ++ more ∧
      ∀ further later, records none (first + passed) further =
          remaining next.response (first + passed + 1) later →
        records none first (more ++ further) =
          remaining listener.response (first + 1) (message :: later) := by
  unfold Listener.hear
  cases kind : message.kind with
  | initialResponse =>
      cases held : listener.response with
      | none =>
          refine ⟨listener, [], 0, rfl, (List.append_nil _).symm, ?_⟩
          intro further later same
          rw [held] at same
          exact same.trans (numbered_other (by rw [kind]; exact MessageKind.noConfusion) later).symm
      | some source =>
          refine ⟨_, [.responded source], 0, rfl, rfl, ?_⟩
          intro further later same
          exact (congrArg (StreamRecord.initialResponse source :: ·) same).trans
            (transcript_marker kind later).symm
  | event =>
      let next : Listener ReceivedEvent String Nat :=
        { listener with
          state := listener.state + 1
          calls := listener.calls ++ [.signalled 0 (.next message.received)] }
      refine ⟨next, [.signalled 0 (.next message.received)], 1, ?_, ?_, ?_⟩
      · dsimp only [setup]
        rw [receive_event kind]
        rfl
      · rfl
      · intro further later same
        rw [remaining_event kind]
        exact congrArg (StreamRecord.ofEvent (first + 1) message.received :: ·) same
  | missingEventType =>
      unfold Message.fault? at soundMessage
      rw [kind] at soundMessage
      cases soundMessage
  | error code text =>
      unfold Message.fault? at soundMessage
      rw [kind] at soundMessage
      cases soundMessage
  | other type =>
      refine ⟨listener, [], 0, rfl, (List.append_nil _).symm, ?_⟩
      intro further later same
      rw [remaining_other (by rw [kind]; exact MessageKind.noConfusion)
        (by rw [kind]; exact MessageKind.noConfusion)]
      exact same

theorem hear_fault (limits : Limits) {limit : Option Nat} {message : Message} {cause : FlowError}
    (fault : message.fault? = some cause) (listener : Listener ReceivedEvent String Nat) :
    listener.hear (setup limits limit) 0 message = (listener, .error cause) := by
  unfold Message.fault? at fault
  unfold Listener.hear
  split at fault
  · rename_i kind
    cases fault
    rw [kind]
  · rename_i code text kind
    cases fault
    rw [kind]
  · cases fault

/-- The records of what is heard are those of the messages in front of the first
failure, and that failure is the verdict. -/
theorem walk_tells (limits : Limits) (messages : List Message)
    (listener : Listener ReceivedEvent String Nat) (first : Nat) :
    ∃ heard verdict more,
      Fed.walk (Listener.hear (setup limits none) 0) listener messages = (heard, verdict) ∧
        heard.calls = listener.calls ++ more ∧
        records none first more = remaining listener.response (first + 1) (sound messages) ∧
        ∀ stop, Listener.failure? verdict stop none =
          (messages.findSome? Message.fault?).or (stopFailure? stop) := by
  induction messages generalizing listener first with
  | nil =>
      refine ⟨listener, .ok (), [], rfl, (List.append_nil _).symm, ?_, ?_⟩
      · cases listener.response with
        | none => rfl
        | some source => rfl
      · intro stop
        cases stop with
        | error malformed => rfl
        | ok left => rfl
  | cons message later ih =>
      cases fault : message.fault? with
      | some cause =>
          have ends : sound (message :: later) = [] := by
            refine List.takeWhile_cons_of_neg ?_
            rw [Message.isSound, fault]
            exact Bool.false_ne_true
          refine ⟨listener, .error cause, [], ?_, (List.append_nil _).symm, ?_, ?_⟩
          · rw [Fed.walk, hear_fault limits fault]
          · rw [ends]
            cases listener.response with
            | none => rfl
            | some source => rfl
          · intro stop
            rw [List.findSome?_cons_of_isSome (by rw [fault]; rfl), fault]
            rfl
      | none =>
          have goes : sound (message :: later) = message :: sound later := by
            refine List.takeWhile_cons_of_pos ?_
            rw [Message.isSound, fault]
            rfl
          obtain ⟨next, more, passed, heard, added, tells⟩ :=
            hear_tells limits fault listener first
          obtain ⟨after, verdict, further, walked, addedToo, told, failure⟩ :=
            ih next (first + passed)
          refine ⟨after, verdict, more ++ further, ?_, ?_, ?_, ?_⟩
          · rw [Fed.walk, heard]
            exact walked
          · rw [addedToo, added, List.append_assoc]
          · rw [goes]
            exact tells further (sound later) told
          · intro stop
            rw [List.findSome?_cons_of_isNone (by rw [fault]; rfl)]
            exact failure stop

theorem firstFailure?_kind {limits : Limits} {bytes : Bytes} {cause : FlowError}
    (fails : firstFailure? limits bytes = some cause) :
    (∃ code text, cause = .protocol code text) ∨ (∃ reason, cause = .client reason) ∨
      ∃ malformed, cause = .decode malformed := by
  rcases Option.or_eq_some_iff.mp fails with spoken | ⟨_, stopped⟩
  · obtain ⟨message, _, fault⟩ := List.exists_of_findSome?_eq_some spoken
    unfold Message.fault? at fault
    split at fault
    · cases fault
      exact .inr (.inl ⟨_, rfl⟩)
    · cases fault
      exact .inl ⟨_, _, rfl⟩
    · cases fault
  · generalize (Frame.messages limits bytes).2 = stop at stopped
    cases stop with
    | error malformed =>
        cases stopped
        exact .inr (.inr ⟨malformed, rfl⟩)
    | ok left => cases stopped

theorem code_account (format : Format) (source : String) (limits : Limits)
    (workspace : Workspace) (bytes : Bytes) :
    (account format source limits workspace bytes).code = exitCode (firstFailure? limits bytes) := by
  unfold account Completion.code
  dsimp only
  cases fails : firstFailure? limits bytes with
  | none => rfl
  | some cause =>
      rcases firstFailure?_kind fails with ⟨code, text, rfl⟩ | ⟨reason, rfl⟩ | ⟨malformed, rfl⟩
      · rfl
      · rfl
      · rfl

def damagedTick : Bytes := Flow.tickFrame ++ [0, 0, 0, 0, 0, 0, 0, 0, 0, 0, 0, 0]

theorem messages_damagedTick :
    Frame.messages {} damagedTick = ([Flow.tick], .error (.preludeChecksum 0 1696784233)) := by
  change Frame.messages {} (Flow.tickFrame ++ Flow.zeros) = _
  rw [Frame.messages_message (Flow.decode_tickFrame _), Frame.messages_failed Flow.decode_zeros]

end Decode

end FramedEvents
