/-
Three ways to get at the messages of a byte string.

A decoder is given the bytes in slices, a reader fetches them block by block, and a
buffer that holds them all is decoded again and again. Each keeps what does not make
a message yet, so all three come to the messages of the whole string and to the same
first fault. They differ in how they tell of bytes that are left at the end: the reader
and the buffer call them a failure, and the decoder keeps them.
-/

import FramedEvents.Proofs.Wire.Faults
import FramedEvents.Proofs.Wire.Messages
import FramedEvents.Wire.Buffer
import FramedEvents.Wire.Reader

namespace FramedEvents

/-! ### Reading a script -/

namespace ReadScript

/-- The calls of a script bring these bytes in all. None of them fails but for an
interruption, and none is without bytes unless no more are to come. -/
inductive Brings : ReadScript → Bytes → Prop where
  | done : Brings [] []
  | data {rest : ReadScript} {later : Bytes} (front : Bytes) (brings : Brings rest later)
      (some : front = [] → later = []) : Brings (.data front :: rest) (front ++ later)
  | interrupted {rest : ReadScript} {later : Bytes} (error : IoError) (brings : Brings rest later)
      (again : error.kind = .interrupted) : Brings (.fail error :: rest) later
  | eof {rest : ReadScript} (brings : Brings rest []) : Brings (.eof :: rest) []

variable {room : Nat} {script : ReadScript} {bytes : Bytes}

theorem Brings.read (brings : Brings script bytes) (hasRoom : 0 < room)
    (plain : ∀ error rest, script ≠ .fail error :: rest) :
    ∃ front later after, script.read room = (.ok front, after) ∧ bytes = front ++ later ∧
      Brings after later ∧ (front = [] → bytes = []) := by
  cases brings with
  | done => exact ⟨[], [], [], rfl, rfl, .done, fun _ => rfl⟩
  | data front rest some =>
      rename_i script later
      unfold ReadScript.read
      dsimp only
      cases left : front.drop room with
      | nil =>
          refine ⟨front, later, script, rfl, rfl, rest, ?_⟩
          intro none
          rw [none, some none, List.append_nil]
      | cons byte more =>
          have long : room < front.length := by
            apply Classical.byContradiction
            intro short
            rw [List.drop_eq_nil_of_le (by omega)] at left
            cases left
          refine ⟨front.take room, (byte :: more) ++ later, .data (byte :: more) :: script, rfl,
            ?_, .data _ rest (fun none => by cases none), ?_⟩
          · rw [← left, ← List.append_assoc, List.take_append_drop]
          · intro none
            have := congrArg List.length none
            rw [List.length_take, List.length_nil] at this
            omega
  | interrupted error rest again => exact absurd rfl (plain error _)
  | eof rest => exact ⟨[], [], _, rfl, rfl, rest, fun _ => rfl⟩

theorem Brings.readThrough (brings : Brings script bytes) (hasRoom : 0 < room) :
    ∃ front later after, script.readThrough room = (.ok front, after) ∧ bytes = front ++ later ∧
      Brings after later ∧ (front = [] → bytes = []) := by
  fun_induction ReadScript.readThrough room script with
  | case1 error rest interrupted ih =>
      cases brings with
      | interrupted _ rest again => exact ih rest
  | case2 error rest other =>
      cases brings with
      | interrupted _ rest again => exact absurd again other
  | case3 script plain => exact brings.read hasRoom plain

theorem weight_add_read {after : ReadScript} (read : script.read room = (.ok bytes, after)) :
    after.weight + bytes.length ≤ script.weight := by
  cases script with
  | nil =>
      cases read
      exact Nat.le_refl _
  | cons step rest =>
      cases step with
      | data front =>
          unfold ReadScript.read at read
          dsimp only at read
          split at read
          · cases read
            simp only [weight]
            omega
          · cases read
            simp only [weight, List.length_drop, List.length_take]
            omega
      | fail error => cases read
      | eof =>
          cases read
          simp only [weight, List.length_nil]
          omega

theorem weight_add_readThrough {after : ReadScript}
    (read : script.readThrough room = (.ok bytes, after)) :
    after.weight + bytes.length ≤ script.weight := by
  fun_induction ReadScript.readThrough room script with
  | case1 error rest interrupted ih =>
      have := ih read
      simp only [weight]
      omega
  | case2 error rest other => cases read
  | case3 script plain => exact weight_add_read read

end ReadScript

/-! ### Reading to the end -/

namespace Reader

/-- A message that is read has been taken off what was pending and what is to come. -/
theorem read_shrinks {reader after : Reader} {message : Message}
    (read : reader.read = (.ok message, after)) :
    after.script.weight + after.pending.length <
      reader.script.weight + reader.pending.length := by
  fun_induction Reader.read reader with
  | case1 reader error rest decoded => cases read
  | case2 reader found rest decoded =>
      cases read
      exact Nat.add_lt_add_left (Frame.decode_shrinks decoded) _
  | case3 reader rest decoded error script called => cases read
  | case4 reader rest decoded script called => cases read
  | case5 reader rest decoded byte more script called ih =>
      have fetched := ReadScript.weight_add_readThrough called
      have shrinks := ih read
      dsimp only at shrinks
      rw [List.length_append] at shrinks
      omega

theorem read?_shrinks {reader after : Reader} {message : Message}
    (read : reader.read? = (.ok (some message), after)) :
    after.script.weight + after.pending.length <
      reader.script.weight + reader.pending.length := by
  unfold Reader.read? at read
  split at read
  · rename_i found next called
    cases read
    exact read_shrinks called
  · split at read
    · cases read
    · cases read

/-- Reads message after message, until the reader says that there are no more or fails. -/
def readAll (reader : Reader) : List Message × Except FrameError Unit :=
  match _called : reader.read? with
  | (.error error, _) => ([], .error error)
  | (.ok none, _) => ([], .ok ())
  | (.ok (some message), after) =>
      let later := after.readAll
      (message :: later.1, later.2)
termination_by reader.script.weight + reader.pending.length
decreasing_by exact read?_shrinks _called

/-- What a reader makes of the answer to all bytes that there are: it waits for more until
there are none. -/
def conclude : Except FrameError (Option Message) → Except FrameError Message
  | .ok (some message) => .ok message
  | .ok none => .error .connectionClosed
  | .error error => .error error

/-- A reader answers as if it had all bytes before it, and has the same bytes before it
afterwards. -/
theorem read_brings {reader : Reader} {bytes rest : Bytes}
    {answer : Except FrameError (Option Message)} (brings : reader.script.Brings bytes)
    (decoded : Frame.decode reader.limits (reader.pending ++ bytes) = (answer, rest)) :
    ∃ after later, reader.read = (conclude answer, after) ∧ after.limits = reader.limits ∧
      after.script.Brings later ∧ after.pending ++ later = rest ∧
      (answer = .ok none → later = []) := by
  fun_induction Reader.read reader generalizing bytes with
  | case1 reader error left failed =>
      rw [Frame.decode_append failed (by simp) bytes] at decoded
      cases decoded
      exact ⟨{ reader with pending := left }, bytes, rfl, rfl, brings, rfl, fun none => by cases none⟩
  | case2 reader message left found =>
      rw [Frame.decode_append found (by simp) bytes] at decoded
      cases decoded
      exact ⟨{ reader with pending := left }, bytes, rfl, rfl, brings, rfl, fun none => by cases none⟩
  | case3 reader left waits error script called =>
      obtain ⟨_, _, _, read, _⟩ := brings.readThrough (by decide : 0 < blockSize)
      rw [called] at read
      cases read
  | case4 reader left waits script called =>
      obtain ⟨front, later, after, read, same, remains, ended⟩ :=
        brings.readThrough (by decide : 0 < blockSize)
      rw [called] at read
      cases read
      obtain rfl := ended rfl
      obtain rfl : later = [] := same.symm
      rw [List.append_nil] at decoded
      obtain rfl := Frame.decode_waiting waits
      rw [waits] at decoded
      cases decoded
      exact ⟨{ reader with script := script }, [], rfl, rfl, remains, List.append_nil _, fun _ => rfl⟩
  | case5 reader left waits byte more script called ih =>
      obtain ⟨front, later, after, read, same, remains, _⟩ :=
        brings.readThrough (by decide : 0 < blockSize)
      rw [called] at read
      cases read
      subst same
      rw [← List.append_assoc] at decoded
      exact ih remains decoded

variable {reader : Reader} {bytes rest : Bytes}

theorem read?_message {message : Message} (brings : reader.script.Brings bytes)
    (decoded : Frame.decode reader.limits (reader.pending ++ bytes) = (.ok (some message), rest)) :
    ∃ after later, reader.read? = (.ok (some message), after) ∧ after.limits = reader.limits ∧
      after.script.Brings later ∧ after.pending ++ later = rest := by
  obtain ⟨after, later, read, same, remains, behind, _⟩ := read_brings brings decoded
  refine ⟨after, later, ?_, same, remains, behind⟩
  unfold Reader.read?
  rw [read]
  rfl

theorem read?_failed {error : FrameError} (brings : reader.script.Brings bytes)
    (decoded : Frame.decode reader.limits (reader.pending ++ bytes) = (.error error, rest)) :
    ∃ after, reader.read? = (.error error, after) := by
  obtain ⟨after, later, read, _⟩ := read_brings brings decoded
  have other : error ≠ .connectionClosed := by
    rintro rfl
    exact Frame.decode_fault decoded trivial
  refine ⟨after, ?_⟩
  unfold Reader.read?
  rw [read]
  exact if_neg fun both => other both.1

theorem read?_ended (brings : reader.script.Brings bytes)
    (decoded : Frame.decode reader.limits (reader.pending ++ bytes) = (.ok none, rest)) :
    ∃ after, reader.read? =
      (if rest = [] then .ok none else .error .connectionClosed, after) := by
  obtain ⟨after, later, read, _, _, behind, ended⟩ := read_brings brings decoded
  obtain rfl := ended rfl
  rw [List.append_nil] at behind
  refine ⟨after, ?_⟩
  unfold Reader.read?
  rw [read]
  dsimp only [conclude]
  rw [behind]
  by_cases clean : rest = []
  · rw [if_pos clean]
    exact if_pos ⟨rfl, clean⟩
  · rw [if_neg clean]
    exact if_neg fun both => clean both.2

theorem readAll_failed {after : Reader} {error : FrameError}
    (read : reader.read? = (.error error, after)) : reader.readAll = ([], .error error) := by
  rw [readAll]
  split
  · rename_i found next same
    rw [read] at same
    cases same
    rfl
  · rename_i next other
    rw [read] at other
    cases other
  · rename_i message next other
    rw [read] at other
    cases other

theorem readAll_ended {after : Reader} (read : reader.read? = (.ok none, after)) :
    reader.readAll = ([], .ok ()) := by
  rw [readAll]
  split
  · rename_i error next other
    rw [read] at other
    cases other
  · rfl
  · rename_i message next other
    rw [read] at other
    cases other

theorem readAll_message {after : Reader} {message : Message}
    (read : reader.read? = (.ok (some message), after)) :
    reader.readAll = (message :: after.readAll.1, after.readAll.2) := by
  rw [readAll]
  split
  · rename_i error next other
    rw [read] at other
    cases other
  · rename_i next other
    rw [read] at other
    cases other
  · rename_i found next same
    rw [read] at same
    cases same
    rfl

def ending : Except FrameError Bytes → Except FrameError Unit
  | .error error => .error error
  | .ok left => if left = [] then .ok () else .error .connectionClosed

theorem readAll_eq_messages (brings : reader.script.Brings bytes) :
    reader.readAll = ((Frame.messages reader.limits (reader.pending ++ bytes)).1,
      ending (Frame.messages reader.limits (reader.pending ++ bytes)).2) := by
  generalize given : reader.limits = limits
  generalize whole : reader.pending ++ bytes = buffer
  induction buffer using Frame.messages.induct limits generalizing reader bytes with
  | case1 buffer error rest decoded =>
      subst whole given
      obtain ⟨after, read⟩ := read?_failed brings decoded
      rw [readAll_failed read, Frame.messages_failed decoded, ending]
  | case2 buffer rest decoded =>
      subst whole given
      obtain ⟨after, read⟩ := read?_ended brings decoded
      rw [Frame.messages_waiting decoded]
      by_cases clean : rest = []
      · rw [if_pos clean] at read
        rw [readAll_ended read, ending, if_pos clean]
      · rw [if_neg clean] at read
        rw [readAll_failed read, ending, if_neg clean]
  | case3 buffer message rest decoded ih =>
      subst whole given
      obtain ⟨after, later, read, same, remains, left⟩ := read?_message brings decoded
      rw [readAll_message read, Frame.messages_message decoded, ih remains same left]

end Reader

/-! ### The three of them -/

namespace Frame

variable {limits : Limits}

/-- At its end, a buffer is a failure exactly if it holds bytes that make no message. -/
theorem decodeLast_pending {pending : Bytes} (waits : decode limits pending = (.ok none, pending)) :
    decodeLast limits pending = (if pending = [] then .ok none else .error bytesRemain, pending) := by
  unfold decodeLast
  rw [waits]
  cases pending with
  | nil => rfl
  | cons byte more => rfl

end Frame

namespace Decoder

/-- Takes in slices one after the other and lists their messages, until a frame fails. -/
def listAll (limits : Limits) (slices : List Bytes) :
    Fed (List Message) FrameError × Decoder :=
  feedAll id (keeping fun _ => .ok ()) { limits := limits } slices []

theorem walk_keeping (seen messages : List Message) :
    Fed.walk (keeping fun _ => (.ok () : Except FrameError Unit)) seen messages =
      (seen ++ messages, .ok ()) := by
  induction messages generalizing seen with
  | nil => rw [Fed.walk, List.append_nil]
  | cons message later ih =>
      rw [Fed.walk, keeping]
      dsimp only
      rw [ih, List.append_assoc]
      rfl

/-- However the bytes are sliced, a decoder lists their messages, and keeps what is left
behind them. -/
theorem listAll_eq_messages (limits : Limits) (slices : List Bytes) :
    (listAll limits slices).1.state = (Frame.messages limits slices.flatten).1 ∧
      (listAll limits slices).1.outcome =
        (Frame.messages limits slices.flatten).2.map (fun _ => ()) ∧
      ∀ left, (Frame.messages limits slices.flatten).2 = .ok left →
        (listAll limits slices).2.pending = left := by
  obtain ⟨sameState, sameOutcome, samePending⟩ :=
    @feedAll_agree _ FrameError id (keeping fun _ => .ok ()) slices { limits := limits } []
      Frame.decode_nil
  obtain ⟨walked, stopped⟩ := @Fed.decodeAll_eq_walk _ FrameError limits id
    (keeping fun _ => .ok ()) [] slices.flatten
  rw [walk_keeping] at walked stopped
  have ends : Fed.stopped id (Frame.messages limits slices.flatten).2 (.ok ()) =
      (Frame.messages limits slices.flatten).2.map (fun _ => ()) := by
    cases (Frame.messages limits slices.flatten).2 with
    | error error => rfl
    | ok left => rfl
  have outcome := (sameOutcome.trans stopped).trans ends
  refine ⟨sameState.trans walked, outcome, ?_⟩
  intro left stop
  have accepted : (listAll limits slices).1.outcome = .ok () := by
    rw [listAll, outcome, stop]
    rfl
  have kept := congrArg Decoder.pending (samePending accepted)
  -- What is pending is left behind the messages, and there is one such rest only.
  have behind := @Fed.pending_of_ok _ FrameError limits id (keeping fun _ => .ok ()) [] _
    slices.flatten _ (congrArg (Fed.mk _ · _) (sameOutcome.symm.trans accepted))
  rw [stop] at behind
  cases behind
  exact kept

end Decoder

/-- The three ways come to the same messages and to the same fault. If there is no fault,
they agree on whether the bytes end between two messages, and if they do not, a reader
and a buffer fail at their end. -/
theorem Frame.front_ends_agree (limits : Limits) (bytes : Bytes) (slices : List Bytes)
    (script : ReadScript) (cut : slices.flatten = bytes) (brings : script.Brings bytes) :
    let buffered := Frame.messages limits bytes
    let (fed, decoder) := Decoder.listAll limits slices
    let (read, ending) := Reader.readAll { script := script, limits := limits }
    fed.state = buffered.1 ∧ read = buffered.1 ∧
      (∀ error, buffered.2 = .error error →
        fed.outcome = .error error ∧ ending = .error error) ∧
      ∀ left, buffered.2 = .ok left →
        fed.outcome = .ok () ∧ (ending = .ok () ↔ decoder.pending.length = 0) ∧
          (decoder.pending.length = 0 ↔ (Frame.decodeLast limits left).1 = .ok none) ∧
          (decoder.pending.length ≠ 0 → ending = .error .connectionClosed ∧
            (Frame.decodeLast limits left).1 = .error Frame.bytesRemain) := by
  subst cut
  obtain ⟨listed, outcome, pending⟩ := Decoder.listAll_eq_messages limits slices
  have read : Reader.readAll { script := script, limits := limits } =
      ((Frame.messages limits slices.flatten).1,
        Reader.ending (Frame.messages limits slices.flatten).2) := Reader.readAll_eq_messages brings
  dsimp only
  rw [read]
  refine ⟨listed, rfl, ?_, ?_⟩
  · intro error stop
    rw [outcome, stop]
    exact ⟨rfl, rfl⟩
  · intro left stop
    have last := Frame.decodeLast_pending (Frame.decode_pending stop)
    rw [outcome, pending left stop, stop, last]
    cases left with
    | nil => simp [Except.map, Reader.ending]
    | cons byte more => simp [Except.map, Reader.ending]

/-- An empty message in a short read, an interruption, and the start of another message. -/
theorem Frame.front_ends_agree_cut :
    let front : Bytes := [0, 0, 0, 16, 0, 0, 0, 0, 5]
    let back : Bytes := [194, 72, 235, 125, 152, 200, 255, 0, 0]
    let script : ReadScript := [.data front, .fail ⟨.interrupted, none⟩, .data back, .eof]
    Reader.readAll { script := script } = ([⟨[], []⟩], .error .connectionClosed) ∧
      (Decoder.listAll {} [front, back]).1.state = [⟨[], []⟩] ∧
      (Decoder.listAll {} [front, back]).2.pending.length ≠ 0 ∧
      (Frame.decodeLast {} [0, 0]).1 = .error Frame.bytesRemain := by
  intro front back script
  have encoded : Frame.encode {} ⟨[], []⟩ =
      .ok [0, 0, 0, 16, 0, 0, 0, 0, 5, 194, 72, 235, 125, 152, 200, 255] := by cbv
  have whole : Frame.decode {} (front ++ back) = (.ok (some ⟨[], []⟩), [0, 0]) :=
    Frame.decode_eq_iff.mpr (.of_encode encoded [0, 0])
  have rest : Frame.decode {} [0, 0] = (.ok none, [0, 0]) :=
    Frame.decode_eq_iff.mpr (.short (by decide))
  have found : Frame.messages {} (front ++ back) = ([⟨[], []⟩], .ok [0, 0]) := by
    rw [Frame.messages_message whole, Frame.messages_waiting rest]
  have brings : script.Brings (front ++ back) := by
    apply ReadScript.Brings.data front _ (fun none => absurd none (by decide))
    apply ReadScript.Brings.interrupted _ _ rfl
    exact .data back (.eof .done) (fun _ => rfl)
  obtain ⟨listed, read, _, cut⟩ :=
    Frame.front_ends_agree {} (front ++ back) [front, back] script rfl brings
  rw [found] at listed read cut
  obtain ⟨_, clean, last, fails⟩ := cut [0, 0] rfl
  have remains : (Decoder.listAll {} [front, back]).2.pending.length ≠ 0 := by
    intro none
    have impossible := last.mp none
    rw [Frame.decodeLast_pending rest] at impossible
    cases impossible
  exact ⟨Prod.ext read (fails remains).1, listed, remains, (fails remains).2⟩

end FramedEvents
