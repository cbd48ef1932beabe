/-
What a reader fetches, and what becomes of it.

A reader is called in any order, over a stream that is interrupted, fails and ends anywhere,
and it is called again after that. It is run here with a record of its own calls on the
stream. All bytes that the stream has brought are accounted for, as the frames of the
messages that were returned and of those that were rejected, and what is pending behind
them. The stream is called only for bytes that are needed, and its end and its failures
leave what is pending alone.
-/

import FramedEvents.Proofs.Wire.Chunking
import FramedEvents.Proofs.Wire.Faults
import FramedEvents.Wire.Reader
import Mathlib.Data.List.Forall2

namespace FramedEvents

/-! ### Calls on a script -/

namespace ReadScript

def brought : Except IoError Bytes → Bytes
  | .ok bytes => bytes
  | .error _ => []

/-- What so many calls in a row answer, and what they leave. -/
def reads (room : Nat) : Nat → ReadScript → List (Except IoError Bytes) × ReadScript
  | 0, script => ([], script)
  | calls + 1, script =>
      let later := reads room calls (read room script).2
      ((read room script).1 :: later.1, later.2)

theorem readThrough_eq (room : Nat) (script : ReadScript) :
    readThrough room script =
      match read room script with
      | (.error error, rest) =>
          if error.kind = .interrupted then readThrough room rest else (.error error, rest)
      | answered => answered := by
  cases script with
  | nil => rfl
  | cons step rest =>
      cases step with
      | data bytes =>
          rw [readThrough, read]
          · split <;> rfl
          · intro error rest impossible
            cases impossible
      | fail error => rfl
      | eof => rfl

theorem weight_read_error {room : Nat} {script after : ReadScript} {error : IoError}
    (failed : read room script = (.error error, after)) : after.weight < script.weight := by
  cases script with
  | nil => cases failed
  | cons step rest =>
      cases step with
      | data bytes =>
          unfold read at failed
          dsimp only at failed
          split at failed
          · cases failed
          · cases failed
      | fail found =>
          cases failed
          simp only [weight]
          omega
      | eof => cases failed

end ReadScript

namespace Reader

/-- One call on the stream: what was pending when it was made, and what it answered. No
bytes are the end of the stream. -/
structure Fetch where
  pending : Bytes
  answer : Except IoError Bytes

def fetched (fetches : List Fetch) : Bytes :=
  fetches.flatMap fun fetch => ReadScript.brought fetch.answer

theorem fetched_append (earlier later : List Fetch) :
    fetched (earlier ++ later) = fetched earlier ++ fetched later :=
  List.flatMap_append

/-- A script answers these calls, one after the other, and this is left of it then. -/
def Answered (script : ReadScript) (fetches : List Fetch) (left : ReadScript) : Prop :=
  script.reads blockSize fetches.length = (fetches.map Fetch.answer, left)

theorem Answered.nil (script : ReadScript) : Answered script [] script := rfl

theorem Answered.cons {script next left : ReadScript} {fetch : Fetch} {later : List Fetch}
    (first : script.read blockSize = (fetch.answer, next)) (answered : Answered next later left) :
    Answered script (fetch :: later) left := by
  unfold Answered at *
  rw [List.length_cons, ReadScript.reads, first]
  dsimp only
  rw [answered]
  rfl

theorem Answered.append {script middle left : ReadScript} {earlier later : List Fetch}
    (first : Answered script earlier middle) (second : Answered middle later left) :
    Answered script (earlier ++ later) left := by
  induction earlier generalizing script with
  | nil =>
      cases first
      exact second
  | cons fetch earlier ih =>
      have answers := congrArg (fun found => found.1.head?) first
      have behind := congrArg (fun found => (found.1.tail, found.2)) first
      simp only [List.length_cons, ReadScript.reads, List.map_cons, List.head?_cons,
        Option.some.injEq, List.tail_cons] at answers behind
      exact .cons (Prod.ext answers rfl) (ih behind)

theorem read_waiting {reader : Reader} {rest : Bytes}
    (waits : Frame.decode reader.limits reader.pending = (.ok none, rest)) :
    reader.read =
      match reader.script.readThrough blockSize with
      | (.error error, script) => (.error (.io error), { reader with script := script })
      | (.ok [], script) => (.error .connectionClosed, { reader with script := script })
      | (.ok (byte :: more), script) =>
          read { reader with script := script, pending := reader.pending ++ byte :: more } := by
  rw [read, waits]
  dsimp only
  split
  · rename_i called
    rw [called]
  · rename_i called
    rw [called]
  · rename_i called
    rw [called]

/-! ### What an answer takes -/

/-- The frame that an answer takes off what is pending. -/
inductive Takes (limits : Limits) : Except FrameError Message → Bytes → Prop where
  | message {message : Message} {frame : Bytes}
      (encoded : Frame.encode limits message = .ok frame) : Takes limits (.ok message) frame
  | rejected {error : FrameError} {frame : Bytes}
      (rejected : Frame.Rejected limits frame error) : Takes limits (.error error) frame
  | nothing {error : FrameError} (other : ¬error.OfHeaders) : Takes limits (.error error) []

theorem Takes.of_stream {limits : Limits} {error : FrameError} {frame : Bytes}
    (takes : Takes limits (.error error) frame) (ofStream : error.OfStream) : frame = [] := by
  cases takes with
  | rejected rejected => exact absurd ofStream rejected.ofHeaders.not_ofStream
  | nothing other => rfl

/-! ### A reader with a record -/

/-- A reader, and the calls that it has made on the stream so far. -/
structure Recorded where
  reader : Reader
  fetches : List Fetch := []

namespace Recorded

def withPending (recorded : Recorded) (pending : Bytes) : Recorded :=
  { recorded with reader := { recorded.reader with pending := pending } }

def fetch (recorded : Recorded) : Except IoError Bytes × Recorded :=
  let called := recorded.reader.script.read blockSize
  (called.1,
    { reader := { recorded.reader with script := called.2 }
      fetches := recorded.fetches ++ [⟨recorded.reader.pending, called.1⟩] })

theorem fetch_eq_iff {recorded after : Recorded} {answer : Except IoError Bytes} :
    recorded.fetch = (answer, after) ↔
      ∃ script, recorded.reader.script.read blockSize = (answer, script) ∧
        after = { reader := { recorded.reader with script := script }
                  fetches := recorded.fetches ++ [⟨recorded.reader.pending, answer⟩] } := by
  unfold fetch
  constructor
  · intro called
    cases called
    exact ⟨_, rfl, rfl⟩
  · rintro ⟨script, called, rfl⟩
    rw [called]

def fill (recorded : Recorded) : Except FrameError Bool × Recorded :=
  match _fetched : recorded.fetch with
  | (.ok [], after) => (.ok false, after)
  | (.ok (byte :: more), after) =>
      (.ok true, after.withPending (after.reader.pending ++ byte :: more))
  | (.error error, after) =>
      if error.kind = .interrupted then fill after else (.error (.io error), after)
termination_by recorded.reader.script.weight
decreasing_by
  obtain ⟨script, failed, rfl⟩ := fetch_eq_iff.mp _fetched
  exact ReadScript.weight_read_error failed

/-- What filling has come to: the calls that it made on the stream, all with the same bytes
pending, and what they brought. -/
structure Fills (before after : Recorded) (answer : Except FrameError Bool) (made : List Fetch) :
    Prop where
  record : after.fetches = before.fetches ++ made
  limits : after.reader.limits = before.reader.limits
  answered : Answered before.reader.script made after.reader.script
  waiting : ∀ fetch ∈ made, fetch.pending = before.reader.pending
  kept : after.reader.pending = before.reader.pending ++ fetched made
  ended : ∀ pending, ⟨pending, .ok []⟩ ∈ made ↔
    answer = .ok false ∧ after.reader.pending = pending
  failed : ∀ error, answer = .error error → ∃ reason, error = .io reason
  shrinks : answer = .ok true → after.reader.script.weight < before.reader.script.weight

theorem Fills.interrupted {before middle after : Recorded} {answer : Except FrameError Bool}
    {error : IoError} {made : List Fetch} (called : before.fetch = (.error error, middle))
    (fills : Fills middle after answer made) :
    Fills before after answer (⟨before.reader.pending, .error error⟩ :: made) := by
  obtain ⟨script, read, rfl⟩ := fetch_eq_iff.mp called
  have shrinks := ReadScript.weight_read_error read
  constructor
  · rw [fills.record, List.append_assoc]
    rfl
  · exact fills.limits
  · exact .cons read fills.answered
  · exact List.forall_mem_cons.mpr ⟨rfl, fills.waiting⟩
  · exact fills.kept
  · intro pending
    rw [← fills.ended]
    simp
  · exact fills.failed
  · intro brought
    exact Nat.lt_trans (fills.shrinks brought) shrinks

theorem fill_fills (recorded : Recorded) :
    ∃ made, Fills recorded recorded.fill.2 recorded.fill.1 made := by
  fun_induction fill recorded with
  | case1 recorded after called =>
      obtain ⟨script, read, rfl⟩ := fetch_eq_iff.mp called
      refine ⟨[⟨recorded.reader.pending, .ok []⟩],
        ⟨rfl, rfl, .cons read (.nil _), by simp, ?_, ?_, ?_, ?_⟩⟩
      · exact (List.append_nil _).symm
      · simp [eq_comm]
      · intro error impossible
        cases impossible
      · intro impossible
        cases impossible
  | case2 recorded byte more after called =>
      obtain ⟨script, read, rfl⟩ := fetch_eq_iff.mp called
      have shrinks := ReadScript.weight_read_lt (by decide : 0 < blockSize)
        (congrArg Prod.fst read) (by simp)
      rw [read] at shrinks
      refine ⟨[⟨recorded.reader.pending, .ok (byte :: more)⟩],
        ⟨rfl, rfl, .cons read (.nil _), by simp, ?_, by simp, ?_, fun _ => shrinks⟩⟩
      · simp [withPending, fetched, ReadScript.brought]
      · intro error impossible
        cases impossible
  | case3 recorded error after called interrupted ih =>
      obtain ⟨made, fills⟩ := ih
      exact ⟨_, fills.interrupted called⟩
  | case4 recorded error after called other =>
      obtain ⟨script, read, rfl⟩ := fetch_eq_iff.mp called
      refine ⟨[⟨recorded.reader.pending, .error error⟩],
        ⟨rfl, rfl, .cons read (.nil _), by simp, ?_, by simp, ?_, ?_⟩⟩
      · exact (List.append_nil _).symm
      · intro found same
        cases same
        exact ⟨error, rfl⟩
      · intro impossible
        cases impossible

theorem fill_eq_readThrough (recorded : Recorded) :
    let through := recorded.reader.script.readThrough blockSize
    recorded.fill.2.reader =
        { recorded.reader with
          script := through.2
          pending := recorded.reader.pending ++ ReadScript.brought through.1 } ∧
      recorded.fill.1 =
        match through.1 with
        | .error error => .error (.io error)
        | .ok bytes => .ok (!bytes.isEmpty) := by
  fun_induction fill recorded with
  | case1 recorded after called =>
      obtain ⟨script, read, rfl⟩ := fetch_eq_iff.mp called
      rw [ReadScript.readThrough_eq, read]
      simp [ReadScript.brought]
  | case2 recorded byte more after called =>
      obtain ⟨script, read, rfl⟩ := fetch_eq_iff.mp called
      rw [ReadScript.readThrough_eq, read]
      simp [ReadScript.brought, withPending]
  | case3 recorded error after called interrupted ih =>
      obtain ⟨script, read, rfl⟩ := fetch_eq_iff.mp called
      rw [ReadScript.readThrough_eq, read]
      dsimp only
      rw [if_pos interrupted]
      exact ih
  | case4 recorded error after called other =>
      obtain ⟨script, read, rfl⟩ := fetch_eq_iff.mp called
      rw [ReadScript.readThrough_eq, read]
      dsimp only
      rw [if_neg other]
      simp [ReadScript.brought]

def read (recorded : Recorded) : Except FrameError Message × Recorded :=
  match Frame.decode recorded.reader.limits recorded.reader.pending with
  | (.error error, rest) => (.error error, recorded.withPending rest)
  | (.ok (some message), rest) => (.ok message, recorded.withPending rest)
  | (.ok none, _) =>
      match _filled : recorded.fill with
      | (.error error, after) => (.error error, after)
      | (.ok false, after) => (.error .connectionClosed, after)
      | (.ok true, after) => read after
termination_by recorded.reader.script.weight
decreasing_by
  obtain ⟨made, fills⟩ := fill_fills recorded
  rw [_filled] at fills
  exact fills.shrinks rfl

theorem read_eq_fill {recorded : Recorded} {rest : Bytes}
    (waits : Frame.decode recorded.reader.limits recorded.reader.pending = (.ok none, rest)) :
    recorded.reader.read =
      match recorded.fill with
      | (.error error, after) => (.error error, after.reader)
      | (.ok false, after) => (.error .connectionClosed, after.reader)
      | (.ok true, after) => after.reader.read := by
  obtain ⟨same, answer⟩ := fill_eq_readThrough recorded
  rw [read_waiting waits]
  generalize recorded.reader.script.readThrough blockSize = through at same answer ⊢
  generalize recorded.fill = filled at same answer ⊢
  obtain ⟨outcome, after⟩ := filled
  obtain ⟨error | bytes, script⟩ := through
  · dsimp only at answer same
    simp only [answer, same, ReadScript.brought, List.append_nil]
  · cases bytes with
    | nil =>
        dsimp only at answer same
        simp only [answer, same, ReadScript.brought, List.append_nil, List.isEmpty_nil, Bool.not_true]
    | cons byte more =>
        dsimp only at answer same
        simp only [answer, same, ReadScript.brought, List.isEmpty_cons, Bool.not_false]

theorem read_eq (recorded : Recorded) :
    recorded.reader.read = (recorded.read.1, recorded.read.2.reader) := by
  fun_induction Recorded.read recorded with
  | case1 recorded error rest decoded =>
      rw [Reader.read, decoded]
      rfl
  | case2 recorded message rest decoded =>
      rw [Reader.read, decoded]
      rfl
  | case3 recorded rest waits error after filled => rw [read_eq_fill waits, filled]
  | case4 recorded rest waits after filled => rw [read_eq_fill waits, filled]
  | case5 recorded rest waits after filled ih =>
      rw [read_eq_fill waits, filled]
      exact ih

/-! ### One call -/

/-- From one state of a reader to a later one: the calls that it has made on the stream in
between, each for bytes that were needed. -/
structure Passage (before after : Recorded) (made : List Fetch) : Prop where
  record : after.fetches = before.fetches ++ made
  limits : after.reader.limits = before.reader.limits
  answered : Answered before.reader.script made after.reader.script
  needed : ∀ fetch ∈ made,
    Frame.decode before.reader.limits fetch.pending = (.ok none, fetch.pending)

theorem Passage.idle (recorded : Recorded) (rest : Bytes) :
    Passage recorded (recorded.withPending rest) [] := by
  refine ⟨(List.append_nil _).symm, rfl, .nil _, ?_⟩
  intro fetch impossible
  cases impossible

theorem Passage.append {before middle after : Recorded} {earlier later : List Fetch}
    (first : Passage before middle earlier) (second : Passage middle after later) :
    Passage before after (earlier ++ later) := by
  constructor
  · rw [second.record, first.record, List.append_assoc]
  · rw [second.limits, first.limits]
  · exact first.answered.append second.answered
  · intro fetch member
    rcases List.mem_append.mp member with inFront | behind
    · exact first.needed fetch inFront
    · rw [← first.limits]
      exact second.needed fetch behind

theorem Fills.passage {before after : Recorded} {answer : Except FrameError Bool}
    {made : List Fetch} {rest : Bytes} (fills : Fills before after answer made)
    (waits : Frame.decode before.reader.limits before.reader.pending = (.ok none, rest)) :
    Passage before after made := by
  obtain rfl := Frame.decode_waiting waits
  refine ⟨fills.record, fills.limits, fills.answered, ?_⟩
  intro fetch member
  rw [fills.waiting fetch member]
  exact waits

/-- The account of one call: the frame that it took off the bytes before it. The stream has
told of its end exactly if the answer is that it is closed. -/
structure Accounts (before after : Recorded) (answer : Except FrameError Message)
    (made : List Fetch) (frame : Bytes) : Prop where
  passage : Passage before after made
  kept : before.reader.pending ++ fetched made = frame ++ after.reader.pending
  taken : Takes before.reader.limits answer frame
  ended : ∀ pending, ⟨pending, .ok []⟩ ∈ made ↔
    answer = .error .connectionClosed ∧ after.reader.pending = pending

theorem Accounts.of_pending {recorded : Recorded} {answer : Except FrameError Message}
    {frame rest : Bytes} (parts : recorded.reader.pending = frame ++ rest)
    (taken : Takes recorded.reader.limits answer frame)
    (opened : answer ≠ .error .connectionClosed) :
    Accounts recorded (recorded.withPending rest) answer [] frame := by
  refine ⟨.idle recorded rest, (List.append_nil _).trans parts, taken, ?_⟩
  intro pending
  constructor
  · intro impossible
    cases impossible
  · rintro ⟨closed, _⟩
    exact absurd closed opened

theorem Accounts.of_fills {before after : Recorded} {filled : Except FrameError Bool}
    {error : FrameError} {made : List Fetch} {rest : Bytes}
    (waits : Frame.decode before.reader.limits before.reader.pending = (.ok none, rest))
    (fills : Fills before after filled made) (other : ¬error.OfHeaders)
    (closed : error = .connectionClosed ↔ filled = .ok false) :
    Accounts before after (.error error) made [] := by
  refine ⟨fills.passage waits, fills.kept.symm, .nothing other, ?_⟩
  intro pending
  rw [fills.ended, Except.error.injEq, closed]

theorem Accounts.behind_fills {before middle after : Recorded}
    {answer : Except FrameError Message} {earlier later : List Fetch} {frame rest : Bytes}
    (waits : Frame.decode before.reader.limits before.reader.pending = (.ok none, rest))
    (fills : Fills before middle (.ok true) earlier)
    (accounts : Accounts middle after answer later frame) :
    Accounts before after answer (earlier ++ later) frame := by
  refine ⟨(fills.passage waits).append accounts.passage, ?_, ?_, ?_⟩
  · rw [fetched_append, ← List.append_assoc, ← fills.kept, accounts.kept]
  · rw [← fills.limits]
    exact accounts.taken
  · intro pending
    rw [List.mem_append, fills.ended, ← accounts.ended]
    simp

-- An answer is either there in what is pending, or filling fails, or there is another turn
-- with more bytes pending.
theorem read_accounts (recorded : Recorded) :
    ∃ made frame, Accounts recorded recorded.read.2 recorded.read.1 made frame := by
  fun_induction read recorded with
  | case1 recorded error rest decoded =>
      have fault := Frame.decode_fault decoded
      have opened : (Except.error error : Except FrameError Message) ≠ .error .connectionClosed := by
        rintro same
        cases same
        exact fault trivial
      rcases (Frame.decode_eq_iff.mp decoded).of_error with ⟨ofFrame, rfl⟩ | ⟨frame, rejected, parts⟩
      · exact ⟨[], [], .of_pending rfl (.nothing ofFrame.not_ofHeaders) opened⟩
      · exact ⟨[], frame, .of_pending parts (.rejected rejected) opened⟩
  | case2 recorded message rest decoded =>
      obtain ⟨frame, encoded, parts⟩ := (Frame.decode_eq_iff.mp decoded).encode_of_message
      exact ⟨[], frame, .of_pending parts (.message encoded) (by simp)⟩
  | case3 recorded rest waits error after filled =>
      obtain ⟨made, fills⟩ := fill_fills recorded
      rw [filled] at fills
      obtain ⟨reason, rfl⟩ := fills.failed error rfl
      exact ⟨made, [], .of_fills waits fills not_false (by simp)⟩
  | case4 recorded rest waits after filled =>
      obtain ⟨made, fills⟩ := fill_fills recorded
      rw [filled] at fills
      exact ⟨made, [], .of_fills waits fills not_false (by simp)⟩
  | case5 recorded rest waits after filled ih =>
      obtain ⟨earlier, fills⟩ := fill_fills recorded
      rw [filled] at fills
      obtain ⟨later, frame, accounts⟩ := ih
      exact ⟨earlier ++ later, frame, .behind_fills waits fills accounts⟩

end Recorded

/-! ### Any calls -/

inductive Call where
  | read
  | read?
  | next
  deriving DecidableEq

inductive Reply where
  | read (answer : Except FrameError Message)
  | read? (answer : Except FrameError (Option Message))
  | next (item : Option (Except FrameError Message))

namespace Reply

/-- What a reply comes to when the end of the stream is a failure. -/
def answer : Reply → Except FrameError Message
  | .read answer => answer
  | .read? answer => answer.bind fun found => found.elim (.error .connectionClosed) .ok
  | .next item => item.getD (.error .connectionClosed)

def IsEnd : Reply → Prop
  | .read _ => False
  | .read? answer => answer = .ok none
  | .next item => item = none

end Reply

def call (reader : Reader) : Call → Reply × Reader
  | .read => (.read reader.read.1, reader.read.2)
  | .read? => (.read? reader.read?.1, reader.read?.2)
  | .next => (.next reader.next.1, reader.next.2)

def run (reader : Reader) : List Call → List Reply × Reader
  | [] => ([], reader)
  | call :: later =>
      let called := reader.call call
      let behind := called.2.run later
      (called.1 :: behind.1, behind.2)

/-- All three read alike. They differ only in how they tell of an end with nothing pending. -/
theorem call_eq_read (reader : Reader) (call : Call) :
    (reader.call call).2 = reader.read.2 ∧ (reader.call call).1.answer = reader.read.1 ∧
      ((reader.call call).1.IsEnd ↔
        call ≠ .read ∧ reader.read.1 = .error .connectionClosed ∧ reader.read.2.pending = []) := by
  rcases answered : reader.read with ⟨error | message, after⟩
  · by_cases clean : error = .connectionClosed ∧ after.pending = []
    · obtain ⟨rfl, none⟩ := clean
      cases call <;> simp [Reader.call, next, read?, answered, none, Reply.answer, Reply.IsEnd,
        Except.bind]
    · cases call <;> simp [Reader.call, next, read?, answered, clean, Reply.answer, Reply.IsEnd,
        Except.bind]
  · cases call <;> simp [Reader.call, next, read?, answered, Reply.answer, Reply.IsEnd, Except.bind]

namespace Recorded

def call (recorded : Recorded) (call : Call) : Reply × Recorded :=
  ((recorded.reader.call call).1, recorded.read.2)

def run (recorded : Recorded) : List Call → List Reply × Recorded
  | [] => ([], recorded)
  | call :: later =>
      let called := recorded.call call
      let behind := called.2.run later
      (called.1 :: behind.1, behind.2)

theorem call_eq (recorded : Recorded) (call : Call) :
    recorded.reader.call call = ((recorded.call call).1, (recorded.call call).2.reader) := by
  obtain ⟨same, _⟩ := call_eq_read recorded.reader call
  rw [read_eq] at same
  exact Prod.ext rfl same

theorem run_eq (recorded : Recorded) (calls : List Call) :
    recorded.reader.run calls = ((recorded.run calls).1, (recorded.run calls).2.reader) := by
  induction calls generalizing recorded with
  | nil => rfl
  | cons call later ih => rw [Reader.run, call_eq, ih, run]

/-- The account of many calls: the frames that they took off the bytes before them, one a
call. -/
structure Conserved (before after : Recorded) (replies : List Reply) (made : List Fetch)
    (frames : List Bytes) : Prop where
  passage : Passage before after made
  kept : before.reader.pending ++ fetched made = frames.flatten ++ after.reader.pending
  taken : List.Forall₂ (fun reply frame => Takes before.reader.limits reply.answer frame)
    replies frames

theorem run_conserved (recorded : Recorded) (calls : List Call) :
    ∃ made frames,
      Conserved recorded (recorded.run calls).2 (recorded.run calls).1 made frames := by
  induction calls generalizing recorded with
  | nil => exact ⟨[], [], .idle recorded recorded.reader.pending, List.append_nil _, .nil⟩
  | cons call later ih =>
      obtain ⟨earlier, frame, accounts⟩ := recorded.read_accounts
      obtain ⟨_, same, _⟩ := call_eq_read recorded.reader call
      rw [read_eq] at same
      obtain ⟨behind, frames, conserved⟩ := ih (recorded.call call).2
      refine ⟨earlier ++ behind, frame :: frames, accounts.passage.append conserved.passage, ?_,
        .cons ?_ ?_⟩
      · rw [fetched_append, ← List.append_assoc, accounts.kept, List.append_assoc, List.flatten_cons,
          List.append_assoc]
        exact congrArg (frame ++ ·) conserved.kept
      · change Takes _ (recorded.reader.call call).1.answer frame
        rw [same]
        exact accounts.taken
      · rw [← accounts.passage.limits]
        exact conserved.taken

end Recorded

/-- Nothing that the stream brings is lost, whatever calls a reader has been asked for and
however the stream interrupts, fails and ends. Here `calls` have been made and `last` is
made after them. What has been brought is the frames of the messages that were returned or
rejected, and what is pending. The stream is only called while what is pending waits for
more. When it fails or ends, all that was pending stays, and what has been brought since is
behind it. The reply that there is no message comes exactly if the stream tells of its end
with nothing pending. -/
theorem run_loses_nothing (limits : Limits) (script : ReadScript) (calls : List Call)
    (last : Call) :
    let start : Recorded := { reader := { script := script, limits := limits } }
    let before := start.run calls
    let after := before.2.call last
    start.reader.run calls = (before.1, before.2.reader) ∧
      before.2.reader.call last = (after.1, after.2.reader) ∧
      Answered script after.2.fetches after.2.reader.script ∧
      (∃ frames,
        List.Forall₂ (fun reply frame => Takes limits reply.answer frame) before.1 frames ∧
          fetched before.2.fetches = frames.flatten ++ before.2.reader.pending) ∧
      ∃ made, after.2.fetches = before.2.fetches ++ made ∧
        (∀ fetch ∈ made, Frame.decode limits fetch.pending = (.ok none, fetch.pending)) ∧
        (∀ error, after.1.answer = .error error → error.OfStream →
          after.2.reader.pending = before.2.reader.pending ++ fetched made) ∧
        (last ≠ .read → (after.1.IsEnd ↔ ⟨[], .ok []⟩ ∈ made)) := by
  intro start before after
  obtain ⟨earlier, frames, conserved⟩ := start.run_conserved calls
  obtain ⟨made, frame, accounts⟩ := before.2.read_accounts
  have sameLimits : before.2.reader.limits = limits := conserved.passage.limits
  obtain ⟨_, sameAnswer, sameEnd⟩ := call_eq_read before.2.reader last
  rw [Recorded.read_eq] at sameAnswer sameEnd
  have fetches : before.2.fetches = earlier := conserved.passage.record
  refine ⟨start.run_eq calls, before.2.call_eq last, ?_, ⟨frames, conserved.taken, ?_⟩, made,
    accounts.passage.record, ?_, ?_, ?_⟩
  · have whole := conserved.passage.append accounts.passage
    rw [show after.2.fetches = earlier ++ made from whole.record]
    exact whole.answered
  · rw [fetches]
    exact conserved.kept
  · rw [← sameLimits]
    exact accounts.passage.needed
  · intro error failed ofStream
    have taken := accounts.taken
    rw [← sameAnswer] at taken
    rw [show (before.2.reader.call last).1.answer = .error error from failed] at taken
    obtain rfl := taken.of_stream ofStream
    exact accounts.kept.symm
  · intro asks
    rw [accounts.ended]
    exact sameEnd.trans (and_iff_right asks)

/-- The stream breaks inside a message, and ends there when it is called again. -/
theorem run_loses_nothing_torn :
    let front : Bytes := [0, 0, 0, 16]
    let broken : IoError := ⟨.connectionReset, none⟩
    let script : ReadScript := [.data front, .fail ⟨.interrupted, none⟩, .fail broken, .eof]
    let start : Recorded := { reader := { script := script } }
    let before := start.run [.read?]
    let after := before.2.call .next
    before.1 = [.read? (.error (.io broken))] ∧ before.2.reader.pending = front ∧
      after.1 = .next (some (.error .connectionClosed)) ∧
      ∃ made, after.2.fetches = before.2.fetches ++ made ∧
        after.2.reader.pending = front ++ fetched made ∧ ⟨[], .ok []⟩ ∉ made := by
  intro front broken script start before after
  have waits : Frame.decode {} front = (.ok none, front) := rfl
  have broke : start.reader.read = (.error (.io broken), { script := [.eof], pending := front }) := by
    rw [read_waiting (Frame.decode_nil : Frame.decode {} [] = _)]
    exact read_waiting waits
  have ended : read { script := [.eof], pending := front } =
      (.error .connectionClosed, { script := [], pending := front }) := read_waiting waits
  obtain ⟨run, call, _, _, made, record, _, stays, closes⟩ :=
    run_loses_nothing {} script [.read?] .next
  have first : start.reader.run [.read?] =
      ([.read? (.error (.io broken))], { script := [.eof], pending := front }) := by
    simp [Reader.run, Reader.call, read?, broke]
  obtain ⟨replies, reader⟩ := Prod.mk.inj (run.symm.trans first)
  have last : before.2.reader.call .next =
      (.next (some (.error .connectionClosed)), { script := [], pending := front }) := by
    rw [show before.2.reader = _ from reader]
    simp [Reader.call, next, read?, ended, front]
  obtain ⟨reply, _⟩ := Prod.mk.inj (call.symm.trans last)
  have kept : before.2.reader.pending = front := congrArg Reader.pending reader
  refine ⟨replies, kept, reply, made, record, ?_, ?_⟩
  · rw [← kept]
    exact stays .connectionClosed (congrArg Reply.answer reply) trivial
  · intro silent
    have none : after.1.IsEnd := (closes (by decide)).mpr silent
    rw [show after.1 = _ from reply] at none
    cases none

end Reader

end FramedEvents
