/-
What a writer adds to its sink.

A sink takes any part of what it is given, takes nothing, or fails, and its flushes fail as
they like. A message is added as a whole, or its frame stops where the sink has stopped
taking it, or it has no frame and the sink is not called. Which of these it is decides
whether the message counts as written. Failures that pass leave no trace in the sink, and
when nothing else fails, a reader finds the messages there.
-/

import FramedEvents.Proofs.Wire.Appending
import FramedEvents.Proofs.Wire.FrontEnds
import FramedEvents.Wire.Writer
import Mathlib.Logic.Basic

namespace FramedEvents

/-! ### Writing until all is taken -/

namespace WriteStep

def stop? : WriteStep → Option FrameError
  | .accept 0 => some .connectionClosed
  | .accept (_ + 1) => none
  | .fail error => if error.isTemporary then none else some (.io error)

def isTemporary : WriteStep → Bool
  | .accept _ => false
  | .fail error => error.isTemporary

structure Delivery where
  answer : Except FrameError Unit
  taken : Bytes
  left : List WriteStep

/-- What becomes of bytes that are written until all are taken: how that ends, what has been
taken by then, and what is left of the script. -/
def deliver : List WriteStep → Bytes → Delivery
  | steps, [] => ⟨.ok (), [], steps⟩
  | [], byte :: more => ⟨.ok (), byte :: more, []⟩
  | .accept 0 :: later, _ :: _ => ⟨.error .connectionClosed, [], later⟩
  | .accept (most + 1) :: later, byte :: more =>
      let behind := deliver later (more.drop most)
      { behind with taken := byte :: (more.take most ++ behind.taken) }
  | .fail error :: later, byte :: more =>
      if error.isTemporary then deliver later (byte :: more) else ⟨.error (.io error), [], later⟩

theorem deliver_nil (bytes : Bytes) : deliver [] bytes = ⟨.ok (), bytes, []⟩ := by
  cases bytes <;> rfl

def Went (steps left : List WriteStep) : Prop :=
  ∃ used, steps = used ++ left ∧ ∀ step ∈ used, step.stop? = none

theorem Went.cons {step : WriteStep} {steps left : List WriteStep} (goes : step.stop? = none)
    (went : Went steps left) : Went (step :: steps) left := by
  obtain ⟨used, rfl, others⟩ := went
  exact ⟨step :: used, rfl, List.forall_mem_cons.mpr ⟨goes, others⟩⟩

theorem Went.refl (steps : List WriteStep) : Went steps steps := ⟨[], rfl, by simp⟩

theorem deliver_whole {steps : List WriteStep} {bytes : Bytes}
    (ended : (deliver steps bytes).answer = .ok ()) :
    (deliver steps bytes).taken = bytes ∧ Went steps (deliver steps bytes).left := by
  fun_induction deliver steps bytes with
  | case1 steps => exact ⟨rfl, .refl steps⟩
  | case2 byte more => exact ⟨rfl, .refl []⟩
  | case3 later byte more => cases ended
  | case4 most later byte more behind ih =>
      obtain ⟨whole, went⟩ := ih ended
      refine ⟨?_, went.cons rfl⟩
      rw [whole, List.take_append_drop]
  | case5 error later byte more temporary ih =>
      obtain ⟨whole, went⟩ := ih ended
      exact ⟨whole, went.cons (if_pos temporary)⟩
  | case6 error later byte more lasting => cases ended

theorem deliver_torn {steps : List WriteStep} {bytes : Bytes} {error : FrameError}
    (failed : (deliver steps bytes).answer = .error error) :
    (∃ behind, behind ≠ [] ∧ bytes = (deliver steps bytes).taken ++ behind) ∧
      ∃ last, last.stop? = some error ∧ Went steps (last :: (deliver steps bytes).left) := by
  fun_induction deliver steps bytes with
  | case1 steps => cases failed
  | case2 byte more => cases failed
  | case3 later byte more =>
      cases failed
      exact ⟨⟨byte :: more, by simp, rfl⟩, .accept 0, rfl, .refl _⟩
  | case4 most later byte more behind ih =>
      obtain ⟨⟨missing, some, parts⟩, last, stopped, went⟩ := ih failed
      refine ⟨⟨missing, some, ?_⟩, last, stopped, went.cons rfl⟩
      rw [List.cons_append, List.append_assoc, ← parts, List.take_append_drop]
  | case5 reason later byte more temporary ih =>
      obtain ⟨missing, last, stopped, went⟩ := ih failed
      exact ⟨missing, last, stopped, went.cons (if_pos temporary)⟩
  | case6 reason later byte more lasting =>
      cases failed
      exact ⟨⟨byte :: more, by simp, rfl⟩, .fail reason, if_neg lasting, .refl _⟩

def calm (steps : List WriteStep) : List WriteStep := steps.filter fun step => !step.isTemporary

theorem deliver_calm (steps : List WriteStep) (bytes : Bytes) :
    deliver (calm steps) bytes =
      { deliver steps bytes with left := calm (deliver steps bytes).left } := by
  fun_induction deliver steps bytes with
  | case1 steps => simp [deliver]
  | case2 byte more => rfl
  | case3 later byte more => rfl
  | case4 most later byte more behind ih =>
      change deliver (.accept (most + 1) :: calm later) (byte :: more) = _
      rw [deliver, ih]
  | case5 reason later byte more temporary ih =>
      rw [← ih]
      simp [calm, isTemporary, temporary]
  | case6 reason later byte more lasting =>
      simp [calm, isTemporary, lasting, deliver]

end WriteStep

namespace Sink

variable {sink : Sink}

theorem write_past (script : sink.writes = []) (bytes : Bytes) :
    sink.write bytes =
      (.ok bytes.length,
        { sink with received := sink.received ++ bytes, writeCalls := sink.writeCalls + 1 }) := by
  unfold write
  rw [script]

theorem write_accept {most : Nat} {later : List WriteStep}
    (script : sink.writes = .accept most :: later) (bytes : Bytes) :
    sink.write bytes =
      (.ok (bytes.take most).length,
        { sink with
          writes := later
          received := sink.received ++ bytes.take most
          writeCalls := sink.writeCalls + 1 }) := by
  unfold write
  rw [script]

theorem write_fail {error : IoError} {later : List WriteStep}
    (script : sink.writes = .fail error :: later) (bytes : Bytes) :
    sink.write bytes =
      (.error error, { sink with writes := later, writeCalls := sink.writeCalls + 1 }) := by
  unfold write
  rw [script]

theorem writeAll_deliver (sink : Sink) (bytes : Bytes) :
    let delivery := WriteStep.deliver sink.writes bytes
    ∃ calls, sink.writeAll bytes =
      (delivery.answer,
        { sink with
          writes := delivery.left
          received := sink.received ++ delivery.taken
          writeCalls := calls }) := by
  generalize script : sink.writes = steps
  fun_induction WriteStep.deliver steps bytes generalizing sink with
  | case1 steps =>
      subst script
      exact ⟨sink.writeCalls, by rw [writeAll, List.append_nil]⟩
  | case2 byte more =>
      refine ⟨sink.writeCalls + 1, ?_⟩
      rw [writeAll, write_past script, List.length_cons]
      dsimp only
      rw [List.drop_length, writeAll, script]
  | case3 later byte more =>
      refine ⟨sink.writeCalls + 1, ?_⟩
      rw [writeAll, write_accept script]
      rfl
  | case4 most later byte more behind ih =>
      have wrote := write_accept script (byte :: more)
      rw [List.take_succ_cons, List.length_cons] at wrote
      obtain ⟨calls, done⟩ := ih { sink with
          writes := later
          received := sink.received ++ byte :: more.take most
          writeCalls := sink.writeCalls + 1 } rfl
      -- fewer bytes than `most` may be taken, but then none are left
      have rest : more.drop (more.take most).length = more.drop most := by simp
      refine ⟨calls, ?_⟩
      rw [writeAll, wrote]
      dsimp only
      rw [rest, done, List.append_assoc]
      rfl
  | case5 error later byte more temporary ih =>
      obtain ⟨calls, done⟩ := ih
        { sink with writes := later, writeCalls := sink.writeCalls + 1 } rfl
      refine ⟨calls, ?_⟩
      rw [writeAll, write_fail script]
      dsimp only
      rw [if_pos temporary, done]
  | case6 error later byte more lasting =>
      refine ⟨sink.writeCalls + 1, ?_⟩
      rw [writeAll, write_fail script]
      dsimp only
      rw [if_neg lasting, List.append_nil]

end Sink

/-! ### Flushing -/

namespace FlushStep

def isTemporary : FlushStep → Bool
  | .succeed => false
  | .fail error => error.isTemporary

def settle : List FlushStep → Except FrameError Unit × List FlushStep
  | [] => (.ok (), [])
  | .succeed :: later => (.ok (), later)
  | .fail error :: later =>
      if error.isTemporary then settle later else (.error (.io error), later)

theorem settle_failed {steps left : List FlushStep} {error : FrameError}
    (failed : settle steps = (.error error, left)) :
    ∃ reason used, error = .io reason ∧ ¬reason.isTemporary ∧
      steps = used ++ .fail reason :: left ∧ ∀ step ∈ used, step.isTemporary := by
  fun_induction settle steps with
  | case1 => cases failed
  | case2 later => cases failed
  | case3 reason later temporary ih =>
      obtain ⟨last, used, same, lasting, rfl, passed⟩ := ih failed
      exact ⟨last, .fail reason :: used, same, lasting, rfl,
        List.forall_mem_cons.mpr ⟨temporary, passed⟩⟩
  | case4 reason later lasting =>
      cases failed
      exact ⟨reason, [], rfl, lasting, rfl, by simp⟩

def calm (steps : List FlushStep) : List FlushStep := steps.filter fun step => !step.isTemporary

theorem settle_calm (steps : List FlushStep) :
    settle (calm steps) = ((settle steps).1, calm (settle steps).2) := by
  fun_induction settle steps with
  | case1 => rfl
  | case2 later => rfl
  | case3 error later temporary ih =>
      rw [← ih]
      simp [calm, isTemporary, temporary]
  | case4 error later lasting =>
      simp [calm, isTemporary, lasting, settle]

end FlushStep

namespace Sink

theorem flush_past {sink : Sink} (script : sink.flushes = []) :
    sink.flush = (.ok (), { sink with flushCalls := sink.flushCalls + 1 }) := by
  unfold flush
  rw [script]

theorem flush_succeed {sink : Sink} {later : List FlushStep}
    (script : sink.flushes = .succeed :: later) :
    sink.flush = (.ok (), { sink with flushes := later, flushCalls := sink.flushCalls + 1 }) := by
  unfold flush
  rw [script]

theorem flush_fail {sink : Sink} {error : IoError} {later : List FlushStep}
    (script : sink.flushes = .fail error :: later) :
    sink.flush =
      (.error error, { sink with flushes := later, flushCalls := sink.flushCalls + 1 }) := by
  unfold flush
  rw [script]

theorem flushAll_settle (sink : Sink) :
    ∃ calls, sink.flushAll =
      ((FlushStep.settle sink.flushes).1,
        { sink with
          flushes := (FlushStep.settle sink.flushes).2
          flushCalls := sink.flushCalls + (calls + 1) }) := by
  generalize script : sink.flushes = steps
  fun_induction FlushStep.settle steps generalizing sink with
  | case1 =>
      refine ⟨0, ?_⟩
      rw [flushAll, flush_past script, ← script]
  | case2 later =>
      refine ⟨0, ?_⟩
      rw [flushAll, flush_succeed script]
  | case3 error later temporary ih =>
      obtain ⟨calls, done⟩ := ih
        { sink with flushes := later, flushCalls := sink.flushCalls + 1 } rfl
      refine ⟨calls + 1, ?_⟩
      rw [flushAll, flush_fail script]
      dsimp only
      rw [if_pos temporary, done]
      dsimp only
      rw [Nat.add_assoc, Nat.add_comm 1]
  | case4 error later lasting =>
      refine ⟨0, ?_⟩
      rw [flushAll, flush_fail script]
      dsimp only
      rw [if_neg lasting]

/-- A sink before and after it was flushed, and how that ended. It fails only when the sink
fails it for good. -/
structure Flushed (before after : Sink) (reply : Except FrameError Unit) : Prop where
  received : after.received = before.received
  writes : after.writes = before.writes
  writeCalls : after.writeCalls = before.writeCalls
  called : before.flushCalls < after.flushCalls
  ended : reply = .ok () ∨
    ∃ reason used, reply = .error (.io reason) ∧ ¬reason.isTemporary ∧
      before.flushes = used ++ .fail reason :: after.flushes ∧ ∀ step ∈ used, step.isTemporary

theorem flushAll_flushed (sink : Sink) : Flushed sink sink.flushAll.2 sink.flushAll.1 := by
  obtain ⟨calls, settled⟩ := sink.flushAll_settle
  rw [settled]
  refine ⟨rfl, rfl, rfl, ?_, ?_⟩
  · dsimp only
    omega
  · cases ended : (FlushStep.settle sink.flushes).1 with
    | ok => exact .inl rfl
    | error error =>
        obtain ⟨reason, used, rfl, lasting, parts, passed⟩ :=
          FlushStep.settle_failed (Prod.ext ended rfl)
        exact .inr ⟨reason, used, rfl, lasting, parts, passed⟩

end Sink

/-! ### One call -/

namespace Writer

inductive Call where
  | write (message : Message)
  | send (headers : Headers) (payload : Bytes)
  | flush

def Call.message? : Call → Option Message
  | .write message => some message
  | .send headers payload => some ⟨headers, payload⟩
  | .flush => none

def call (writer : Writer) : Call → Except FrameError Unit × Writer
  | .write message => writer.write message
  | .send headers payload => writer.send headers payload
  | .flush => writer.flush

def run (writer : Writer) : List Call → List (Except FrameError Unit) × Writer
  | [] => ([], writer)
  | call :: later =>
      let called := writer.call call
      let behind := called.2.run later
      (called.1 :: behind.1, behind.2)

/-- What was in the scratch buffer does not matter: a message without a frame is refused
before the sink is called. -/
theorem write_refused {writer : Writer} {message : Message} {error : FrameError}
    (refused : Frame.encode writer.limits message = .error error) :
    writer.write message = (.error error, { writer with scratch := [] }) := by
  rw [write, List.take_zero, Frame.append_refused refused]

theorem write_framed {writer : Writer} {message : Message} {frame : Bytes}
    (framed : Frame.encode writer.limits message = .ok frame) :
    writer.write message =
      match writer.sink.writeAll frame with
      | (.error error, sink) => (.error error, { writer with sink := sink, scratch := frame })
      | (.ok (), sink) =>
          flush { writer with sink := sink, written := writer.written + 1, scratch := frame } := by
  rw [write, List.take_zero, Frame.append_written framed]
  rfl

/-- What a call has added to the sink: the whole frame of its message, a front of it that is
not the whole, or nothing. -/
inductive Effect where
  | whole (frame : Bytes)
  | torn (front : Bytes)
  | nothing

def Effect.added : Effect → Bytes
  | .whole frame => frame
  | .torn front => front
  | .nothing => []

def Effect.isWhole : Effect → Bool
  | .whole _ => true
  | _ => false

/-- What a call does to the sink, by what its reply is due to. -/
inductive Does (limits : Limits) (before after : Sink) :
    Call → Except FrameError Unit → Effect → Prop where
  /-- The sink takes the whole frame, and is flushed then. The reply is that of the flush. -/
  | whole {call : Call} {message : Message} {frame : Bytes} {middle : Sink}
      {reply : Except FrameError Unit} (asked : call.message? = some message)
      (framed : Frame.encode limits message = .ok frame)
      (received : middle.received = before.received ++ frame)
      (went : WriteStep.Went before.writes middle.writes)
      (flushed : Sink.Flushed middle after reply) : Does limits before after call reply (.whole frame)
  /-- A write takes nothing or fails for good, with some of the frame still to be taken. -/
  | torn {call : Call} {message : Message} {front behind : Bytes} {error : FrameError}
      {last : WriteStep} (asked : call.message? = some message)
      (framed : Frame.encode limits message = .ok (front ++ behind)) (missing : behind ≠ [])
      (received : after.received = before.received ++ front)
      (went : WriteStep.Went before.writes (last :: after.writes))
      (stopped : last.stop? = some error) (unflushed : after.flushCalls = before.flushCalls) :
      Does limits before after call (.error error) (.torn front)
  /-- The message has no frame, and the sink is not called. -/
  | refused {call : Call} {message : Message} {error : FrameError}
      (asked : call.message? = some message) (refused : Frame.encode limits message = .error error)
      (untouched : after = before) : Does limits before after call (.error error) .nothing
  | flushed {reply : Except FrameError Unit} (flushed : Sink.Flushed before after reply) :
      Does limits before after .flush reply .nothing

theorem Does.received {limits : Limits} {before after : Sink} {call : Call}
    {reply : Except FrameError Unit} {effect : Effect}
    (does : Does limits before after call reply effect) :
    after.received = before.received ++ effect.added := by
  cases does with
  | whole asked framed received went flushed => rw [flushed.received, received, Effect.added]
  | torn asked framed missing received went stopped unflushed => exact received
  | refused asked refused untouched => rw [untouched, Effect.added, List.append_nil]
  | flushed flushed => rw [flushed.received, Effect.added, List.append_nil]

theorem write_does (writer : Writer) {call : Call} {message : Message}
    (asked : call.message? = some message) :
    ∃ effect, Does writer.limits writer.sink (writer.write message).2.sink call
        (writer.write message).1 effect ∧
      (writer.write message).2.limits = writer.limits ∧
      (writer.write message).2.written = writer.written + if effect.isWhole then 1 else 0 := by
  cases framed : Frame.encode writer.limits message with
  | error error =>
      rw [write_refused framed]
      exact ⟨.nothing, .refused asked framed rfl, rfl, rfl⟩
  | ok frame =>
      obtain ⟨calls, written⟩ := writer.sink.writeAll_deliver frame
      rw [write_framed framed, written]
      cases ended : (WriteStep.deliver writer.sink.writes frame).answer with
      | error error =>
          obtain ⟨⟨behind, missing, parts⟩, last, stopped, went⟩ := WriteStep.deliver_torn ended
          rw [parts] at framed
          exact ⟨.torn _, .torn asked framed missing rfl went stopped rfl, rfl, rfl⟩
      | ok =>
          obtain ⟨whole, went⟩ := WriteStep.deliver_whole ended
          refine ⟨.whole frame, .whole asked framed ?_ went (Sink.flushAll_flushed _), rfl, rfl⟩
          rw [whole]

theorem call_does (writer : Writer) (call : Call) :
    ∃ effect, Does writer.limits writer.sink (writer.call call).2.sink call (writer.call call).1
        effect ∧
      (writer.call call).2.limits = writer.limits ∧
      (writer.call call).2.written = writer.written + if effect.isWhole then 1 else 0 := by
  cases call with
  | write message => exact write_does writer rfl
  | send headers payload => exact write_does writer rfl
  | flush => exact ⟨.nothing, .flushed writer.sink.flushAll_flushed, rfl, rfl⟩

/-! ### Any calls -/

inductive Do (limits : Limits) : Sink → List Call → List (Except FrameError Unit) →
    List Effect → Sink → Prop where
  | nil (sink : Sink) : Do limits sink [] [] [] sink
  | cons {before middle after : Sink} {call : Call} {later : List Call}
      {reply : Except FrameError Unit} {replies : List (Except FrameError Unit)} {effect : Effect}
      {effects : List Effect} (first : Does limits before middle call reply effect)
      (others : Do limits middle later replies effects after) :
      Do limits before (call :: later) (reply :: replies) (effect :: effects) after

theorem run_do (writer : Writer) (calls : List Call) :
    ∃ effects, Do writer.limits writer.sink calls (writer.run calls).1 effects
        (writer.run calls).2.sink ∧
      (writer.run calls).2.written = writer.written + effects.countP Effect.isWhole := by
  induction calls generalizing writer with
  | nil => exact ⟨[], .nil _, rfl⟩
  | cons call later ih =>
      obtain ⟨effect, does, limits, written⟩ := writer.call_does call
      obtain ⟨effects, others, behind⟩ := ih (writer.call call).2
      rw [limits] at others
      refine ⟨effect :: effects, .cons does others, ?_⟩
      change ((writer.call call).2.run later).2.written = _
      rw [behind, written, List.countP_cons, Nat.add_assoc, Nat.add_comm (ite _ _ _)]

theorem Do.received {limits : Limits} {before after : Sink} {calls : List Call}
    {replies : List (Except FrameError Unit)} {effects : List Effect}
    (did : Do limits before calls replies effects after) :
    after.received = before.received ++ (effects.map Effect.added).flatten := by
  induction did with
  | nil sink => exact (List.append_nil _).symm
  | cons first others ih =>
      rw [ih, first.received, List.map_cons, List.flatten_cons, List.append_assoc]

theorem Do.messages {limits : Limits} {before after : Sink} {calls : List Call}
    {replies : List (Except FrameError Unit)} {effects : List Effect}
    (did : Do limits before calls replies effects after)
    (fine : ∀ reply ∈ replies, reply = .ok ()) :
    Frame.messages limits (effects.map Effect.added).flatten =
      (calls.filterMap Call.message?, .ok []) := by
  induction did with
  | nil sink => exact Frame.messages_nil
  | cons first others ih =>
      obtain ⟨ok, rest⟩ := List.forall_mem_cons.mp fine
      have behind := ih rest
      cases first with
      | whole asked framed received went flushed =>
          rw [List.map_cons, List.flatten_cons, Effect.added,
            Frame.messages_message (Frame.decode_eq_iff.mpr (.of_encode framed _)), behind,
            List.filterMap_cons, asked]
      | torn asked framed missing received went stopped unflushed => cases ok
      | refused asked refused untouched => cases ok
      | flushed flushed => exact behind

/-! ### Failures that pass -/

def calm (writer : Writer) : Writer :=
  { writer with
    sink := { writer.sink with
      writes := WriteStep.calm writer.sink.writes
      flushes := FlushStep.calm writer.sink.flushes } }

/-- Two writers whose sinks differ only in failures that pass, and in how often they were
called. -/
structure Alike (first second : Writer) : Prop where
  limits : first.limits = second.limits
  written : first.written = second.written
  received : first.sink.received = second.sink.received
  writes : WriteStep.calm first.sink.writes = WriteStep.calm second.sink.writes
  flushes : FlushStep.calm first.sink.flushes = FlushStep.calm second.sink.flushes

theorem calm_alike (writer : Writer) : Alike writer.calm writer := by
  refine ⟨rfl, rfl, rfl, ?_, ?_⟩
  · simp [calm, WriteStep.calm]
  · simp [calm, FlushStep.calm]

theorem Alike.flush {first second : Writer} (alike : Alike first second) :
    first.flush.1 = second.flush.1 ∧ Alike first.flush.2 second.flush.2 := by
  obtain ⟨_, flushed⟩ := first.sink.flushAll_settle
  obtain ⟨_, flushedToo⟩ := second.sink.flushAll_settle
  have settled := (FlushStep.settle_calm first.sink.flushes).symm.trans
    (alike.flushes ▸ FlushStep.settle_calm second.sink.flushes)
  obtain ⟨answer, left⟩ := Prod.mk.inj settled
  simp only [Writer.flush, flushed, flushedToo]
  exact ⟨answer, alike.limits, alike.written, alike.received, alike.writes, left⟩

theorem Alike.write {first second : Writer} (alike : Alike first second) (message : Message) :
    (first.write message).1 = (second.write message).1 ∧
      Alike (first.write message).2 (second.write message).2 := by
  cases framed : Frame.encode first.limits message with
  | error error =>
      rw [write_refused framed, write_refused (alike.limits ▸ framed)]
      exact ⟨rfl, alike.limits, alike.written, alike.received, alike.writes, alike.flushes⟩
  | ok frame =>
      obtain ⟨_, wrote⟩ := first.sink.writeAll_deliver frame
      obtain ⟨_, wroteToo⟩ := second.sink.writeAll_deliver frame
      have delivered := (WriteStep.deliver_calm first.sink.writes frame).symm.trans
        (alike.writes ▸ WriteStep.deliver_calm second.sink.writes frame)
      obtain ⟨answer, taken, left⟩ := WriteStep.Delivery.mk.inj delivered
      rw [write_framed framed, write_framed (alike.limits ▸ framed), wrote, wroteToo, answer, taken]
      cases (WriteStep.deliver second.sink.writes frame).answer with
      | error error =>
          exact ⟨rfl, alike.limits, alike.written, congrArg (· ++ _) alike.received, left,
            alike.flushes⟩
      | ok =>
          exact Alike.flush ⟨alike.limits, congrArg (· + 1) alike.written,
            congrArg (· ++ _) alike.received, left, alike.flushes⟩

theorem Alike.run {first second : Writer} (alike : Alike first second) (calls : List Call) :
    (first.run calls).1 = (second.run calls).1 ∧
      Alike (first.run calls).2 (second.run calls).2 := by
  induction calls generalizing first second with
  | nil => exact ⟨rfl, alike⟩
  | cons call later ih =>
      have called : (first.call call).1 = (second.call call).1 ∧
          Alike (first.call call).2 (second.call call).2 := by
        cases call with
        | write message => exact alike.write message
        | send headers payload => exact alike.write ⟨headers, payload⟩
        | flush => exact alike.flush
      obtain ⟨behind, after⟩ := ih called.2
      exact ⟨congrArg₂ List.cons called.1 behind, after⟩

/-! ### All that a writer promises -/

/-- What a writer adds to any sink, whatever it is called for. Each call does one of the
things that `Does` lists, the sink holds what they have added, and as many messages count as
written as have been added as a whole. Without the failures that pass, it all comes to the
same. If no call fails, a reader finds exactly the messages in a sink that was empty. -/
theorem run_adds (writer : Writer) (calls : List Call) :
    let done := writer.run calls
    let calm := writer.calm.run calls
    ∃ effects, Do writer.limits writer.sink calls done.1 effects done.2.sink ∧
      done.2.sink.received = writer.sink.received ++ (effects.map Effect.added).flatten ∧
      done.2.written = writer.written + effects.countP Effect.isWhole ∧
      (calm.1 = done.1 ∧ calm.2.sink.received = done.2.sink.received ∧
        calm.2.written = done.2.written) ∧
      ((∀ reply ∈ done.1, reply = .ok ()) → writer.sink.received = [] →
        ∀ script : ReadScript, script.Brings done.2.sink.received →
          Reader.readAll { script := script, limits := writer.limits } =
            (calls.filterMap Call.message?, .ok ())) := by
  intro done calm
  obtain ⟨effects, did, written⟩ := writer.run_do calls
  obtain ⟨replies, alike⟩ := writer.calm_alike.run calls
  refine ⟨effects, did, did.received, written, ⟨replies, alike.received, alike.written⟩, ?_⟩
  intro fine empty script brings
  let reader : Reader := { script := script, limits := writer.limits }
  have read : reader.readAll = _ := Reader.readAll_eq_messages brings
  rw [List.nil_append, did.received, empty, List.nil_append, did.messages fine] at read
  exact read

/-- An empty message that is taken in two parts with an interruption between them, flushed
at the second attempt, and read back. -/
theorem run_adds_interrupted :
    let empty : Message := ⟨[], []⟩
    let frame : Bytes := [0, 0, 0, 16, 0, 0, 0, 0, 5, 194, 72, 235, 125, 152, 200, 255]
    let writes : List WriteStep := [.accept 3, .fail ⟨.interrupted, none⟩]
    let flushes : List FlushStep := [.fail ⟨.wouldBlock, none⟩]
    let start : Writer := { sink := { writes := writes, flushes := flushes } }
    let done := start.run [.write empty]
    done.1 = [.ok ()] ∧ done.2.written = 1 ∧ done.2.sink.received = frame ∧
      Reader.readAll { script := [.data frame] } = ([empty], .ok ()) := by
  intro empty frame writes flushes start done
  have framed : Frame.encode start.limits empty = .ok frame := by cbv
  obtain ⟨_, wrote⟩ := start.sink.writeAll_deliver frame
  obtain ⟨taken, wrote, kept, behind⟩ : ∃ taken, start.sink.writeAll frame = (.ok (), taken) ∧
      taken.received = frame ∧ taken.flushes = flushes := ⟨_, wrote, rfl, rfl⟩
  obtain ⟨_, flushed⟩ := taken.flushAll_settle
  rw [behind] at flushed
  obtain ⟨last, flushed, received⟩ : ∃ last, taken.flushAll = (.ok (), last) ∧
      last.received = frame := ⟨_, flushed, kept⟩
  have written : start.write empty = (.ok (), { sink := last, written := 1, scratch := frame }) := by
    rw [write_framed framed, wrote]
    dsimp only [flush]
    rw [flushed]
  have ran : done = ([.ok ()], { sink := last, written := 1, scratch := frame }) :=
    congrArg (fun called => ([called.1], called.2)) written
  obtain ⟨_, _, _, _, _, back⟩ := start.run_adds [.write empty]
  change (∀ reply ∈ done.1, reply = .ok ()) → _ → ∀ script : ReadScript,
    script.Brings done.2.sink.received → _ at back
  rw [ran] at back ⊢
  dsimp only at back
  rw [received] at back
  exact ⟨rfl, rfl, received, back (by simp) rfl _ (.data frame .done (by simp))⟩

end Writer

end FramedEvents
