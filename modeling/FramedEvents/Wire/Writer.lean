/-
Writing messages to a byte sink.

A message is encoded first, so one that has no frame leaves the sink alone.
Short writes go on where they stopped, and transient failures are repeated.
A message counts as written once its last byte has been taken, whatever the
flush after it does.
-/

import FramedEvents.Wire.Frame

namespace FramedEvents

def IoError.isTemporary (error : IoError) : Bool :=
  error.kind = .interrupted || error.kind = .wouldBlock

namespace Sink

private theorem write_progress {sink after : Sink} {bytes : Bytes} {taken : Nat}
    (wrote : sink.write bytes = (.ok taken, after)) :
    taken ≤ bytes.length ∧ after.writes.length ≤ sink.writes.length := by
  simp only [write] at wrote
  split at wrote
  · rename_i ended
    injection wrote with sameTaken sameSink
    injection sameTaken with sameTaken
    subst sameTaken sameSink
    simp
  · rename_i most later more
    injection wrote with sameTaken sameSink
    injection sameTaken with sameTaken
    subst sameTaken sameSink
    simp only [List.length_take, more, List.length_cons]
    omega
  · injection wrote with impossible _
    contradiction

private theorem write_refused {sink after : Sink} {bytes : Bytes} {error : IoError}
    (refused : sink.write bytes = (.error error, after)) :
    after.writes.length < sink.writes.length := by
  simp only [write] at refused
  split at refused
  · injection refused with impossible _
    contradiction
  · injection refused with impossible _
    contradiction
  · rename_i reason later more
    injection refused with _ sameSink
    subst sameSink
    simp [more]

private theorem flush_refused {sink after : Sink} {error : IoError}
    (refused : sink.flush = (.error error, after)) :
    after.flushes.length < sink.flushes.length := by
  simp only [flush] at refused
  split at refused
  · injection refused with impossible _
    contradiction
  · injection refused with impossible _
    contradiction
  · rename_i reason later more
    injection refused with _ sameSink
    subst sameSink
    simp [more]

/-- Write calls until all bytes have been taken. A sink that takes nothing is
closed. -/
def writeAll (sink : Sink) (bytes : Bytes) : Except FrameError Unit × Sink :=
  match bytes with
  | [] => (.ok (), sink)
  | byte :: more =>
      match _wrote : sink.write (byte :: more) with
      | (.ok 0, after) => (.error .connectionClosed, after)
      | (.ok (taken + 1), after) => writeAll after (more.drop taken)
      | (.error error, after) =>
          if error.isTemporary then writeAll after (byte :: more) else (.error (.io error), after)
termination_by bytes.length + sink.writes.length
decreasing_by
  · have := write_progress _wrote
    simp only [List.length_drop, List.length_cons] at *
    omega
  · have := write_refused _wrote
    omega

def flushAll (sink : Sink) : Except FrameError Unit × Sink :=
  match _flushed : sink.flush with
  | (.ok (), after) => (.ok (), after)
  | (.error error, after) =>
      if error.isTemporary then flushAll after else (.error (.io error), after)
termination_by sink.flushes.length
decreasing_by exact flush_refused _flushed

end Sink

/-- A writer keeps the buffer in which it encodes. What the last message has left in it is
cleared for the next one. -/
structure Writer where
  sink : Sink := {}
  limits : Limits := {}
  written : Nat := 0
  scratch : Bytes := []
  deriving DecidableEq

namespace Writer

def flush (writer : Writer) : Except FrameError Unit × Writer :=
  let (outcome, sink) := writer.sink.flushAll
  (outcome, { writer with sink := sink })

def write (writer : Writer) (message : Message) : Except FrameError Unit × Writer :=
  match Frame.append writer.limits message (writer.scratch.take 0) with
  | (.error error, scratch) => (.error error, { writer with scratch := scratch })
  | (.ok (), scratch) =>
      match writer.sink.writeAll scratch with
      | (.error error, sink) => (.error error, { writer with sink := sink, scratch := scratch })
      | (.ok (), sink) =>
          flush { writer with sink := sink, written := writer.written + 1, scratch := scratch }

def send (writer : Writer) (headers : Headers) (payload : Bytes) :
    Except FrameError Unit × Writer :=
  writer.write ⟨headers, payload⟩

end Writer

end FramedEvents
