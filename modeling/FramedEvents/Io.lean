/-
Failures of the surrounding system, and scripted readers and writers.

A script lists what successive calls on a byte stream do, so that code which
retries, gives up or resumes can be run against every behaviour a stream may
show. Past the end of its script a reader is at its end and a sink takes all
it is given.
-/

import FramedEvents.Bytes

namespace FramedEvents

inductive IoKind where
  | notFound
  | permissionDenied
  | connectionRefused
  | connectionReset
  | connectionAborted
  | notConnected
  | alreadyExists
  | brokenPipe
  | wouldBlock
  | isADirectory
  | invalidInput
  | invalidData
  | timedOut
  | writeZero
  | interrupted
  | unexpectedEof
  | outOfMemory
  | other
  deriving DecidableEq

def IoKind.description : IoKind → String
  | .notFound => "entity not found"
  | .permissionDenied => "permission denied"
  | .connectionRefused => "connection refused"
  | .connectionReset => "connection reset"
  | .connectionAborted => "connection aborted"
  | .notConnected => "not connected"
  | .alreadyExists => "entity already exists"
  | .brokenPipe => "broken pipe"
  | .wouldBlock => "operation would block"
  | .isADirectory => "is a directory"
  | .invalidInput => "invalid input parameter"
  | .invalidData => "invalid data"
  | .timedOut => "timed out"
  | .writeZero => "write zero"
  | .interrupted => "operation interrupted"
  | .unexpectedEof => "unexpected end of file"
  | .outOfMemory => "out of memory"
  | .other => "other error"

/-- A failed system call: its kind, and its own words when it has any. -/
structure IoError where
  kind : IoKind
  text : Option String := none
  deriving DecidableEq

def IoError.message (error : IoError) : String := error.text.getD error.kind.description

/-- What the next calls on a byte stream do. Data that a call has no room for
stays in front for the following calls. -/
inductive ReadStep where
  | data (bytes : Bytes)
  | fail (error : IoError)
  | eof
  deriving DecidableEq

abbrev ReadScript := List ReadStep

namespace ReadScript

/-- One call with room for `room` bytes. No bytes means the end of the stream. -/
def read (room : Nat) : ReadScript → Except IoError Bytes × ReadScript
  | [] => (.ok [], [])
  | .eof :: rest => (.ok [], rest)
  | .fail error :: rest => (.error error, rest)
  | .data bytes :: rest =>
      match bytes.drop room with
      | [] => (.ok bytes, rest)
      | left => (.ok (bytes.take room), .data left :: rest)

def readThrough (room : Nat) : ReadScript → Except IoError Bytes × ReadScript
  | .fail error :: rest =>
      if error.kind = .interrupted then readThrough room rest else (.error error, rest)
  | script => read room script

/-- An upper bound on the calls that still find something in the script. -/
def weight : ReadScript → Nat
  | [] => 0
  | .data bytes :: rest => bytes.length + 1 + weight rest
  | _ :: rest => 1 + weight rest

/-- A call with room that brings bytes uses up some of the script. -/
theorem weight_read_lt {room : Nat} (hasRoom : 0 < room) {script : ReadScript} {bytes : Bytes}
    (brought : (read room script).1 = .ok bytes) (some : bytes ≠ []) :
    weight (read room script).2 < weight script := by
  cases script with
  | nil => simp_all [read]
  | cons step rest =>
      cases step with
      | data front =>
          simp only [read]
          split
          · simp only [weight]
            omega
          · rename_i left
            simp only [weight, List.length_drop]
            have long : front.drop room ≠ [] := left
            have := List.length_pos_iff.mpr long
            rw [List.length_drop] at this
            omega
      | fail error => simp [read] at brought
      | eof => simp_all [read]

theorem weight_readThrough_lt {room : Nat} (hasRoom : 0 < room) {script : ReadScript}
    {bytes : Bytes} (brought : (readThrough room script).1 = .ok bytes) (some : bytes ≠ []) :
    weight (readThrough room script).2 < weight script := by
  fun_induction readThrough room script with
  | case1 error rest interrupted ih =>
      have := ih brought
      simp only [weight]
      omega
  | case2 error rest other => simp at brought
  | case3 script plain => exact weight_read_lt hasRoom brought some

end ReadScript

/-- What one write call does: take at most so many bytes, or fail. -/
inductive WriteStep where
  | accept (most : Nat)
  | fail (error : IoError)
  deriving DecidableEq

inductive FlushStep where
  | succeed
  | fail (error : IoError)
  deriving DecidableEq

/-- A byte sink: the calls it will answer as scripted, what it has received,
and how often it was called. -/
structure Sink where
  writes : List WriteStep := []
  flushes : List FlushStep := []
  received : Bytes := []
  writeCalls : Nat := 0
  flushCalls : Nat := 0
  deriving DecidableEq

namespace Sink

/-- One write call; its answer is the number of bytes taken off the front. -/
def write (sink : Sink) (bytes : Bytes) : Except IoError Nat × Sink :=
  match sink.writes with
  | [] =>
      (.ok bytes.length,
        { sink with received := sink.received ++ bytes, writeCalls := sink.writeCalls + 1 })
  | .accept most :: later =>
      let taken := bytes.take most
      (.ok taken.length,
        { sink with
          writes := later
          received := sink.received ++ taken
          writeCalls := sink.writeCalls + 1 })
  | .fail error :: later =>
      (.error error, { sink with writes := later, writeCalls := sink.writeCalls + 1 })

def flush (sink : Sink) : Except IoError Unit × Sink :=
  match sink.flushes with
  | [] => (.ok (), { sink with flushCalls := sink.flushCalls + 1 })
  | .succeed :: later => (.ok (), { sink with flushes := later, flushCalls := sink.flushCalls + 1 })
  | .fail error :: later =>
      (.error error, { sink with flushes := later, flushCalls := sink.flushCalls + 1 })

end Sink

end FramedEvents
