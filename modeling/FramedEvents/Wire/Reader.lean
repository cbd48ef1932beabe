/-
Reading messages from a byte stream.

The stream is read in blocks, and only when the pending bytes hold neither a
complete message nor a faulty frame. Interrupted reads are repeated. A failure
of the stream leaves the pending bytes alone, so reading can go on after it.
-/

import FramedEvents.Wire.Frame

namespace FramedEvents

structure Reader where
  script : ReadScript
  pending : Bytes := []
  limits : Limits := {}
  deriving DecidableEq

namespace Reader

def blockSize : Nat := 8192

/-- The next message. The end of the stream is a failure, also between two
messages. -/
def read (reader : Reader) : Except FrameError Message × Reader :=
  match Frame.decode reader.limits reader.pending with
  | (.error error, rest) => (.error error, { reader with pending := rest })
  | (.ok (some message), rest) => (.ok message, { reader with pending := rest })
  | (.ok none, _) =>
      match _called : reader.script.readThrough blockSize with
      | (.error error, script) => (.error (.io error), { reader with script := script })
      | (.ok [], script) => (.error .connectionClosed, { reader with script := script })
      | (.ok (byte :: more), script) =>
          read { reader with script := script, pending := reader.pending ++ byte :: more }
termination_by reader.script.weight
decreasing_by
  have brought : (reader.script.readThrough blockSize).1 = .ok (byte :: more) := by rw [_called]
  have shrinks := ReadScript.weight_readThrough_lt (by decide) brought (by simp)
  rw [_called] at shrinks
  exact shrinks

def read? (reader : Reader) : Except FrameError (Option Message) × Reader :=
  match reader.read with
  | (.ok message, after) => (.ok (some message), after)
  | (.error error, after) =>
      if error = .connectionClosed ∧ after.pending = [] then (.ok none, after)
      else (.error error, after)

/-- The next item of the reader as a sequence, which ends where the stream ends between two
messages. -/
def next (reader : Reader) : Option (Except FrameError Message) × Reader :=
  match reader.read? with
  | (.ok (some message), after) => (some (.ok message), after)
  | (.ok none, after) => (none, after)
  | (.error error, after) => (some (.error error), after)

end Reader

end FramedEvents
