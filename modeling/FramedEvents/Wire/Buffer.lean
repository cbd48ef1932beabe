/-
One buffer that messages are written to and read from, and its end of input.
-/

import FramedEvents.Wire.Frame

namespace FramedEvents.Frame

def bytesRemain : FrameError := .io ⟨.other, some "bytes remaining on stream"⟩

/-- Decoding when nothing more will come: bytes that make no message are a
failure. -/
def decodeLast (limits : Limits) (buffer : Bytes) : Except FrameError (Option Message) × Bytes :=
  match decode limits buffer with
  | (.ok none, []) => (.ok none, [])
  | (.ok none, rest) => (.error bytesRemain, rest)
  | answer => answer

end FramedEvents.Frame
