/-
Decoding a byte stream that arrives in pieces.

Bytes that do not complete a message stay pending. Every completed message is
handed to a consumer at once and in order. The first failure, of a frame or of
the consumer, ends the feed; the message it is about has left the buffer if
its frame was sound.
-/

import FramedEvents.Wire.Frame

namespace FramedEvents

/-- What a feed leaves behind: the consumer's state, the first failure, and
the bytes still pending. -/
structure Fed (σ ε : Type) where
  state : σ
  outcome : Except ε Unit
  pending : Bytes

namespace Fed

variable {σ ε : Type}

def decodeAll (limits : Limits) (lift : FrameError → ε) (consume : σ → Message → σ × Except ε Unit)
    (state : σ) (buffer : Bytes) : Fed σ ε :=
  match _decoded : Frame.decode limits buffer with
  | (.error error, rest) => ⟨state, .error (lift error), rest⟩
  | (.ok none, rest) => ⟨state, .ok (), rest⟩
  | (.ok (some message), rest) =>
      match consume state message with
      | (after, .error error) => ⟨after, .error error, rest⟩
      | (after, .ok ()) => decodeAll limits lift consume after rest
termination_by buffer.length
decreasing_by exact Frame.decode_shrinks _decoded

end Fed

/-- The limits in force and the bytes of an incomplete message. -/
structure Decoder where
  limits : Limits := {}
  pending : Bytes := []
  deriving DecidableEq

namespace Decoder

variable {σ ε : Type}

def feed (decoder : Decoder) (bytes : Bytes) (lift : FrameError → ε)
    (consume : σ → Message → σ × Except ε Unit) (state : σ) : Fed σ ε × Decoder :=
  let fed := Fed.decodeAll decoder.limits lift consume state (decoder.pending ++ bytes)
  (fed, { decoder with pending := fed.pending })

/-- Takes in more bytes and lists the messages they complete. A failure is
reported alone. -/
def decode (decoder : Decoder) (bytes : Bytes) : Except FrameError (List Message) × Decoder :=
  let (fed, after) :=
    decoder.feed bytes id (fun messages message => (messages ++ [message], .ok ())) []
  (fed.outcome.map fun _ => fed.state, after)

end Decoder

end FramedEvents
