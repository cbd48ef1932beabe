/-
Sources of byte chunks.

A source is asked for one chunk at a time and answers with a chunk, with its
end, or with a failure. It may be a fixed list of chunks, a byte stream read
in blocks, or a script, which may also cancel the delivery it serves while it
is being asked.
-/

import FramedEvents.Chunk.TransportError

namespace FramedEvents

inductive Pulled where
  | chunk (bytes : Bytes)
  | failed (error : TransportError)
  | ended
  deriving DecidableEq

structure SourceStep where
  pulled : Pulled
  /-- Whether the delivery is cancelled while the source prepares this answer. -/
  cancels : Bool := false
  deriving DecidableEq

inductive Source where
  | chunks (left : List Bytes)
  | stream (script : ReadScript) (blockSize : Nat)
  | scripted (left : List SourceStep)
  deriving DecidableEq

namespace Source

def empty : Source := .chunks []

def defaultBlockSize : Nat := 8192

/-- One read of the stream. A block has room for one byte at least, since a
read without room would look like the end. Room for the block is assumed to be had: a size
of more than `2 ^ 63 - 1` bytes is beyond what can be allocated, and asking for one ends
the program. -/
def nextBlock (script : ReadScript) (blockSize : Nat) : Pulled × ReadScript :=
  match script.readThrough (max blockSize 1) with
  | (.ok [], rest) => (.ended, rest)
  | (.ok bytes, rest) => (.chunk bytes, rest)
  | (.error error, rest) => (.failed (.io error), rest)

def next : Source → SourceStep × Source
  | .chunks [] => (⟨.ended, false⟩, .chunks [])
  | .chunks (bytes :: left) => (⟨.chunk bytes, false⟩, .chunks left)
  | .stream script blockSize =>
      let (pulled, rest) := nextBlock script blockSize
      (⟨pulled, false⟩, .stream rest blockSize)
  | .scripted [] => (⟨.ended, false⟩, .scripted [])
  | .scripted (step :: left) => (step, .scripted left)

def weight : Source → Nat
  | .chunks left => left.length
  | .stream script _ => script.weight
  | .scripted left => left.length

theorem weight_next_lt {source : Source} {bytes : Bytes}
    (pulled : source.next.1.pulled = .chunk bytes) : source.next.2.weight < source.weight := by
  cases source with
  | chunks left =>
      cases left with
      | nil => simp [next] at pulled
      | cons front rest => simp [next, weight]
  | stream script blockSize =>
      simp only [next, nextBlock, weight] at pulled ⊢
      split at pulled
      · simp at pulled
      · rename_i brought rest some called
        have read : (script.readThrough (max blockSize 1)).1 = .ok brought := by rw [called]
        have shrinks := ReadScript.weight_readThrough_lt (by omega) read (by simpa using some)
        rw [called] at shrinks
        exact shrinks
      · simp at pulled
  | scripted left =>
      cases left with
      | nil => simp [next] at pulled
      | cons step rest => simp [next, weight]

end Source

end FramedEvents
