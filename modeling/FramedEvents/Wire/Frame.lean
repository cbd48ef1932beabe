/-
Messages on the wire.

A frame is the length of the whole frame, the length of its header block and
the checksum of these eight bytes, then the header block, the payload, and the
checksum of everything before it. All four numbers take four bytes.

The first twelve bytes are checked as soon as they have arrived, so a damaged
or oversized length is never waited for.
-/

import FramedEvents.Wire.Checksum
import FramedEvents.Wire.Message

namespace FramedEvents

/-- The largest frame and the largest header block that are accepted. -/
structure Limits where
  message : Nat := 16777216
  headers : Nat := 131072
  deriving DecidableEq

namespace Frame

def largest : Nat := 4294967295

def checksum (bytes : Bytes) : Bytes := Bytes.ofNat Message.checksumSize (Checksum.crc32 bytes).toNat

def opening (total headers : Nat) : Bytes :=
  let lengths := Bytes.ofNat 4 total ++ Bytes.ofNat 4 headers
  lengths ++ checksum lengths

def encode (limits : Limits) (message : Message) : Except FrameError Bytes :=
  let headers := HeaderBlock.size message.headers
  let total := message.size
  if limits.headers < headers then
    .error (.headersTooLarge headers limits.headers)
  else if limits.message < total ∨ largest < total then
    .error (.messageTooLarge total (min limits.message largest))
  else
    (HeaderBlock.encode message.headers).map fun block =>
      let body := opening total headers ++ (block ++ message.payload)
      body ++ checksum body

/-- Writes a message behind a buffer, part by part. Each checksum is that of what stands in
the buffer by then. If a header has no form on the wire, all that was written is taken
back. -/
def append (limits : Limits) (message : Message) (buffer : Bytes) :
    Except FrameError Unit × Bytes :=
  let headers := HeaderBlock.size message.headers
  let total := message.size
  if limits.headers < headers then
    (.error (.headersTooLarge headers limits.headers), buffer)
  else if limits.message < total ∨ largest < total then
    (.error (.messageTooLarge total (min limits.message largest)), buffer)
  else
    let start := buffer.length
    let stated := buffer ++ (Bytes.ofNat 4 total ++ Bytes.ofNat 4 headers)
    let opened := stated ++ checksum ((stated.drop start).take 8)
    match HeaderBlock.put message.headers with
    | (written, .error error) => (.error error, (opened ++ written).take start)
    | (written, .ok ()) =>
        let filled := opened ++ (written ++ message.payload)
        (.ok (), filled ++ checksum (filled.drop start))

/-- The length of the frame and of its header block, from its first twelve
bytes. -/
def checkOpening (limits : Limits) (bytes : Bytes) : Except FrameError (Nat × Nat) :=
  let total := Bytes.toNat (bytes.take 4)
  let headers := Bytes.toNat ((bytes.drop 4).take 4)
  let expected := (Bytes.toNat (bytes.drop 8)).toUInt32
  let computed := Checksum.crc32 (bytes.take 8)
  if expected ≠ computed then .error (.preludeChecksum expected computed)
  else if limits.message < total then .error (.messageTooLarge total limits.message)
  else if limits.headers < headers then .error (.headersTooLarge headers limits.headers)
  else if total < Message.leastSize ∨ total - Message.leastSize < headers then
    .error (.invalidLength total headers)
  else .ok (total, headers)

def content (headers : Nat) (body : Bytes) : Except FrameError Message :=
  let inner := body.drop Message.openingSize
  (HeaderBlock.decode (inner.take headers)).map fun decoded => ⟨decoded, inner.drop headers⟩

/-- The message at the front of a buffer, if all of it is there, and what
remains in the buffer. A frame with sound checksums leaves the buffer even
when its header block is malformed. -/
def decode (limits : Limits) (buffer : Bytes) : Except FrameError (Option Message) × Bytes :=
  let first := buffer.take Message.openingSize
  if first.length < Message.openingSize then (.ok none, buffer)
  else
    match checkOpening limits first with
    | .error error => (.error error, buffer)
    | .ok (total, headers) =>
        let frame := buffer.take total
        if frame.length < total then (.ok none, buffer)
        else
          let body := frame.take (total - Message.checksumSize)
          let expected := (Bytes.toNat (frame.drop (total - Message.checksumSize))).toUInt32
          let computed := Checksum.crc32 body
          if expected ≠ computed then (.error (.messageChecksum expected computed), buffer)
          else ((content headers body).map some, buffer.drop total)

private theorem checkOpening_least {limits : Limits} {bytes : Bytes} {total headers : Nat}
    (sound : checkOpening limits bytes = .ok (total, headers)) : Message.leastSize ≤ total := by
  simp only [checkOpening] at sound
  split at sound
  · contradiction
  · split at sound
    · contradiction
    · split at sound
      · contradiction
      · split at sound
        · contradiction
        · injection sound with same
          injection same with sameTotal _
          omega

theorem decode_shrinks {limits : Limits} {buffer rest : Bytes} {message : Message}
    (decoded : decode limits buffer = (.ok (some message), rest)) :
    rest.length < buffer.length := by
  simp only [decode] at decoded
  split at decoded
  · simp at decoded
  · rename_i enough
    split at decoded
    · injection decoded with impossible _
      contradiction
    · rename_i total headers sound
      have least := checkOpening_least sound
      split at decoded
      · simp at decoded
      · rename_i whole
        split at decoded
        · injection decoded with impossible _
          contradiction
        · injection decoded with _ same
          rw [List.length_take] at enough whole
          rw [← same, List.length_drop]
          simp only [Message.leastSize, Message.openingSize, Message.checksumSize] at *
          omega

end Frame

end FramedEvents
