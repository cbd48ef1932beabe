/-
Messages: typed headers and an opaque payload.
-/

import FramedEvents.Wire.HeaderBlock

namespace FramedEvents

structure Message where
  headers : Headers := []
  payload : Bytes := []
  deriving DecidableEq

namespace Message

/-- The three numbers in front of a message: its length, the length of its
header block, and the checksum of those two. -/
def openingSize : Nat := 12

def checksumSize : Nat := 4

/-- The size of a message without headers and payload. -/
def leastSize : Nat := openingSize + checksumSize

/-- The number of bytes of a message on the wire. -/
def size (message : Message) : Nat :=
  leastSize + HeaderBlock.size message.headers + message.payload.length

def type? (message : Message) : Option String := message.headers.getString? Reserved.messageType

def eventType? (message : Message) : Option String := message.headers.getString? Reserved.eventType

end Message

end FramedEvents
