/-
Why a message cannot be framed or unframed, and the words for it.
-/

import FramedEvents.Io

namespace FramedEvents

/-- What is wrong with a header that does not fit the format. -/
inductive HeaderFault where
  | nameLength (length : Nat)
  | valueLength (name : String) (length : Nat)
  | emptyName
  /-- `field` ends the header block early: so many bytes are due, so many are left. -/
  | truncated (field : String) (due left : Nat)
  | nameNotUtf8
  | valueNotUtf8 (name : String)
  | described (text : String)
  deriving DecidableEq

def HeaderFault.message : HeaderFault → String
  | .nameLength length => s!"header name must be 1..=255 bytes, got {length}"
  | .valueLength name length => s!"value of {name} exceeds 65535 bytes ({length})"
  | .emptyName => "empty header name"
  | .truncated field due left => s!"truncated {field} (need {due} bytes, have {left})"
  | .nameNotUtf8 => "header name is not valid UTF-8"
  | .valueNotUtf8 name => s!"value of {name} is not valid UTF-8"
  | .described text => text

inductive FrameError where
  | preludeChecksum (expected computed : UInt32)
  | messageChecksum (expected computed : UInt32)
  | invalidLength (total headers : Nat)
  | messageTooLarge (size most : Nat)
  | headersTooLarge (size most : Nat)
  | malformedHeader (fault : HeaderFault)
  | unknownHeaderType (code : UInt8)
  | io (error : IoError)
  | connectionClosed
  deriving DecidableEq

private def checksumDigits (checksum : UInt32) : String :=
  "0x" ++ (Bytes.ofNat 4 checksum.toNat).hex

def FrameError.message : FrameError → String
  | .preludeChecksum expected computed =>
      s!"prelude checksum mismatch (expected {checksumDigits expected}, " ++
        s!"computed {checksumDigits computed})"
  | .messageChecksum expected computed =>
      s!"message checksum mismatch (expected {checksumDigits expected}, " ++
        s!"computed {checksumDigits computed})"
  | .invalidLength total headers =>
      s!"invalid message length (total {total} bytes, headers {headers} bytes)"
  | .messageTooLarge size most => s!"message too large ({size} bytes, max {most})"
  | .headersTooLarge size most => s!"headers too large ({size} bytes, max {most})"
  | .malformedHeader fault => s!"malformed header: {fault.message}"
  | .unknownHeaderType code => s!"unknown header value type {code.toNat}"
  | .io error => s!"frame I/O error: {error.message}"
  | .connectionClosed => "connection closed (incomplete message)"

end FramedEvents
