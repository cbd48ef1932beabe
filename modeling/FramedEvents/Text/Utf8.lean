/-
The valid prefix of a byte string that need not be UTF-8.

A character takes one to four bytes. The second byte of three leading bytes is
restricted further, so that no character has two encodings and surrogates have
none.
-/

import FramedEvents.Bytes

namespace FramedEvents.Utf8

/-- The number of bytes after a leading byte, and the range of the next one. -/
def continuation? (lead : UInt8) : Option (Nat × UInt8 × UInt8) :=
  if lead < 0x80 then some (0, 0x80, 0xBF)
  else if lead < 0xC2 then none
  else if lead < 0xE0 then some (1, 0x80, 0xBF)
  else if lead = 0xE0 then some (2, 0xA0, 0xBF)
  else if lead = 0xED then some (2, 0x80, 0x9F)
  else if lead < 0xF0 then some (2, 0x80, 0xBF)
  else if lead = 0xF0 then some (3, 0x90, 0xBF)
  else if lead < 0xF4 then some (3, 0x80, 0xBF)
  else if lead = 0xF4 then some (3, 0x80, 0x8F)
  else none

/-- The length of the character that the bytes begin with, if they begin with one. -/
def characterLength? : Bytes → Option Nat
  | [] => none
  | lead :: rest =>
      match continuation? lead with
      | none => none
      | some (0, _, _) => some 1
      | some (more + 1, low, high) =>
          match rest.take (more + 1) with
          | [] => none
          | second :: others =>
              if others.length = more ∧ low ≤ second ∧ second ≤ high ∧
                  others.all (fun byte => 0x80 ≤ byte && byte ≤ 0xBF) then
                some (more + 2)
              else none

def validLength (bytes : Bytes) : Nat :=
  match bytes with
  | [] => 0
  | lead :: rest =>
      match characterLength? (lead :: rest) with
      | some (more + 1) => more + 1 + validLength (rest.drop more)
      | _ => 0
termination_by bytes.length
decreasing_by
  simp only [List.length_drop, List.length_cons]
  omega

end FramedEvents.Utf8
