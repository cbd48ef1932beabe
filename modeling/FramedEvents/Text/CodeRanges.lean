/-
Sets of characters, given by ranges of code points.
-/

namespace FramedEvents

/-- Ranges of code points, each from its first to its last, in ascending order. -/
abbrev CodeRanges := List (Nat × Nat)

namespace CodeRanges

/-- Whether a code point is in one of the ranges. Ranges that begin after it are
not looked at. -/
def holdsCode (code : Nat) : CodeRanges → Bool
  | [] => false
  | (first, last) :: rest => first ≤ code && (code ≤ last || holdsCode code rest)

def holds (ranges : CodeRanges) (character : Char) : Bool := holdsCode character.toNat ranges

end CodeRanges

end FramedEvents
