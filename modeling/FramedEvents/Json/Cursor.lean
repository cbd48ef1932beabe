/-
A place in a text that is being read, and parsers that move it.

A parser looks at most one byte ahead. When the text is streamed, a byte that
has been looked at has also been read, so it counts in a position even before
it is used.

Positions are counted as serde_json documents them for the `line` and the `column` of its
errors, for a text that it is given whole and for one that it reads from a stream.
-/

import FramedEvents.Json.Fault

namespace FramedEvents.Json

structure Cursor where
  used : Bytes := []
  rest : Bytes
  looked : Bool := false
  streamed : Bool
  deriving DecidableEq

namespace Cursor

def newline : UInt8 := 10

/-- The position after some bytes, latest first. -/
def positionAfter (used : Bytes) : Position :=
  ⟨1 + used.count newline, (used.takeWhile (· != newline)).length⟩

/-- The position of a fault in what has been read. -/
def position (cursor : Cursor) : Position :=
  if cursor.streamed && cursor.looked then positionAfter ((cursor.rest.take 1) ++ cursor.used)
  else positionAfter cursor.used

def aheadPosition (cursor : Cursor) : Position :=
  positionAfter ((cursor.rest.take 1) ++ cursor.used)

def advance (cursor : Cursor) (count : Nat) : Cursor :=
  { cursor with
    used := (cursor.rest.take count).reverse ++ cursor.used
    rest := cursor.rest.drop count
    looked := false }

def look (cursor : Cursor) : Cursor := { cursor with looked := !cursor.rest.isEmpty }

def isBlank (byte : UInt8) : Bool := byte == 32 || byte == 10 || byte == 9 || byte == 13

/-- The cursor at the next byte that is not blank, which has been looked at. -/
def skipBlanks (cursor : Cursor) : Cursor :=
  (cursor.advance (cursor.rest.takeWhile isBlank).length).look

end Cursor

abbrev Parser (α : Type) := StateT Cursor (Except Problem) α

namespace Parser

variable {α : Type}

def failHere (fault : Fault) : Parser α := fun cursor => .error ⟨fault, cursor.position⟩

def failAhead (fault : Fault) : Parser α := fun cursor => .error ⟨fault, cursor.aheadPosition⟩

def failAfter (count : Nat) (fault : Fault) : Parser α :=
  fun cursor => .error ⟨fault, (cursor.advance count).position⟩

def peek : Parser (Option UInt8) := fun cursor => .ok (cursor.rest.head?, cursor.look)

def peekSolid : Parser (Option UInt8) := fun cursor =>
  let solid := cursor.skipBlanks
  .ok (solid.rest.head?, solid)

def skip (count : Nat) : Parser Unit := fun cursor => .ok ((), cursor.advance count)

def next : Parser (Option UInt8) := fun cursor => .ok (cursor.rest.head?, cursor.advance 1)

/-- Uses the longest run of bytes of a class, and looks at what follows. -/
def takeRun (within : UInt8 → Bool) : Parser Bytes := fun cursor =>
  let run := cursor.rest.takeWhile within
  .ok (run, (cursor.advance run.length).look)

def word : Bytes → Parser Unit
  | [] => pure ()
  | letter :: letters => do
      match ← next with
      | none => failHere .endInValue
      | some byte => if byte = letter then word letters else failHere .identExpected

end Parser

end FramedEvents.Json
