/-
Reading the quoted texts and the numbers of a document.

A whole number that fits in 64 bits is kept. Every other number becomes a
double: its first digits, as many as fit in 64 bits, are scaled by a power of
ten in double arithmetic.

Numbers are those that serde_json documents for its `Number`. That a double need not be the
nearest one is documented too: exact ones would take its feature `float_roundtrip`, which
is not asked for.
-/

import FramedEvents.Json.Cursor
import FramedEvents.Text.Utf8

namespace FramedEvents.Json

/-! ### Quoted texts -/

namespace Quotation

/-- A fault, and how many bytes after the start of what is being read. -/
abbrev Misread := Fault × Nat

def hexDigit? (byte : UInt8) : Option Nat :=
  if 48 ≤ byte ∧ byte ≤ 57 then some (byte.toNat - 48)
  else if 97 ≤ byte ∧ byte ≤ 102 then some (byte.toNat - 87)
  else if 65 ≤ byte ∧ byte ≤ 70 then some (byte.toNat - 55)
  else none

def fourDigits (offset : Nat) (bytes : Bytes) : Except Misread Nat :=
  let field := bytes.take 4
  if field.length < 4 then .error (.endInString, offset + field.length)
  else
    match field.mapM hexDigit? with
    | some digits => .ok (digits.foldl (fun number digit => number * 16 + digit) 0)
    | none => .error (.invalidEscape, offset + 4)

def encodePoint (code : Nat) : Bytes := Bytes.ofText (String.singleton (Char.ofNat code))

def isLeadSurrogate (unit : Nat) : Bool := 0xD800 ≤ unit && unit ≤ 0xDBFF

def isTrailSurrogate (unit : Nat) : Bool := 0xDC00 ≤ unit && unit ≤ 0xDFFF

/-- The character after `\u`, and how many bytes stand for it, the `u` included.
A lead surrogate needs its trail in a second escape. -/
def unicodeEscape (bytes : Bytes) : Except Misread (Bytes × Nat) := do
  let unit ← fourDigits 1 bytes
  if isTrailSurrogate unit then throw (.loneSurrogate, 5)
  if !isLeadSurrogate unit then return (encodePoint unit, 5)
  match bytes.drop 4 with
  | [] => throw (.endInString, 5)
  | 92 :: [] => throw (.endInString, 6)
  | 92 :: 117 :: more =>
      let trail ← fourDigits 7 more
      if !isTrailSurrogate trail then throw (.loneSurrogate, 11)
      return (encodePoint (0x10000 + (unit - 0xD800) * 0x400 + (trail - 0xDC00)), 11)
  | 92 :: _ => throw (.endInHexEscape, 7)
  | _ => throw (.endInHexEscape, 6)

def escape (bytes : Bytes) : Except Misread (Bytes × Nat) :=
  match bytes with
  | [] => .error (.endInString, 0)
  | 34 :: _ => .ok ([34], 1)
  | 92 :: _ => .ok ([92], 1)
  | 47 :: _ => .ok ([47], 1)
  | 98 :: _ => .ok ([8], 1)
  | 102 :: _ => .ok ([12], 1)
  | 110 :: _ => .ok ([10], 1)
  | 114 :: _ => .ok ([13], 1)
  | 116 :: _ => .ok ([9], 1)
  | 117 :: more => unicodeEscape more
  | _ => .error (.invalidEscape, 1)

/-- The bytes up to the closing quote, with escapes replaced, and how many bytes
were used, the quote included. -/
def scan (bytes : Bytes) (read : Nat) (decoded : Bytes) : Except Misread (Bytes × Nat) :=
  match bytes with
  | [] => .error (.endInString, read)
  | byte :: more =>
      if byte = 34 then .ok (decoded.reverse, read + 1)
      else if byte = 92 then
        match escape more with
        | .error (fault, offset) => .error (fault, read + 1 + offset)
        | .ok (meant, count) =>
            scan (more.drop count) (read + 1 + count) (meant.reverse ++ decoded)
      else if byte < 32 then .error (.controlCharacter, read + 1)
      else scan more (read + 1) (byte :: decoded)
termination_by bytes.length
decreasing_by
  all_goals
    simp only [List.length_drop, List.length_cons]
    omega

/-- How many bytes there are up to the closing quote, and with it, without
regard to what they mean. -/
def skip (streamed : Bool) (bytes : Bytes) (read : Nat) : Except Misread Nat :=
  match bytes with
  | [] => .error (.endInString, read)
  | byte :: more =>
      if byte = 34 then .ok (read + 1)
      else if byte = 92 then
        match more with
        | [] => .error (.endInString, read + 1)
        | letter :: others =>
            if letter = 117 then
              match fourDigits 0 others with
              | .error (fault, offset) => .error (fault, read + 2 + offset)
              | .ok _ => skip streamed (others.drop 4) (read + 6)
            else if [34, 92, 47, 98, 102, 110, 114, 116].contains letter then
              skip streamed others (read + 2)
            else .error (.invalidEscape, read + 2)
      else if byte < 32 then .error (.controlCharacter, if streamed then read + 1 else read)
      else skip streamed more (read + 1)
termination_by bytes.length
decreasing_by
  all_goals
    simp only [List.length_drop, List.length_cons]
    omega

end Quotation

def Parser.quoted : Parser String := fun cursor =>
  match Quotation.scan cursor.rest 0 [] with
  | .error (fault, read) => Parser.failAfter read fault cursor
  | .ok (bytes, read) =>
      let after := cursor.advance read
      match bytes.text? with
      | some text => .ok (text, after)
      | none =>
          -- The first byte that belongs to no character is counted back from the closing quote.
          let place := after.position
          let faulty := bytes.length - Utf8.validLength bytes
          .error ⟨.invalidCodePoint, { place with column := place.column - faulty }⟩

def Parser.skipQuoted : Parser Unit := fun cursor =>
  match Quotation.skip cursor.streamed cursor.rest 0 with
  | .error (fault, read) => Parser.failAfter read fault cursor
  | .ok read => .ok ((), cursor.advance read)

/-! ### Numbers -/

namespace Number

def isDigit (byte : UInt8) : Bool := 48 ≤ byte && byte ≤ 57

def digitValue (byte : UInt8) : Nat := byte.toNat - 48

def mostSignificand : Nat := 18446744073709551615

/-- Adds digits to a significand while it fits, and counts the digits left over. -/
def absorb (significand : Nat) : Bytes → Nat × Nat
  | [] => (significand, 0)
  | digit :: rest =>
      let more := significand * 10 + digitValue digit
      if more ≤ mostSignificand then absorb more rest else (significand, rest.length + 1)

def powerOfTen (exponent : Nat) : Float := Float.ofScientific 1 false exponent

/-- A double times a power of ten, unless that is too large. Very small powers
are applied in steps that are powers of ten themselves. -/
def scale (value : Float) (exponent : Int) : Option Float :=
  if exponent.natAbs ≤ 308 then
    if 0 ≤ exponent then
      let scaled := value * powerOfTen exponent.natAbs
      if scaled.isInf then none else some scaled
    else some (value / powerOfTen exponent.natAbs)
  else if value == 0.0 then some value
  else if 0 ≤ exponent then none
  else scale (value / powerOfTen 308) (exponent + 308)
termination_by exponent.natAbs

def signed (negative : Bool) (value : Float) : Number :=
  .double (if negative then -value else value).toBits

/-- A number with a point, a power of ten or too many digits. -/
def ofParts (negative : Bool) (significand : Nat) (exponent : Int) : Parser Number :=
  match scale significand.toUInt64.toFloat exponent with
  | some value => pure (signed negative value)
  | none => Parser.failHere .numberOutOfRange

def mostExponent : Nat := 2147483647

/-- Reads the digits of an exponent. The number of digits used and the exponent,
or only the number of digits after which it is too large. -/
def exponentOf (exponent read : Nat) : Bytes → Except Nat Nat
  | [] => .ok exponent
  | digit :: rest =>
      let more := exponent * 10 + digitValue digit
      if more ≤ mostExponent then exponentOf more (read + 1) rest else .error (read + 1)

def clampExponent (exponent : Int) : Int := max (-2147483648) (min exponent 2147483647)

def withExponent (negative : Bool) (significand : Nat) (start : Int) : Parser Number := do
  Parser.skip 1
  let falling ← do
    match ← Parser.peek with
    | some 43 =>
        Parser.skip 1
        pure false
    | some 45 =>
        Parser.skip 1
        pure true
    | _ => pure false
  match ← Parser.next with
  | none => Parser.failHere .endInValue
  | some first =>
      if !isDigit first then Parser.failHere .invalidNumber
      else fun cursor =>
        let digits := cursor.rest.takeWhile isDigit
        let past := (cursor.advance digits.length).look
        match exponentOf (digitValue first) 0 digits with
        | .ok exponent =>
            let shift : Int := if falling then -exponent else exponent
            ofParts negative significand (clampExponent (start + shift)) past
        | .error read =>
            if significand ≠ 0 && !falling then
              Parser.failHere .numberOutOfRange (cursor.advance read)
            else .ok (signed negative 0.0, past)

def withFraction (negative : Bool) (significand : Nat) (start : Int) : Parser Number := do
  Parser.skip 1
  let digits ← Parser.takeRun isDigit
  let ahead ← Parser.peek
  if digits.isEmpty then
    Parser.failAhead (if ahead.isSome then .invalidNumber else .endInValue)
  else
    let (significand, left) := absorb significand digits
    let exponent := start - (digits.length - left : Nat)
    match ahead with
    | some 101 | some 69 => withExponent negative significand exponent
    | _ => ofParts negative significand exponent

/-- A whole number that fits. The least negative numbers and minus zero do not. -/
def whole (negative : Bool) (significand : Nat) : Number :=
  if !negative then .integer significand
  else if significand = 0 ∨ 9223372036854775808 < significand then
    signed true significand.toUInt64.toFloat
  else .integer (-(significand : Int))

def withTail (negative : Bool) (significand left : Nat) : Parser Number := do
  match ← Parser.peek with
  | some 46 => withFraction negative significand left
  | some 101 | some 69 => withExponent negative significand left
  | _ => if left = 0 then pure (whole negative significand) else ofParts negative significand left

def parse (negative : Bool) : Parser Number := do
  match ← Parser.next with
  | none => Parser.failHere .endInValue
  | some first =>
      if first = 48 then
        match ← Parser.peek with
        | some digit =>
            if isDigit digit then Parser.failAhead .invalidNumber else withTail negative 0 0
        | none => withTail negative 0 0
      else if isDigit first then
        let digits ← Parser.takeRun isDigit
        let (significand, left) := absorb (digitValue first) digits
        withTail negative significand left
      else Parser.failHere .invalidNumber

def skipDigits : Parser Unit := do
  let _ ← Parser.takeRun isDigit

def skipExponent : Parser Unit := do
  Parser.skip 1
  match ← Parser.peek with
  | some 43 | some 45 => Parser.skip 1
  | _ => pure ()
  match ← Parser.next with
  | some digit => if isDigit digit then skipDigits else Parser.failHere .invalidNumber
  | none => Parser.failHere .invalidNumber

def skip : Parser Unit := do
  match ← Parser.next with
  | some 48 =>
      match ← Parser.peek with
      | some digit => if isDigit digit then Parser.failAhead .invalidNumber
      | none => pure ()
  | some digit => if isDigit digit then skipDigits else Parser.failHere .invalidNumber
  | none => Parser.failHere .invalidNumber
  match ← Parser.peek with
  | some 46 =>
      Parser.skip 1
      let digits ← Parser.takeRun isDigit
      if digits.isEmpty then Parser.failAhead .invalidNumber
      match ← Parser.peek with
      | some 101 | some 69 => skipExponent
      | _ => pure ()
  | some 101 | some 69 => skipExponent
  | _ => pure ()

end Number

end FramedEvents.Json
