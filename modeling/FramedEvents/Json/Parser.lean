/-
Reading documents.

Lists and objects nest to a fixed depth. Parsers for lists and for fields are
given the parser of what they hold, so a document is read by recursion on the
depth that is left.

The depth is the recursion limit of 128 that serde_json documents, and of fields with one
name the last one counts, as in its `Map`.
-/

import FramedEvents.Json.Scalar

namespace FramedEvents.Json

/-- Documents nest one level less than this. -/
def depthLimit : Nat := 128

namespace Parser

variable {α : Type}

/-- Whether a list goes on at this place, which is then its next item. -/
def moreItems (first : Bool) : Parser Bool := do
  match ← peekSolid with
  | none => failAhead .endInList
  | some 93 => return false
  | some byte =>
      if first then return true
      else if byte = 44 then
        skip 1
        match ← peekSolid with
        | some 93 => failAhead .trailingComma
        | some _ => return true
        | none => failAhead .endInValue
      else failAhead .listCommaExpected

/-- Whether an object goes on at this place, which is then its next name. -/
def moreFields (first : Bool) : Parser Bool := do
  match ← peekSolid with
  | none => failAhead .endInObject
  | some 125 => return false
  | some byte =>
      if first then
        if byte = 34 then return true else failAhead .keyNotString
      else if byte = 44 then
        skip 1
        match ← peekSolid with
        | some 34 => return true
        | some 125 => failAhead .trailingComma
        | some _ => failAhead .keyNotString
        | none => failAhead .endInValue
      else failAhead .objectCommaExpected

def fieldName : Parser String := do
  skip 1
  quoted

def colon : Parser Unit := do
  match ← peekSolid with
  | some 58 => skip 1
  | some _ => failAhead .colonExpected
  | none => failAhead .endInObject

def itemsUpTo (item : Parser α) : (fuel : Nat) → (first : Bool) → Parser (List α)
  | 0, _ => failAhead .trailingCharacters
  | fuel + 1, first => do
      if ← moreItems first then
        let front ← item
        let back ← itemsUpTo item fuel false
        return front :: back
      else return []

def fieldsUpTo (item : Parser α) : (fuel : Nat) → (first : Bool) → Parser (List (String × α))
  | 0, _ => failAhead .trailingCharacters
  | fuel + 1, first => do
      if ← moreFields first then
        let name ← fieldName
        colon
        let value ← item
        let back ← fieldsUpTo item fuel false
        return (name, value) :: back
      else return []

def enough : Parser Nat := fun cursor => .ok (cursor.rest.length + 1, cursor)

def items (item : Parser α) : Parser (List α) := do
  skip 1
  let all ← itemsUpTo item (← enough) true
  skip 1
  return all

def fields (item : Parser α) : Parser (List (String × α)) := do
  skip 1
  let all ← fieldsUpTo item (← enough) true
  skip 1
  return all

def number (first : UInt8) : Parser Number :=
  if first = 45 then do
    skip 1
    Number.parse true
  else Number.parse false

def startsNumber (byte : UInt8) : Bool := byte == 45 || Number.isDigit byte

def value : (depth : Nat) → Parser Value
  | 0 => failAhead .tooDeep
  | depth + 1 => do
      match ← peekSolid with
      | none => failAhead .endInValue
      | some 110 =>
          skip 1
          word [117, 108, 108]
          return .null
      | some 116 =>
          skip 1
          word [114, 117, 101]
          return .bool true
      | some 102 =>
          skip 1
          word [97, 108, 115, 101]
          return .bool false
      | some 34 =>
          skip 1
          return .string (← quoted)
      | some 91 =>
          if depth = 0 then failAhead .tooDeep
          else return .array (← items (value depth))
      | some 123 =>
          if depth = 0 then failAhead .tooDeep
          else return .object (Fields.ofList (← fields (value depth)))
      | some byte =>
          if startsNumber byte then return .number (← number byte)
          else failAhead .valueExpected

def finish : Parser Unit := do
  match ← peekSolid with
  | some _ => failAhead .trailingCharacters
  | none => pure ()

def run (parser : Parser α) (streamed : Bool) (bytes : Bytes) : Except Problem α :=
  let whole : Parser α := do
    let read ← parser
    finish
    return read
  (whole { rest := bytes, streamed := streamed }).map Prod.fst

end Parser

def Value.parse (streamed : Bool) (bytes : Bytes) : Except Problem Value :=
  (Parser.value depthLimit).run streamed bytes

end FramedEvents.Json
