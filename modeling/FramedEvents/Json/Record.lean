/-
Reading records: objects with known fields, or lists with one item for each.

Fields that the record does not know are passed over. A field may be missing if
it has a default.

This is how the derived readers of serde treat a structure, by its documentation, with the
attribute `default` on fields that may be missing.
-/

import FramedEvents.Json.Parser

namespace FramedEvents.Json

namespace Parser

/-! ### Values of a given type -/

/-- The value at this place is not of the expected type. The value is read first
unless it is a list or an object, and its own faults come before this one. -/
def wrongType {α : Type} (expected : String) : Parser α := do
  let found : Found ← do
    match ← peek with
    | some 110 =>
        skip 1
        word [117, 108, 108]
        pure .null
    | some 116 =>
        skip 1
        word [114, 117, 101]
        pure (.bool true)
    | some 102 =>
        skip 1
        word [97, 108, 115, 101]
        pure (.bool false)
    | some 34 =>
        skip 1
        pure (.string (← quoted))
    | some 91 => pure .sequence
    | some 123 => pure .map
    | some byte => if startsNumber byte then pure (.number (← number byte)) else failAhead .valueExpected
    | none => failAhead .valueExpected
  failHere (.wrongType found expected)

def text : Parser Value := do
  match ← peekSolid with
  | none => failAhead .endInValue
  | some 34 =>
      skip 1
      return .string (← quoted)
  | some _ => wrongType "a string"

def int64 : Parser Value := do
  match ← peekSolid with
  | none => failAhead .endInValue
  | some byte =>
      if startsNumber byte then
        match ← number byte with
        | .integer value =>
            if value ≤ 9223372036854775807 then return .number (.integer value)
            else failHere (.wrongValue (.number (.integer value)) "i64")
        | .double bits => failHere (.wrongType (.number (.double bits)) "i64")
      else wrongType "i64"

def map (depth : Nat) : Parser Value := do
  match ← peekSolid with
  | none => failAhead .endInValue
  | some 123 =>
      if depth ≤ 1 then failAhead .tooDeep
      else return .object (Fields.ofList (← fields (value (depth - 1))))
  | some _ => wrongType "a map"

/-! ### Values that are passed over -/

def skipName : Parser Unit := do
  match ← peekSolid with
  | some 34 => skip 1
  | some _ => failAhead .keyNotString
  | none => failAhead .endInObject
  skipQuoted
  colon

inductive Skipping where
  /-- A value; the brackets around it that are still open, innermost first. -/
  | value (within : List UInt8)
  /-- What may follow inside the innermost bracket, after a value or at once. -/
  | tail (afterValue : Bool) (within : List UInt8)

def skipUpTo : (fuel : Nat) → Skipping → Parser Unit
  | 0, _ => failAhead .trailingCharacters
  | _, .tail _ [] => pure ()
  | fuel + 1, .value within => do
      match ← peekSolid with
      | none => failAhead .endInValue
      | some 110 =>
          skip 1
          word [117, 108, 108]
          skipUpTo fuel (.tail true within)
      | some 116 =>
          skip 1
          word [114, 117, 101]
          skipUpTo fuel (.tail true within)
      | some 102 =>
          skip 1
          word [97, 108, 115, 101]
          skipUpTo fuel (.tail true within)
      | some 34 =>
          skip 1
          skipQuoted
          skipUpTo fuel (.tail true within)
      | some byte =>
          if byte = 91 ∨ byte = 123 then
            skip 1
            skipUpTo fuel (.tail false (byte :: within))
          else if byte = 45 then
            skip 1
            Number.skip
            skipUpTo fuel (.tail true within)
          else if Number.isDigit byte then
            Number.skip
            skipUpTo fuel (.tail true within)
          else failAhead .valueExpected
  | fuel + 1, .tail afterValue (bracket :: within) => do
      let closing : UInt8 := if bracket = 91 then 93 else 125
      match ← peekSolid with
      | none => failAhead (if bracket = 91 then .endInList else .endInObject)
      | some byte =>
          if byte = closing then
            skip 1
            skipUpTo fuel (.tail true within)
          else if afterValue && byte != 44 then
            failAhead (if bracket = 91 then .listCommaExpected else .objectCommaExpected)
          else
            if afterValue then skip 1
            if bracket = 123 then skipName
            skipUpTo fuel (.value (bracket :: within))

def skipValue : Parser Unit := do
  skipUpTo (2 * (← enough)) (.value [])

end Parser

/-! ### Records -/

/-- The types that the fields of a record may have. -/
inductive FieldType where
  | text
  | int64
  | map
  | any

structure Field where
  name : String
  type : FieldType
  /-- What a missing field counts as, if it may be missing. -/
  fallback : Option Value := none

structure Record where
  name : String
  fields : List Field

namespace Record

/-- What is expected where a record is read as a list of the wrong length. -/
def expectedItems (record : Record) : String :=
  let count := record.fields.length
  let noun := if count = 1 then "element" else "elements"
  s!"struct {record.name} with {count} {noun}"

def readField (depth : Nat) : FieldType → Parser Value
  | .text => Parser.text
  | .int64 => Parser.int64
  | .map => Parser.map depth
  | .any => Parser.value depth

/-- The values of all fields in order, of which some have been found. -/
def complete (found : List (String × Value)) : List Field → Except Fault (List Value)
  | [] => .ok []
  | field :: rest =>
      match (found.lookup field.name).or field.fallback with
      | some value => (complete found rest).map (value :: ·)
      | none => .error (.missingField field.name)

/-- The fields of an object up to its closing brace. A fault of the record as a
whole is an answer, since its place is known only at the end. -/
def fromFields (record : Record) (depth : Nat) :
    (fuel : Nat) → (first : Bool) → (found : List (String × Value)) →
      Parser (Except Fault (List Value))
  | 0, _, _ => Parser.failAhead .trailingCharacters
  | fuel + 1, first, found => do
      if ← Parser.moreFields first then
        let name ← Parser.fieldName
        match record.fields.find? (fun field => field.name == name) with
        | none =>
            Parser.colon
            Parser.skipValue
            fromFields record depth fuel false found
        | some field =>
            if (found.lookup name).isSome then return .error (.duplicateField name)
            Parser.colon
            let value ← readField depth field.type
            fromFields record depth fuel false ((name, value) :: found)
      else return complete found record.fields

/-- The items of a list, one for each field. Items at the end may be missing. -/
def fromItems (record : Record) (depth : Nat) :
    List Field → (read : Nat) → Parser (Except Fault (List Value))
  | [], _ => return .ok []
  | field :: rest, read => do
      if ← Parser.moreItems (read == 0) then
        let value ← readField depth field.type
        return (← fromItems record depth rest (read + 1)).map (value :: ·)
      else
        match field.fallback with
        | some value => return (← fromItems record depth rest read).map (value :: ·)
        | none => return .error (.wrongLength read record.expectedItems)

def closeList (cursor : Cursor) : Option Problem × Cursor :=
  let solid := cursor.skipBlanks
  match solid.rest with
  | [] => (some ⟨.endInList, solid.aheadPosition⟩, solid)
  | 93 :: _ => (none, solid.advance 1)
  | 44 :: _ =>
      let after := (solid.advance 1).skipBlanks
      let fault : Fault := if after.rest.head? = some 93 then .trailingComma else .trailingCharacters
      (some ⟨fault, after.aheadPosition⟩, after)
  | _ => (some ⟨.trailingCharacters, solid.aheadPosition⟩, solid)

def closeObject (cursor : Cursor) : Option Problem × Cursor :=
  let solid := cursor.skipBlanks
  match solid.rest with
  | [] => (some ⟨.endInObject, solid.aheadPosition⟩, solid)
  | 125 :: _ => (none, solid.advance 1)
  | 44 :: _ => (some ⟨.trailingComma, solid.aheadPosition⟩, solid)
  | _ => (some ⟨.trailingCharacters, solid.aheadPosition⟩, solid)

/-- Reads a record and what closes it. A fault of the record as a whole comes
before one of its closing, and stands where the closing left off. -/
def closeWith (close : Cursor → Option Problem × Cursor)
    (read : Parser (Except Fault (List Value))) : Parser (List Value) := do
  let answer ← read
  fun cursor =>
    let (problem?, after) := close cursor
    match answer, problem? with
    | .error fault, _ => .error ⟨fault, after.position⟩
    | .ok _, some problem => .error problem
    | .ok values, none => .ok (values, after)

/-- A record as the whole document: the values of its fields in order. -/
def parser (record : Record) : Parser (List Value) := do
  match ← Parser.peekSolid with
  | none => Parser.failAhead .endInValue
  | some 91 =>
      Parser.skip 1
      closeWith closeList (fromItems record (depthLimit - 1) record.fields 0)
  | some 123 =>
      Parser.skip 1
      closeWith closeObject (fromFields record (depthLimit - 1) (← Parser.enough) true [])
  | some _ => Parser.wrongType s!"struct {record.name}"

def parse (record : Record) (streamed : Bool) (bytes : Bytes) : Except Problem (List Value) :=
  record.parser.run streamed bytes

end Record

end FramedEvents.Json
