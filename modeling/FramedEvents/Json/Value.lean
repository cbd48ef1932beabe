/-
Documents of the JavaScript object notation, and their compact text.

An object lists its fields in the order of their names. Numbers are whole
numbers, or doubles given by their bits.

The notation is handled by a library, and what stands here follows the documentation
of serde_json: its `Value`, whose `Map` is ordered by name, and its `to_string`. All of
that library that the program uses is in this module and those about `Cursor`, `Fault`,
`Scalar`, `Parser` and `Record`.
-/

import FramedEvents.Decimal.Shortest
import FramedEvents.Bytes

namespace FramedEvents.Json

inductive Number where
  | integer (value : Int)
  | double (bits : UInt64)
  deriving DecidableEq

inductive Value where
  | null
  | bool (value : Bool)
  | number (value : Number)
  | string (text : String)
  | array (items : List Value)
  | object (fields : List (String × Value))

/-- Fields in the order of their names, each name once. -/
abbrev Fields := List (String × Value)

/-- Adds a field in its place. A field of the same name gives way. -/
def Fields.insert (name : String) (value : Value) : Fields → Fields
  | [] => [(name, value)]
  | (first, held) :: rest =>
      if name = first then (name, value) :: rest
      else if name < first then (name, value) :: (first, held) :: rest
      else (first, held) :: Fields.insert name value rest

/-- The fields of a list in which a later field replaces an earlier one. -/
def Fields.ofList (pairs : List (String × Value)) : Fields :=
  pairs.foldl (fun fields pair => fields.insert pair.1 pair.2) []

def Value.isString : Value → Bool
  | .string _ => true
  | _ => false

/-! ### Text -/

def Number.text : Number → String
  | .integer value => toString value
  | .double bits => Decimal.ofDouble bits

/-- One byte inside a quoted text. Only quotes, backslashes and control
characters are escaped. -/
def escape (byte : UInt8) : Bytes :=
  if byte = 34 then [92, 34]
  else if byte = 92 then [92, 92]
  else if byte < 32 then
    if byte = 8 then [92, 98]
    else if byte = 9 then [92, 116]
    else if byte = 10 then [92, 110]
    else if byte = 12 then [92, 102]
    else if byte = 13 then [92, 114]
    else [92, 117, 48, 48] ++ Bytes.ofText (Bytes.hex [byte])
  else [byte]

def quote (text : String) : Bytes := 34 :: (Bytes.ofText text).flatMap escape ++ [34]

mutual

def Value.print : Value → Bytes
  | .null => Bytes.ofText "null"
  | .bool true => Bytes.ofText "true"
  | .bool false => Bytes.ofText "false"
  | .number value => Bytes.ofText value.text
  | .string text => quote text
  | .array items => 91 :: printItems items ++ [93]
  | .object fields => 123 :: printFields fields ++ [125]

def printItems : List Value → Bytes
  | [] => []
  | [item] => item.print
  | item :: rest => item.print ++ 44 :: printItems rest

def printFields : List (String × Value) → Bytes
  | [] => []
  | [(name, value)] => quote name ++ 58 :: value.print
  | (name, value) :: rest => quote name ++ 58 :: value.print ++ 44 :: printFields rest

end

def Value.text (value : Value) : String := (Bytes.text? value.print).getD ""

end FramedEvents.Json
