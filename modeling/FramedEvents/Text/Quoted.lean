/-
Texts in quotes, as they are shown inside a message about them.

A quote and a backslash get a backslash in front, the usual control characters
their usual letters, and every other character that would not be seen its code
point in braces.

This is how the standard library writes a string for debugging, which is what serde_json has
in its messages.
-/

import FramedEvents.Text.Property
import FramedEvents.Text.Quoted.Table

namespace FramedEvents.Quoted

def isVoicingMark (character : Char) : Bool := character = '\uff9e' || character = '\uff9f'

def isSeen (character : Char) : Bool :=
  let code := character.toNat
  if code < 0x7F then 0x20 ≤ code
  else 0x7F < code && !unprinted.holds character && !Property.ignorable.holds character &&
    (!Property.extending.holds character || isVoicingMark character)

def codePoint (character : Char) : String := String.ofList (Nat.toDigits 16 character.toNat)

def escape (character : Char) : String :=
  if character = '"' then "\\\""
  else if character = '\\' then "\\\\"
  else if character = '\t' then "\\t"
  else if character = '\n' then "\\n"
  else if character = '\r' then "\\r"
  else if character = '\x00' then "\\0"
  else if isSeen character then String.singleton character
  else "\\u\x7b" ++ codePoint character ++ "\x7d"

def quote (text : String) : String := "\"" ++ String.join (text.toList.map escape) ++ "\""

end FramedEvents.Quoted
