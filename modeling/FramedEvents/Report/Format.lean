/-
The forms in which a command shows what it has read.
-/

import FramedEvents.Bytes

namespace FramedEvents

inductive Format where
  | json
  | table
  | pretty
  | raw
  deriving DecidableEq

def Format.standard (isTerminal : Bool) : Format := if isTerminal then .table else .json

def Bytes.ofLine (text : String) : Bytes := Bytes.ofText (text ++ "\n")

end FramedEvents
