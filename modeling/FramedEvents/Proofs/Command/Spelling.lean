/-
Lines that are printed.

For headers and a payload there is a line that says just these: the compact text of an
object with two fields. It is read as what it has been printed from. Documents that are
printed one a line fall apart into their lines again.
-/

import FramedEvents.Proofs.Command.Lines
import FramedEvents.Proofs.Json.Printing
import FramedEvents.Proofs.Json.SingleLine
import FramedEvents.Report.Format

namespace FramedEvents.MessageLine

open FramedEvents.Json FramedEvents.Json.Parser

def spelled (fields : Fields) (value : Value) : Value :=
  .object [("headers", .object fields), ("payload", value)]

variable {fields : Fields} {value : Value} {rest : Bytes}

theorem reads_map {depth : Nat} (formed : (Value.object fields).Formed depth)
    (whole : (Value.object fields).Whole) :
    Reads (Parser.map depth) (Value.object fields).print (.object fields) rest := by
  cases formed with
  | @object depth _ room ordered formed =>
      cases whole with
      | object _ whole =>
          have readable (field : String × Value) (member : field ∈ fields) :
              Readable depth field.2 :=
            readable_print (formed field member) (whole field member)
          rw [Value.print]
          unfold Parser.map
          refine (reads_peekSolid (isSolid_cons rfl _)).look ?_
          change Reads (if depth + 1 ≤ 1 then failAhead .tooDeep
            else Parser.fields (Parser.value depth) >>= fun pairs =>
              pure (Value.object (Fields.ofList pairs))) _ _ rest
          rw [if_neg (by omega)]
          refine (reads_fields readable rest).last ?_
          rw [ordered.ofList_eq]
          exact reads_pure _ _

theorem reads_spelledFields (formed : (Value.object fields).Formed (depthLimit - 1))
    (whole : (Value.object fields).Whole) (formedToo : value.Formed (depthLimit - 1))
    (wholeToo : value.Whole) (fuel : Nat) :
    Reads (Record.fromFields record (depthLimit - 1) (fuel + 3) true [])
      (printFields [("headers", .object fields), ("payload", value)])
      (.ok [.object fields, value]) (125 :: rest) := by
  have behind : Follows (125 :: rest) := .inr (.inr (.inr rfl))
  have parts : printFields [("headers", .object fields), ("payload", value)] =
      quote "headers" ++ 58 :: ((Value.object fields).print ++
        44 :: (quote "payload" ++ 58 :: value.print)) := by
    rw [printFields, printFields]
    · exact List.append_assoc _ _ _
    · exact List.cons_ne_nil _ _
  rw [parts]
  unfold Record.fromFields
  refine (reads_moreFields_first _).look ?_
  refine (reads_fieldName "headers" _).bind ?_
  refine (reads_colon _).step ?_
  refine (reads_map formed whole).bind ?_
  unfold Record.fromFields
  refine (reads_moreFields_later _).step ?_
  refine (reads_fieldName "payload" _).bind ?_
  refine (reads_colon _).step ?_
  refine ((readable_print formedToo wholeToo).reads _ behind).last ?_
  unfold Record.fromFields
  refine (reads_moreFields_end false rest).look ?_
  exact reads_pure _ _

theorem reads_closeObject {parser : Parser (Except Fault (List Value))} {bytes : Bytes}
    {values : List Value} (reads : Reads parser bytes (.ok values) (125 :: rest)) :
    Reads (Record.closeWith Record.closeObject parser) (bytes ++ [125]) values rest := by
  unfold Record.closeWith
  refine Reads.bind reads ?_
  intro cursor stands
  obtain ⟨_, looked, left⟩ := reads_peekSolid (isSolid_cons rfl rest) stands
  obtain ⟨_, rfl⟩ := Prod.mk.inj (Except.ok.inj looked)
  refine ⟨cursor.skipBlanks.advance 1, ?_, congrArg (List.drop 1) left⟩
  have closes : Record.closeObject cursor = (none, cursor.skipBlanks.advance 1) := by
    unfold Record.closeObject
    dsimp only
    rw [left]
    rfl
  dsimp only
  rw [closes]

theorem parse_spelled (formed : (Value.object fields).Formed (depthLimit - 1))
    (whole : (Value.object fields).Whole) (formedToo : value.Formed (depthLimit - 1))
    (wholeToo : value.Whole) :
    record.parse false (spelled fields value).print = .ok [.object fields, value] := by
  refine Reads.run ?_ false
  unfold Record.parser spelled
  rw [Value.print, List.cons_append]
  refine (reads_peekSolid (isSolid_cons rfl _)).look ?_
  refine (reads_skip 123 _).step ?_
  refine (reads_enough _).look ?_
  refine reads_closeObject ?_
  obtain ⟨fuel, long⟩ : ∃ fuel, (printFields [("headers", .object fields), ("payload", value)] ++
      [125] ++ []).length + 1 = fuel + 3 := by
    refine ⟨_, (Nat.sub_add_cancel ?_).symm⟩
    rw [printFields_cons, printField, quote]
    simp only [List.length_append, List.length_cons]
    omega
  rw [long]
  exact reads_spelledFields formed whole formedToo wholeToo fuel

/-! ### One document a line -/

theorem ofLine_text (document : Value) :
    Bytes.ofLine document.text = document.print ++ [10] := by
  unfold Bytes.ofLine
  rw [Bytes.ofText_append, Value.ofText_text]
  rfl

theorem getLast?_print_object (fields : Fields) :
    (Value.object fields).print.getLast? = some 125 := by
  rw [Value.print]
  exact List.getLast?_concat

theorem lines_documents (documents : List Value)
    (objects : ∀ document ∈ documents, ∃ fields, document = .object fields) :
    lines (documents.flatMap fun document => Bytes.ofLine document.text) =
      documents.map Value.print := by
  have printed : documents.flatMap (fun document => Bytes.ofLine document.text) =
      (documents.map Value.print).flatMap (· ++ [10]) := by
    rw [List.flatMap_map]
    exact List.flatMap_congr fun document _ => ofLine_text document
  rw [printed]
  apply lines_flatMap
  · intro line member
    obtain ⟨document, _, rfl⟩ := List.mem_map.mp member
    exact unbroken_print document
  · intro line member
    obtain ⟨document, listed, rfl⟩ := List.mem_map.mp member
    obtain ⟨fields, rfl⟩ := objects document listed
    rw [getLast?_print_object]
    decide

end FramedEvents.MessageLine
