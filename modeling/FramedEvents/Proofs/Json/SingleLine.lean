/-
A printed document is a single line.

Line feeds inside quoted texts are escaped, and no number is written with one. Lines that
each hold one document therefore fall apart into these documents again.
-/

import FramedEvents.Json.Value
import FramedEvents.Proofs.Text.Characters

namespace FramedEvents

open FramedEvents.Bytes

theorem toDigits_apart {value : Nat} : ∀ digit ∈ Nat.toDigits 10 value, digit.toNat ≠ 10 := by
  rintro digit member feed
  have isDigit := Nat.isDigit_of_mem_toDigits (by decide) (by decide) member
  rw [show digit = '\n' from Char.toNat_inj.mp feed] at isDigit
  cases isDigit

theorem isSingleLine_repr (value : Nat) : IsSingleLine value.repr := by
  rw [Nat.repr_eq_ofList_toDigits]
  exact isSingleLine_ofList fun digit member => toDigits_apart digit member

namespace Decimal

theorem isSingleLine_write (style : Style) (decimal : Scaled) :
    IsSingleLine (style.write decimal) := by
  have zeros (count : Nat) : ∀ zero ∈ List.replicate count '0', zero.toNat ≠ 10 := by
    intro zero member
    rw [List.eq_of_mem_replicate member]
    decide
  have point : IsSingleLine "." := by decide
  unfold Style.write
  extract_lets digits leading whole mantissa sign
  have apart : ∀ digit ∈ digits, digit.toNat ≠ 10 := toDigits_apart
  clear_value digits
  have signed : IsSingleLine sign := by
    change IsSingleLine (if leading < 0 then "-" else "+")
    split
    · decide
    · decide
  have scaled : IsSingleLine mantissa := by
    unfold mantissa
    split
    · decide
    · exact isSingleLine_ofList apart
    · obtain ⟨first, others⟩ := List.forall_mem_cons.mp apart
      exact isSingleLine_ofList
        (List.forall_mem_cons.mpr ⟨first, List.forall_mem_cons.mpr ⟨by decide, others⟩⟩)
  clear_value mantissa sign whole leading
  split
  · split
    · exact (isSingleLine_ofList (List.forall_mem_append.mpr ⟨apart, zeros _⟩)).append (by decide)
    · split
      · have front : ∀ digit ∈ digits.take whole, digit.toNat ≠ 10 := fun digit member =>
          apart digit (List.mem_of_mem_take member)
        have back : ∀ digit ∈ digits.drop whole, digit.toNat ≠ 10 := fun digit member =>
          apart digit (List.mem_of_mem_drop member)
        exact ((isSingleLine_ofList front).append point).append (isSingleLine_ofList back)
      · exact IsSingleLine.append (by decide)
          (isSingleLine_ofList (List.forall_mem_append.mpr ⟨zeros _, apart⟩))
  · exact ((scaled.append (by decide)).append signed).append (isSingleLine_repr _)

theorem isSingleLine_ofDouble (bits : UInt64) : IsSingleLine (ofDouble bits) := by
  have signed : IsSingleLine (if bits.toNat / 2 ^ (63 : Nat) = 1 then "-" else "") := by
    split
    · decide
    · decide
  unfold ofDouble
  dsimp only
  split
  · exact signed.append (by decide)
  · exact signed.append (isSingleLine_write _ _)

end Decimal

namespace Json

theorem isSingleLine_text (number : Number) : IsSingleLine number.text := by
  cases number with
  | double bits => exact Decimal.isSingleLine_ofDouble bits
  | integer value =>
      cases value with
      | ofNat magnitude => exact isSingleLine_repr magnitude
      | negSucc less => exact IsSingleLine.append (by decide) (isSingleLine_repr (less + 1))

/-- No byte is printed as a line feed. -/
theorem unbroken_escape (byte : UInt8) : (escape byte).Unbroken := by
  have all : ∀ code : Fin 256, (10 : UInt8) ∉ escape (UInt8.ofNat code) := by decide +kernel
  have apart := all ⟨byte.toNat, byte.toNat_lt⟩
  rw [UInt8.ofNat_toNat] at apart
  rintro _ member rfl
  exact apart member

theorem unbroken_quote (text : String) : (quote text).Unbroken := by
  have escapes : Bytes.Unbroken ((Bytes.ofText text).flatMap escape) :=
    Bytes.Unbroken.flatMap fun byte _ => unbroken_escape byte
  have mark : Bytes.Unbroken [34] := Bytes.unbroken_nil.cons (by decide)
  exact (escapes.append mark).cons (by decide)

mutual

/-- The text of a document is a single line. -/
theorem unbroken_print : (value : Value) → value.print.Unbroken
  | .null => Bytes.unbroken_ofText (by decide)
  | .bool true => Bytes.unbroken_ofText (by decide)
  | .bool false => Bytes.unbroken_ofText (by decide)
  | .number value => Bytes.unbroken_ofText (isSingleLine_text value)
  | .string text => unbroken_quote text
  | .array items =>
      ((unbroken_printItems items).append (Bytes.unbroken_nil.cons (by decide))).cons (by decide)
  | .object fields =>
      ((unbroken_printFields fields).append (Bytes.unbroken_nil.cons (by decide))).cons (by decide)

theorem unbroken_printItems : (items : List Value) → (printItems items).Unbroken
  | [] => Bytes.unbroken_nil
  | [item] => unbroken_print item
  | item :: next :: rest =>
      (unbroken_print item).append ((unbroken_printItems (next :: rest)).cons (by decide))

theorem unbroken_printFields : (fields : List (String × Value)) → (printFields fields).Unbroken
  | [] => Bytes.unbroken_nil
  | [(name, value)] => (unbroken_quote name).append ((unbroken_print value).cons (by decide))
  | (name, value) :: next :: rest =>
      ((unbroken_quote name).append ((unbroken_print value).cons (by decide))).append
        ((unbroken_printFields (next :: rest)).cons (by decide))

end

end Json

end FramedEvents
