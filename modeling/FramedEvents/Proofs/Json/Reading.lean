/-
What can come of reading a document.

What a parser has read is well formed: whole numbers fit in 64 bits, names are in order, and
lists and objects nest to less than the depth that was left.
-/

import FramedEvents.Json.Record
import FramedEvents.Proofs.Json.Fields

namespace FramedEvents.Json

/-! ### Values that have been read -/

def Number.Fits : Number → Prop
  | .integer value => -9223372036854775808 ≤ value ∧ value ≤ 18446744073709551615
  | .double _ => True

/-- A value that nests to less than the given depth, with names in order and whole numbers
that fit. -/
inductive Value.Formed : (depth : Nat) → Value → Prop where
  | null {depth : Nat} : Formed (depth + 1) .null
  | bool {depth : Nat} (value : Bool) : Formed (depth + 1) (.bool value)
  | string {depth : Nat} (text : String) : Formed (depth + 1) (.string text)
  | number {depth : Nat} (value : Number) (fits : value.Fits) : Formed (depth + 1) (.number value)
  | array {depth : Nat} (items : List Value) (room : depth ≠ 0)
      (formed : ∀ item ∈ items, Formed depth item) : Formed (depth + 1) (.array items)
  | object {depth : Nat} (fields : Fields) (room : depth ≠ 0) (ordered : fields.Ordered)
      (formed : ∀ field ∈ fields, Formed depth field.2) : Formed (depth + 1) (.object fields)

theorem Value.Formed.deeper {depth : Nat} {value : Value} (formed : value.Formed depth) :
    value.Formed (depth + 1) := by
  induction formed with
  | null => exact .null
  | bool value => exact .bool value
  | string text => exact .string text
  | number value fits => exact .number value fits
  | array items _ _ ih => exact .array items (Nat.succ_ne_zero _) ih
  | object fields _ ordered _ ih => exact .object fields (Nat.succ_ne_zero _) ordered ih

namespace Parser

variable {α β : Type} {parser : Parser α} {holds : α → Prop} {cursor after : Cursor}

/-! ### Results of parsers -/

def Yields (parser : Parser α) (holds : α → Prop) : Prop :=
  ∀ ⦃cursor value after⦄, parser cursor = .ok (value, after) → holds value

theorem bind_eq_ok {next : α → Parser β} {answer : β} :
    (parser >>= next) cursor = .ok (answer, after) ↔
      ∃ value between, parser cursor = .ok (value, between) ∧
        next value between = .ok (answer, after) := by
  change (parser cursor >>= fun read => next read.1 read.2) = _ ↔ _
  cases parser cursor with
  | error problem =>
      constructor
      · intro failed
        cases failed
      · rintro ⟨_, _, failed, _⟩
        cases failed
  | ok read =>
      constructor
      · intro went
        exact ⟨read.1, read.2, rfl, went⟩
      · rintro ⟨value, between, same, went⟩
        cases same
        exact went

theorem run_eq_ok {streamed : Bool} {bytes : Bytes} {value : α}
    (went : parser.run streamed bytes = .ok value) :
    ∃ after, parser { rest := bytes, streamed } = .ok (value, after) := by
  unfold run at went
  extract_lets whole at went
  cases all : whole { rest := bytes, streamed } with
  | error problem =>
      rw [all] at went
      cases went
  | ok read =>
      rw [all] at went
      cases went
      obtain ⟨value, between, first, rest⟩ := bind_eq_ok.mp all
      obtain ⟨_, last, _, done⟩ := bind_eq_ok.mp rest
      cases done
      exact ⟨between, first⟩

theorem yields_pure {value : α} (sound : holds value) : Yields (pure value) holds := by
  intro cursor read after went
  cases went
  exact sound

theorem yields_failHere (fault : Fault) : Yields (failHere fault) holds := by
  intro cursor value after went
  cases went

theorem yields_failAhead (fault : Fault) : Yields (failAhead fault) holds := by
  intro cursor value after went
  cases went

variable {next : α → Parser β} {goal : β → Prop}

theorem Yields.bind (first : Yields parser holds)
    (later : ∀ value, holds value → Yields (next value) goal) : Yields (parser >>= next) goal := by
  intro cursor answer after went
  obtain ⟨value, between, read, rest⟩ := bind_eq_ok.mp went
  exact later value (first read) rest

theorem Yields.behind (later : ∀ value, Yields (next value) goal) :
    Yields (parser >>= next) goal := by
  intro cursor answer after went
  obtain ⟨value, between, _, rest⟩ := bind_eq_ok.mp went
  exact later value rest

end Parser

/-! ### Numbers -/

namespace Number

open FramedEvents.Json.Parser

theorem absorb_le {significand : Nat} (fits : significand ≤ mostSignificand) (digits : Bytes) :
    (absorb significand digits).1 ≤ mostSignificand := by
  induction digits generalizing significand with
  | nil => exact fits
  | cons digit rest ih =>
      unfold absorb
      dsimp only
      split
      · exact ih ‹_›
      · exact fits

theorem fits_signed (negative : Bool) (value : Float) : (signed negative value).Fits := trivial

theorem fits_whole {significand : Nat} (fits : significand ≤ mostSignificand) (negative : Bool) :
    (whole negative significand).Fits := by
  unfold mostSignificand at fits
  unfold whole
  split
  · change _ ∧ _
    omega
  · split
    · exact fits_signed _ _
    · change _ ∧ _
      omega

theorem yields_ofParts (negative : Bool) (significand : Nat) (exponent : Int) :
    Yields (ofParts negative significand exponent) Number.Fits := by
  unfold ofParts
  split
  · exact yields_pure (fits_signed _ _)
  · exact yields_failHere _

theorem yields_withExponent (negative : Bool) (significand : Nat) (start : Int) :
    Yields (withExponent negative significand start) Number.Fits := by
  unfold withExponent
  refine Yields.behind fun _ => ?_
  refine Yields.behind fun sign => ?_
  extract_lets digits
  have later (falling : Bool) : Yields (digits falling) Number.Fits := by
    refine Yields.behind fun found => ?_
    split
    · exact yields_failHere _
    · split
      · exact yields_failHere _
      · intro cursor value after went
        dsimp only at went
        split at went
        · exact yields_ofParts _ _ _ went
        · split at went
          · cases went
          · cases went
            exact fits_signed _ _
  split
  · exact Yields.behind fun _ => later false
  · exact Yields.behind fun _ => later true
  · exact later false

theorem yields_withFraction (negative : Bool) (significand : Nat) (start : Int) :
    Yields (withFraction negative significand start) Number.Fits := by
  unfold withFraction
  refine Yields.behind fun _ => ?_
  refine Yields.behind fun digits => ?_
  refine Yields.behind fun ahead => ?_
  split
  · exact yields_failAhead _
  · dsimp only
    split
    · exact yields_withExponent _ _ _
    · exact yields_withExponent _ _ _
    · exact yields_ofParts _ _ _

theorem yields_withTail (negative : Bool) {significand : Nat}
    (fits : significand ≤ mostSignificand) (left : Nat) :
    Yields (withTail negative significand left) Number.Fits := by
  unfold withTail
  refine Yields.behind fun ahead => ?_
  split
  · exact yields_withFraction _ _ _
  · exact yields_withExponent _ _ _
  · exact yields_withExponent _ _ _
  · split
    · exact yields_pure (fits_whole fits negative)
    · exact yields_ofParts _ _ _

theorem digitValue_le {digit : UInt8} : digitValue digit ≤ mostSignificand := by
  have := digit.toNat_lt
  unfold digitValue mostSignificand
  omega

theorem yields_parse (negative : Bool) : Yields (parse negative) Number.Fits := by
  unfold parse
  refine Yields.behind fun found => ?_
  split
  · exact yields_failHere _
  · split
    · refine Yields.behind fun ahead => ?_
      split
      · split
        · exact yields_failAhead _
        · exact yields_withTail _ (Nat.zero_le _) _
      · exact yields_withTail _ (Nat.zero_le _) _
    · split
      · refine Yields.behind fun digits => ?_
        exact yields_withTail _ (absorb_le digitValue_le _) _
      · exact yields_failHere _

end Number

namespace Parser

variable {α : Type} {item : Parser α} {holds : α → Prop}

theorem yields_number (first : UInt8) : Yields (number first) Number.Fits := by
  unfold number
  split
  · exact Yields.behind fun _ => Number.yields_parse true
  · exact Number.yields_parse false

/-! ### Lists and objects -/

theorem yields_itemsUpTo (yields : Yields item holds) (fuel : Nat) (first : Bool) :
    Yields (itemsUpTo item fuel first) fun all => ∀ read ∈ all, holds read := by
  induction fuel generalizing first with
  | zero => exact yields_failAhead _
  | succ fuel ih =>
      unfold itemsUpTo
      refine Yields.behind fun more => ?_
      split
      · refine yields.bind fun front sound => ?_
        refine (ih false).bind fun back rest => ?_
        exact yields_pure (List.forall_mem_cons.mpr ⟨sound, rest⟩)
      · exact yields_pure (List.forall_mem_nil _)

theorem yields_fieldsUpTo (yields : Yields item holds) (fuel : Nat) (first : Bool) :
    Yields (fieldsUpTo item fuel first) fun all => ∀ field ∈ all, holds field.2 := by
  induction fuel generalizing first with
  | zero => exact yields_failAhead _
  | succ fuel ih =>
      unfold fieldsUpTo
      refine Yields.behind fun more => ?_
      split
      · refine Yields.behind fun name => ?_
        refine Yields.behind fun _ => ?_
        refine yields.bind fun read sound => ?_
        refine (ih false).bind fun back rest => ?_
        exact yields_pure (List.forall_mem_cons.mpr ⟨sound, rest⟩)
      · exact yields_pure (List.forall_mem_nil _)

theorem yields_items (yields : Yields item holds) :
    Yields (items item) fun all => ∀ read ∈ all, holds read := by
  refine Yields.behind fun _ => ?_
  refine Yields.behind fun fuel => ?_
  refine (yields_itemsUpTo yields fuel true).bind fun all sound => ?_
  exact Yields.behind fun _ => yields_pure sound

theorem yields_fields (yields : Yields item holds) :
    Yields (fields item) fun all => ∀ field ∈ all, holds field.2 := by
  refine Yields.behind fun _ => ?_
  refine Yields.behind fun fuel => ?_
  refine (yields_fieldsUpTo yields fuel true).bind fun all sound => ?_
  exact Yields.behind fun _ => yields_pure sound

/-! ### Documents -/

theorem yields_value (depth : Nat) : Yields (value depth) (Value.Formed depth) := by
  induction depth with
  | zero => exact yields_failAhead _
  | succ depth ih =>
      unfold value
      refine Yields.behind fun found => ?_
      split
      · exact yields_failAhead _
      · refine Yields.behind fun _ => Yields.behind fun _ => ?_
        exact yields_pure .null
      · refine Yields.behind fun _ => Yields.behind fun _ => ?_
        exact yields_pure (.bool true)
      · refine Yields.behind fun _ => Yields.behind fun _ => ?_
        exact yields_pure (.bool false)
      · refine Yields.behind fun _ => Yields.behind fun text => ?_
        exact yields_pure (.string text)
      · split
        · exact yields_failAhead _
        · rename_i room
          exact (yields_items ih).bind fun all formed => yields_pure (.array all room formed)
      · split
        · exact yields_failAhead _
        · rename_i room
          refine (yields_fields ih).bind fun pairs formed => ?_
          refine yields_pure (.object _ room (Fields.ordered_ofList pairs) ?_)
          exact fun field member => formed field (Fields.mem_ofList member)
      · split
        · exact (yields_number _).bind fun read fits => yields_pure (.number read fits)
        · exact yields_failAhead _

/-! ### Values of a given type -/

theorem yields_wrongType (expected : String) :
    Yields (wrongType expected : Parser α) fun _ => False := by
  unfold wrongType
  refine Yields.behind fun ahead => ?_
  extract_lets failing
  have fails (found : Found) : Yields (failing found) fun _ => False := yields_failHere _
  split
  · exact Yields.behind fun _ => Yields.behind fun _ => fails _
  · exact Yields.behind fun _ => Yields.behind fun _ => fails _
  · exact Yields.behind fun _ => Yields.behind fun _ => fails _
  · exact Yields.behind fun _ => Yields.behind fun _ => fails _
  · exact fails _
  · exact fails _
  · split
    · exact (yields_number _).bind fun _ _ => fails _
    · exact Yields.behind fun _ => fails _
  · exact Yields.behind fun _ => fails _

theorem map_eq_ok {depth : Nat} {read : Value} (went : map depth cursor = .ok (read, after)) :
    ∃ pairs, cursor.skipBlanks.rest.head? = some 123 ∧
      fields (value (depth - 1)) cursor.skipBlanks = .ok (pairs, after) ∧
      read = .object (Fields.ofList pairs) := by
  obtain ⟨found, between, looked, rest⟩ := bind_eq_ok.mp went
  obtain ⟨braced, place⟩ := Prod.mk.inj (Except.ok.inj looked)
  split at rest
  · cases rest
  · split at rest
    · cases rest
    · obtain ⟨pairs, last, all, done⟩ := bind_eq_ok.mp rest
      cases done
      rw [← place] at all
      exact ⟨pairs, braced, all, rfl⟩
  · exact (yields_wrongType _ rest).elim

end Parser

end FramedEvents.Json
