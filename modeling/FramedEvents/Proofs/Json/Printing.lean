/-
What is printed is read back.

The compact text of a document whose numbers are whole is read as the same document,
whatever stands behind it in a list or an object. Quoted texts come back through their
escapes, and whole numbers through their digits.
-/

import FramedEvents.Proofs.Json.Reading
import FramedEvents.Proofs.Text.Characters

namespace FramedEvents.Json

/-! ### Reading what is known -/

namespace Parser

variable {α β : Type} {parser : Parser α} {value : α} {front back rest : Bytes} {byte : UInt8}

/-- Where these bytes and the rest stand, the parser uses these bytes and reads this value. -/
def Reads (parser : Parser α) (bytes : Bytes) (value : α) (rest : Bytes) : Prop :=
  ∀ ⦃cursor⦄, cursor.rest = bytes ++ rest →
    ∃ after, parser cursor = .ok (value, after) ∧ after.rest = rest

theorem reads_pure (value : α) (rest : Bytes) : Reads (pure value) [] value rest := by
  intro cursor stands
  exact ⟨cursor, rfl, stands⟩

theorem Reads.bind {next : α → Parser β} {answer : β}
    (first : Reads parser front value (back ++ rest))
    (later : Reads (next value) back answer rest) :
    Reads (parser >>= next) (front ++ back) answer rest := by
  intro cursor stands
  rw [List.append_assoc] at stands
  obtain ⟨between, read, left⟩ := first stands
  obtain ⟨after, readToo, leftToo⟩ := later left
  exact ⟨after, bind_eq_ok.mpr ⟨value, between, read, readToo⟩, leftToo⟩

variable {goOn : α → Parser β} {answer : β} {bytes : Bytes}

theorem Reads.look (first : Reads parser [] value (bytes ++ rest))
    (later : Reads (goOn value) bytes answer rest) : Reads (parser >>= goOn) bytes answer rest :=
  first.bind later

theorem Reads.step (first : Reads parser [byte] value (bytes ++ rest))
    (later : Reads (goOn value) bytes answer rest) :
    Reads (parser >>= goOn) (byte :: bytes) answer rest :=
  first.bind later

theorem Reads.last (first : Reads parser bytes value rest)
    (later : Reads (goOn value) [] answer rest) : Reads (parser >>= goOn) bytes answer rest := by
  rw [← List.append_nil bytes]
  exact first.bind later

theorem reads_skip (byte : UInt8) (rest : Bytes) : Reads (skip 1) [byte] () rest := by
  intro cursor stands
  refine ⟨cursor.advance 1, rfl, ?_⟩
  change cursor.rest.drop 1 = rest
  rw [stands]
  rfl

theorem reads_peek (rest : Bytes) : Reads peek [] rest.head? rest := by
  intro cursor stands
  refine ⟨cursor.look, ?_, stands⟩
  unfold peek
  rw [stands]
  rfl

theorem reads_next (byte : UInt8) (rest : Bytes) : Reads next [byte] (some byte) rest := by
  intro cursor stands
  refine ⟨cursor.advance 1, ?_, ?_⟩
  · unfold next
    rw [stands]
    rfl
  · change cursor.rest.drop 1 = rest
    rw [stands]
    rfl

def IsSolid (rest : Bytes) : Prop := ∀ byte, rest.head? = some byte → Cursor.isBlank byte = false

theorem takeWhile_isBlank (solid : IsSolid rest) : rest.takeWhile Cursor.isBlank = [] := by
  cases rest with
  | nil => rfl
  | cons byte more =>
      refine List.takeWhile_cons_of_neg ?_
      rw [solid byte rfl]
      exact Bool.false_ne_true

theorem reads_peekSolid (solid : IsSolid rest) : Reads peekSolid [] rest.head? rest := by
  intro cursor stands
  change cursor.rest = rest at stands
  have still : cursor.skipBlanks.rest = rest := by
    change cursor.rest.drop (cursor.rest.takeWhile Cursor.isBlank).length = rest
    rw [stands, takeWhile_isBlank solid]
    rfl
  refine ⟨cursor.skipBlanks, ?_, still⟩
  unfold peekSolid
  dsimp only
  rw [still]

theorem reads_takeRun {within : UInt8 → Bool} {run : Bytes} (inside : ∀ byte ∈ run, within byte)
    (outside : ∀ byte, rest.head? = some byte → within byte = false) :
    Reads (takeRun within) run run rest := by
  intro cursor stands
  have none : rest.takeWhile within = [] := by
    cases rest with
    | nil => rfl
    | cons byte more =>
        refine List.takeWhile_cons_of_neg ?_
        rw [outside byte rfl]
        exact Bool.false_ne_true
  have taken : cursor.rest.takeWhile within = run := by
    rw [stands, List.takeWhile_append_of_pos inside, none, List.append_nil]
  refine ⟨(cursor.advance run.length).look, ?_, ?_⟩
  · unfold takeRun
    dsimp only
    rw [taken]
  · change cursor.rest.drop run.length = rest
    rw [stands, List.drop_left]

theorem reads_word (letters rest : Bytes) : Reads (word letters) letters () rest := by
  induction letters with
  | nil => exact reads_pure () rest
  | cons letter letters ih =>
      refine (reads_next letter (letters ++ rest)).step ?_
      dsimp only
      rw [if_pos rfl]
      exact ih

theorem reads_enough (rest : Bytes) : Reads enough [] (rest.length + 1) rest := by
  intro cursor stands
  refine ⟨cursor, ?_, stands⟩
  change cursor.rest = rest at stands
  unfold enough
  rw [stands]

end Parser

/-! ### Quoted texts -/

namespace Quotation

theorem scan_backslash {more meant : Bytes} {count : Nat} (read : Nat) (decoded : Bytes)
    (means : escape more = .ok (meant, count)) :
    scan (92 :: more) read decoded =
      scan (more.drop count) (read + 1 + count) (meant.reverse ++ decoded) := by
  rw [scan, if_neg (by decide), if_pos rfl]
  split
  · rename_i fault offset failed
    rw [means] at failed
    cases failed
  · rename_i meantToo countToo same
    rw [means] at same
    cases same
    rfl

theorem hex_control (code : Fin 32) :
    ∃ upper lower, Bytes.ofText (Bytes.hex [UInt8.ofNat code]) = [upper, lower] ∧
      [upper, lower].mapM hexDigit? = some [code.val / 16, code.val % 16] := by
  have digits : (Bytes.ofText (Bytes.hex [UInt8.ofNat code])).length = 2 ∧
      (Bytes.ofText (Bytes.hex [UInt8.ofNat code])).mapM hexDigit? =
        some [code.val / 16, code.val % 16] := by
    revert code
    decide +kernel
  obtain ⟨two, meant⟩ := digits
  obtain ⟨upper, lower, same⟩ := List.length_eq_two.mp two
  rw [same] at meant
  exact ⟨upper, lower, same, meant⟩

theorem encodePoint_narrow {code : Nat} (narrow : code < 128) :
    encodePoint code = [UInt8.ofNat code] := by
  rw [← Bytes.ofChars_ofNat narrow]
  exact Bytes.ofText_ofList _

theorem escape_control {byte : UInt8} (control : byte < 32) (rest : Bytes) :
    let tail := [117, 48, 48] ++ Bytes.ofText (Bytes.hex [byte])
    escape (tail ++ rest) = .ok ([byte], tail.length) := by
  intro tail
  have small : byte.toNat < 32 := control
  obtain ⟨upper, lower, digits, meant⟩ := hex_control ⟨byte.toNat, small⟩
  rw [UInt8.ofNat_toNat] at digits
  have whole : tail = [117, 48, 48, upper, lower] := congrArg ([117, 48, 48] ++ ·) digits
  have four : fourDigits 1 (48 :: 48 :: upper :: lower :: rest) = .ok byte.toNat := by
    have field : [48, 48, upper, lower].mapM hexDigit? =
        some [0, 0, byte.toNat / 16, byte.toNat % 16] := by
      rw [List.mapM_cons, List.mapM_cons, meant]
      rfl
    unfold fourDigits
    dsimp only [List.take]
    rw [if_neg (show ¬[48, 48, upper, lower].length < 4 from Nat.lt_irrefl 4), field]
    exact congrArg Except.ok (by dsimp only [List.foldl]; omega)
  have trail : isTrailSurrogate byte.toNat = false := by
    unfold isTrailSurrogate
    rw [Bool.and_eq_false_iff, decide_eq_false_iff_not]
    exact .inl (by omega)
  have lead : isLeadSurrogate byte.toNat = false := by
    unfold isLeadSurrogate
    rw [Bool.and_eq_false_iff, decide_eq_false_iff_not]
    exact .inl (by omega)
  have point : encodePoint byte.toNat = [byte] := by
    rw [encodePoint_narrow (by omega), UInt8.ofNat_toNat]
  rw [whole]
  change unicodeEscape (48 :: 48 :: upper :: lower :: rest) = _
  unfold unicodeEscape
  rw [four]
  simp only [bind, Except.bind, trail, lead, point]
  rfl

/-- A byte is printed as it is, or as an escape that is read as this byte. -/
theorem escape_cases (byte : UInt8) :
    (Json.escape byte = [byte] ∧ byte ≠ 34 ∧ byte ≠ 92 ∧ ¬byte < 32) ∨
      ∃ tail, Json.escape byte = 92 :: tail ∧
        ∀ rest, escape (tail ++ rest) = .ok ([byte], tail.length) := by
  unfold Json.escape
  by_cases isQuote : byte = 34
  · subst isQuote
    exact .inr ⟨[34], rfl, fun _ => rfl⟩
  · by_cases isBackslash : byte = 92
    · subst isBackslash
      exact .inr ⟨[92], rfl, fun _ => rfl⟩
    · rw [if_neg isQuote, if_neg isBackslash]
      by_cases control : byte < 32
      · rw [if_pos control]
        refine .inr ?_
        split
        · rename_i same
          exact same ▸ ⟨[98], rfl, fun _ => rfl⟩
        · split
          · rename_i same
            exact same ▸ ⟨[116], rfl, fun _ => rfl⟩
          · split
            · rename_i same
              exact same ▸ ⟨[110], rfl, fun _ => rfl⟩
            · split
              · rename_i same
                exact same ▸ ⟨[102], rfl, fun _ => rfl⟩
              · split
                · rename_i same
                  exact same ▸ ⟨[114], rfl, fun _ => rfl⟩
                · exact ⟨_, rfl, escape_control control⟩
      · rw [if_neg control]
        exact .inl ⟨rfl, isQuote, isBackslash, control⟩

theorem scan_escape (byte : UInt8) (rest : Bytes) (read : Nat) (decoded : Bytes) :
    scan (Json.escape byte ++ rest) read decoded =
      scan rest (read + (Json.escape byte).length) (byte :: decoded) := by
  rcases escape_cases byte with ⟨plain, isQuote, isBackslash, control⟩ | ⟨tail, escaped, means⟩
  · rw [plain, List.singleton_append, scan, if_neg isQuote, if_neg isBackslash, if_neg control]
    rfl
  · rw [escaped, List.cons_append, scan_backslash read decoded (means rest), List.drop_left,
      List.length_cons, Nat.add_assoc, Nat.add_comm 1]
    rfl

theorem scan_escapes (bytes rest : Bytes) (read : Nat) (decoded : Bytes) :
    scan (bytes.flatMap Json.escape ++ 34 :: rest) read decoded =
      .ok (decoded.reverse ++ bytes, read + (bytes.flatMap Json.escape).length + 1) := by
  induction bytes generalizing read decoded with
  | nil =>
      rw [List.append_nil]
      unfold scan
      rfl
  | cons byte bytes ih =>
      rw [List.flatMap_cons, List.append_assoc, scan_escape, ih, List.reverse_cons,
        List.append_assoc, List.length_append, Nat.add_assoc, Nat.add_assoc, Nat.add_assoc]
      rfl

end Quotation

theorem Parser.reads_quoted (text : String) (rest : Bytes) :
    Reads quoted ((Bytes.ofText text).flatMap escape ++ [34]) text rest := by
  intro cursor stands
  let escaped := (Bytes.ofText text).flatMap escape
  have scanned : Quotation.scan cursor.rest 0 [] =
      .ok (Bytes.ofText text, (escaped ++ [34]).length) := by
    rw [stands, List.append_assoc, List.singleton_append, Quotation.scan_escapes,
      List.length_append, Nat.zero_add]
    rfl
  refine ⟨cursor.advance (escaped ++ [34]).length, ?_, ?_⟩
  · unfold quoted
    rw [scanned]
    dsimp only
    rw [Bytes.text?_ofText]
  · change cursor.rest.drop _ = rest
    rw [stands, List.drop_left]

/-! ### Whole numbers -/

namespace Number

def decimal (value : Nat) : Bytes := Bytes.ofText value.repr

theorem decimal_eq (value : Nat) : decimal value = Bytes.ofChars (Nat.toDigits 10 value) := by
  unfold decimal
  rw [Nat.repr_eq_ofList_toDigits, Bytes.ofText_ofList]

theorem ofChars_digitChar {digit : Nat} (small : digit < 10) :
    Bytes.ofChars [digit.digitChar] = [UInt8.ofNat (48 + digit)] := by
  have narrow : digit.digitChar.toNat = 48 + digit := Nat.toNat_digitChar_of_lt_ten small
  rw [Bytes.ofChars_cons, Bytes.encodeChar_narrow (by omega), narrow]
  rfl

theorem decimal_small {value : Nat} (small : value < 10) :
    decimal value = [UInt8.ofNat (48 + value)] := by
  rw [decimal_eq, Nat.toDigits_of_lt_base small, ofChars_digitChar small]

theorem decimal_large {value : Nat} (large : 10 ≤ value) :
    decimal value = decimal (value / 10) ++ [UInt8.ofNat (48 + value % 10)] := by
  rw [decimal_eq, decimal_eq, Nat.toDigits_of_base_le (by decide) large, Bytes.ofChars_append,
    ofChars_digitChar (Nat.mod_lt _ (by decide))]

def extend (significand : Nat) (digit : UInt8) : Nat := significand * 10 + digitValue digit

theorem toNat_digit {digit : Nat} (small : digit < 10) :
    (UInt8.ofNat (48 + digit)).toNat = 48 + digit := by
  rw [UInt8.toNat_ofNat', Nat.mod_eq_of_lt (by omega)]

theorem isDigit_digit {digit : Nat} (small : digit < 10) :
    isDigit (UInt8.ofNat (48 + digit)) = true := by
  unfold isDigit
  rw [Bool.and_eq_true, decide_eq_true_eq, decide_eq_true_eq, UInt8.le_iff_toNat_le,
    UInt8.le_iff_toNat_le, toNat_digit small]
  exact ⟨Nat.le_add_right _ _, by change 48 + digit ≤ 57; omega⟩

theorem isDigit_solid {byte : UInt8} (digit : isDigit byte = true) :
    Cursor.isBlank byte = false ∧ byte ≠ 93 := by
  unfold isDigit at digit
  rw [Bool.and_eq_true, decide_eq_true_eq, decide_eq_true_eq, UInt8.le_iff_toNat_le,
    UInt8.le_iff_toNat_le] at digit
  change 48 ≤ byte.toNat ∧ byte.toNat ≤ 57 at digit
  have apart (other : UInt8) (outside : other.toNat < 48 ∨ 57 < other.toNat) : byte ≠ other := by
    rintro rfl
    omega
  refine ⟨?_, apart 93 (.inr (by decide))⟩
  unfold Cursor.isBlank
  rw [beq_eq_false_iff_ne.mpr (apart 32 (.inl (by decide))),
    beq_eq_false_iff_ne.mpr (apart 10 (.inl (by decide))),
    beq_eq_false_iff_ne.mpr (apart 9 (.inl (by decide))),
    beq_eq_false_iff_ne.mpr (apart 13 (.inl (by decide)))]
  rfl

theorem digitValue_digit {digit : Nat} (small : digit < 10) :
    digitValue (UInt8.ofNat (48 + digit)) = digit := by
  unfold digitValue
  rw [toNat_digit small, Nat.add_sub_cancel_left]

/-- The digits of a number make it up, and the first is no zero but for the number zero. -/
theorem decimal_parts (value : Nat) :
    ∃ first digits, decimal value = first :: digits ∧ (∀ digit ∈ first :: digits, isDigit digit) ∧
      (first = 48 → value = 0 ∧ digits = []) ∧ digits.foldl extend (digitValue first) = value := by
  induction value using Nat.strongRecOn with
  | ind value ih =>
      by_cases small : value < 10
      · refine ⟨UInt8.ofNat (48 + value), [], decimal_small small, ?_, fun zero => ⟨?_, rfl⟩,
          digitValue_digit small⟩
        · exact List.forall_mem_singleton.mpr (isDigit_digit small)
        · have same := congrArg UInt8.toNat zero
          rw [toNat_digit small] at same
          exact Nat.add_eq_left.mp same
      · have large := Nat.le_of_not_lt small
        have last : value % 10 < 10 := Nat.mod_lt _ (by decide)
        obtain ⟨first, digits, front, all, zero, made⟩ := ih (value / 10) (by omega)
        refine ⟨first, digits ++ [UInt8.ofNat (48 + value % 10)], ?_, ?_, ?_, ?_⟩
        · rw [decimal_large large, front]
          rfl
        · intro digit member
          rw [← List.cons_append] at member
          rcases List.mem_append.mp member with before | same
          · exact all digit before
          · rw [List.mem_singleton.mp same]
            exact isDigit_digit last
        · intro starts
          obtain ⟨none, _⟩ := zero starts
          omega
        · rw [List.foldl_append, made]
          change value / 10 * 10 + digitValue _ = value
          rw [digitValue_digit last]
          omega

theorem le_foldl_extend (significand : Nat) (digits : Bytes) :
    significand ≤ digits.foldl extend significand := by
  induction digits generalizing significand with
  | nil => exact Nat.le_refl _
  | cons digit digits ih =>
      refine Nat.le_trans ?_ (ih (extend significand digit))
      unfold extend
      omega

theorem absorb_eq {significand : Nat} {digits : Bytes}
    (fits : digits.foldl extend significand ≤ mostSignificand) :
    absorb significand digits = (digits.foldl extend significand, 0) := by
  induction digits generalizing significand with
  | nil => rfl
  | cons digit digits ih =>
      have more := Nat.le_trans (le_foldl_extend (extend significand digit) digits) fits
      unfold absorb
      dsimp only
      rw [if_pos (show significand * 10 + digitValue digit ≤ mostSignificand from more)]
      exact ih fits

end Number

def Follows (rest : Bytes) : Prop :=
  rest.head? = none ∨ rest.head? = some 44 ∨ rest.head? = some 93 ∨ rest.head? = some 125

namespace Number

open FramedEvents.Json.Parser

theorem reads_withTail (negative : Bool) (significand : Nat) {rest : Bytes}
    (follows : Follows rest) :
    Reads (withTail negative significand 0) [] (whole negative significand) rest := by
  unfold withTail
  refine (reads_peek rest).look ?_
  rcases follows with ends | ends | ends | ends
  all_goals
    rw [ends]
    exact reads_pure _ rest

theorem isDigit_follows {rest : Bytes} (follows : Follows rest) :
    ∀ byte, rest.head? = some byte → isDigit byte = false := by
  intro byte here
  rcases follows with ends | ends | ends | ends
  · rw [ends] at here
    cases here
  all_goals
    rw [ends] at here
    cases here
    rfl

theorem reads_parse (negative : Bool) {value : Nat} (fits : value ≤ mostSignificand)
    {rest : Bytes} (follows : Follows rest) :
    Reads (parse negative) (decimal value) (whole negative value) rest := by
  obtain ⟨first, digits, parts, all, zero, made⟩ := decimal_parts value
  obtain ⟨firstDigit, others⟩ := List.forall_mem_cons.mp all
  rw [parts]
  unfold parse
  refine (reads_next first (digits ++ rest)).step ?_
  dsimp only
  by_cases starts : first = 48
  · obtain ⟨rfl, rfl⟩ := zero starts
    rw [if_pos starts]
    refine (reads_peek rest).look ?_
    cases ahead : rest.head? with
    | none => exact reads_withTail negative 0 follows
    | some byte =>
        dsimp only
        rw [isDigit_follows follows byte ahead]
        exact reads_withTail negative 0 follows
  · rw [if_neg starts, if_pos firstDigit]
    have run : Reads (takeRun isDigit) digits digits rest :=
      reads_takeRun others (isDigit_follows follows)
    have absorbed : absorb (digitValue first) digits = (value, 0) := by
      rw [absorb_eq (by rw [made]; exact fits), made]
    refine run.last ?_
    rw [absorbed]
    exact reads_withTail negative value follows

theorem text_integer (value : Int) :
    (∃ magnitude : Nat, value = magnitude ∧
      Bytes.ofText (Number.integer value).text = decimal magnitude) ∨
    ∃ magnitude : Nat, value = -(magnitude : Int) ∧ magnitude ≠ 0 ∧
      Bytes.ofText (Number.integer value).text = 45 :: decimal magnitude := by
  cases value with
  | ofNat magnitude => exact .inl ⟨magnitude, rfl, rfl⟩
  | negSucc less =>
      refine .inr ⟨less + 1, rfl, Nat.succ_ne_zero less, ?_⟩
      exact Bytes.ofText_append "-" (less + 1).repr

theorem startsNumber_solid {byte : UInt8} (starts : startsNumber byte = true) :
    Cursor.isBlank byte = false ∧ byte ≠ 93 := by
  rcases Bool.or_eq_true_iff.mp starts with minus | digit
  · rw [beq_iff_eq] at minus
    rw [minus]
    exact ⟨rfl, by decide⟩
  · exact isDigit_solid digit

theorem reads_integer {value : Int} (fits : (Number.integer value).Fits) {rest : Bytes}
    (follows : Follows rest) :
    ∃ first tail, Bytes.ofText (Number.integer value).text = first :: tail ∧
      startsNumber first = true ∧ Reads (number first) (first :: tail) (.integer value) rest := by
  obtain ⟨least, most⟩ := fits
  rcases text_integer value with ⟨magnitude, rfl, text⟩ | ⟨magnitude, rfl, some, text⟩
  · obtain ⟨first, digits, parts, all, _, _⟩ := decimal_parts magnitude
    have starts := (List.forall_mem_cons.mp all).1
    have positive : first ≠ 45 := by
      rintro rfl
      cases starts
    have within : magnitude ≤ mostSignificand := by
      unfold mostSignificand
      omega
    have read := reads_parse false within follows
    refine ⟨first, digits, text.trans parts, ?_, ?_⟩
    · unfold startsNumber
      rw [starts, Bool.or_true]
    · unfold number
      rw [if_neg positive, ← parts]
      exact read
  · have within : magnitude ≤ mostSignificand := by
      unfold mostSignificand
      omega
    have negative : whole true magnitude = .integer (-(magnitude : Int)) := by
      unfold whole
      rw [if_neg (by decide), if_neg (by omega)]
    refine ⟨45, decimal magnitude, text, rfl, ?_⟩
    rw [← negative]
    exact (reads_skip 45 (decimal magnitude ++ rest)).step (reads_parse true within follows)

end Number

/-! ### The text of lists and objects -/

inductive Value.Whole : Value → Prop where
  | null : Whole .null
  | bool (value : Bool) : Whole (.bool value)
  | string (text : String) : Whole (.string text)
  | integer (value : Int) : Whole (.number (.integer value))
  | array (items : List Value) (whole : ∀ item ∈ items, Whole item) : Whole (.array items)
  | object (fields : Fields) (whole : ∀ field ∈ fields, Whole field.2) : Whole (.object fields)

def printField (field : String × Value) : Bytes := quote field.1 ++ 58 :: field.2.print

theorem printField_append (field : String × Value) (more : Bytes) :
    printField field ++ more = quote field.1 ++ 58 :: (field.2.print ++ more) :=
  List.append_assoc _ _ _

def printLater {α : Type} (print : α → Bytes) (later : List α) : Bytes :=
  later.flatMap fun item => 44 :: print item

theorem printItems_cons (item : Value) (later : List Value) :
    printItems (item :: later) = item.print ++ printLater Value.print later := by
  induction later generalizing item with
  | nil =>
      rw [printItems]
      exact (List.append_nil _).symm
  | cons next later ih =>
      rw [printItems, ih]
      · rfl
      · exact List.cons_ne_nil _ _

theorem printFields_cons (field : String × Value) (later : Fields) :
    printFields (field :: later) = printField field ++ printLater printField later := by
  induction later generalizing field with
  | nil =>
      rw [printFields]
      exact (List.append_nil _).symm
  | cons next later ih =>
      have further : printLater printField (next :: later) =
          44 :: (printField next ++ printLater printField later) := List.flatMap_cons
      rw [printFields, ih, further, printField.eq_1 field, List.append_assoc]
      exact List.cons_ne_nil _ _

theorem print_starts {value : Value} (whole : value.Whole) :
    ∃ first tail, value.print = first :: tail ∧ Cursor.isBlank first = false ∧ first ≠ 93 := by
  cases whole with
  | null => exact ⟨110, [117, 108, 108], rfl, rfl, by decide⟩
  | bool value =>
      cases value with
      | false => exact ⟨102, [97, 108, 115, 101], rfl, rfl, by decide⟩
      | true => exact ⟨116, [114, 117, 101], rfl, rfl, by decide⟩
  | string text =>
      rw [Value.print]
      exact ⟨34, _, rfl, rfl, by decide⟩
  | integer value =>
      rw [Value.print]
      rcases Number.text_integer value with ⟨magnitude, _, text⟩ | ⟨magnitude, _, _, text⟩
      · obtain ⟨first, digits, parts, all, _⟩ := Number.decimal_parts magnitude
        have starts := (List.forall_mem_cons.mp all).1
        obtain ⟨visible, apart⟩ := Number.isDigit_solid starts
        exact ⟨first, digits, text.trans parts, visible, apart⟩
      · exact ⟨45, _, text, rfl, by decide⟩
  | array items whole =>
      rw [Value.print]
      exact ⟨91, _, rfl, rfl, by decide⟩
  | object fields whole =>
      rw [Value.print]
      exact ⟨123, _, rfl, rfl, by decide⟩

/-! ### Reading lists and objects -/

namespace Parser

variable {α : Type} {depth fuel : Nat} {rest : Bytes}

theorem isSolid_cons {byte : UInt8} (visible : Cursor.isBlank byte = false) (rest : Bytes) :
    IsSolid (byte :: rest) := by
  intro found here
  cases here
  exact visible

theorem follows_later {α : Type} (print : α → Bytes) (later : List α) {closing : UInt8}
    (closes : closing = 93 ∨ closing = 125) (rest : Bytes) :
    Follows (printLater print later ++ closing :: rest) := by
  cases later with
  | nil =>
      rcases closes with rfl | rfl
      · exact .inr (.inr (.inl rfl))
      · exact .inr (.inr (.inr rfl))
  | cons item later => exact .inr (.inl rfl)

theorem reads_moreItems_first {byte : UInt8} (visible : Cursor.isBlank byte = false)
    (apart : byte ≠ 93) (rest : Bytes) : Reads (moreItems true) [] true (byte :: rest) := by
  unfold moreItems
  refine (reads_peekSolid (isSolid_cons visible rest)).look ?_
  dsimp only [List.head?_cons]
  split
  · cases ‹some byte = none›
  · exact absurd (Option.some.inj ‹_›) apart
  · exact reads_pure true _

theorem reads_moreItems_later {byte : UInt8} (visible : Cursor.isBlank byte = false)
    (apart : byte ≠ 93) (rest : Bytes) : Reads (moreItems false) [44] true (byte :: rest) := by
  unfold moreItems
  refine (reads_peekSolid (isSolid_cons rfl _)).look ?_
  refine (reads_skip 44 _).step ?_
  refine (reads_peekSolid (isSolid_cons visible rest)).look ?_
  dsimp only [List.head?_cons]
  split
  · exact absurd (Option.some.inj ‹_›) apart
  · exact reads_pure true _
  · cases ‹some byte = none›

theorem reads_moreItems_end (first : Bool) (rest : Bytes) :
    Reads (moreItems first) [] false (93 :: rest) := by
  unfold moreItems
  refine (reads_peekSolid (isSolid_cons rfl rest)).look ?_
  exact reads_pure false _

theorem reads_moreFields_first (rest : Bytes) : Reads (moreFields true) [] true (34 :: rest) := by
  unfold moreFields
  refine (reads_peekSolid (isSolid_cons rfl rest)).look ?_
  exact reads_pure true _

theorem reads_moreFields_later (rest : Bytes) :
    Reads (moreFields false) [44] true (34 :: rest) := by
  unfold moreFields
  refine (reads_peekSolid (isSolid_cons rfl _)).look ?_
  refine (reads_skip 44 _).step ?_
  refine (reads_peekSolid (isSolid_cons rfl rest)).look ?_
  exact reads_pure true _

theorem reads_moreFields_end (first : Bool) (rest : Bytes) :
    Reads (moreFields first) [] false (125 :: rest) := by
  unfold moreFields
  refine (reads_peekSolid (isSolid_cons rfl rest)).look ?_
  exact reads_pure false _

theorem reads_fieldName (name : String) (rest : Bytes) :
    Reads fieldName (quote name) name rest := by
  unfold quote
  exact (reads_skip 34 _).step (reads_quoted name rest)

theorem reads_colon (rest : Bytes) : Reads colon [58] () rest := by
  unfold colon
  refine (reads_peekSolid (isSolid_cons rfl rest)).look ?_
  exact reads_skip 58 rest

/-- A printed value is read wherever a value may stand. -/
structure Readable (depth : Nat) (item : Value) : Prop where
  whole : item.Whole
  reads : ∀ rest, Follows rest → Reads (value depth) item.print item rest

theorem reads_itemsUpTo_later {items : List Value} (readable : ∀ item ∈ items, Readable depth item)
    (enough : items.length < fuel) (rest : Bytes) :
    Reads (itemsUpTo (value depth) fuel false) (printLater Value.print items) items
      (93 :: rest) := by
  induction items generalizing fuel with
  | nil =>
      obtain ⟨fuel, rfl⟩ := Nat.exists_eq_succ_of_ne_zero (Nat.ne_zero_of_lt enough)
      unfold itemsUpTo
      refine (reads_moreItems_end false rest).look ?_
      exact reads_pure [] _
  | cons item later ih =>
      obtain ⟨fuel, rfl⟩ := Nat.exists_eq_succ_of_ne_zero (Nat.ne_zero_of_lt enough)
      obtain ⟨readable, readableLater⟩ := List.forall_mem_cons.mp readable
      obtain ⟨first, tail, text, visible, apart⟩ := print_starts readable.whole
      have further : printLater Value.print (item :: later) =
          44 :: (item.print ++ printLater Value.print later) := List.flatMap_cons
      have more : Reads (moreItems false) [44] true
          ((item.print ++ printLater Value.print later) ++ 93 :: rest) := by
        rw [text]
        exact reads_moreItems_later visible apart _
      have behind := follows_later Value.print later (.inl rfl) rest
      rw [further]
      unfold itemsUpTo
      refine more.step ?_
      refine (readable.reads _ behind).bind ?_
      refine (ih readableLater (Nat.lt_of_succ_lt_succ enough)).last ?_
      exact reads_pure (item :: later) _

theorem length_printLater {α : Type} (print : α → Bytes) (later : List α) :
    later.length ≤ (printLater print later).length := by
  induction later with
  | nil => exact Nat.le_refl 0
  | cons item later ih =>
      have further : printLater print (item :: later) =
          44 :: (print item ++ printLater print later) := List.flatMap_cons
      rw [further, List.length_cons, List.length_cons, List.length_append]
      omega

theorem reads_items {items : List Value} (readable : ∀ item ∈ items, Readable depth item)
    (rest : Bytes) :
    Reads (Parser.items (value depth)) (91 :: printItems items ++ [93]) items rest := by
  unfold Parser.items
  rw [List.cons_append]
  refine (reads_skip 91 _).step ?_
  refine (reads_enough _).look ?_
  refine Reads.bind ?_ ((reads_skip 93 _).last (reads_pure items _))
  cases items with
  | nil =>
      unfold itemsUpTo
      refine (reads_moreItems_end true rest).look ?_
      exact reads_pure [] _
  | cons item later =>
      obtain ⟨readableFirst, readableLater⟩ := List.forall_mem_cons.mp readable
      obtain ⟨first, tail, text, visible, apart⟩ := print_starts readableFirst.whole
      have more : Reads (moreItems true) [] true (printItems (item :: later) ++ 93 :: rest) := by
        rw [printItems_cons, text]
        exact reads_moreItems_first visible apart _
      have behind := follows_later Value.print later (.inl rfl) rest
      unfold itemsUpTo
      refine more.look ?_
      rw [if_pos rfl, printItems_cons]
      refine (readableFirst.reads _ behind).bind ?_
      refine (reads_itemsUpTo_later readableLater ?_ rest).last ?_
      · have long := length_printLater Value.print later
        simp only [List.length_append, List.length_cons]
        omega
      · exact reads_pure (item :: later) _

theorem reads_fieldsUpTo_later {fields : Fields}
    (readable : ∀ field ∈ fields, Readable depth field.2) (enough : fields.length < fuel)
    (rest : Bytes) :
    Reads (fieldsUpTo (value depth) fuel false) (printLater printField fields) fields
      (125 :: rest) := by
  induction fields generalizing fuel with
  | nil =>
      obtain ⟨fuel, rfl⟩ := Nat.exists_eq_succ_of_ne_zero (Nat.ne_zero_of_lt enough)
      unfold fieldsUpTo
      refine (reads_moreFields_end false rest).look ?_
      exact reads_pure [] _
  | cons field later ih =>
      obtain ⟨fuel, rfl⟩ := Nat.exists_eq_succ_of_ne_zero (Nat.ne_zero_of_lt enough)
      obtain ⟨readable, readableLater⟩ := List.forall_mem_cons.mp readable
      have further : printLater printField (field :: later) =
          44 :: (quote field.1 ++ 58 :: (field.2.print ++ printLater printField later)) := by
        rw [← printField_append]
        exact List.flatMap_cons
      have behind := follows_later printField later (.inr rfl) rest
      rw [further]
      unfold fieldsUpTo
      refine (reads_moreFields_later _).step ?_
      rw [if_pos rfl]
      refine (reads_fieldName field.1 _).bind ?_
      refine (reads_colon _).step ?_
      refine (readable.reads _ behind).bind ?_
      refine (ih readableLater (Nat.lt_of_succ_lt_succ enough)).last ?_
      exact reads_pure (field :: later) _

theorem reads_fields {fields : Fields} (readable : ∀ field ∈ fields, Readable depth field.2)
    (rest : Bytes) :
    Reads (Parser.fields (value depth)) (123 :: printFields fields ++ [125]) fields rest := by
  unfold Parser.fields
  rw [List.cons_append]
  refine (reads_skip 123 _).step ?_
  refine (reads_enough _).look ?_
  refine Reads.bind ?_ ((reads_skip 125 _).last (reads_pure fields _))
  cases fields with
  | nil =>
      unfold fieldsUpTo
      refine (reads_moreFields_end true rest).look ?_
      exact reads_pure [] _
  | cons field later =>
      obtain ⟨readableFirst, readableLater⟩ := List.forall_mem_cons.mp readable
      have parts : printFields (field :: later) =
          quote field.1 ++ 58 :: (field.2.print ++ printLater printField later) :=
        (printFields_cons field later).trans (printField_append field _)
      have behind := follows_later printField later (.inr rfl) rest
      unfold fieldsUpTo
      rw [parts]
      refine (reads_moreFields_first _).look ?_
      rw [if_pos rfl]
      refine (reads_fieldName field.1 _).bind ?_
      refine (reads_colon _).step ?_
      refine (readableFirst.reads _ behind).bind ?_
      refine (reads_fieldsUpTo_later readableLater ?_ rest).last ?_
      · have long := length_printLater printField later
        simp only [List.length_append, List.length_cons]
        omega
      · exact reads_pure (field :: later) _

/-! ### Reading documents -/

/-- What is printed is read, if it is well formed and nests to less than the depth. -/
theorem readable_print {depth : Nat} {item : Value} (formed : item.Formed depth)
    (whole : item.Whole) : Readable depth item := by
  refine ⟨whole, ?_⟩
  induction formed with
  | null =>
      intro rest follows
      unfold value
      refine (reads_peekSolid (isSolid_cons rfl _)).look ?_
      refine (reads_skip 110 _).step ?_
      exact (reads_word [117, 108, 108] rest).last (reads_pure _ _)
  | bool truth =>
      intro rest follows
      cases truth with
      | false =>
          unfold value
          refine (reads_peekSolid (isSolid_cons rfl _)).look ?_
          refine (reads_skip 102 _).step ?_
          exact (reads_word [97, 108, 115, 101] rest).last (reads_pure _ _)
      | true =>
          unfold value
          refine (reads_peekSolid (isSolid_cons rfl _)).look ?_
          refine (reads_skip 116 _).step ?_
          exact (reads_word [114, 117, 101] rest).last (reads_pure _ _)
  | string text =>
      intro rest follows
      rw [Value.print]
      unfold value quote
      refine (reads_peekSolid (isSolid_cons rfl _)).look ?_
      refine (reads_skip 34 _).step ?_
      exact (reads_quoted text rest).last (reads_pure _ _)
  | number held fits =>
      intro rest follows
      cases whole with
      | integer value =>
          obtain ⟨first, tail, text, starts, reads⟩ := Number.reads_integer fits follows
          obtain ⟨visible, _⟩ := Number.startsNumber_solid starts
          rw [Value.print, text]
          unfold Parser.value
          refine (reads_peekSolid (isSolid_cons visible _)).look ?_
          dsimp only [List.cons_append, List.head?_cons]
          split
          · cases ‹some first = none›
          · cases Option.some.inj ‹some first = some 110›
            cases starts
          · cases Option.some.inj ‹some first = some 116›
            cases starts
          · cases Option.some.inj ‹some first = some 102›
            cases starts
          · cases Option.some.inj ‹some first = some 34›
            cases starts
          · cases Option.some.inj ‹some first = some 91›
            cases starts
          · cases Option.some.inj ‹some first = some 123›
            cases starts
          · rename_i same
            cases Option.some.inj same
            rw [if_pos starts]
            exact reads.last (reads_pure _ _)
  | @array depth items room formed ih =>
      intro rest follows
      cases whole with
      | array _ whole =>
          have readable (item : Value) (member : item ∈ items) : Readable _ item :=
            ⟨whole item member, ih item member (whole item member)⟩
          rw [Value.print]
          unfold value
          refine (reads_peekSolid (isSolid_cons rfl _)).look ?_
          change Reads (if depth = 0 then failAhead .tooDeep
            else Parser.items (value depth) >>= fun items => pure (Value.array items)) _ _ rest
          rw [if_neg room]
          exact (reads_items readable rest).last (reads_pure _ _)
  | @object depth fields room ordered formed ih =>
      intro rest follows
      cases whole with
      | object _ whole =>
          have readable (field : String × Value) (member : field ∈ fields) : Readable _ field.2 :=
            ⟨whole field member, ih field member (whole field member)⟩
          rw [Value.print]
          unfold value
          refine (reads_peekSolid (isSolid_cons rfl _)).look ?_
          change Reads (if depth = 0 then failAhead .tooDeep
            else Parser.fields (value depth) >>= fun pairs =>
              pure (Value.object (Fields.ofList pairs))) _ _ rest
          rw [if_neg room]
          refine (reads_fields readable rest).last ?_
          rw [ordered.ofList_eq]
          exact reads_pure _ _

theorem reads_finish : Reads finish [] () [] := by
  have none : IsSolid [] := by
    intro byte here
    cases here
  refine (reads_peekSolid none).look ?_
  exact reads_pure () []

theorem Reads.run {bytes : Bytes} {answer : α} {parser : Parser α}
    (reads : Reads parser bytes answer []) (streamed : Bool) :
    parser.run streamed bytes = .ok answer := by
  let document : Parser α := do
    let read ← parser
    finish
    return read
  have whole : Reads document bytes answer [] := by
    refine reads.last ?_
    exact reads_finish.look (reads_pure answer [])
  have here : ({ rest := bytes, streamed := streamed } : Cursor).rest = bytes ++ [] :=
    (List.append_nil _).symm
  obtain ⟨after, read, _⟩ := whole here
  change (document { rest := bytes, streamed := streamed }).map Prod.fst = .ok answer
  rw [read]
  rfl

end Parser

theorem isText_escape {byte : UInt8} (narrow : byte.toNat < 128) : (escape byte).IsText := by
  unfold escape
  split
  · exact ⟨"\\\"", rfl⟩
  · split
    · exact ⟨"\\\\", rfl⟩
    · split
      · split
        · exact ⟨"\\b", rfl⟩
        · split
          · exact ⟨"\\t", rfl⟩
          · split
            · exact ⟨"\\n", rfl⟩
            · split
              · exact ⟨"\\f", rfl⟩
              · split
                · exact ⟨"\\r", rfl⟩
                · exact Bytes.IsText.append ⟨"\\u00", rfl⟩ (Bytes.isText_ofText _)
      · exact Bytes.isText_narrow narrow

theorem escape_wide {byte : UInt8} (wide : 128 ≤ byte.toNat) : escape byte = [byte] := by
  have apart (other : UInt8) (small : other.toNat < 128) : byte ≠ other := by
    rintro rfl
    omega
  have visible : ¬byte < 32 := by
    rw [UInt8.lt_iff_toNat_lt]
    exact Nat.not_lt.mpr (Nat.le_trans (by decide) wide)
  unfold escape
  rw [if_neg (apart 34 (by decide)), if_neg (apart 92 (by decide)), if_neg visible]

theorem isText_escapes (characters : List Char) :
    Bytes.IsText ((Bytes.ofChars characters).flatMap escape) := by
  induction characters with
  | nil => exact Bytes.isText_nil
  | cons first rest ih =>
      rw [Bytes.ofChars_cons, List.flatMap_append]
      refine Bytes.IsText.append ?_ ih
      by_cases narrow : first.toNat < 128
      · rw [Bytes.encodeChar_narrow narrow, List.flatMap_singleton]
        refine isText_escape ?_
        rw [UInt8.toNat_ofNat']
        omega
      · have wide := (Bytes.encoded first).wide (Nat.le_of_not_lt narrow)
        have plain : (String.utf8EncodeChar first).flatMap escape =
            (String.utf8EncodeChar first).flatMap fun byte => [byte] :=
          List.flatMap_congr fun byte member => escape_wide (wide byte member)
        rw [plain, List.flatMap_singleton']
        exact Bytes.isText_encodeChar first

theorem isText_quote (text : String) : (quote text).IsText := by
  unfold quote
  rw [Bytes.ofText_eq_ofChars]
  exact ((isText_escapes _).append (Bytes.isText_narrow (by decide))).cons (by decide)

mutual

theorem isText_print : (value : Value) → value.print.IsText
  | .null => Bytes.isText_ofText _
  | .bool true => Bytes.isText_ofText _
  | .bool false => Bytes.isText_ofText _
  | .number value => Bytes.isText_ofText _
  | .string text => isText_quote text
  | .array items =>
      ((isText_printItems items).append (Bytes.isText_narrow (by decide))).cons (by decide)
  | .object fields =>
      ((isText_printFields fields).append (Bytes.isText_narrow (by decide))).cons (by decide)

theorem isText_printItems : (items : List Value) → (printItems items).IsText
  | [] => Bytes.isText_nil
  | [item] => isText_print item
  | item :: next :: rest =>
      (isText_print item).append ((isText_printItems (next :: rest)).cons (by decide))

theorem isText_printFields : (fields : List (String × Value)) → (printFields fields).IsText
  | [] => Bytes.isText_nil
  | [(name, value)] => (isText_quote name).append ((isText_print value).cons (by decide))
  | (name, value) :: next :: rest =>
      ((isText_quote name).append ((isText_print value).cons (by decide))).append
        ((isText_printFields (next :: rest)).cons (by decide))

end

theorem Value.ofText_text (value : Value) : Bytes.ofText value.text = value.print := by
  obtain ⟨text, read, same⟩ := (isText_print value).text?
  unfold Value.text
  rw [read]
  exact same

end FramedEvents.Json
