/-
The bytes of a text, character by character.

A character of the first 128 is one byte, and it is that byte. Any other is made of bytes
that stand for no such character, so what is looked for byte by byte, as an end of a line,
is found exactly where the character stands. The bytes of texts are in the order of the
texts.
-/

import FramedEvents.Bytes
import Mathlib.Data.List.Basic
import Mathlib.Data.List.Lex

namespace FramedEvents.Bytes

def ofChars (characters : List Char) : Bytes := characters.flatMap String.utf8EncodeChar

theorem ofText_ofList (characters : List Char) :
    ofText (String.ofList characters) = ofChars characters := by
  unfold ofText
  rw [String.toByteArray_ofList]
  exact List.toList_data_toByteArray

theorem ofText_eq_ofChars (text : String) : ofText text = ofChars text.toList := by
  rw [← ofText_ofList, String.ofList_toList]

theorem ofChars_append (front back : List Char) :
    ofChars (front ++ back) = ofChars front ++ ofChars back := List.flatMap_append

theorem ofChars_cons (first : Char) (rest : List Char) :
    ofChars (first :: rest) = String.utf8EncodeChar first ++ ofChars rest := List.flatMap_cons

theorem ofText_append (front back : String) :
    ofText (front ++ back) = ofText front ++ ofText back := by
  rw [ofText_eq_ofChars, ofText_eq_ofChars, ofText_eq_ofChars, String.toList_append, ofChars_append]

theorem encodeChar_narrow {character : Char} (narrow : character.toNat < 128) :
    String.utf8EncodeChar character = [UInt8.ofNat character.toNat] := by
  unfold String.utf8EncodeChar
  exact if_pos (Nat.le_of_lt_succ narrow)

/-- The bytes of a character, by its width. All but the first hold six binary digits. -/
inductive Encoded : (code : Nat) → Bytes → Prop where
  | one (code : Nat) (narrow : code < 128) : Encoded code [UInt8.ofNat code]
  | two (high low : Nat) (least : 2 ≤ high) (most : high < 32) (lowMost : low < 64) :
      Encoded (high * 64 + low) [UInt8.ofNat (high + 192), UInt8.ofNat (low + 128)]
  | three (high middle low : Nat) (least : 32 ≤ high * 64 + middle) (most : high < 16)
      (middleMost : middle < 64) (lowMost : low < 64) :
      Encoded ((high * 64 + middle) * 64 + low)
        [UInt8.ofNat (high + 224), UInt8.ofNat (middle + 128), UInt8.ofNat (low + 128)]
  | four (high upper middle low : Nat) (least : 16 ≤ high * 64 + upper) (most : high < 8)
      (upperMost : upper < 64) (middleMost : middle < 64) (lowMost : low < 64) :
      Encoded (((high * 64 + upper) * 64 + middle) * 64 + low)
        [UInt8.ofNat (high + 240), UInt8.ofNat (upper + 128), UInt8.ofNat (middle + 128),
          UInt8.ofNat (low + 128)]

theorem encoded (character : Char) :
    Encoded character.toNat (String.utf8EncodeChar character) := by
  have bounded : character.toNat < 1114112 := by
    rcases character.valid with low | ⟨_, high⟩
    · exact Nat.lt_trans low (by decide)
    · exact high
  unfold String.utf8EncodeChar
  change Encoded character.val.toNat _
  change character.val.toNat < 1114112 at bounded
  dsimp only
  generalize character.val.toNat = code at bounded ⊢
  split
  · exact .one code (by omega)
  · split
    · have high : code / 64 % 32 = code / 64 := by omega
      have parts : code = code / 64 * 64 + code % 64 := by omega
      rw [high]
      nth_rewrite 1 [parts]
      exact .two (code / 64) (code % 64) (by omega) (by omega) (by omega)
    · split
      · have high : code / 4096 % 16 = code / 4096 := by omega
        have parts : code = (code / 4096 * 64 + code / 64 % 64) * 64 + code % 64 := by omega
        rw [high]
        nth_rewrite 1 [parts]
        exact .three (code / 4096) (code / 64 % 64) (code % 64) (by omega) (by omega) (by omega)
          (by omega)
      · have high : code / 262144 % 8 = code / 262144 := by omega
        have parts : code = ((code / 262144 * 64 + code / 4096 % 64) * 64 + code / 64 % 64) * 64 +
            code % 64 := by omega
        rw [high]
        nth_rewrite 1 [parts]
        exact .four (code / 262144) (code / 4096 % 64) (code / 64 % 64) (code % 64) (by omega)
          (by omega) (by omega) (by omega) (by omega)

theorem Encoded.ne_nil {code : Nat} {bytes : Bytes} (encoded : Encoded code bytes) :
    bytes ≠ [] := by
  cases encoded with
  | _ => exact List.cons_ne_nil _ _

theorem Encoded.wide {code : Nat} {bytes : Bytes} (encoded : Encoded code bytes)
    (wide : 128 ≤ code) : ∀ byte ∈ bytes, 128 ≤ byte.toNat := by
  have spread (number : Nat) (least : 128 ≤ number) (most : number < 256) :
      128 ≤ (UInt8.ofNat number).toNat := by
    rw [UInt8.toNat_ofNat', Nat.mod_eq_of_lt most]
    exact least
  intro byte member
  cases encoded with
  | one code narrow => omega
  | two high low least most lowMost =>
      simp only [List.mem_cons, List.not_mem_nil, or_false] at member
      rcases member with rfl | rfl
      all_goals exact spread _ (by omega) (by omega)
  | three high middle low least most middleMost lowMost =>
      simp only [List.mem_cons, List.not_mem_nil, or_false] at member
      rcases member with rfl | rfl | rfl
      all_goals exact spread _ (by omega) (by omega)
  | four high upper middle low least most upperMost middleMost lowMost =>
      simp only [List.mem_cons, List.not_mem_nil, or_false] at member
      rcases member with rfl | rfl | rfl | rfl
      all_goals exact spread _ (by omega) (by omega)

theorem Encoded.lt {code codeToo : Nat} {bytes bytesToo : Bytes} (encoded : Encoded code bytes)
    (encodedToo : Encoded codeToo bytesToo) (less : code < codeToo) (behind behindToo : Bytes) :
    bytes ++ behind < bytesToo ++ behindToo := by
  -- Either the widths are in order, and so are the first bytes, or they are the same.
  cases encoded with
  | _ =>
      cases encodedToo with
      | _ =>
          simp (disch := omega) only [List.cons_append, List.cons_lt_cons_iff,
            UInt8.lt_iff_toNat_lt, ← UInt8.toNat_inj, UInt8.toNat_ofNat', Nat.mod_eq_of_lt]
          omega

theorem ofChars_lt {front back : List Char} (less : front < back) :
    ofChars front < ofChars back := by
  induction less with
  | @nil first rest =>
      rw [ofChars_cons]
      have some := (encoded first).ne_nil
      generalize String.utf8EncodeChar first = bytes at some
      cases bytes with
      | nil => exact absurd rfl some
      | cons byte more => exact .nil
  | cons less ih =>
      rw [ofChars_cons, ofChars_cons]
      exact List.append_left_lt ih
  | @rel first rest second restToo less =>
      rw [ofChars_cons, ofChars_cons]
      exact (encoded first).lt (encoded second) less _ _

theorem ofText_lt {front back : String} (less : front < back) : ofText front < ofText back := by
  rw [ofText_eq_ofChars, ofText_eq_ofChars]
  exact ofChars_lt less

/-! ### Bytes that are text -/

def IsText (bytes : Bytes) : Prop := ∃ text, bytes = ofText text

theorem isText_ofText (text : String) : (ofText text).IsText := ⟨text, rfl⟩

theorem isText_ofChars (characters : List Char) : (ofChars characters).IsText :=
  ⟨String.ofList characters, (ofText_ofList characters).symm⟩

theorem isText_encodeChar (character : Char) : IsText (String.utf8EncodeChar character) := by
  have single := isText_ofChars [character]
  rw [ofChars_cons] at single
  exact List.append_nil (String.utf8EncodeChar character) ▸ single

theorem isText_nil : IsText [] := isText_ofChars []

theorem IsText.append {front back : Bytes} (first : front.IsText) (second : back.IsText) :
    IsText (front ++ back) := by
  obtain ⟨text, rfl⟩ := first
  obtain ⟨textToo, rfl⟩ := second
  exact ⟨text ++ textToo, (ofText_append text textToo).symm⟩

theorem ofChars_ofNat {code : Nat} (narrow : code < 128) :
    ofChars [Char.ofNat code] = [UInt8.ofNat code] := by
  have valid : code.isValidChar := .inl (by omega)
  have same : (Char.ofNat code).toNat = code := by
    unfold Char.ofNat
    rw [dif_pos valid]
    rfl
  rw [ofChars_cons, encodeChar_narrow (by omega), same]
  rfl

theorem isText_narrow {byte : UInt8} (narrow : byte.toNat < 128) : IsText [byte] := by
  have single := ofChars_ofNat narrow
  rw [UInt8.ofNat_toNat] at single
  exact single ▸ isText_ofChars _

theorem IsText.cons {byte : UInt8} {rest : Bytes} (text : rest.IsText)
    (narrow : byte.toNat < 128) : IsText (byte :: rest) := (isText_narrow narrow).append text

theorem IsText.text? {bytes : Bytes} (text : bytes.IsText) :
    ∃ read, bytes.text? = some read ∧ ofText read = bytes := by
  obtain ⟨read, rfl⟩ := text
  exact ⟨read, text?_ofText read, rfl⟩

/-! ### Bytes without a line feed -/

def IsSingleLine (text : String) : Prop := ∀ character ∈ text.toList, character.toNat ≠ 10

instance (text : String) : Decidable (IsSingleLine text) := List.decidableBAll _ text.toList

theorem IsSingleLine.append {front back : String} (first : IsSingleLine front)
    (second : IsSingleLine back) : IsSingleLine (front ++ back) := by
  unfold IsSingleLine
  rw [String.toList_append]
  exact List.forall_mem_append.mpr ⟨first, second⟩

theorem isSingleLine_ofList {characters : List Char}
    (apart : ∀ character ∈ characters, character.toNat ≠ 10) :
    IsSingleLine (String.ofList characters) := by
  unfold IsSingleLine
  rw [String.toList_ofList]
  exact apart

def Unbroken (bytes : Bytes) : Prop := ∀ byte ∈ bytes, byte ≠ 10

theorem unbroken_nil : Unbroken [] := fun _ none => absurd none List.not_mem_nil

theorem Unbroken.cons {byte : UInt8} {rest : Bytes} (apart : byte ≠ 10) (unbroken : rest.Unbroken) :
    Unbroken (byte :: rest) :=
  List.forall_mem_cons.mpr ⟨apart, unbroken⟩

theorem Unbroken.append {front back : Bytes} (first : front.Unbroken) (second : back.Unbroken) :
    Unbroken (front ++ back) :=
  List.forall_mem_append.mpr ⟨first, second⟩

theorem Unbroken.flatMap {α : Type} {items : List α} {print : α → Bytes}
    (unbroken : ∀ item ∈ items, (print item).Unbroken) : Unbroken (items.flatMap print) := by
  intro byte member
  obtain ⟨item, held, within⟩ := List.mem_flatMap.mp member
  exact unbroken item held byte within

theorem unbroken_encodeChar {character : Char} (apart : character.toNat ≠ 10) :
    Unbroken (String.utf8EncodeChar character) := by
  rintro byte member rfl
  by_cases narrow : character.toNat < 128
  · rw [encodeChar_narrow narrow, List.mem_singleton] at member
    have same := congrArg UInt8.toNat member
    rw [UInt8.toNat_ofNat', Nat.mod_eq_of_lt (by omega)] at same
    exact apart same.symm
  · have wide := (encoded character).wide (Nat.le_of_not_lt narrow) 10 member
    exact absurd wide (by decide)

theorem unbroken_ofText {text : String} (single : IsSingleLine text) : Unbroken (ofText text) := by
  rw [ofText_eq_ofChars]
  exact Unbroken.flatMap fun character member => unbroken_encodeChar (single character member)

end FramedEvents.Bytes
