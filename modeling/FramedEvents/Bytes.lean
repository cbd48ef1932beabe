/-
Byte strings and the fixed-width big-endian numbers inside them.

A number of a given width is written most significant byte first. Reading is
defined for every byte string, writing for every number: what does not fit in
the width is reduced modulo its range, so the two are inverse exactly on the
numbers that fit and on the byte strings of that width.
-/

namespace FramedEvents

abbrev Bytes := List UInt8

namespace Bytes

-- The powers of numbers are meant, and not those of some monoid.
attribute [local instance (2000)] instPowNat

/-- The big-endian digits of `value` to base 256, exactly `width` of them. -/
def ofNat : (width : Nat) → (value : Nat) → Bytes
  | 0, _ => []
  | width + 1, value => (value / 256 ^ width % 256).toUInt8 :: ofNat width value

/-- The number whose big-endian digits to base 256 are these bytes. -/
def toNat (bytes : Bytes) : Nat :=
  bytes.foldl (fun number byte => number * 256 + byte.toNat) 0

@[simp]
theorem length_ofNat (width value : Nat) : (ofNat width value).length = width := by
  induction width with
  | zero => rfl
  | succ width ih => simp [ofNat, ih]

private theorem foldl_digits (bytes : Bytes) (start : Nat) :
    bytes.foldl (fun number byte => number * 256 + byte.toNat) start =
      start * 256 ^ bytes.length + toNat bytes := by
  induction bytes generalizing start with
  | nil => simp [toNat]
  | cons byte rest ih =>
      have wide := ih (0 * 256 + byte.toNat)
      rw [List.foldl_cons, ih, show toNat (byte :: rest) = _ from wide, List.length_cons,
        Nat.pow_succ, Nat.add_mul, Nat.zero_mul, Nat.zero_add, Nat.mul_assoc, Nat.mul_comm 256]
      omega

theorem toNat_cons (byte : UInt8) (rest : Bytes) :
    toNat (byte :: rest) = byte.toNat * 256 ^ rest.length + toNat rest := by
  rw [toNat, List.foldl_cons, foldl_digits]
  simp

theorem toNat_lt (bytes : Bytes) : toNat bytes < 256 ^ bytes.length := by
  induction bytes with
  | nil => simp [toNat]
  | cons byte rest ih =>
      have digit := byte.toNat_lt
      rw [toNat_cons, List.length_cons, Nat.pow_succ]
      have scaled : byte.toNat * 256 ^ rest.length ≤ 255 * 256 ^ rest.length :=
        Nat.mul_le_mul_right _ (by omega)
      omega

/-- Writing then reading reduces a number modulo the range of the width. -/
theorem toNat_ofNat (width value : Nat) : toNat (ofNat width value) = value % 256 ^ width := by
  induction width with
  | zero => simp [ofNat, toNat, Nat.mod_one]
  | succ width ih =>
      have digit : value / 256 ^ width % 256 < UInt8.size := Nat.mod_lt _ (by decide)
      rw [ofNat, toNat_cons, ih, length_ofNat, Nat.toUInt8_eq, UInt8.toNat_ofNat_of_lt' digit,
        Nat.pow_succ, Nat.mod_mul, Nat.mul_comm]
      omega

theorem ofNat_toNat (bytes : Bytes) : ofNat bytes.length (toNat bytes) = bytes := by
  suffices all : ∀ higher, ofNat bytes.length (higher * 256 ^ bytes.length + toNat bytes) = bytes by
    simpa using all 0
  induction bytes with
  | nil => intro higher; rfl
  | cons byte rest ih =>
      intro higher
      have restLt := toNat_lt rest
      have positive : 0 < 256 ^ rest.length := Nat.pow_pos (by decide)
      have regroup : higher * 256 ^ (rest.length + 1) + toNat (byte :: rest) =
          (higher * 256 + byte.toNat) * 256 ^ rest.length + toNat rest := by
        rw [toNat_cons, Nat.pow_succ, Nat.add_mul, Nat.mul_assoc, Nat.mul_comm 256]
        omega
      have leading : ((higher * 256 + byte.toNat) * 256 ^ rest.length + toNat rest) /
          256 ^ rest.length = higher * 256 + byte.toNat := by
        rw [Nat.mul_comm, Nat.mul_add_div positive, Nat.div_eq_of_lt restLt, Nat.add_zero]
      have digit : (higher * 256 + byte.toNat) % 256 = byte.toNat := by
        have := byte.toNat_lt
        omega
      rw [List.length_cons, ofNat, regroup, leading, digit, ih]
      simp

private def hexDigits : List Char :=
  ['0', '1', '2', '3', '4', '5', '6', '7', '8', '9', 'a', 'b', 'c', 'd', 'e', 'f']

private def hexDigit (digit : Nat) : Char := hexDigits.getD digit '0'

def hex (bytes : Bytes) : String :=
  String.ofList (bytes.flatMap fun byte => [hexDigit (byte.toNat / 16), hexDigit (byte.toNat % 16)])

/-- The text these bytes encode in UTF-8, if they are valid UTF-8. -/
def text? (bytes : Bytes) : Option String := String.fromUTF8? ⟨bytes.toArray⟩

def ofText (text : String) : Bytes := text.toByteArray.data.toList

@[simp]
theorem length_ofText (text : String) : (ofText text).length = text.utf8ByteSize := by
  rfl

@[simp]
theorem text?_ofText (text : String) : (ofText text).text? = some text := by
  show String.fromUTF8? text.toByteArray = some text
  rw [String.fromUTF8?, dif_pos text.isValidUTF8]
  rfl

theorem ofText_of_text? {bytes : Bytes} {text : String} (valid : bytes.text? = some text) :
    ofText text = bytes := by
  simp only [text?, String.fromUTF8?] at valid
  split at valid
  · injection valid with same
    subst same
    rfl
  · contradiction

end Bytes

end FramedEvents
