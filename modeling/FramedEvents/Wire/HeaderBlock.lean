/-
The header block: headers one after the other, with nothing between them.

A header is the length of its name in one byte, the name, the code of the
value's type, and the value. Byte strings and texts carry their length in two
bytes in front. Numbers are big-endian in two's complement. The two truth
values are types of their own and have no body.
-/

import FramedEvents.Wire.FrameError
import FramedEvents.Wire.Header

namespace FramedEvents

def HeaderValue.typeCode : HeaderValue → UInt8
  | .bool true => 0
  | .bool false => 1
  | .byte _ => 2
  | .short _ => 3
  | .integer _ => 4
  | .long _ => 5
  | .binary _ => 6
  | .string _ => 7
  | .timestamp _ => 8
  | .uuid _ => 9

def HeaderValue.bodySize : HeaderValue → Nat
  | .bool _ => 0
  | .byte _ => 1
  | .short _ => 2
  | .integer _ => 4
  | .long _ => 8
  | .binary value => 2 + value.length
  | .string value => 2 + value.utf8ByteSize
  | .timestamp _ => 8
  | .uuid _ => 16

def Header.size (header : Header) : Nat :=
  1 + header.name.utf8ByteSize + (1 + header.value.bodySize)

namespace HeaderBlock

-- Sums of numbers start with the number zero, and not with that of some structure.
attribute [local instance (2000)] Zero.ofOfNat0

def size (headers : Headers) : Nat := (headers.map Header.size).sum

/-! ### Writing -/

def encodeCounted (name : String) (bytes : Bytes) : Except FrameError Bytes :=
  let length := bytes.length
  if length < 65536 then .ok (Bytes.ofNat 2 length ++ bytes)
  else .error (.malformedHeader (.valueLength name length))

def encodeBody (name : String) : HeaderValue → Except FrameError Bytes
  | .bool _ => .ok []
  | .byte value => .ok (Bytes.ofNat 1 value.toBitVec.toNat)
  | .short value => .ok (Bytes.ofNat 2 value.toBitVec.toNat)
  | .integer value => .ok (Bytes.ofNat 4 value.toBitVec.toNat)
  | .long value => .ok (Bytes.ofNat 8 value.toBitVec.toNat)
  | .binary value => encodeCounted name value
  | .string value => encodeCounted name (Bytes.ofText value)
  | .timestamp value => .ok (Bytes.ofNat 8 value.toBitVec.toNat)
  | .uuid value => .ok value.bytes

def encodeHeader (header : Header) : Except FrameError Bytes :=
  let length := header.name.utf8ByteSize
  if 0 < length ∧ length < 256 then
    (encodeBody header.name header.value).map fun body =>
      Bytes.ofNat 1 length ++ Bytes.ofText header.name ++ header.value.typeCode :: body
  else
    .error (.malformedHeader (.nameLength length))

/-- The whole block, or what is wrong with the first header that has no form on
the wire. -/
def encode : Headers → Except FrameError Bytes
  | [] => .ok []
  | header :: rest => do
      let front ← encodeHeader header
      let back ← encode rest
      return front ++ back

/-- What a header puts behind a buffer. A value that is too long is noticed only behind
the name and the code of the type. -/
def putHeader (header : Header) : Bytes × Except FrameError Unit :=
  let length := header.name.utf8ByteSize
  if 0 < length ∧ length < 256 then
    let front := Bytes.ofNat 1 length ++ Bytes.ofText header.name ++ [header.value.typeCode]
    match encodeBody header.name header.value with
    | .ok body => (front ++ body, .ok ())
    | .error error => (front, .error error)
  else
    ([], .error (.malformedHeader (.nameLength length)))

/-- What a block puts behind a buffer, up to the first header that has no form on the
wire and into it. -/
def put : Headers → Bytes × Except FrameError Unit
  | [] => ([], .ok ())
  | header :: rest =>
      match putHeader header with
      | (front, .ok ()) =>
          let later := put rest
          (front ++ later.1, later.2)
      | failed => failed

/-! ### Reading -/

def takeField (length : Nat) (field : String) (bytes : Bytes) : Except FrameError (Bytes × Bytes) :=
  let front := bytes.take length
  if front.length = length then .ok (front, bytes.drop length)
  else .error (.malformedHeader (.truncated field length bytes.length))

theorem takeField_eq_ok_iff {length : Nat} {field : String} {bytes front back : Bytes} :
    takeField length field bytes = .ok (front, back) ↔
      bytes = front ++ back ∧ front.length = length := by
  simp only [takeField]
  constructor
  · intro taken
    split at taken
    · rename_i whole
      injection taken with same
      injection same with sameFront sameBack
      subst sameFront sameBack
      exact ⟨(List.take_append_drop length bytes).symm, whole⟩
    · contradiction
  · rintro ⟨rfl, rfl⟩
    simp

def takeCounted (field : String) (bytes : Bytes) : Except FrameError (Bytes × Bytes) := do
  let (count, rest) ← takeField 2 field bytes
  takeField count.toNat field rest

def takeNumber (width : Nat) (field : String) (bytes : Bytes) : Except FrameError (Nat × Bytes) := do
  let (digits, rest) ← takeField width field bytes
  return (digits.toNat, rest)

def takeNumeric (width : Nat) (make : Nat → HeaderValue) (field : String) (bytes : Bytes) :
    Except FrameError (HeaderValue × Bytes) := do
  let (number, rest) ← takeNumber width field bytes
  return (make number, rest)

def takeUuid (field : String) (bytes : Bytes) : Except FrameError (Uuid × Bytes) :=
  match taken : takeField 16 field bytes with
  | .ok (front, rest) => .ok (⟨front, (takeField_eq_ok_iff.mp taken).2⟩, rest)
  | .error error => .error error

/-- The body of a value of the given type; `name` is the header it belongs to. -/
def decodeBody (name : String) (code : UInt8) (bytes : Bytes) :
    Except FrameError (HeaderValue × Bytes) := do
  match code with
  | 0 => return (.bool true, bytes)
  | 1 => return (.bool false, bytes)
  | 2 => takeNumeric 1 (fun number => .byte (Int8.ofBitVec (BitVec.ofNat 8 number))) name bytes
  | 3 => takeNumeric 2 (fun number => .short (Int16.ofBitVec (BitVec.ofNat 16 number))) name bytes
  | 4 => takeNumeric 4 (fun number => .integer (Int32.ofBitVec (BitVec.ofNat 32 number))) name bytes
  | 5 => takeNumeric 8 (fun number => .long (Int64.ofBitVec (BitVec.ofNat 64 number))) name bytes
  | 6 =>
      let (value, rest) ← takeCounted name bytes
      return (.binary value, rest)
  | 7 =>
      let (value, rest) ← takeCounted name bytes
      match value.text? with
      | some text => return (.string text, rest)
      | none => throw (.malformedHeader (.valueNotUtf8 name))
  | 8 =>
      takeNumeric 8 (fun number => .timestamp (Int64.ofBitVec (BitVec.ofNat 64 number))) name bytes
  | 9 =>
      let (value, rest) ← takeUuid name bytes
      return (.uuid value, rest)
  | other => throw (.unknownHeaderType other)

/-- The first header of a block that begins with `length` and goes on with
`bytes`, and what follows it. -/
def decodeHeader (length : UInt8) (bytes : Bytes) : Except FrameError (Header × Bytes) :=
  if length = 0 then
    .error (.malformedHeader .emptyName)
  else
    match takeField length.toNat "header name" bytes with
    | .error error => .error error
    | .ok (rawName, afterName) =>
        match rawName.text?, afterName with
        | none, _ => .error (.malformedHeader .nameNotUtf8)
        | some name, [] => .error (.malformedHeader (.truncated name 1 0))
        | some name, code :: afterCode =>
            (decodeBody name code afterCode).map fun (value, rest) => (⟨name, value⟩, rest)

/-! ### Every header uses up bytes -/

theorem takeCounted_shrinks {field : String} {bytes front back : Bytes}
    (taken : takeCounted field bytes = .ok (front, back)) : back.length ≤ bytes.length := by
  simp only [takeCounted, bind, Except.bind] at taken
  split at taken
  · contradiction
  · rename_i first count
    obtain ⟨rfl, _⟩ := takeField_eq_ok_iff.mp count
    obtain ⟨same, _⟩ := takeField_eq_ok_iff.mp taken
    have := congrArg List.length same
    simp only [List.length_append] at this ⊢
    omega

theorem takeNumber_shrinks {width number : Nat} {field : String} {bytes back : Bytes}
    (taken : takeNumber width field bytes = .ok (number, back)) : back.length ≤ bytes.length := by
  simp only [takeNumber, bind, Except.bind, pure, Except.pure] at taken
  split at taken
  · contradiction
  · rename_i first digits
    obtain ⟨rfl, _⟩ := takeField_eq_ok_iff.mp digits
    injection taken with same
    injection same with _ sameBack
    subst sameBack
    simp only [List.length_append]
    omega

theorem takeNumeric_shrinks {width : Nat} {make : Nat → HeaderValue} {field : String}
    {bytes back : Bytes} {value : HeaderValue}
    (taken : takeNumeric width make field bytes = .ok (value, back)) :
    back.length ≤ bytes.length := by
  simp only [takeNumeric, bind, Except.bind, pure, Except.pure] at taken
  split at taken
  · contradiction
  · rename_i pair digits
    injection taken with same
    injection same with _ sameBack
    subst sameBack
    exact takeNumber_shrinks digits

theorem takeUuid_shrinks {field : String} {uuid : Uuid} {bytes back : Bytes}
    (taken : takeUuid field bytes = .ok (uuid, back)) : back.length ≤ bytes.length := by
  simp only [takeUuid] at taken
  split at taken
  · rename_i front rest whole
    obtain ⟨rfl, _⟩ := takeField_eq_ok_iff.mp whole
    injection taken with same
    injection same with _ sameBack
    subst sameBack
    simp only [List.length_append]
    omega
  · contradiction

theorem decodeBody_shrinks {name : String} {code : UInt8} {bytes back : Bytes}
    {value : HeaderValue} (read : decodeBody name code bytes = .ok (value, back)) :
    back.length ≤ bytes.length := by
  unfold decodeBody at read
  simp only [bind, Except.bind, pure, Except.pure] at read
  repeat' split at read
  all_goals first
    | contradiction
    | exact takeNumeric_shrinks read
    | (injection read with same
       injection same with _ sameBack
       subst sameBack
       first
         | exact Nat.le_refl _
         | exact takeCounted_shrinks (by assumption)
         | exact takeUuid_shrinks (by assumption))

theorem decodeHeader_shrinks {length : UInt8} {bytes back : Bytes} {header : Header}
    (read : decodeHeader length bytes = .ok (header, back)) : back.length < bytes.length := by
  unfold decodeHeader at read
  split at read
  · contradiction
  · split at read
    · contradiction
    · rename_i rawName afterName named
      obtain ⟨rfl, _⟩ := takeField_eq_ok_iff.mp named
      split at read
      · contradiction
      · contradiction
      · rename_i name code afterCode valid
        cases body : decodeBody name code afterCode with
        | error error =>
            rw [body] at read
            contradiction
        | ok pair =>
            have shrinks : pair.2.length ≤ afterCode.length := decodeBody_shrinks body
            rw [body] at read
            injection read with same
            injection same with _ sameBack
            subst sameBack
            simp only [List.length_append, List.length_cons]
            omega

/-- The headers of a whole block. -/
def decode (bytes : Bytes) : Except FrameError Headers :=
  match bytes with
  | [] => .ok []
  | length :: body =>
      match _read : decodeHeader length body with
      | .error error => .error error
      | .ok (header, rest) => (decode rest).map (header :: ·)
termination_by bytes.length
decreasing_by
  have := decodeHeader_shrinks _read
  simp only [List.length_cons]
  omega

end HeaderBlock

end FramedEvents
