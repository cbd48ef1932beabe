/-
Exactness of the header block.

Each reader of a field accepts exactly what its writer produces, in front of any
further bytes: numbers, counted bytes and identifiers first, then the bodies of
the nine value types, a whole header, and the block. A block therefore has one
list of headers, and a list of headers has at most one block.
-/

import FramedEvents.Wire.HeaderBlock
import Mathlib.Algebra.GroupWithZero.Nat

namespace FramedEvents

/-! ### Results that follow one another -/

theorem bind_eq_ok_iff {ε α β : Type} {first : Except ε α} {next : α → Except ε β} {last : β} :
    first >>= next = .ok last ↔ ∃ middle, first = .ok middle ∧ next middle = .ok last := by
  cases first with
  | error reason =>
      constructor
      · intro impossible
        contradiction
      · rintro ⟨middle, impossible, _⟩
        contradiction
  | ok middle =>
      constructor
      · intro reached
        exact ⟨middle, rfl, reached⟩
      · rintro ⟨last, same, reached⟩
        cases same
        exact reached

theorem map_eq_ok_iff {ε α β : Type} {first : Except ε α} {change : α → β} {last : β} :
    first.map change = .ok last ↔ ∃ middle, first = .ok middle ∧ change middle = last := by
  cases first with
  | error reason => simp [Except.map]
  | ok middle => simp [Except.map]

namespace HeaderBlock

/-! ### Numbers, counted bytes and identifiers -/

theorem takeNumber_eq_ok_iff {width number : Nat} {field : String} {bytes rest : Bytes} :
    takeNumber width field bytes = .ok (number, rest) ↔
      number < 256 ^ width ∧ bytes = Bytes.ofNat width number ++ rest := by
  constructor
  · intro read
    simp only [takeNumber, bind, Except.bind, pure, Except.pure] at read
    split at read
    · contradiction
    · rename_i pair taken
      obtain ⟨digits, back⟩ := pair
      obtain ⟨whole, wide⟩ := takeField_eq_ok_iff.mp taken
      injection read with same
      injection same with sameNumber sameRest
      subst sameNumber sameRest whole wide
      exact ⟨digits.toNat_lt, by rw [digits.ofNat_toNat]⟩
  · rintro ⟨bounded, rfl⟩
    have taken : takeField width field (Bytes.ofNat width number ++ rest) =
        .ok (Bytes.ofNat width number, rest) :=
      takeField_eq_ok_iff.mpr ⟨rfl, Bytes.length_ofNat width number⟩
    simp only [takeNumber, taken, bind, Except.bind, pure, Except.pure, Bytes.toNat_ofNat,
      Nat.mod_eq_of_lt bounded]

theorem takeCounted_eq_ok_iff (name : String) {field : String} {bytes value rest : Bytes} :
    takeCounted field bytes = .ok (value, rest) ↔
      ∃ counted, encodeCounted name value = .ok counted ∧ bytes = counted ++ rest := by
  constructor
  · intro read
    simp only [takeCounted, bind, Except.bind] at read
    split at read
    · contradiction
    · rename_i pair taken
      obtain ⟨count, back⟩ := pair
      change takeField count.toNat field back = .ok (value, rest) at read
      obtain ⟨whole, two⟩ := takeField_eq_ok_iff.mp taken
      obtain ⟨inner, long⟩ := takeField_eq_ok_iff.mp read
      have bounded : value.length < 65536 := by
        have := count.toNat_lt
        rw [two] at this
        omega
      refine ⟨Bytes.ofNat 2 value.length ++ value, by simp [encodeCounted, bounded], ?_⟩
      have digits : Bytes.ofNat 2 value.length = count := by
        rw [long, ← two, count.ofNat_toNat]
      rw [digits, whole, inner, List.append_assoc]
  · rintro ⟨counted, written, rfl⟩
    simp only [encodeCounted] at written
    split at written
    · rename_i bounded
      injection written with same
      have count : takeField 2 field (counted ++ rest) =
          .ok (Bytes.ofNat 2 value.length, value ++ rest) :=
        takeField_eq_ok_iff.mpr
          ⟨by rw [← same, List.append_assoc], Bytes.length_ofNat 2 value.length⟩
      have number : (Bytes.ofNat 2 value.length).toNat = value.length := by
        rw [Bytes.toNat_ofNat]
        exact Nat.mod_eq_of_lt bounded
      simp only [takeCounted, count, bind, Except.bind]
      exact takeField_eq_ok_iff.mpr ⟨rfl, number.symm⟩
    · contradiction

theorem takeUuid_eq_ok_iff {field : String} {bytes rest : Bytes} {uuid : Uuid} :
    takeUuid field bytes = .ok (uuid, rest) ↔ bytes = uuid.bytes ++ rest := by
  constructor
  · intro read
    simp only [takeUuid] at read
    split at read
    · rename_i front back taken
      injection read with same
      injection same with sameUuid sameRest
      subst sameUuid sameRest
      exact (takeField_eq_ok_iff.mp taken).1
    · contradiction
  · rintro rfl
    have taken : takeField 16 field (uuid.bytes ++ rest) = .ok (uuid.bytes, rest) :=
      takeField_eq_ok_iff.mpr ⟨rfl, uuid.length_bytes⟩
    simp only [takeUuid]
    split
    · rename_i front back split
      rw [taken] at split
      injection split with same
      injection same with sameFront sameBack
      subst sameFront sameBack
      rfl
    · rename_i error failed
      rw [taken] at failed
      contradiction

/-! ### Values -/

theorem takeNumeric_eq_ok_iff {width : Nat} {make : Nat → HeaderValue} {name : String}
    {bytes rest : Bytes} {value : HeaderValue} :
    takeNumeric width make name bytes = .ok (value, rest) ↔
      ∃ number, number < 256 ^ width ∧ make number = value ∧
        bytes = Bytes.ofNat width number ++ rest := by
  rw [takeNumeric, bind_eq_ok_iff]
  constructor
  · rintro ⟨⟨number, back⟩, taken, made⟩
    obtain ⟨bounded, whole⟩ := takeNumber_eq_ok_iff.mp taken
    cases made
    exact ⟨number, bounded, rfl, whole⟩
  · rintro ⟨number, bounded, rfl, whole⟩
    exact ⟨(number, rest), takeNumber_eq_ok_iff.mpr ⟨bounded, whole⟩, rfl⟩

/-- The body of a value is read exactly where a writer would have put it behind
the code of its type. -/
theorem decodeBody_eq_ok_iff {name : String} {code : UInt8} {bytes rest : Bytes}
    {value : HeaderValue} :
    decodeBody name code bytes = .ok (value, rest) ↔
      ∃ body, encodeBody name value = .ok body ∧ value.typeCode = code ∧ bytes = body ++ rest := by
  constructor
  · intro read
    unfold decodeBody at read
    split at read
    · cases read
      exact ⟨[], rfl, rfl, rfl⟩
    · cases read
      exact ⟨[], rfl, rfl, rfl⟩
    · obtain ⟨number, bounded, rfl, whole⟩ := takeNumeric_eq_ok_iff.mp read
      have small : number % 2 ^ 8 = number := Nat.mod_eq_of_lt bounded
      exact ⟨_, rfl, rfl, by rw [Int8.toBitVec_ofBitVec, BitVec.toNat_ofNat, small, whole]⟩
    · obtain ⟨number, bounded, rfl, whole⟩ := takeNumeric_eq_ok_iff.mp read
      have small : number % 2 ^ 16 = number := Nat.mod_eq_of_lt bounded
      exact ⟨_, rfl, rfl, by rw [Int16.toBitVec_ofBitVec, BitVec.toNat_ofNat, small, whole]⟩
    · obtain ⟨number, bounded, rfl, whole⟩ := takeNumeric_eq_ok_iff.mp read
      have small : number % 2 ^ 32 = number := Nat.mod_eq_of_lt bounded
      exact ⟨_, rfl, rfl, by rw [Int32.toBitVec_ofBitVec, BitVec.toNat_ofNat, small, whole]⟩
    · obtain ⟨number, bounded, rfl, whole⟩ := takeNumeric_eq_ok_iff.mp read
      have small : number % 2 ^ 64 = number := Nat.mod_eq_of_lt bounded
      exact ⟨_, rfl, rfl, by rw [Int64.toBitVec_ofBitVec, BitVec.toNat_ofNat, small, whole]⟩
    · obtain ⟨⟨raw, back⟩, taken, made⟩ := bind_eq_ok_iff.mp read
      obtain ⟨counted, written, whole⟩ := (takeCounted_eq_ok_iff name).mp taken
      cases made
      exact ⟨counted, written, rfl, whole⟩
    · obtain ⟨⟨raw, back⟩, taken, made⟩ := bind_eq_ok_iff.mp read
      obtain ⟨counted, written, whole⟩ := (takeCounted_eq_ok_iff name).mp taken
      cases valid : raw.text? with
      | none => simp [valid] at made
      | some text =>
          simp only [valid] at made
          cases made
          refine ⟨counted, ?_, rfl, whole⟩
          rw [encodeBody, Bytes.ofText_of_text? valid, written]
    · obtain ⟨number, bounded, rfl, whole⟩ := takeNumeric_eq_ok_iff.mp read
      have small : number % 2 ^ 64 = number := Nat.mod_eq_of_lt bounded
      exact ⟨_, rfl, rfl, by rw [Int64.toBitVec_ofBitVec, BitVec.toNat_ofNat, small, whole]⟩
    · obtain ⟨⟨uuid, back⟩, taken, made⟩ := bind_eq_ok_iff.mp read
      cases made
      exact ⟨uuid.bytes, rfl, rfl, takeUuid_eq_ok_iff.mp taken⟩
    · contradiction
  · rintro ⟨body, written, rfl, rfl⟩
    cases value with
    | bool value =>
        cases written
        cases value <;> rfl
    | byte value =>
        cases written
        rw [HeaderValue.typeCode, decodeBody, takeNumeric_eq_ok_iff]
        exact ⟨value.toBitVec.toNat, value.toBitVec.isLt, by simp, rfl⟩
    | short value =>
        cases written
        rw [HeaderValue.typeCode, decodeBody, takeNumeric_eq_ok_iff]
        exact ⟨value.toBitVec.toNat, value.toBitVec.isLt, by simp, rfl⟩
    | integer value =>
        cases written
        rw [HeaderValue.typeCode, decodeBody, takeNumeric_eq_ok_iff]
        exact ⟨value.toBitVec.toNat, value.toBitVec.isLt, by simp, rfl⟩
    | long value =>
        cases written
        rw [HeaderValue.typeCode, decodeBody, takeNumeric_eq_ok_iff]
        exact ⟨value.toBitVec.toNat, value.toBitVec.isLt, by simp, rfl⟩
    | binary value =>
        have taken : takeCounted name (body ++ rest) = .ok (value, rest) :=
          (takeCounted_eq_ok_iff name).mpr ⟨body, written, rfl⟩
        exact bind_eq_ok_iff.mpr ⟨(value, rest), taken, rfl⟩
    | string value =>
        have taken : takeCounted name (body ++ rest) = .ok (Bytes.ofText value, rest) :=
          (takeCounted_eq_ok_iff name).mpr ⟨body, written, rfl⟩
        refine bind_eq_ok_iff.mpr ⟨(Bytes.ofText value, rest), taken, ?_⟩
        simp only [Bytes.text?_ofText]
        rfl
    | timestamp value =>
        cases written
        rw [HeaderValue.typeCode, decodeBody, takeNumeric_eq_ok_iff]
        exact ⟨value.toBitVec.toNat, value.toBitVec.isLt, by simp, rfl⟩
    | uuid value =>
        cases written
        exact bind_eq_ok_iff.mpr ⟨(value, rest), takeUuid_eq_ok_iff.mpr rfl, rfl⟩

/-! ### Headers -/

theorem decodeHeader_eq_ok_iff {length : UInt8} {bytes rest : Bytes} {header : Header} :
    decodeHeader length bytes = .ok (header, rest) ↔
      ∃ front, encodeHeader header = .ok (length :: front) ∧ bytes = front ++ rest := by
  constructor
  · intro read
    simp only [decodeHeader] at read
    split at read
    · contradiction
    · rename_i positive
      split at read
      · contradiction
      · rename_i rawName afterName taken
        obtain ⟨whole, long⟩ := takeField_eq_ok_iff.mp taken
        split at read
        · contradiction
        · contradiction
        · rename_i name code afterCode valid
          obtain ⟨⟨value, back⟩, body, made⟩ := map_eq_ok_iff.mp read
          obtain ⟨written, encoded, sameCode, follows⟩ := decodeBody_eq_ok_iff.mp body
          cases made
          have sameName : Bytes.ofText name = rawName := Bytes.ofText_of_text? valid
          have size : name.utf8ByteSize = length.toNat := by
            rw [← Bytes.length_ofText, sameName, long]
          have bounds : 0 < name.utf8ByteSize ∧ name.utf8ByteSize < 256 := by
            have := length.toNat_lt
            have : length.toNat ≠ 0 := fun zero => positive (UInt8.toNat.inj zero)
            omega
          refine ⟨rawName ++ code :: written, ?_, ?_⟩
          · rw [encodeHeader, if_pos bounds, encoded, sameCode, sameName, size]
            simp [Except.map, Bytes.ofNat]
          · rw [whole, follows, List.append_assoc, List.cons_append]
  · rintro ⟨front, written, rfl⟩
    simp only [encodeHeader] at written
    split at written
    · rename_i bounds
      obtain ⟨body, encoded, made⟩ := map_eq_ok_iff.mp written
      simp only [Bytes.ofNat, Nat.pow_zero, Nat.div_one, Nat.mod_eq_of_lt bounds.2,
        List.cons_append, List.nil_append, List.cons.injEq] at made
      obtain ⟨sameLength, sameFront⟩ := made
      have size : length.toNat = header.name.utf8ByteSize := by
        rw [← sameLength]
        simp [Nat.mod_eq_of_lt bounds.2]
      have positive : length ≠ 0 := by
        rintro rfl
        simp at size
        omega
      have taken : takeField length.toNat "header name" (front ++ rest) =
          .ok (Bytes.ofText header.name, header.value.typeCode :: (body ++ rest)) := by
        refine takeField_eq_ok_iff.mpr ⟨?_, size.symm⟩
        rw [← sameFront, List.append_assoc, List.cons_append]
      have read : decodeBody header.name header.value.typeCode (body ++ rest) =
          .ok (header.value, rest) := decodeBody_eq_ok_iff.mpr ⟨body, encoded, rfl, rfl⟩
      simp only [decodeHeader, if_neg positive, taken, Bytes.text?_ofText, read, Except.map]
    · contradiction

/-! ### The whole block -/

theorem encode_cons_eq_ok_iff {header : Header} {headers : Headers} {block : Bytes} :
    encode (header :: headers) = .ok block ↔
      ∃ front back, encodeHeader header = .ok front ∧ encode headers = .ok back ∧
        block = front ++ back := by
  rw [encode, bind_eq_ok_iff]
  constructor
  · rintro ⟨front, first, others⟩
    obtain ⟨back, later, joined⟩ := bind_eq_ok_iff.mp others
    cases joined
    exact ⟨front, back, first, later, rfl⟩
  · rintro ⟨front, back, first, later, rfl⟩
    exact ⟨front, first, bind_eq_ok_iff.mpr ⟨back, later, rfl⟩⟩

theorem exists_cons_of_encodeHeader {header : Header} {front : Bytes}
    (written : encodeHeader header = .ok front) : ∃ length body, front = length :: body := by
  simp only [encodeHeader] at written
  split at written
  · obtain ⟨body, _, made⟩ := map_eq_ok_iff.mp written
    exact ⟨_, _, made.symm⟩
  · contradiction

/-- A block is read as some headers exactly if it is what a writer makes of
these headers. -/
theorem decode_eq_ok_iff {block : Bytes} {headers : Headers} :
    decode block = .ok headers ↔ encode headers = .ok block := by
  constructor
  · intro read
    fun_induction decode block generalizing headers with
    | case1 =>
        cases read
        rfl
    | case2 length body error failed => contradiction
    | case3 length body header rest first ih =>
        obtain ⟨others, later, made⟩ := map_eq_ok_iff.mp read
        obtain ⟨front, written, whole⟩ := decodeHeader_eq_ok_iff.mp first
        rw [← made, encode_cons_eq_ok_iff]
        exact ⟨length :: front, rest, written, ih later, by rw [whole, List.cons_append]⟩
  · intro written
    induction headers generalizing block with
    | nil =>
        cases written
        rw [decode]
    | cons header headers ih =>
        obtain ⟨front, back, first, later, rfl⟩ := encode_cons_eq_ok_iff.mp written
        obtain ⟨length, body, rfl⟩ := exists_cons_of_encodeHeader first
        have read : decodeHeader length (body ++ back) = .ok (header, back) :=
          decodeHeader_eq_ok_iff.mpr ⟨body, first, rfl⟩
        rw [List.cons_append, decode]
        split
        · rename_i error failed
          rw [read] at failed
          contradiction
        · rename_i found rest same
          rw [read] at same
          cases same
          rw [ih later, Except.map]

/-! ### Sizes -/

theorem length_encodeBody {name : String} {value : HeaderValue} {body : Bytes}
    (written : encodeBody name value = .ok body) : body.length = value.bodySize := by
  have counted {bytes : Bytes} (wrote : encodeCounted name bytes = .ok body) :
      body.length = 2 + bytes.length := by
    simp only [encodeCounted] at wrote
    split at wrote
    · cases wrote
      simp
    · contradiction
  cases value with
  | binary value => exact counted written
  | string value => exact counted written
  | uuid value =>
      cases written
      exact value.length_bytes
  | _ =>
      cases written
      simp [HeaderValue.bodySize]

theorem length_encodeHeader {header : Header} {front : Bytes}
    (written : encodeHeader header = .ok front) : front.length = header.size := by
  simp only [encodeHeader] at written
  split at written
  · obtain ⟨body, encoded, made⟩ := map_eq_ok_iff.mp written
    have size := length_encodeBody encoded
    rw [← made, Header.size, ← size]
    simp
    omega
  · contradiction

theorem length_encode {headers : Headers} {block : Bytes}
    (written : encode headers = .ok block) : block.length = size headers := by
  induction headers generalizing block with
  | nil =>
      cases written
      rfl
  | cons header headers ih =>
      obtain ⟨front, back, first, later, rfl⟩ := encode_cons_eq_ok_iff.mp written
      rw [List.length_append, length_encodeHeader first, ih later]
      simp [size]

end HeaderBlock

end FramedEvents
