/-
A header block that is cut.

A reader of headers takes one field after the other off the front of its bytes. Whatever it
would read with success, it reads just so from a front of these bytes that is long enough,
and from any other front it finds that a field is truncated. So a block that is cut between
two headers is read as the headers before the cut, and one that is cut inside a header is
refused for it: no front of a block passes for other headers.
-/

import FramedEvents.Proofs.Wire.Faults
import Mathlib.Logic.Basic
import Mathlib.Tactic.Convert

namespace FramedEvents

def FrameError.IsTruncation (error : FrameError) : Prop :=
  ∃ field due left, left < due ∧ error = .malformedHeader (.truncated field due left)

namespace HeaderBlock

variable {α β : Type}

/-! ### Readers that are given only a front -/

/-- What this reader reads with success, it also reads from a front, or else finds the front
truncated. -/
def ReadsFronts (reader : Bytes → Except FrameError (α × Bytes)) : Prop :=
  ∀ front more value rest, reader (front ++ more) = .ok (value, rest) →
    (∃ left, reader front = .ok (value, left) ∧ rest = left ++ more) ∨
      ∃ error, reader front = .error error ∧ error.IsTruncation

theorem readsFronts_pure (value : α) :
    ReadsFronts fun bytes => (.ok (value, bytes) : Except FrameError (α × Bytes)) := by
  intro front more found rest read
  cases read
  exact .inl ⟨front, rfl, rfl⟩

theorem ReadsFronts.bind {first : Bytes → Except FrameError (α × Bytes)}
    {next : α → Bytes → Except FrameError (β × Bytes)} (reads : ReadsFronts first)
    (later : ∀ value, ReadsFronts (next value)) :
    ReadsFronts fun bytes => first bytes >>= fun pair => next pair.1 pair.2 := by
  intro front more value rest read
  rcases bind_eq_ok_iff.mp read with ⟨⟨found, behind⟩, began, ended⟩
  rcases reads front more found behind began with
    ⟨left, whole, rfl⟩ | ⟨error, failed, truncation⟩
  · rcases later found left more value rest ended with
      ⟨last, done, same⟩ | ⟨error, failed, truncation⟩
    · left
      exact ⟨last, bind_eq_ok_iff.mpr ⟨_, whole, done⟩, same⟩
    · right
      exact ⟨error, bind_eq_error_iff.mpr (.inr ⟨_, whole, failed⟩), truncation⟩
  · right
    exact ⟨error, bind_eq_error_iff.mpr (.inl failed), truncation⟩

theorem takeField_readsFronts (length : Nat) (field : String) :
    ReadsFronts (takeField length field) := by
  intro front more value rest read
  rcases takeField_eq_ok_iff.mp read with ⟨whole, long⟩
  by_cases enough : length ≤ front.length
  · left
    have apart : front = value ++ front.drop length ∧ rest = front.drop length ++ more := by
      have parts : front.take length ++ (front.drop length ++ more) = value ++ rest := by
        rw [← List.append_assoc, List.take_append_drop, whole]
      have same := List.append_inj parts (by simp [long, enough])
      exact ⟨by rw [← same.1, List.take_append_drop], same.2.symm⟩
    exact ⟨front.drop length, takeField_eq_ok_iff.mpr ⟨apart.1, long⟩, apart.2⟩
  · right
    have short : (front.take length).length ≠ length := by
      simp
      omega
    exact ⟨_, if_neg short, field, length, front.length, by omega, rfl⟩

theorem takeCounted_readsFronts (field : String) : ReadsFronts (takeCounted field) :=
  .bind (takeField_readsFronts 2 field) fun count => takeField_readsFronts count.toNat field

theorem takeNumeric_readsFronts (width : Nat) (make : Nat → HeaderValue) (field : String) :
    ReadsFronts (takeNumeric width make field) := by
  have number : ReadsFronts (takeNumber width field) :=
    .bind (takeField_readsFronts width field) fun digits => readsFronts_pure digits.toNat
  exact .bind number fun number => readsFronts_pure (make number)

theorem takeUuid_readsFronts (field : String) : ReadsFronts (takeUuid field) := by
  intro front more uuid rest read
  have taken : takeField 16 field (front ++ more) = .ok (uuid.bytes, rest) :=
    takeField_eq_ok_iff.mpr ⟨takeUuid_eq_ok_iff.mp read, uuid.length_bytes⟩
  rcases takeField_readsFronts 16 field front more uuid.bytes rest taken with
    ⟨left, whole, same⟩ | ⟨error, failed, truncation⟩
  · left
    exact ⟨left, takeUuid_eq_ok_iff.mpr (takeField_eq_ok_iff.mp whole).1, same⟩
  · right
    refine ⟨error, ?_, truncation⟩
    unfold takeUuid
    split
    · rename_i found
      rw [failed] at found
      cases found
    · rename_i found
      rw [failed] at found
      cases found
      rfl

/-- The value of a header that is a string, if the bytes are a text. -/
def asText (name : String) (value rest : Bytes) : Except FrameError (HeaderValue × Bytes) :=
  value.text?.elim (.error (.malformedHeader (.valueNotUtf8 name)))
    fun text => .ok (.string text, rest)

theorem asText_readsFronts (name : String) (value : Bytes) : ReadsFronts (asText name value) := by
  unfold asText
  cases value.text? with
  | some text => exact readsFronts_pure (HeaderValue.string text)
  | none =>
      intro front more found rest impossible
      cases impossible

theorem decodeBody_readsFronts (name : String) (code : UInt8) :
    ReadsFronts (decodeBody name code) := by
  unfold decodeBody
  split
  · exact readsFronts_pure _
  · exact readsFronts_pure _
  · exact takeNumeric_readsFronts _ _ name
  · exact takeNumeric_readsFronts _ _ name
  · exact takeNumeric_readsFronts _ _ name
  · exact takeNumeric_readsFronts _ _ name
  · exact .bind (takeCounted_readsFronts name) fun value =>
      readsFronts_pure (HeaderValue.binary value)
  · convert ReadsFronts.bind (takeCounted_readsFronts name) (asText_readsFronts name)
      using 2 with bytes
    rcases takeCounted name bytes with error | ⟨value, rest⟩
    · rfl
    · simp only [bind, Except.bind, asText]
      cases value.text? <;> rfl
  · exact takeNumeric_readsFronts _ _ name
  · exact .bind (takeUuid_readsFronts name) fun value => readsFronts_pure (HeaderValue.uuid value)
  · intro front more found rest impossible
    cases impossible

/-! ### Headers -/

theorem decodeHeader_readsFronts (length : UInt8) : ReadsFronts (decodeHeader length) := by
  intro front more header rest read
  unfold decodeHeader at read ⊢
  split at read
  · cases read
  · rename_i positive
    rw [if_neg positive]
    split at read
    · cases read
    · rename_i rawName afterName named
      rcases takeField_readsFronts _ _ front more rawName afterName named with
        ⟨left, whole, rfl⟩ | ⟨error, failed, truncation⟩
      · rw [whole]
        split at read
        · cases read
        · cases read
        · rename_i name code afterCode valid follows
          dsimp only
          rw [valid]
          cases left with
          | nil =>
              right
              exact ⟨_, rfl, name, 1, 0, by omega, rfl⟩
          | cons first behind =>
              rw [List.cons_append] at follows
              injection follows with sameCode sameRest
              subst sameCode sameRest
              rcases map_eq_ok_iff.mp read with ⟨⟨value, last⟩, body, made⟩
              cases made
              rcases decodeBody_readsFronts name first behind more value rest body with
                ⟨kept, enough, same⟩ | ⟨error, failed, truncation⟩
              · left
                exact ⟨kept, by simp [enough, Except.map], same⟩
              · right
                exact ⟨error, by simp [failed, Except.map], truncation⟩
      · right
        exact ⟨error, by rw [failed], truncation⟩

theorem decodeHeader_take {header : Header} {length : UInt8} {front : Bytes}
    (written : encodeHeader header = .ok (length :: front)) {cut : Nat}
    (short : cut < front.length) :
    ∃ error, decodeHeader length (front.take cut) = .error error ∧ error.IsTruncation := by
  have read : decodeHeader length (front.take cut ++ front.drop cut) = .ok (header, []) :=
    decodeHeader_eq_ok_iff.mpr ⟨front, written, by simp⟩
  rcases decodeHeader_readsFronts length _ _ _ _ read with ⟨left, _, same⟩ | truncated
  · -- Nothing is left behind the whole header, so nothing of it can have been cut off.
    have := congrArg List.length same
    simp at this
    omega
  · exact truncated

/-! ### The whole block -/

theorem encode_append_eq_ok_iff {first second : Headers} {block : Bytes} :
    encode (first ++ second) = .ok block ↔
      ∃ front back, encode first = .ok front ∧ encode second = .ok back ∧
        block = front ++ back := by
  induction first generalizing block with
  | nil => simp [encode]
  | cons header first ih =>
      rw [List.cons_append]
      constructor
      · intro written
        rcases encode_cons_eq_ok_iff.mp written with ⟨head, later, begins, others, rfl⟩
        rcases ih.mp others with ⟨front, back, before, behind, rfl⟩
        refine ⟨head ++ front, back, ?_, behind, by simp⟩
        exact encode_cons_eq_ok_iff.mpr ⟨head, front, begins, before, rfl⟩
      · rintro ⟨front, back, written, behind, rfl⟩
        rcases encode_cons_eq_ok_iff.mp written with ⟨head, later, begins, others, rfl⟩
        refine encode_cons_eq_ok_iff.mpr ⟨head, later ++ back, begins, ?_, by simp⟩
        exact ih.mpr ⟨later, back, others, behind, rfl⟩

variable {headers : Headers} {block : Bytes} {cut : Nat}

/-- A block that is cut between two headers, or at one of its ends, is read as the headers
before the cut. -/
theorem decode_take_of_boundary {before behind : Headers}
    (written : encode (before ++ behind) = .ok block) :
    decode (block.take (size before)) = .ok before := by
  rcases encode_append_eq_ok_iff.mp written with ⟨front, back, first, _, rfl⟩
  rw [← length_encode first, List.take_left, decode_eq_ok_iff]
  exact first

theorem decode_take_of_inside (written : encode headers = .ok block) (within : cut ≤ block.length)
    (inside : ∀ before behind, headers = before ++ behind → size before ≠ cut) :
    ∃ error, decode (block.take cut) = .error error ∧ error.IsTruncation := by
  induction headers generalizing block cut with
  | nil =>
      cases written
      rw [Nat.le_zero.mp within] at inside
      exact absurd rfl (inside [] [] rfl)
  | cons header headers ih =>
      rcases encode_cons_eq_ok_iff.mp written with ⟨head, later, first, others, rfl⟩
      rcases exists_cons_of_encodeHeader first with ⟨length, front, rfl⟩
      have positive : cut ≠ 0 := fun none => inside [] (header :: headers) rfl none.symm
      rcases Nat.exists_eq_succ_of_ne_zero positive with ⟨count, rfl⟩
      simp only [List.cons_append, List.take_succ_cons]
      rw [decode]
      by_cases enough : front.length ≤ count
      · -- The first header is read, and the others are cut.
        have whole : (front ++ later).take count = front ++ later.take (count - front.length) := by
          rw [List.take_append, List.take_of_length_le enough]
        have read : decodeHeader length ((front ++ later).take count) =
            .ok (header, later.take (count - front.length)) :=
          decodeHeader_eq_ok_iff.mpr ⟨front, first, whole⟩
        have long := length_encodeHeader first
        rw [List.length_cons] at long
        simp only [List.length_append, List.length_cons] at within
        have apart : ∀ before behind, headers = before ++ behind →
            size before ≠ count - front.length := by
          rintro before behind rfl same
          apply inside (header :: before) behind rfl
          simp [size] at same ⊢
          omega
        rcases ih others (by omega) apart with ⟨error, failed, truncation⟩
        refine ⟨error, ?_, truncation⟩
        split
        · rename_i found failedToo
          rw [read] at failedToo
          cases failedToo
        · rename_i found rest same
          rw [read] at same
          cases same
          rw [failed]
          rfl
      · have short : count < front.length := by omega
        have cutHead : (front ++ later).take count = front.take count := by
          rw [List.take_append_of_le_length (by omega)]
        rcases decodeHeader_take first short with ⟨error, failed, truncation⟩
        rw [← cutHead] at failed
        refine ⟨error, ?_, truncation⟩
        split
        · rename_i found failedToo
          rw [failed] at failedToo
          cases failedToo
          rfl
        · rename_i found rest same
          rw [failed] at same
          cases same

/-- Of a block that is cut, exactly the headers before the cut are read, and only if the cut
is between two headers or at one of its ends. Any other cut is noticed, as a field that ends
early. -/
theorem decode_take_block (written : encode headers = .ok block) (within : cut ≤ block.length) :
    (∀ read, decode (block.take cut) = .ok read ↔
      ∃ behind, headers = read ++ behind ∧ size read = cut) ∧
      ((∀ before behind, headers = before ++ behind → size before ≠ cut) →
        ∃ field due left, left < due ∧
          decode (block.take cut) = .error (.malformedHeader (.truncated field due left))) := by
  constructor
  · intro read
    constructor
    · intro decoded
      by_cases inside : ∀ before behind, headers = before ++ behind → size before ≠ cut
      · rcases decode_take_of_inside written within inside with ⟨error, failed, _⟩
        rw [failed] at decoded
        cases decoded
      · simp only [not_forall, not_not] at inside
        rcases inside with ⟨before, behind, rfl, rfl⟩
        rw [decode_take_of_boundary written] at decoded
        cases decoded
        exact ⟨behind, rfl, rfl⟩
    · rintro ⟨behind, rfl, rfl⟩
      exact decode_take_of_boundary written
  · intro inside
    rcases decode_take_of_inside written within inside with
      ⟨error, failed, field, due, left, short, rfl⟩
    exact ⟨field, due, left, short, failed⟩

/-- Two headers, cut behind the first one, and in the text of the second one. -/
theorem decode_take_block_inside :
    let first : Header := ⟨"a", .bool true⟩
    let second : Header := ⟨"b", .string "xy"⟩
    let block : Bytes := [1, 97, 0, 1, 98, 7, 0, 2, 120, 121]
    encode [first, second] = .ok block ∧
      decode (block.take 3) = .ok [first] ∧
      ∃ field due left, left < due ∧
        decode (block.take 9) = .error (.malformedHeader (.truncated field due left)) := by
  intro first second block
  have written : encode [first, second] = .ok block := by decide +kernel
  refine ⟨written, ?_, ?_⟩
  · have between := (decode_take_block written (by decide : 3 ≤ block.length)).1
    exact (between [first]).mpr ⟨[second], rfl, by decide +kernel⟩
  · apply (decode_take_block written (by decide : 9 ≤ block.length)).2
    intro before behind parts
    rcases before with _ | ⟨one, _ | ⟨two, _ | ⟨three, more⟩⟩⟩
    · decide
    · simp at parts
      rw [← parts.1]
      decide
    · simp at parts
      rw [← parts.1, ← parts.2.1]
      decide
    · simp at parts

end HeaderBlock

end FramedEvents
