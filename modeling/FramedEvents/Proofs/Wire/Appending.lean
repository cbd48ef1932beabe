/-
Writing a message behind a buffer.

A message is written part by part, and a header without a form on the wire is noticed
only when others stand in the buffer already. What is left in the end is nevertheless
either the whole frame of the message behind the old content or the old content alone,
and it is the frame exactly if the message is representable: its lengths fit the limits
and the four bytes that state them, and each of its headers has a form.
-/

import FramedEvents.Proofs.Wire.Faults

namespace FramedEvents

/-! ### Headers with a form on the wire -/

def HeaderValue.Fits : HeaderValue → Prop
  | .binary value => value.length ≤ 65535
  | .string value => value.utf8ByteSize ≤ 65535
  | _ => True

structure Header.Fits (header : Header) : Prop where
  named : 1 ≤ header.name.utf8ByteSize
  short : header.name.utf8ByteSize ≤ 255
  value : header.value.Fits

namespace HeaderBlock

theorem exists_encodeCounted_iff {name : String} {bytes : Bytes} :
    (∃ counted, encodeCounted name bytes = .ok counted) ↔ bytes.length ≤ 65535 := by
  simp only [encodeCounted]
  constructor
  · rintro ⟨counted, written⟩
    split at written
    · omega
    · contradiction
  · intro short
    rw [if_pos (by omega)]
    exact ⟨_, rfl⟩

theorem exists_encodeBody_iff {name : String} {value : HeaderValue} :
    (∃ body, encodeBody name value = .ok body) ↔ value.Fits := by
  cases value with
  | binary value => exact exists_encodeCounted_iff
  | string value =>
      have counted := @exists_encodeCounted_iff name (Bytes.ofText value)
      rw [Bytes.length_ofText] at counted
      exact counted
  | _ => exact ⟨fun _ => trivial, fun _ => ⟨_, rfl⟩⟩

theorem exists_encodeHeader_iff {header : Header} :
    (∃ front, encodeHeader header = .ok front) ↔ header.Fits := by
  simp only [encodeHeader]
  constructor
  · rintro ⟨front, written⟩
    split at written
    · rename_i bounds
      obtain ⟨body, encoded, _⟩ := map_eq_ok_iff.mp written
      exact ⟨bounds.1, by omega, exists_encodeBody_iff.mp ⟨body, encoded⟩⟩
    · contradiction
  · rintro ⟨named, short, value⟩
    obtain ⟨body, encoded⟩ := exists_encodeBody_iff.mpr value
    rw [if_pos ⟨named, by omega⟩]
    exact ⟨_, map_eq_ok_iff.mpr ⟨body, encoded, rfl⟩⟩

theorem exists_encode_iff {headers : Headers} :
    (∃ block, encode headers = .ok block) ↔ ∀ header ∈ headers, header.Fits := by
  induction headers with
  | nil => exact ⟨fun _ header member => (List.not_mem_nil member).elim, fun _ => ⟨[], rfl⟩⟩
  | cons header headers ih =>
      rw [List.forall_mem_cons, ← ih, ← exists_encodeHeader_iff]
      constructor
      · rintro ⟨block, written⟩
        obtain ⟨front, back, first, later, _⟩ := encode_cons_eq_ok_iff.mp written
        exact ⟨⟨front, first⟩, ⟨back, later⟩⟩
      · rintro ⟨⟨front, first⟩, ⟨back, later⟩⟩
        exact ⟨front ++ back, encode_cons_eq_ok_iff.mpr ⟨front, back, first, later, rfl⟩⟩

/-! ### What is put behind a buffer -/

theorem putHeader_written {header : Header} {front : Bytes}
    (written : encodeHeader header = .ok front) : putHeader header = (front, .ok ()) := by
  simp only [encodeHeader] at written
  split at written
  · rename_i bounds
    obtain ⟨body, encoded, rfl⟩ := map_eq_ok_iff.mp written
    simp only [putHeader, if_pos bounds, encoded, List.append_assoc, List.cons_append,
      List.nil_append]
  · contradiction

theorem putHeader_refused {header : Header} {error : FrameError}
    (refused : encodeHeader header = .error error) :
    ∃ begun, putHeader header = (begun, .error error) := by
  simp only [encodeHeader] at refused
  split at refused
  · rename_i bounds
    have value := map_eq_error_iff.mp refused
    simp only [putHeader, if_pos bounds, value]
    exact ⟨_, rfl⟩
  · rename_i bounds
    cases refused
    simp only [putHeader, if_neg bounds]
    exact ⟨[], rfl⟩

theorem put_written {headers : Headers} {block : Bytes} (written : encode headers = .ok block) :
    put headers = (block, .ok ()) := by
  induction headers generalizing block with
  | nil =>
      cases written
      rfl
  | cons header headers ih =>
      obtain ⟨front, back, first, later, rfl⟩ := encode_cons_eq_ok_iff.mp written
      simp only [put, putHeader_written first, ih later]

theorem put_refused {headers : Headers} {error : FrameError}
    (refused : encode headers = .error error) : ∃ begun, put headers = (begun, .error error) := by
  induction headers with
  | nil => cases refused
  | cons header headers ih =>
      rcases bind_eq_error_iff.mp refused with first | ⟨front, first, others⟩
      · obtain ⟨begun, failed⟩ := putHeader_refused first
        exact ⟨begun, by simp only [put, failed]⟩
      · rcases bind_eq_error_iff.mp others with later | ⟨_, _, impossible⟩
        · obtain ⟨begun, failed⟩ := ih later
          exact ⟨front ++ begun, by simp only [put, putHeader_written first, failed]⟩
        · cases impossible

end HeaderBlock

/-! ### The frame, or nothing -/

namespace Frame

/-- A message that the limits let pass and that has a form on the wire. -/
structure Representable (limits : Limits) (message : Message) : Prop where
  block : HeaderBlock.size message.headers ≤ limits.headers
  total : message.size ≤ limits.message
  stated : message.size ≤ 2 ^ 32 - 1
  headers : ∀ header ∈ message.headers, header.Fits

variable {limits : Limits} {message : Message}

theorem exists_encode_iff :
    (∃ frame, encode limits message = .ok frame) ↔ Representable limits message := by
  constructor
  · rintro ⟨frame, encoded⟩
    obtain ⟨block, written, admitted, _⟩ := encode_eq_ok_iff.mp encoded
    exact ⟨HeaderBlock.length_encode written ▸ admitted.block, admitted.message, admitted.stated,
      HeaderBlock.exists_encode_iff.mp ⟨block, written⟩⟩
  · rintro ⟨block, total, stated, headers⟩
    obtain ⟨written, encoded⟩ := HeaderBlock.exists_encode_iff.mpr headers
    have size := HeaderBlock.length_encode encoded
    refine ⟨_, encode_eq_ok_iff.mpr ⟨written, encoded, ⟨total, by omega, ?_, stated⟩, rfl⟩⟩
    rw [size, Message.size]
    omega

theorem append_written {frame : Bytes} (encoded : encode limits message = .ok frame)
    (buffer : Bytes) : append limits message buffer = (.ok (), buffer ++ frame) := by
  obtain ⟨block, written, admitted, rfl⟩ := encode_eq_ok_iff.mp encoded
  have size := HeaderBlock.length_encode written
  have blockFits : ¬limits.headers < HeaderBlock.size message.headers := by
    have := admitted.block
    omega
  have totalFits : ¬(limits.message < message.size ∨ largest < message.size) := by
    have := admitted.message
    have := admitted.stated
    omega
  have lengths : (Bytes.ofNat 4 message.size ++
      Bytes.ofNat 4 (HeaderBlock.size message.headers)).take 8 =
        Bytes.ofNat 4 message.size ++ Bytes.ofNat 4 (HeaderBlock.size message.headers) :=
    List.take_of_length_le (by simp)
  simp only [append, if_neg blockFits, if_neg totalFits, HeaderBlock.put_written written,
    List.append_assoc, List.drop_left, lengths, body, opening, size]

theorem append_refused {error : FrameError} (refused : encode limits message = .error error)
    (buffer : Bytes) : append limits message buffer = (.error error, buffer) := by
  simp only [encode] at refused
  split at refused
  · rename_i block
    cases refused
    simp only [append, if_pos block]
  · rename_i block
    split at refused
    · rename_i total
      cases refused
      simp only [append, if_neg block, if_pos total]
    · rename_i total
      obtain ⟨begun, failed⟩ :=
        HeaderBlock.put_refused (HeaderBlock.map_eq_error_iff.mp refused)
      simp only [append, if_neg block, if_neg total, failed, List.append_assoc, List.take_left]

/-- Exactly the representable messages are written. One that is adds its size in bytes to
the buffer, the same bytes to every buffer, and one that is not adds nothing. -/
theorem append_representable (limits : Limits) (message : Message) :
    (∀ buffer, (append limits message buffer).1 = .ok () ↔ Representable limits message) ∧
      (Representable limits message → ∃ frame : Bytes, frame.length = message.size ∧
        ∀ buffer, append limits message buffer = (.ok (), buffer ++ frame)) ∧
      ∀ buffer after error, append limits message buffer = (.error error, after) →
        after = buffer := by
  cases encoded : encode limits message with
  | ok frame =>
      have representable := exists_encode_iff.mp ⟨frame, encoded⟩
      have written := append_written encoded
      refine ⟨?_, ?_, ?_⟩
      · intro buffer
        rw [written]
        exact ⟨fun _ => representable, fun _ => rfl⟩
      · intro _
        exact ⟨frame, length_frame encoded, written⟩
      · intro buffer after error failed
        rw [written] at failed
        cases failed
  | error reason =>
      have unrepresentable : ¬Representable limits message := by
        intro representable
        obtain ⟨frame, other⟩ := exists_encode_iff.mpr representable
        rw [encoded] at other
        cases other
      have refused := append_refused encoded
      refine ⟨?_, ?_, ?_⟩
      · intro buffer
        rw [refused]
        exact ⟨fun impossible => (by cases impossible), fun other => absurd other unrepresentable⟩
      · intro representable
        exact absurd representable unrepresentable
      · intro buffer after error failed
        rw [refused] at failed
        cases failed
        rfl

/-- A message that is written, and one whose second header has no name. The first header
of that one stands in the buffer when the second is refused. -/
theorem append_representable_nameless :
    let named : Header := ⟨"a", .bool true⟩
    let nameless : Header := ⟨"", .string "b"⟩
    let buffer : Bytes := [1, 2, 3]
    Representable {} ⟨[named], [7]⟩ ∧
      (append {} ⟨[named], [7]⟩ buffer).1 = .ok () ∧
      (∃ frame : Bytes, frame.length = 20 ∧
        append {} ⟨[named], [7]⟩ buffer = (.ok (), buffer ++ frame)) ∧
      HeaderBlock.put [named, nameless] =
        ([1, 97, 0], .error (.malformedHeader (.nameLength 0))) ∧
      ∃ error, append {} ⟨[named, nameless], [7]⟩ buffer = (.error error, buffer) := by
  intro named nameless buffer
  have fits : named.Fits := ⟨by decide, by decide, trivial⟩
  have representable : Representable {} ⟨[named], [7]⟩ :=
    ⟨by decide, by decide, by decide, by simpa using fits⟩
  obtain ⟨accepted, written, _⟩ := append_representable {} ⟨[named], [7]⟩
  obtain ⟨frame, long, put⟩ := written representable
  refine ⟨representable, (accepted buffer).mpr representable, ⟨frame, long, put buffer⟩,
    by decide +kernel, ?_⟩
  obtain ⟨acceptedToo, _, kept⟩ := append_representable {} ⟨[named, nameless], [7]⟩
  cases answer : append {} ⟨[named, nameless], [7]⟩ buffer with
  | mk result after =>
      cases result with
      | error error => exact ⟨error, by rw [kept buffer after error answer]⟩
      | ok =>
          have fitsToo := (acceptedToo buffer).mp (by rw [answer])
          have impossible := (fitsToo.headers nameless (by simp)).named
          exact absurd impossible (by decide)

end Frame

end FramedEvents
