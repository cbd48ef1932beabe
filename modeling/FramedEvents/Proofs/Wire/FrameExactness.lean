/-
Exactness of frames.

Looking at a buffer has five outcomes, and `Reading` says what each of them
means for the bytes in the buffer. From it follow that a message is read
exactly where its frame stands, whatever comes behind, that a frame cut short is
waited for, and that no other answer changes when more bytes arrive.
-/

import FramedEvents.Proofs.Wire.HeaderExactness
import FramedEvents.Wire.Frame
import Mathlib.Control.Monad.Basic

namespace FramedEvents.Frame

/-! ### Checksums and openings -/

@[simp]
theorem length_checksum (body : Bytes) : (checksum body).length = Message.checksumSize :=
  Bytes.length_ofNat _ _

@[simp]
theorem length_opening (total headers : Nat) :
    (opening total headers).length = Message.openingSize := by
  simp [opening, Message.checksumSize, Message.openingSize]

theorem checksum_stated_iff {digits body : Bytes} (wide : digits.length = Message.checksumSize) :
    digits.toNat.toUInt32 = Checksum.crc32 body ↔ digits = checksum body := by
  constructor
  · intro same
    have bounded : digits.toNat < UInt32.size := by
      have := digits.toNat_lt
      rw [wide] at this
      exact this
    have number : (Checksum.crc32 body).toNat = digits.toNat := by
      rw [← same, Nat.toUInt32_eq, UInt32.toNat_ofNat_of_lt' bounded]
    rw [checksum, number, ← wide, digits.ofNat_toNat]
  · rintro rfl
    have bounded : (Checksum.crc32 body).toNat < 256 ^ Message.checksumSize :=
      (Checksum.crc32 body).toNat_lt
    rw [checksum, Bytes.toNat_ofNat, Nat.mod_eq_of_lt bounded]
    simp

/-- The lengths that limits and the format itself let pass. -/
structure Admitted (limits : Limits) (total headers : Nat) : Prop where
  message : total ≤ limits.message
  block : headers ≤ limits.headers
  room : Message.leastSize + headers ≤ total
  stated : total ≤ largest

private theorem opening_parts {first : Bytes} (wide : first.length = Message.openingSize) :
    ∃ total headers digits : Bytes, first = (total ++ headers) ++ digits ∧
      total.length = 4 ∧ headers.length = 4 ∧ digits.length = Message.checksumSize := by
  refine ⟨first.take 4, (first.drop 4).take 4, first.drop 8, ?_, ?_, ?_, ?_⟩
  · have back : first.drop 8 = (first.drop 4).drop 4 := by rw [List.drop_drop]
    rw [List.append_assoc, back, List.take_append_drop, List.take_append_drop]
  all_goals simp [wide, Message.openingSize, Message.checksumSize]

private theorem checkOpening_append {limits : Limits} {total headers digits : Bytes}
    (totalWide : total.length = 4) (headersWide : headers.length = 4) :
    checkOpening limits ((total ++ headers) ++ digits) =
      if digits.toNat.toUInt32 ≠ Checksum.crc32 (total ++ headers) then
        .error (.preludeChecksum digits.toNat.toUInt32 (Checksum.crc32 (total ++ headers)))
      else if limits.message < total.toNat then
        .error (.messageTooLarge total.toNat limits.message)
      else if limits.headers < headers.toNat then
        .error (.headersTooLarge headers.toNat limits.headers)
      else if total.toNat < Message.leastSize ∨ total.toNat - Message.leastSize < headers.toNat then
        .error (.invalidLength total.toNat headers.toNat)
      else .ok (total.toNat, headers.toNat) := by
  have lengths : (total ++ headers).length = 8 := by
    rw [List.length_append, totalWide, headersWide]
  have front : ((total ++ headers) ++ digits).take 8 = total ++ headers := by
    rw [← lengths, List.take_left]
  have back : ((total ++ headers) ++ digits).drop 8 = digits := by
    rw [← lengths, List.drop_left]
  have first : ((total ++ headers) ++ digits).take 4 = total := by
    rw [List.append_assoc, ← totalWide, List.take_left]
  have second : (((total ++ headers) ++ digits).drop 4).take 4 = headers := by
    rw [List.append_assoc, ← totalWide, List.drop_left, totalWide, ← headersWide, List.take_left]
  simp only [checkOpening, front, back, first, second]

theorem checkOpening_eq_ok_iff {limits : Limits} {first : Bytes} {total headers : Nat}
    (wide : first.length = Message.openingSize) :
    checkOpening limits first = .ok (total, headers) ↔
      Admitted limits total headers ∧ first = opening total headers := by
  constructor
  · intro sound
    obtain ⟨totalBytes, headerBytes, digits, rfl, totalWide, headersWide, digitsWide⟩ :=
      opening_parts wide
    rw [checkOpening_append totalWide headersWide] at sound
    split at sound
    · contradiction
    · rename_i stated
      split at sound
      · contradiction
      · split at sound
        · contradiction
        · split at sound
          · contradiction
          · rename_i fits
            cases sound
            have bounded := totalBytes.toNat_lt
            rw [totalWide] at bounded
            refine ⟨⟨by omega, by omega, by omega, by unfold largest; omega⟩, ?_⟩
            have checked := (checksum_stated_iff digitsWide).mp (Decidable.not_not.mp stated)
            have sameTotal := totalBytes.ofNat_toNat
            have sameHeaders := headerBytes.ofNat_toNat
            rw [totalWide] at sameTotal
            rw [headersWide] at sameHeaders
            rw [opening, sameTotal, sameHeaders, checked]
  · rintro ⟨admitted, rfl⟩
    obtain ⟨message, block, room, stated⟩ := admitted
    have totalBounded : total < 256 ^ 4 := by
      unfold largest at stated
      omega
    have headersBounded : headers < 256 ^ 4 := by omega
    have checked := (checksum_stated_iff
      (length_checksum (Bytes.ofNat 4 total ++ Bytes.ofNat 4 headers))).mpr rfl
    simp only [opening, checkOpening_append (Bytes.length_ofNat 4 total)
      (Bytes.length_ofNat 4 headers), checked, Bytes.toNat_ofNat, Nat.mod_eq_of_lt totalBounded,
      Nat.mod_eq_of_lt headersBounded]
    rw [if_neg (by simp), if_neg (by omega), if_neg (by omega), if_neg (by omega)]

/-! ### The outcomes of looking at a buffer -/

/-- What a look at a buffer answers and leaves in the buffer, outcome by outcome. -/
inductive Reading (limits : Limits) (buffer : Bytes) :
    Except FrameError (Option Message) → Bytes → Prop where
  | short (few : buffer.length < Message.openingSize) : Reading limits buffer (.ok none) buffer
  | refused (error : FrameError) (enough : Message.openingSize ≤ buffer.length)
      (unsound : checkOpening limits (buffer.take Message.openingSize) = .error error) :
      Reading limits buffer (.error error) buffer
  /-- The opening passes and the rest of the frame is still to come. -/
  | waiting (total headers : Nat) (enough : Message.openingSize ≤ buffer.length)
      (sound : checkOpening limits (buffer.take Message.openingSize) = .ok (total, headers))
      (missing : buffer.length < total) : Reading limits buffer (.ok none) buffer
  /-- The frame is there and does not have the checksum that it states. -/
  | damaged (total headers : Nat) (body digits rest : Bytes)
      (opened : Message.openingSize ≤ body.length)
      (sound : checkOpening limits (body.take Message.openingSize) = .ok (total, headers))
      (parts : buffer = body ++ (digits ++ rest))
      (long : body.length + Message.checksumSize = total)
      (wide : digits.length = Message.checksumSize) (wrong : digits ≠ checksum body) :
      Reading limits buffer
        (.error (.messageChecksum digits.toNat.toUInt32 (Checksum.crc32 body))) buffer
  /-- The frame is there and sound. Its content may still be refused. -/
  | whole (total headers : Nat) (body rest : Bytes)
      (opened : Message.openingSize ≤ body.length)
      (sound : checkOpening limits (body.take Message.openingSize) = .ok (total, headers))
      (parts : buffer = body ++ (checksum body ++ rest))
      (long : body.length + Message.checksumSize = total) :
      Reading limits buffer ((content headers body).map some) rest

theorem take_opening_length {buffer : Bytes}
    (enough : Message.openingSize ≤ buffer.length) :
    (buffer.take Message.openingSize).length = Message.openingSize := by
  rw [List.length_take, Nat.min_eq_left enough]

theorem take_opening_append {front : Bytes} (enough : Message.openingSize ≤ front.length)
    (back : Bytes) :
    (front ++ back).take Message.openingSize = front.take Message.openingSize :=
  List.take_append_of_le_length enough

private theorem decode_parts {limits : Limits} {total headers : Nat} {body digits rest : Bytes}
    (opened : Message.openingSize ≤ body.length)
    (sound : checkOpening limits (body.take Message.openingSize) = .ok (total, headers))
    (long : body.length + Message.checksumSize = total)
    (wide : digits.length = Message.checksumSize) :
    decode limits (body ++ (digits ++ rest)) =
      if digits.toNat.toUInt32 ≠ Checksum.crc32 body then
        (.error (.messageChecksum digits.toNat.toUInt32 (Checksum.crc32 body)),
          body ++ (digits ++ rest))
      else ((content headers body).map some, rest) := by
  have frame : (body ++ digits).length = total := by rw [List.length_append, wide, long]
  have start : total - Message.checksumSize = body.length := by omega
  have taken : (body ++ (digits ++ rest)).take total = body ++ digits := by
    rw [← List.append_assoc, ← frame, List.take_left]
  have dropped : (body ++ (digits ++ rest)).drop total = rest := by
    rw [← List.append_assoc, ← frame, List.drop_left]
  simp only [decode, take_opening_append opened _, take_opening_length opened, sound, taken, dropped,
    frame, Nat.lt_irrefl, if_false, start, List.take_left, List.drop_left]

private theorem Reading.decode_eq {limits : Limits} {buffer rest : Bytes}
    {answer : Except FrameError (Option Message)} (reading : Reading limits buffer answer rest) :
    decode limits buffer = (answer, rest) := by
  cases reading with
  | short few =>
      have missing : (buffer.take Message.openingSize).length < Message.openingSize := by
        rw [List.length_take]
        omega
      simp only [decode, if_pos missing]
  | refused error enough unsound =>
      simp only [decode, take_opening_length enough, Nat.lt_irrefl, if_false, unsound]
  | waiting total headers enough sound missing =>
      have cut : (buffer.take total).length < total := by
        rw [List.length_take]
        omega
      simp only [decode, take_opening_length enough, Nat.lt_irrefl, if_false, sound, if_pos cut]
  | damaged total headers body digits behind opened sound parts long wide wrong =>
      subst parts
      rw [decode_parts opened sound long wide, if_pos]
      exact fun same => wrong ((checksum_stated_iff wide).mp same)
  | whole total headers body behind opened sound parts long =>
      subst parts
      rw [decode_parts opened sound long (length_checksum body), if_neg]
      exact Decidable.not_not.mpr ((checksum_stated_iff (length_checksum body)).mpr rfl)

private theorem exists_reading (limits : Limits) (buffer : Bytes) :
    ∃ answer rest, Reading limits buffer answer rest := by
  by_cases few : buffer.length < Message.openingSize
  · exact ⟨_, _, .short few⟩
  · have enough : Message.openingSize ≤ buffer.length := Nat.le_of_not_lt few
    cases sound : checkOpening limits (buffer.take Message.openingSize) with
    | error error => exact ⟨_, _, .refused error enough sound⟩
    | ok lengths =>
        obtain ⟨total, headers⟩ := lengths
        by_cases missing : buffer.length < total
        · exact ⟨_, _, .waiting total headers enough sound missing⟩
        · have room :=
            ((checkOpening_eq_ok_iff (take_opening_length enough)).mp sound).1.room
          simp only [Message.leastSize] at room
          obtain ⟨body, behind, rfl, long⟩ : ∃ body behind, buffer = body ++ behind ∧
              body.length = total - Message.checksumSize :=
            ⟨buffer.take (total - Message.checksumSize), _, (List.take_append_drop _ buffer).symm, by
              rw [List.length_take]
              omega⟩
          obtain ⟨digits, rest, rfl, wide⟩ : ∃ digits rest, behind = digits ++ rest ∧
              digits.length = Message.checksumSize :=
            ⟨behind.take Message.checksumSize, _, (List.take_append_drop _ behind).symm, by
              rw [List.length_append] at missing
              rw [List.length_take]
              omega⟩
          have opened : Message.openingSize ≤ body.length := by omega
          rw [take_opening_append opened _] at sound
          by_cases same : digits = checksum body
          · subst same
            exact ⟨_, _, .whole total headers body rest opened sound rfl (by omega)⟩
          · exact ⟨_, _,
              .damaged total headers body digits rest opened sound rfl (by omega) wide same⟩

theorem decode_eq_iff {limits : Limits} {buffer rest : Bytes}
    {answer : Except FrameError (Option Message)} :
    decode limits buffer = (answer, rest) ↔ Reading limits buffer answer rest := by
  constructor
  · intro decoded
    obtain ⟨found, left, reading⟩ := exists_reading limits buffer
    rw [reading.decode_eq] at decoded
    cases decoded
    exact reading
  · exact Reading.decode_eq

theorem checkOpening_unchecked {limits : Limits} {lengths digits : Bytes} (eight : lengths.length = 8)
    (wide : digits.length = Message.checksumSize) (wrong : digits ≠ checksum lengths) :
    checkOpening limits (lengths ++ digits) =
      .error (.preludeChecksum digits.toNat.toUInt32 (Checksum.crc32 lengths)) := by
  have front : (lengths ++ digits).take 8 = lengths := by rw [← eight, List.take_left]
  have back : (lengths ++ digits).drop 8 = digits := by rw [← eight, List.drop_left]
  have unstated : digits.toNat.toUInt32 ≠ Checksum.crc32 lengths := fun same =>
    wrong ((checksum_stated_iff wide).mp same)
  simp only [checkOpening, front, back]
  rw [if_pos unstated]

/-- Without its checksum an opening is refused, whatever follows it. -/
theorem decode_unchecked {limits : Limits} {lengths digits : Bytes} (eight : lengths.length = 8)
    (wide : digits.length = Message.checksumSize) (wrong : digits ≠ checksum lengths)
    (rest : Bytes) :
    decode limits (lengths ++ digits ++ rest) =
      (.error (.preludeChecksum digits.toNat.toUInt32 (Checksum.crc32 lengths)),
        lengths ++ digits ++ rest) := by
  have size : (lengths ++ digits).length = Message.openingSize := by
    rw [List.length_append, eight, wide]
    rfl
  refine decode_eq_iff.mpr (.refused _ ?_ ?_)
  · rw [List.length_append, size]
    exact Nat.le_add_right _ _
  · rw [← size, List.take_left]
    exact checkOpening_unchecked eight wide wrong

/-! ### What a writer makes of a message -/

def body (message : Message) (block : Bytes) : Bytes :=
  opening message.size block.length ++ (block ++ message.payload)

theorem length_body {message : Message} {block : Bytes}
    (written : HeaderBlock.encode message.headers = .ok block) :
    (body message block).length + Message.checksumSize = message.size := by
  have size := HeaderBlock.length_encode written
  simp only [body, List.length_append, length_opening, Message.size, Message.leastSize, size]
  omega

/-- A message has a frame exactly if its headers have a block and its lengths
are admitted. -/
theorem encode_eq_ok_iff {limits : Limits} {message : Message} {frame : Bytes} :
    encode limits message = .ok frame ↔
      ∃ block, HeaderBlock.encode message.headers = .ok block ∧
        Admitted limits message.size block.length ∧
        frame = body message block ++ checksum (body message block) := by
  constructor
  · intro encoded
    simp only [encode] at encoded
    split at encoded
    · contradiction
    · rename_i block
      split at encoded
      · contradiction
      · rename_i total
        obtain ⟨written, blockEncoded, made⟩ := map_eq_ok_iff.mp encoded
        have size := HeaderBlock.length_encode blockEncoded
        rw [not_or] at total
        refine ⟨written, blockEncoded, ⟨by omega, by omega, ?_, by omega⟩, ?_⟩
        · rw [size, Message.size]
          omega
        · rw [body, size, made]
  · rintro ⟨block, written, admitted, rfl⟩
    obtain ⟨message, block, room, stated⟩ := admitted
    have size := HeaderBlock.length_encode written
    rw [size] at block
    rw [encode, if_neg (by omega), if_neg (by omega), written, body, size]
    rfl

theorem length_frame {limits : Limits} {message : Message} {frame : Bytes}
    (encoded : encode limits message = .ok frame) : frame.length = message.size := by
  obtain ⟨block, written, _, rfl⟩ := encode_eq_ok_iff.mp encoded
  rw [List.length_append, length_checksum, length_body written]

theorem content_eq_ok_iff {total headers : Nat} {inner : Bytes} {message : Message}
    (room : headers ≤ inner.length) :
    content headers (opening total headers ++ inner) = .ok message ↔
      ∃ block, HeaderBlock.encode message.headers = .ok block ∧ block.length = headers ∧
        inner = block ++ message.payload := by
  have dropped : (opening total headers ++ inner).drop Message.openingSize = inner := by
    rw [← length_opening total headers, List.drop_left]
  simp only [content, dropped, map_eq_ok_iff, HeaderBlock.decode_eq_ok_iff]
  constructor
  · rintro ⟨decoded, written, rfl⟩
    refine ⟨inner.take headers, written, ?_, (List.take_append_drop headers inner).symm⟩
    rw [List.length_take, Nat.min_eq_left room]
  · rintro ⟨block, written, rfl, rfl⟩
    exact ⟨message.headers, by rw [List.take_left, written], by rw [List.drop_left]⟩

/-! ### Frames are read exactly where they stand -/

theorem take_body (message : Message) (block : Bytes) :
    (body message block).take Message.openingSize = opening message.size block.length := by
  rw [body, ← length_opening message.size block.length, List.take_left]

theorem openingSize_le_length_body (message : Message) (block : Bytes) :
    Message.openingSize ≤ (body message block).length := by
  rw [body, List.length_append, length_opening]
  omega

private theorem checkOpening_body {limits : Limits} {message : Message} {block : Bytes}
    (admitted : Admitted limits message.size block.length) :
    checkOpening limits ((body message block).take Message.openingSize) =
      .ok (message.size, block.length) := by
  rw [take_body]
  exact (checkOpening_eq_ok_iff (length_opening _ _)).mpr ⟨admitted, rfl⟩

theorem Reading.of_encode {limits : Limits} {message : Message} {frame : Bytes}
    (encoded : encode limits message = .ok frame) (rest : Bytes) :
    Reading limits (frame ++ rest) (.ok (some message)) rest := by
  obtain ⟨block, written, admitted, rfl⟩ := encode_eq_ok_iff.mp encoded
  have read : content block.length (body message block) = .ok message := by
    refine (content_eq_ok_iff ?_).mpr ⟨block, written, rfl, rfl⟩
    rw [List.length_append]
    omega
  have whole : Reading limits (body message block ++ (checksum (body message block) ++ rest))
      ((content block.length (body message block)).map some) rest :=
    .whole message.size block.length (body message block) rest
      (openingSize_le_length_body message block) (checkOpening_body admitted) rfl
      (length_body written)
  rw [read] at whole
  rw [List.append_assoc]
  exact whole

theorem Reading.encode_of_message {limits : Limits} {buffer rest : Bytes} {message : Message}
    (reading : Reading limits buffer (.ok (some message)) rest) :
    ∃ frame, encode limits message = .ok frame ∧ buffer = frame ++ rest := by
  generalize same : (Except.ok (some message) : Except FrameError (Option Message)) = answer
    at reading
  cases reading with
  | short few => cases same
  | refused error enough unsound => cases same
  | waiting total headers enough sound missing => cases same
  | damaged total headers body digits behind opened sound parts long wide wrong => cases same
  | whole total headers content behind opened sound parts long =>
      obtain ⟨found, read, someFound⟩ := map_eq_ok_iff.mp same.symm
      cases someFound
      obtain ⟨admitted, openingIs⟩ :=
        (checkOpening_eq_ok_iff (take_opening_length opened)).mp sound
      obtain ⟨inner, rfl⟩ : ∃ inner, content = opening total headers ++ inner :=
        ⟨content.drop Message.openingSize, by rw [← openingIs, List.take_append_drop]⟩
      have room := admitted.room
      rw [List.length_append, length_opening] at long
      simp only [Message.leastSize] at room
      obtain ⟨block, written, rfl, rfl⟩ := (content_eq_ok_iff (by omega)).mp read
      have size : message.size = total := by
        rw [Message.size, ← HeaderBlock.length_encode written, Message.leastSize]
        rw [List.length_append] at long
        omega
      subst size
      exact ⟨_, encode_eq_ok_iff.mpr ⟨block, written, admitted, rfl⟩,
        by rw [parts, body, List.append_assoc (_ ++ _)]⟩

theorem Reading.of_prefix {limits : Limits} {message : Message} {frame front : Bytes}
    (encoded : encode limits message = .ok frame) (cut : front <+: frame) (short : front ≠ frame) :
    Reading limits front (.ok none) front := by
  obtain ⟨missing, rfl⟩ := cut
  obtain ⟨block, written, admitted, whole⟩ := encode_eq_ok_iff.mp encoded
  have some : missing ≠ [] := fun none => short (by rw [none, List.append_nil])
  have less : front.length < message.size := by
    have total := congrArg List.length whole
    have body := length_body written
    have positive := List.length_pos_iff.mpr some
    simp only [List.length_append, length_checksum] at total
    omega
  by_cases few : front.length < Message.openingSize
  · exact .short few
  · have enough : Message.openingSize ≤ front.length := Nat.le_of_not_lt few
    have first : front.take Message.openingSize = opening message.size block.length := by
      rw [← take_opening_append enough missing, whole,
        take_opening_append (openingSize_le_length_body message block) _, take_body]
    refine .waiting message.size block.length enough ?_ less
    rw [first]
    exact (checkOpening_eq_ok_iff (length_opening _ _)).mpr ⟨admitted, rfl⟩

/-- The frame format is exact and delimits itself: a message is read, and leaves
what follows it, exactly where its frame stands; and a frame that is cut short
is waited for. -/
theorem decode_exact (limits : Limits) (message : Message) :
    (∀ buffer rest, decode limits buffer = (.ok (some message), rest) ↔
      ∃ frame, encode limits message = .ok frame ∧ buffer = frame ++ rest) ∧
    ∀ frame, encode limits message = .ok frame →
      ∀ front, front <+: frame → front ≠ frame → decode limits front = (.ok none, front) := by
  constructor
  · intro buffer rest
    rw [decode_eq_iff]
    constructor
    · exact Reading.encode_of_message
    · rintro ⟨frame, encoded, rfl⟩
      exact Reading.of_encode encoded rest
  · intro frame encoded front cut short
    exact decode_eq_iff.mpr (Reading.of_prefix encoded cut short)

private def sample : Message := ⟨[⟨"a", .bool true⟩], [7]⟩

private def sampleFrame : Bytes :=
  [0, 0, 0, 20, 0, 0, 0, 3, 105, 75, 191, 145, 1, 97, 0, 7, 64, 23, 221, 30]

theorem decode_exact_sample :
    encode {} sample = .ok sampleFrame ∧
      decode {} (sampleFrame ++ [9]) = (.ok (some sample), [9]) ∧
      decode {} (sampleFrame.take 13) = (.ok none, sampleFrame.take 13) := by
  have encoded : encode {} sample = .ok sampleFrame := by decide +kernel
  refine ⟨encoded, ?_, ?_⟩
  · exact ((decode_exact {} sample).1 (sampleFrame ++ [9]) [9]).mpr ⟨sampleFrame, encoded, rfl⟩
  · exact (decode_exact {} sample).2 sampleFrame encoded (sampleFrame.take 13)
      (List.take_prefix 13 sampleFrame) (by decide)

end FramedEvents.Frame
