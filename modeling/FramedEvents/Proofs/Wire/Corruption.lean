/-
One changed byte in a frame is always noticed.

Every step of the checksum's register can be undone, and two bytes never take a register
to the same place. So byte strings that differ in one place have different checksums. A
frame states two of them, and a change in the first twelve bytes is noticed before the
lengths that stand there are used for anything.
-/

import FramedEvents.Proofs.Wire.FrameExactness
import Mathlib.Data.Nat.Bitwise

namespace FramedEvents

/-! ### Changes -/

namespace Bytes

/-- The second byte string is the first with another byte in one place. -/
def DiffersAt (place : Nat) (first second : Bytes) : Prop :=
  ∃ front byte other back, first = front ++ byte :: back ∧ second = front ++ other :: back ∧
    front.length = place ∧ byte ≠ other

variable {place : Nat} {first second front back : Bytes}

theorem DiffersAt.ne (differs : DiffersAt place first second) : first ≠ second := by
  obtain ⟨front, byte, other, back, rfl, rfl, _, changed⟩ := differs
  intro same
  have rest := List.append_cancel_left same
  injection rest with first _
  exact changed first

theorem DiffersAt.length_eq (differs : DiffersAt place first second) :
    second.length = first.length := by
  obtain ⟨front, byte, other, back, rfl, rfl, _, _⟩ := differs
  simp

theorem DiffersAt.of_append (differs : DiffersAt place (front ++ back) second) :
    (place < front.length ∧ ∃ changed, DiffersAt place front changed ∧ second = changed ++ back) ∨
      (front.length ≤ place ∧
        ∃ changed, DiffersAt (place - front.length) back changed ∧ second = front ++ changed) := by
  obtain ⟨before, byte, other, behind, parts, rfl, rfl, changed⟩ := differs
  rcases List.append_eq_append_iff.mp parts with ⟨middle, rfl, split⟩ | ⟨middle, rfl, split⟩
  · right
    refine ⟨by simp, middle ++ other :: behind, ⟨middle, byte, other, behind, split, rfl, ?_, changed⟩,
      by simp⟩
    simp
  · cases middle with
    | nil =>
        right
        refine ⟨by simp, other :: behind, ⟨[], byte, other, behind, ?_, rfl, ?_, changed⟩, ?_⟩
        · simpa using split.symm
        · simp
        · simp
    | cons found middle =>
        left
        obtain ⟨rfl, rfl⟩ := List.cons.inj split
        refine ⟨by simp, before ++ other :: middle,
          ⟨before, byte, other, middle, rfl, rfl, rfl, changed⟩, by simp⟩

end Bytes

/-! ### The register -/

namespace Checksum

theorem odd_iff (register : UInt32) : register &&& 1 = 1 ↔ register.toNat % 2 = 1 := by
  rw [← UInt32.toNat_inj, UInt32.toNat_and]
  change register.toNat &&& 1 = 1 ↔ _
  rw [Nat.and_one_is_mod]

theorem toNat_halved (register : UInt32) : (register >>> 1).toNat = register.toNat / 2 := by
  rw [UInt32.toNat_shiftRight]
  exact Nat.shiftRight_one _

theorem halved_ne_reduced (first second : UInt32) :
    first >>> 1 ≠ (second >>> 1) ^^^ polynomial := by
  intro same
  have generator : polynomial = (second >>> 1) ^^^ (first >>> 1) := by
    rw [same, ← UInt32.xor_assoc, UInt32.xor_self, UInt32.zero_xor]
  have halves (register : UInt32) : (register >>> 1).toNat < 2 ^ 31 := by
    have bounded := register.toNat_lt
    rw [toNat_halved]
    omega
  have small := Nat.xor_lt_two_pow (halves second) (halves first)
  rw [← UInt32.toNat_xor, ← generator] at small
  revert small
  decide

theorem shift_injective : Function.Injective shift := by
  intro first second same
  have joined (halves : first >>> 1 = second >>> 1)
      (parity : first.toNat % 2 = second.toNat % 2) : first = second := by
    have equal := congrArg UInt32.toNat halves
    rw [toNat_halved, toNat_halved] at equal
    apply UInt32.toNat_inj.mp
    omega
  unfold shift at same
  split at same
  · rename_i odd
    rw [odd_iff] at odd
    split at same
    · rename_i oddToo
      rw [odd_iff] at oddToo
      exact joined ((UInt32.xor_left_inj polynomial).mp same) (by omega)
    · exact absurd same.symm (halved_ne_reduced second first)
  · rename_i even
    rw [odd_iff] at even
    split at same
    · exact absurd same (halved_ne_reduced first second)
    · rename_i evenToo
      rw [odd_iff] at evenToo
      exact joined same (by omega)

theorem absorb_eq_iff (first second : UInt32) (byte other : UInt8) :
    absorb first byte = absorb second other ↔
      first ^^^ byte.toUInt32 = second ^^^ other.toUInt32 := by
  simp only [absorb, shift_injective.eq_iff]

theorem run_inj (bytes : Bytes) {first second : UInt32} :
    run first bytes = run second bytes ↔ first = second := by
  induction bytes generalizing first second with
  | nil => rfl
  | cons byte later ih =>
      change run (absorb first byte) later = run (absorb second byte) later ↔ _
      rw [ih, absorb_eq_iff, UInt32.xor_left_inj]

theorem crc32_ne_of_differsAt {place : Nat} {first second : Bytes}
    (differs : Bytes.DiffersAt place first second) : crc32 first ≠ crc32 second := by
  obtain ⟨front, byte, other, back, rfl, rfl, _, changed⟩ := differs
  intro same
  have registers := UInt32.not_inj.mp same
  rw [run_append, run_append] at registers
  change run (absorb _ byte) back = run (absorb _ other) back at registers
  rw [run_inj, absorb_eq_iff, UInt32.xor_right_inj, UInt8.toUInt32_inj] at registers
  exact changed registers

end Checksum

/-! ### Frames -/

namespace Frame

variable {limits : Limits} {place : Nat}

theorem crc32_eq_of_checksum_eq {first second : Bytes} (same : checksum first = checksum second) :
    Checksum.crc32 first = Checksum.crc32 second := by
  have stated := (checksum_stated_iff (length_checksum first)).mpr same
  rw [← stated]
  exact ((checksum_stated_iff (length_checksum first)).mpr rfl).symm

theorem checksum_ne_of_differsAt {bytes changed : Bytes}
    (differs : Bytes.DiffersAt place (bytes ++ checksum bytes) changed) :
    ∃ front digits, changed = front ++ digits ∧ front.length = bytes.length ∧
      digits.length = Message.checksumSize ∧ digits ≠ checksum front := by
  rcases differs.of_append with ⟨_, front, inside, rfl⟩ | ⟨_, digits, inside, rfl⟩
  · refine ⟨front, checksum bytes, rfl, inside.length_eq, length_checksum bytes, ?_⟩
    intro same
    exact Checksum.crc32_ne_of_differsAt inside (crc32_eq_of_checksum_eq same)
  · refine ⟨bytes, digits, rfl, rfl, ?_, inside.ne.symm⟩
    rw [inside.length_eq, length_checksum]

theorem decode_opening_altered {message : Message} {block opened tail : Bytes}
    (differs : Bytes.DiffersAt place (opening message.size block.length) opened) :
    ∃ expected computed, decode limits (opened ++ tail) =
      (.error (.preludeChecksum expected computed), opened ++ tail) := by
  obtain ⟨lengths, digits, rfl, eight, wide, wrong⟩ := checksum_ne_of_differsAt differs
  exact ⟨_, _, decode_unchecked (by simpa using eight) wide wrong tail⟩

/-- One changed byte in a frame is always noticed, wherever it stands and whatever follows
the frame: in the opening by the checksum of the opening, behind it by the checksum of the
frame. The buffer is left as it is. -/
theorem decode_altered (limits : Limits) (message : Message) {frame altered : Bytes}
    (encoded : encode limits message = .ok frame) (differs : Bytes.DiffersAt place frame altered)
    (rest : Bytes) :
    (place < Message.openingSize → ∃ expected computed, decode limits (altered ++ rest) =
      (.error (.preludeChecksum expected computed), altered ++ rest)) ∧
    (Message.openingSize ≤ place → ∃ expected computed, decode limits (altered ++ rest) =
      (.error (.messageChecksum expected computed), altered ++ rest)) := by
  obtain ⟨block, written, admitted, rfl⟩ := encode_eq_ok_iff.mp encoded
  have parts : body message block ++ checksum (body message block) =
      opening message.size block.length ++
        (block ++ message.payload ++ checksum (body message block)) :=
    List.append_assoc _ _ _
  have split := differs
  rw [parts] at split
  have opened := split.of_append
  rw [length_opening] at opened
  constructor
  · intro early
    rcases opened with ⟨_, opened, changed, rfl⟩ | ⟨late, _⟩
    · rw [List.append_assoc]
      exact decode_opening_altered changed
    · exact absurd early (Nat.not_lt.mpr late)
  · intro late
    rcases opened with ⟨early, _⟩ | ⟨_, tail, _, same⟩
    · exact absurd early (Nat.not_lt.mpr late)
    -- The opening still stands, so the frame is as long as it was and its checksum is looked at.
    obtain ⟨front, digits, rfl, long, wide, wrong⟩ := checksum_ne_of_differsAt differs
    have enough : Message.openingSize ≤ front.length := by
      rw [long]
      exact openingSize_le_length_body message block
    have first : front.take Message.openingSize = opening message.size block.length := by
      rw [← take_opening_append enough digits, same, ← length_opening message.size block.length,
        List.take_left]
    have sound : checkOpening limits (front.take Message.openingSize) =
        .ok (message.size, block.length) := by
      rw [first]
      exact (checkOpening_eq_ok_iff (length_opening _ _)).mpr ⟨admitted, rfl⟩
    have total : front.length + Message.checksumSize = message.size := by
      rw [long]
      exact length_body written
    refine ⟨digits.toNat.toUInt32, Checksum.crc32 front, decode_eq_iff.mpr ?_⟩
    exact .damaged message.size block.length front digits rest enough sound
      (List.append_assoc _ _ _) total wide wrong

private def flagged : Message := ⟨[⟨"a", .bool true⟩], [7]⟩

private def flaggedFrame : Bytes :=
  [0, 0, 0, 20, 0, 0, 0, 3, 105, 75, 191, 145, 1, 97, 0, 7, 64, 23, 221, 30]

/-- The length of the frame is overstated, and the truth value is turned into a lie. -/
theorem decode_altered_flagged :
    let overstated := flaggedFrame.set 3 21
    let turned := flaggedFrame.set 14 1
    encode {} flagged = .ok flaggedFrame ∧
      (∃ expected computed, decode {} (overstated ++ [9]) =
        (.error (.preludeChecksum expected computed), overstated ++ [9])) ∧
      ∃ expected computed, decode {} (turned ++ [9]) =
        (.error (.messageChecksum expected computed), turned ++ [9]) := by
  intro overstated turned
  have encoded : encode {} flagged = .ok flaggedFrame := by decide +kernel
  have early : Bytes.DiffersAt 3 flaggedFrame overstated :=
    ⟨[0, 0, 0], 20, 21, flaggedFrame.drop 4, rfl, rfl, rfl, by decide⟩
  have late : Bytes.DiffersAt 14 flaggedFrame turned :=
    ⟨flaggedFrame.take 14, 0, 1, flaggedFrame.drop 15, rfl, rfl, rfl, by decide⟩
  refine ⟨encoded, ?_, ?_⟩
  · exact (decode_altered {} flagged encoded early [9]).1 (by decide)
  · exact (decode_altered {} flagged encoded late [9]).2 (by decide)

end Frame

end FramedEvents
