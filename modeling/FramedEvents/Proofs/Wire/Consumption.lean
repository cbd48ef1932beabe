/-
What decoding takes off a buffer.

A message takes the bytes of its frame with it, and so does a frame whose headers are
faulty; whoever goes on behind it finds the next frame. Nothing else takes any bytes: a
buffer that needs more is kept, and one whose lengths or checksums are faulty is kept and
stays faulty however many bytes follow. A frame has sixteen bytes at least, so decoding
again and again comes to an end.
-/

import FramedEvents.Proofs.Wire.Access
import FramedEvents.Proofs.Wire.Chunking
import FramedEvents.Proofs.Wire.Faults
import Mathlib.Tactic.IntervalCases

namespace FramedEvents.Frame

variable {limits : Limits} {buffer rest : Bytes}

/-! ### The answers one by one -/

/-- The opening has not arrived yet, or it is sound and its frame has not. -/
def Incomplete (limits : Limits) (buffer : Bytes) : Prop :=
  buffer.length < Message.openingSize ∨
    ∃ total headers, Admitted limits total headers ∧
      buffer.take Message.openingSize = opening total headers ∧ buffer.length < total

theorem decode_waits_iff :
    decode limits buffer = (.ok none, rest) ↔ rest = buffer ∧ Incomplete limits buffer := by
  constructor
  · intro decoded
    refine ⟨decode_waiting decoded, ?_⟩
    generalize same : (Except.ok none : Except FrameError (Option Message)) = answer at decoded
    cases decode_eq_iff.mp decoded with
    | short few => exact .inl few
    | refused error enough unsound => cases same
    | waiting total headers enough sound missing =>
        obtain ⟨admitted, opened⟩ :=
          (checkOpening_eq_ok_iff (take_opening_length enough)).mp sound
        exact .inr ⟨total, headers, admitted, opened, missing⟩
    | damaged total headers body digits behind opened sound parts long wide wrong => cases same
    | whole total headers body behind opened sound parts long =>
        obtain ⟨message, _, impossible⟩ := map_eq_ok_iff.mp same.symm
        cases impossible
  · rintro ⟨rfl, few | ⟨total, headers, admitted, opened, missing⟩⟩
    · exact decode_eq_iff.mpr (.short few)
    · by_cases few : rest.length < Message.openingSize
      · exact decode_eq_iff.mpr (.short few)
      · have enough := Nat.le_of_not_lt few
        have sound := (checkOpening_eq_ok_iff (take_opening_length enough)).mpr ⟨admitted, opened⟩
        exact decode_eq_iff.mpr (.waiting total headers enough sound missing)

theorem Sealed.leastSize_le {frame : Bytes} (sealed : Sealed limits frame) :
    Message.leastSize ≤ frame.length := by
  obtain ⟨headers, admitted, _⟩ := sealed.opened
  have := admitted.room
  omega

theorem decode_message {message : Message} (decoded : decode limits buffer = (.ok (some message), rest)) :
    ∃ frame, buffer = frame ++ rest ∧ frame.length = message.size := by
  obtain ⟨frame, encoded, parts⟩ := (decode_eq_iff.mp decoded).encode_of_message
  exact ⟨frame, parts, length_frame encoded⟩

/-! ### Decoding again and again -/

def leftAfter (limits : Limits) : Nat → Bytes → Bytes
  | 0, buffer => buffer
  | turns + 1, buffer => leftAfter limits turns (decode limits buffer).2

def TakesFrame : Except FrameError (Option Message) → Prop
  | .ok (some _) => True
  | .ok none => False
  | .error error => error.OfHeaders

theorem TakesFrame.shortens {answer : Except FrameError (Option Message)} (takes : TakesFrame answer)
    (decoded : decode limits buffer = (answer, rest)) :
    rest.length + Message.leastSize ≤ buffer.length := by
  match answer with
  | .ok (some message) =>
      obtain ⟨frame, rfl, long⟩ := decode_message decoded
      rw [List.length_append, long, Message.size]
      omega
  | .error error =>
      rcases (decode_eq_iff.mp decoded).of_error with ⟨ofFrame, _⟩ | ⟨frame, rejected, rfl⟩
      · exact absurd takes ofFrame.not_ofHeaders
      · have := rejected.sealed.leastSize_le
        rw [List.length_append]
        omega

theorem turns_le {turns : Nat}
    (takes : ∀ turn < turns, TakesFrame (decode limits (leftAfter limits turn buffer)).1) :
    Message.leastSize * turns ≤ buffer.length := by
  induction turns generalizing buffer with
  | zero => exact Nat.zero_le _
  | succ turns ih =>
      have first := (takes 0 (Nat.zero_lt_succ turns)).shortens rfl
      have later := ih fun turn earlier => takes (turn + 1) (Nat.succ_lt_succ earlier)
      change _ ≤ (decode limits buffer).2.length at later
      rw [Nat.mul_succ]
      change (decode limits buffer).2.length + _ ≤ buffer.length at first
      omega

/-! ### All answers together -/

/-- What decoding does to a buffer. No access of it fails. It needs more exactly where a
frame is incomplete, and keeps the buffer then. A fault of lengths or checksums keeps the
buffer too, and is met again whatever follows. A fault of headers and a message take the
bytes of one frame, behind which decoding goes on. Both take sixteen bytes at least, so it
does not go on forever. -/
theorem decode_effect (limits : Limits) (buffer : Bytes) :
    decode? limits buffer = some (decode limits buffer) ∧
      (∀ rest, decode limits buffer = (.ok none, rest) ↔
        rest = buffer ∧ Incomplete limits buffer) ∧
      (∀ error rest, decode limits buffer = (.error error, rest) →
        (error.OfFrame ∧ rest = buffer ∧
          ∀ more, decode limits (buffer ++ more) = (.error error, buffer ++ more)) ∨
        ((∃ frame, Rejected limits frame error ∧ buffer = frame ++ rest) ∧
          ∀ next frame behind, encode limits next = .ok frame → rest = frame ++ behind →
            decode limits rest = (.ok (some next), behind))) ∧
      (∀ message rest, decode limits buffer = (.ok (some message), rest) →
        Message.leastSize ≤ message.size ∧
          ∃ frame, buffer = frame ++ rest ∧ frame.length = message.size) ∧
      ∀ turns, (∀ turn < turns, TakesFrame (decode limits (leftAfter limits turn buffer)).1) →
        Message.leastSize * turns ≤ buffer.length := by
  refine ⟨decode?_eq limits buffer, fun rest => decode_waits_iff, ?_, ?_, fun turns => turns_le⟩
  · intro error rest decoded
    rcases (decode_eq_iff.mp decoded).of_error with ⟨ofFrame, rfl⟩ | whole
    · exact .inl ⟨ofFrame, rfl, decode_append decoded (by simp)⟩
    · refine .inr ⟨whole, ?_⟩
      rintro next frame behind encoded rfl
      exact decode_eq_iff.mpr (.of_encode encoded behind)
  · intro message rest decoded
    refine ⟨?_, decode_message decoded⟩
    rw [Message.size]
    omega

/-- A header without a name in a sound frame, and an empty message behind it; and an opening
whose checksum is wrong, whatever follows it. -/
theorem decode_effect_nameless :
    let body := opening 17 1 ++ [0]
    let frame : Bytes := [0, 0, 0, 16, 0, 0, 0, 0, 5, 194, 72, 235, 125, 152, 200, 255]
    let damaged : Bytes := [0, 0, 0, 16, 0, 0, 0, 0, 5, 194, 72, 0]
    decode {} ((body ++ checksum body) ++ frame) =
        (.error (.malformedHeader .emptyName), frame) ∧
      decode {} frame = (.ok (some ⟨[], []⟩), []) ∧
      Message.leastSize * 2 ≤ ((body ++ checksum body) ++ frame).length ∧
      ∃ error : FrameError, error.OfFrame ∧
        ∀ more, decode {} (damaged ++ more) = (.error error, damaged ++ more) := by
  intro body frame damaged
  have admitted : Admitted {} 17 1 := ⟨by decide, by decide, by decide, by decide⟩
  have front : body.take Message.openingSize = opening 17 1 := by
    rw [take_opening_append (by simp), List.take_of_length_le (by simp)]
  have sound : checkOpening {} (body.take Message.openingSize) = .ok (17, 1) := by
    rw [front]
    exact (checkOpening_eq_ok_iff (length_opening _ _)).mpr ⟨admitted, rfl⟩
  have nameless : content 1 body = .error (.malformedHeader .emptyName) := by
    have inner : body.drop Message.openingSize = [0] := by
      rw [← length_opening 17 1, List.drop_left]
    rw [content, inner]
    cbv
  have refused : decode {} ((body ++ checksum body) ++ frame) =
      (.error (.malformedHeader .emptyName), frame) := by
    have whole : Reading {} (body ++ (checksum body ++ frame)) ((content 1 body).map some) frame :=
      .whole 17 1 body frame (by simp [body]) sound rfl (by simp [body]; rfl)
    rw [nameless] at whole
    rw [List.append_assoc]
    exact decode_eq_iff.mpr whole
  have encoded : encode {} ⟨[], []⟩ = .ok frame := by cbv
  obtain ⟨_, _, fails, _, turns⟩ := decode_effect {} ((body ++ checksum body) ++ frame)
  rcases fails _ _ refused with ⟨impossible, _⟩ | ⟨_, next⟩
  · exact absurd impossible not_false
  have found := next ⟨[], []⟩ frame [] encoded (List.append_nil frame).symm
  refine ⟨refused, found, ?_, ?_⟩
  · apply turns 2
    intro turn earlier
    interval_cases turn
    · rw [leftAfter, refused]
      exact True.intro
    · rw [leftAfter, leftAfter, refused, found]
      exact True.intro
  · have wrong : [5, 194, 72, 0] ≠ checksum [0, 0, 0, 16, 0, 0, 0, 0] := by decide +kernel
    have failed : decode {} damaged = (.error (.preludeChecksum _ _), damaged) :=
      decode_unchecked rfl rfl wrong []
    obtain ⟨_, _, failsToo, _, _⟩ := decode_effect {} damaged
    rcases failsToo _ _ failed with ⟨ofFrame, _, again⟩ | ⟨⟨_, impossible, _⟩, _⟩
    · exact ⟨_, ofFrame, again⟩
    · exact absurd impossible.ofHeaders not_false

end FramedEvents.Frame
