/-
What a frame is refused for.

Decoding looks at bytes only. Every failure it reports is about a length, a checksum
or a header that these bytes state, and never about the stream they came from. Whoever
reads from a stream can therefore tell the end of the stream from a faulty frame. A fault
of the lengths or checksums leaves the bytes where they are, and one of the headers is
found in a frame that is whole.
-/

import FramedEvents.Proofs.Wire.FrameExactness

namespace FramedEvents

def FrameError.OfStream : FrameError → Prop
  | .io _ => True
  | .connectionClosed => True
  | _ => False

def FrameError.OfFrame : FrameError → Prop
  | .preludeChecksum _ _ => True
  | .messageChecksum _ _ => True
  | .invalidLength _ _ => True
  | .messageTooLarge _ _ => True
  | .headersTooLarge _ _ => True
  | _ => False

def FrameError.OfHeaders : FrameError → Prop
  | .malformedHeader _ => True
  | .unknownHeaderType _ => True
  | _ => False

theorem FrameError.OfFrame.not_ofStream {error : FrameError} (ofFrame : error.OfFrame) :
    ¬error.OfStream := by
  cases error with
  | io error => exact absurd ofFrame not_false
  | connectionClosed => exact absurd ofFrame not_false
  | _ => exact not_false

theorem FrameError.OfFrame.not_ofHeaders {error : FrameError} (ofFrame : error.OfFrame) :
    ¬error.OfHeaders := by
  cases error with
  | malformedHeader fault => exact absurd ofFrame not_false
  | unknownHeaderType code => exact absurd ofFrame not_false
  | _ => exact not_false

theorem FrameError.OfHeaders.not_ofStream {error : FrameError} (ofHeaders : error.OfHeaders) :
    ¬error.OfStream := by
  cases error with
  | malformedHeader fault => exact not_false
  | unknownHeaderType code => exact not_false
  | _ => exact absurd ofHeaders not_false

namespace HeaderBlock

theorem bind_eq_error_iff {ε α β : Type} {first : Except ε α} {next : α → Except ε β} {error : ε} :
    (first >>= next) = .error error ↔
      first = .error error ∨ ∃ value, first = .ok value ∧ next value = .error error := by
  cases first with
  | error found => simp [bind, Except.bind]
  | ok value => simp [bind, Except.bind]

theorem map_eq_error_iff {ε α β : Type} {first : Except ε α} {change : α → β} {error : ε} :
    first.map change = .error error ↔ first = .error error := by
  cases first with
  | error found => simp [Except.map]
  | ok value => simp [Except.map]

variable {bytes : Bytes} {error : FrameError}

theorem takeField_fault {length : Nat} {field : String}
    (failed : takeField length field bytes = .error error) : error.OfHeaders := by
  unfold takeField at failed
  dsimp only at failed
  split at failed
  · cases failed
  · cases failed
    exact trivial

theorem takeCounted_fault {field : String} (failed : takeCounted field bytes = .error error) :
    error.OfHeaders := by
  rcases bind_eq_error_iff.mp failed with count | ⟨counted, _, body⟩
  · exact takeField_fault count
  · exact takeField_fault body

theorem takeNumeric_fault {width : Nat} {make : Nat → HeaderValue} {field : String}
    (failed : takeNumeric width make field bytes = .error error) : error.OfHeaders := by
  rcases bind_eq_error_iff.mp failed with number | ⟨_, _, impossible⟩
  · rcases bind_eq_error_iff.mp number with digits | ⟨_, _, impossible⟩
    · exact takeField_fault digits
    · cases impossible
  · cases impossible

theorem takeUuid_fault {field : String} (failed : takeUuid field bytes = .error error) :
    error.OfHeaders := by
  unfold takeUuid at failed
  split at failed
  · cases failed
  · rename_i found taken
    cases failed
    exact takeField_fault taken

theorem decodeBody_fault {name : String} {code : UInt8}
    (failed : decodeBody name code bytes = .error error) : error.OfHeaders := by
  unfold decodeBody at failed
  split at failed
  · cases failed
  · cases failed
  · exact takeNumeric_fault failed
  · exact takeNumeric_fault failed
  · exact takeNumeric_fault failed
  · exact takeNumeric_fault failed
  · rcases bind_eq_error_iff.mp failed with counted | ⟨_, _, impossible⟩
    · exact takeCounted_fault counted
    · cases impossible
  · rcases bind_eq_error_iff.mp failed with counted | ⟨⟨value, rest⟩, _, text⟩
    · exact takeCounted_fault counted
    · dsimp only at text
      split at text
      · cases text
      · cases text
        exact trivial
  · exact takeNumeric_fault failed
  · rcases bind_eq_error_iff.mp failed with uuid | ⟨_, _, impossible⟩
    · exact takeUuid_fault uuid
    · cases impossible
  · cases failed
    exact trivial

theorem decodeHeader_fault {length : UInt8} (failed : decodeHeader length bytes = .error error) :
    error.OfHeaders := by
  unfold decodeHeader at failed
  split at failed
  · cases failed
    exact trivial
  · split at failed
    · rename_i found taken
      cases failed
      exact takeField_fault taken
    · split at failed
      · cases failed
        exact trivial
      · cases failed
        exact trivial
      · exact decodeBody_fault (map_eq_error_iff.mp failed)

theorem decode_fault (failed : decode bytes = .error error) : error.OfHeaders := by
  fun_induction decode bytes with
  | case1 => cases failed
  | case2 length body found read =>
      cases failed
      exact decodeHeader_fault read
  | case3 length body header rest read ih => exact ih (map_eq_error_iff.mp failed)

end HeaderBlock

namespace Frame

theorem checkOpening_fault {limits : Limits} {bytes : Bytes} {error : FrameError}
    (failed : checkOpening limits bytes = .error error) : error.OfFrame := by
  unfold checkOpening at failed
  dsimp only at failed
  repeat' split at failed
  all_goals
    cases failed
    try exact trivial

structure Sealed (limits : Limits) (frame : Bytes) : Prop where
  opened : ∃ headers, Admitted limits frame.length headers ∧
    frame.take Message.openingSize = opening frame.length headers
  summed : ∃ body, frame = body ++ checksum body

/-- A frame that is sound but for its headers, with their fault. -/
structure Rejected (limits : Limits) (frame : Bytes) (error : FrameError) : Prop where
  sealed : Sealed limits frame
  refused : decode limits frame = (.error error, [])
  ofHeaders : error.OfHeaders

/-- A fault of lengths or checksums is met at the front of the buffer, and stays there. A
fault of the headers is met in a whole frame, and this frame leaves the buffer. -/
theorem Reading.of_error {limits : Limits} {buffer rest : Bytes} {error : FrameError}
    (reading : Reading limits buffer (.error error) rest) :
    error.OfFrame ∧ rest = buffer ∨
      ∃ frame, Rejected limits frame error ∧ buffer = frame ++ rest := by
  generalize same : (Except.error error : Except FrameError (Option Message)) = answer at reading
  cases reading with
  | short few => cases same
  | refused found enough unsound =>
      cases same
      exact .inl ⟨checkOpening_fault unsound, rfl⟩
  | waiting total headers enough sound missing => cases same
  | damaged total headers body digits behind opened sound parts long wide wrong =>
      cases same
      exact .inl ⟨trivial, rfl⟩
  | whole total headers body behind opened sound parts long =>
      have content := HeaderBlock.map_eq_error_iff.mp same.symm
      obtain ⟨admitted, openingIs⟩ :=
        (checkOpening_eq_ok_iff (take_opening_length opened)).mp sound
      have size : (body ++ checksum body).length = total := by
        rw [List.length_append, length_checksum, long]
      refine .inr ⟨body ++ checksum body, ⟨⟨⟨headers, ?_, ?_⟩, body, rfl⟩, ?_, ?_⟩, ?_⟩
      · rw [size]
        exact admitted
      · rw [take_opening_append opened, openingIs, size]
      · rw [same]
        exact decode_eq_iff.mpr
          (.whole total headers body [] opened sound (by rw [List.append_nil]) long)
      · exact HeaderBlock.decode_fault (HeaderBlock.map_eq_error_iff.mp content)
      · rw [parts, List.append_assoc]

theorem decode_fault {limits : Limits} {buffer rest : Bytes} {error : FrameError}
    (decoded : decode limits buffer = (.error error, rest)) : ¬error.OfStream := by
  rcases (decode_eq_iff.mp decoded).of_error with ⟨ofFrame, _⟩ | ⟨frame, rejected, _⟩
  · exact ofFrame.not_ofStream
  · exact rejected.ofHeaders.not_ofStream

end Frame

end FramedEvents
