/-
Chunk boundaries do not matter to a decoder.

Every answer about a buffer but "not yet" stays the same when more bytes arrive.
Decoding a longer buffer therefore goes on where decoding the front of it
stopped, and feeding a decoder slice by slice hands on the same messages and
meets the same first failure as feeding it all bytes at once.
-/

import FramedEvents.Proofs.Wire.FrameExactness
import FramedEvents.Wire.Decoder

namespace FramedEvents

/-! ### Answers that stay -/

namespace Frame

/-- Any answer but "not yet" is kept when more bytes arrive, and they stay behind
what the answer leaves. -/
theorem Reading.append {limits : Limits} {buffer rest : Bytes}
    {answer : Except FrameError (Option Message)} (reading : Reading limits buffer answer rest)
    (settled : answer ≠ .ok none) (more : Bytes) :
    Reading limits (buffer ++ more) answer (rest ++ more) := by
  cases reading with
  | short few => exact absurd rfl settled
  | refused error enough unsound =>
      refine .refused error ?_ ?_
      · rw [List.length_append]
        omega
      · rw [take_opening_append enough _, unsound]
  | waiting total headers enough sound missing => exact absurd rfl settled
  | damaged total headers body digits behind opened sound parts long wide wrong =>
      refine .damaged total headers body digits (behind ++ more) opened sound ?_ long wide wrong
      rw [parts, List.append_assoc, List.append_assoc]
  | whole total headers body behind opened sound parts long =>
      refine .whole total headers body (rest ++ more) opened sound ?_ long
      rw [parts, List.append_assoc, List.append_assoc]

theorem decode_append {limits : Limits} {buffer rest : Bytes}
    {answer : Except FrameError (Option Message)} (decoded : decode limits buffer = (answer, rest))
    (settled : answer ≠ .ok none) (more : Bytes) :
    decode limits (buffer ++ more) = (answer, rest ++ more) :=
  decode_eq_iff.mpr ((decode_eq_iff.mp decoded).append settled more)

theorem decode_waiting {limits : Limits} {buffer rest : Bytes}
    (decoded : decode limits buffer = (.ok none, rest)) : rest = buffer := by
  generalize same : (Except.ok none : Except FrameError (Option Message)) = answer at decoded
  cases decode_eq_iff.mp decoded with
  | short few => rfl
  | refused error enough unsound => rfl
  | waiting total headers enough sound missing => rfl
  | damaged total headers body digits behind opened sound parts long wide wrong => rfl
  | whole total headers body behind opened sound parts long =>
      obtain ⟨message, _, impossible⟩ := map_eq_ok_iff.mp same.symm
      cases impossible

theorem decode_nil {limits : Limits} : decode limits [] = (.ok none, []) :=
  decode_eq_iff.mpr (.short (by decide))

end Frame

/-! ### Decoding goes on where it stopped -/

namespace Fed

variable {σ ε : Type} {limits : Limits} {lift : FrameError → ε}
  {consume : σ → Message → σ × Except ε Unit} {state : σ} {buffer rest : Bytes}

theorem decodeAll_failed {error : FrameError}
    (decoded : Frame.decode limits buffer = (.error error, rest)) :
    decodeAll limits lift consume state buffer = ⟨state, .error (lift error), rest⟩ := by
  rw [decodeAll]
  split
  · rename_i found left same
    rw [decoded] at same
    cases same
    rfl
  · rename_i left other
    rw [decoded] at other
    cases other
  · rename_i message left other
    rw [decoded] at other
    cases other

theorem decodeAll_waiting (decoded : Frame.decode limits buffer = (.ok none, rest)) :
    decodeAll limits lift consume state buffer = ⟨state, .ok (), rest⟩ := by
  rw [decodeAll]
  split
  · rename_i error left other
    rw [decoded] at other
    cases other
  · rename_i left same
    rw [decoded] at same
    cases same
    rfl
  · rename_i message left other
    rw [decoded] at other
    cases other

theorem decodeAll_message {message : Message}
    (decoded : Frame.decode limits buffer = (.ok (some message), rest)) :
    decodeAll limits lift consume state buffer =
      match consume state message with
      | (after, .error error) => ⟨after, .error error, rest⟩
      | (after, .ok ()) => decodeAll limits lift consume after rest := by
  rw [decodeAll]
  split
  · rename_i error left other
    rw [decoded] at other
    cases other
  · rename_i left other
    rw [decoded] at other
    cases other
  · rename_i found left same
    rw [decoded] at same
    cases same
    rfl

/-- Decoding a longer buffer goes on where decoding the front of it stopped. After
a failure it does not go on. -/
theorem decodeAll_append (front back : Bytes) :
    decodeAll limits lift consume state (front ++ back) =
      match decodeAll limits lift consume state front with
      | ⟨after, .ok (), pending⟩ => decodeAll limits lift consume after (pending ++ back)
      | ⟨after, .error error, pending⟩ => ⟨after, .error error, pending ++ back⟩ := by
  fun_induction decodeAll limits lift consume state front with
  | case1 state front error rest decoded =>
      exact decodeAll_failed (Frame.decode_append decoded (by simp) back)
  | case2 state front rest decoded =>
      rw [Frame.decode_waiting decoded]
  | case3 state front message rest decoded after error refused =>
      rw [decodeAll_message (Frame.decode_append decoded (by simp) back), refused]
  | case4 state front message rest decoded after accepted ih =>
      rw [decodeAll_message (Frame.decode_append decoded (by simp) back), accepted]
      exact ih

theorem decode_pending {after : σ} {pending : Bytes}
    (fed : decodeAll limits lift consume state buffer = ⟨after, .ok (), pending⟩) :
    Frame.decode limits pending = (.ok none, pending) := by
  fun_induction decodeAll limits lift consume state buffer with
  | case1 state buffer error rest decoded => cases fed
  | case2 state buffer rest decoded =>
      cases fed
      have same := Frame.decode_waiting decoded
      subst same
      exact decoded
  | case3 state buffer message rest decoded next error refused => cases fed
  | case4 state buffer message rest decoded next accepted ih => exact ih fed

end Fed

/-! ### Slices -/

namespace Decoder

variable {σ ε : Type} {limits : Limits} {lift : FrameError → ε}
  {consume : σ → Message → σ × Except ε Unit}

def feedAll (lift : FrameError → ε) (consume : σ → Message → σ × Except ε Unit) :
    Decoder → List Bytes → σ → Fed σ ε × Decoder
  | decoder, [], state => (⟨state, .ok (), decoder.pending⟩, decoder)
  | decoder, bytes :: later, state =>
      match decoder.feed bytes lift consume state with
      | (⟨after, .ok (), _⟩, next) => feedAll lift consume next later after
      | failed => failed

/-- Two ways of feeding come to the same: the same messages went to the consumer,
the same failure ended it or none did, and if none did the decoders agree. -/
def Agree (first second : Fed σ ε × Decoder) : Prop :=
  first.1.state = second.1.state ∧ first.1.outcome = second.1.outcome ∧
    (first.1.outcome = .ok () → first.2 = second.2)

theorem Agree.refl (fed : Fed σ ε × Decoder) : Agree fed fed := ⟨rfl, rfl, fun _ => rfl⟩

theorem Agree.trans {first second third : Fed σ ε × Decoder} (left : Agree first second)
    (right : Agree second third) : Agree first third := by
  obtain ⟨sameState, sameOutcome, samePending⟩ := left
  obtain ⟨state, outcome, pending⟩ := right
  refine ⟨sameState.trans state, sameOutcome.trans outcome, ?_⟩
  intro accepted
  exact (samePending accepted).trans (pending (sameOutcome ▸ accepted))

theorem Agree.symm {first second : Fed σ ε × Decoder} (agree : Agree first second) :
    Agree second first := by
  obtain ⟨sameState, sameOutcome, samePending⟩ := agree
  refine ⟨sameState.symm, sameOutcome.symm, ?_⟩
  intro accepted
  exact (samePending (sameOutcome.trans accepted)).symm

/-- Feeding slices comes to the same as feeding all their bytes at once, to a
decoder that waits for more. -/
theorem feedAll_agree (slices : List Bytes) (decoder : Decoder) (state : σ)
    (waits : Frame.decode decoder.limits decoder.pending = (.ok none, decoder.pending)) :
    Agree (feedAll lift consume decoder slices state)
      (decoder.feed slices.flatten lift consume state) := by
  induction slices generalizing decoder state with
  | nil =>
      simp only [feedAll, feed, List.flatten_nil, List.append_nil, Fed.decodeAll_waiting waits]
      exact Agree.refl _
  | cons bytes later ih =>
      rw [List.flatten_cons]
      simp only [feedAll, feed]
      rw [← List.append_assoc, Fed.decodeAll_append (decoder.pending ++ bytes) later.flatten]
      generalize whole : Fed.decodeAll decoder.limits lift consume state
        (decoder.pending ++ bytes) = fed
      obtain ⟨after, outcome, pending⟩ := fed
      cases outcome with
      | ok =>
          have next := ih { decoder with pending := pending } after (Fed.decode_pending whole)
          exact next
      | error error => exact ⟨rfl, rfl, fun impossible => by cases impossible⟩

/-- A consumer that keeps the messages it was given, and whose verdict depends on
nothing else. -/
def keeping (verdict : List Message → Except ε Unit) (seen : List Message) (message : Message) :
    List Message × Except ε Unit :=
  (seen ++ [message], verdict (seen ++ [message]))

/-- However a byte string is cut into slices, feeding them comes to the same as
feeding it at once. -/
theorem feedAll_chunking (limits : Limits) (lift : FrameError → ε)
    (verdict : List Message → Except ε Unit) (bytes : Bytes) (first second : List Bytes)
    (firstCut : first.flatten = bytes) (secondCut : second.flatten = bytes) :
    let fed (slices : List Bytes) := feedAll lift (keeping verdict) { limits := limits } slices []
    Agree (fed first) (fed second) ∧
      Agree (fed first) (feed { limits := limits } bytes lift (keeping verdict) []) := by
  have whole (slices : List Bytes) (cut : slices.flatten = bytes) :
      Agree (feedAll lift (keeping verdict) { limits := limits } slices [])
        (feed { limits := limits } bytes lift (keeping verdict) []) := by
    rw [← cut]
    exact feedAll_agree slices { limits := limits } [] Frame.decode_nil
  exact ⟨(whole first firstCut).trans (whole second secondCut).symm, whole first firstCut⟩

/-- An empty message in two slices and in three, behind it the start of another. -/
theorem feedAll_chunking_empty_message :
    let front : Bytes := [0, 0, 0, 16, 0, 0, 0, 0, 5]
    let back : Bytes := [194, 72, 235, 125, 152, 200, 255, 0, 0]
    let verdict : List Message → Except FrameError Unit := fun seen =>
      if seen.length < 2 then .ok () else .error .connectionClosed
    let fed (slices : List Bytes) := feedAll id (keeping verdict) {} slices []
    Agree (fed [front, back]) (fed [front, [], back]) ∧
      Agree (fed [front, back]) (feed {} (front ++ back) id (keeping verdict) []) :=
  feedAll_chunking {} id _ _ _ _ rfl rfl

end Decoder

end FramedEvents
