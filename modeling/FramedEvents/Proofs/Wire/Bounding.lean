/-
How many bytes wait to be decoded.

The rest of a frame is waited for only once its opening has shown that the frame is not too
long. So what is pending is shorter than an opening, or shorter than the longest frame that
is admitted, whoever decodes it: a decoder keeps no more after a slice that did not fail, and a
reader has no more when it calls its stream.
-/

import FramedEvents.Proofs.Wire.Consumption
import FramedEvents.Proofs.Wire.Fetching
import FramedEvents.Proofs.Wire.Messages

namespace FramedEvents

/-- The most bytes that can wait for the rest of a frame. -/
def Limits.mostPending (limits : Limits) : Nat := max 11 (limits.message - 1)

namespace Frame

variable {limits : Limits} {buffer rest : Bytes}

theorem Incomplete.length_le (incomplete : Incomplete limits buffer) :
    buffer.length ≤ limits.mostPending := by
  rcases incomplete with few | ⟨total, headers, admitted, opened, missing⟩
  · exact Nat.le_trans (Nat.le_of_lt_succ few) (Nat.le_max_left 11 _)
  · have short : buffer.length ≤ limits.message - 1 :=
      Nat.le_sub_one_of_lt (Nat.lt_of_lt_of_le missing admitted.message)
    exact Nat.le_trans short (Nat.le_max_right _ _)

theorem length_le_of_waiting (waits : decode limits buffer = (.ok none, rest)) :
    buffer.length ≤ limits.mostPending :=
  (decode_waits_iff.mp waits).2.length_le

theorem exists_waiting (limits : Limits) (admits : Message.leastSize ≤ limits.message)
    (stated : limits.message ≤ largest) :
    ∃ pending, pending.length = limits.mostPending ∧
      decode limits pending = (.ok none, pending) := by
  let front := opening limits.message 0
  let pending := front ++ List.replicate (limits.message - 1 - front.length) 0
  have wide : front.length = Message.openingSize := length_opening _ _
  have admitted : Admitted limits limits.message 0 := ⟨Nat.le_refl _, Nat.zero_le _, admits, stated⟩
  have least : 16 ≤ limits.message := admits
  have long : pending.length = limits.message - 1 := by
    rw [List.length_append, List.length_replicate, wide]
    have : Message.openingSize = 12 := rfl
    omega
  refine ⟨pending, ?_, decode_waits_iff.mpr ⟨rfl, .inr ⟨limits.message, 0, admitted, ?_, ?_⟩⟩⟩
  · rw [long, Limits.mostPending]
    omega
  · rw [take_opening_append (Nat.le_of_eq wide.symm), List.take_of_length_le (Nat.le_of_eq wide)]
  · omega

end Frame

theorem Fed.decode_waits {σ ε : Type} {limits : Limits} {lift : FrameError → ε}
    {consume : σ → Message → σ × Except ε Unit} {state : σ} {buffer : Bytes}
    (accepted : (decodeAll limits lift consume state buffer).outcome = .ok ()) :
    let pending := (decodeAll limits lift consume state buffer).pending
    Frame.decode limits pending = (.ok none, pending) := by
  have fed : decodeAll limits lift consume state buffer =
      ⟨(decodeAll limits lift consume state buffer).state, .ok (),
        (decodeAll limits lift consume state buffer).pending⟩ := by
    rw [← accepted]
  exact decode_pending fed

theorem Decoder.length_pending_le {σ ε : Type} (decoder : Decoder) (bytes : Bytes)
    (lift : FrameError → ε) (consume : σ → Message → σ × Except ε Unit) (state : σ)
    (accepted : (decoder.feed bytes lift consume state).1.outcome = .ok ()) :
    (decoder.feed bytes lift consume state).2.pending.length ≤ decoder.limits.mostPending :=
  Frame.length_le_of_waiting (Fed.decode_waits accepted)

theorem Reader.length_pending_le (reader : Reader) (calls : List Call) {fetch : Fetch}
    (made : fetch ∈ (({ reader := reader } : Recorded).run calls).2.fetches) :
    fetch.pending.length ≤ reader.limits.mostPending := by
  obtain ⟨fetches, frames, conserved⟩ := ({ reader := reader } : Recorded).run_conserved calls
  rw [conserved.passage.record] at made
  exact Frame.length_le_of_waiting (conserved.passage.needed fetch made)

end FramedEvents
