/-
A byte stream that is read in blocks.

However much room a read has, the blocks put together are the bytes of the stream,
none of them is empty, and none has more bytes than there was room for. A message
takes sixteen bytes at least, and what is kept of a message that is not complete yet
takes part in one message only, so a block of bounded size completes boundedly many.
-/

import FramedEvents.Command.Workspace
import FramedEvents.Proofs.Chunk.Supply
import FramedEvents.Proofs.Wire.FrontEnds

namespace FramedEvents

/-! ### Reads -/

namespace ReadScript

variable {room : Nat} {script after : ReadScript} {bytes : Bytes}

theorem length_read_le (read : script.read room = (.ok bytes, after)) : bytes.length ≤ room := by
  cases script with
  | nil =>
      cases read
      exact Nat.zero_le room
  | cons step rest =>
      cases step with
      | data front =>
          unfold ReadScript.read at read
          dsimp only at read
          split at read
          · rename_i none
            cases read
            exact List.drop_eq_nil_iff.mp none
          · cases read
            rw [List.length_take]
            exact Nat.min_le_left _ _
      | fail error => cases read
      | eof =>
          cases read
          exact Nat.zero_le room

theorem length_readThrough_le (read : script.readThrough room = (.ok bytes, after)) :
    bytes.length ≤ room := by
  fun_induction ReadScript.readThrough room script with
  | case1 error rest interrupted ih => exact ih read
  | case2 error rest other => cases read
  | case3 script plain => exact length_read_le read

end ReadScript

/-! ### Blocks -/

namespace Source

variable {script : ReadScript} {blockSize : Nat}

theorem next_stream (script : ReadScript) (blockSize : Nat) :
    (Source.stream script blockSize).next =
      (⟨(nextBlock script blockSize).1, false⟩,
        .stream (nextBlock script blockSize).2 blockSize) := rfl

theorem nextBlock_bounded {bytes : Bytes} (pulled : (nextBlock script blockSize).1 = .chunk bytes) :
    bytes ≠ [] ∧ bytes.length ≤ max blockSize 1 := by
  unfold nextBlock at pulled
  split at pulled
  · cases pulled
  · rename_i brought rest some read
    cases pulled
    exact ⟨some, ReadScript.length_readThrough_le read⟩
  · cases pulled

theorem Supplies.blocks {chunks : List Bytes} {final : Option TransportError}
    (supplies : (Source.stream script blockSize).Supplies chunks final) :
    ∀ chunk ∈ chunks, chunk ≠ [] ∧ chunk.length ≤ max blockSize 1 := by
  generalize same : Source.stream script blockSize = source at supplies
  induction supplies generalizing script with
  | ended step =>
      intro chunk member
      cases member
  | failed error step =>
      intro chunk member
      cases member
  | @chunk source chunks final bytes step later ih =>
      subst same
      have pulled : (nextBlock script blockSize).1 = .chunk bytes :=
        congrArg SourceStep.pulled step
      intro chunk member
      cases member with
      | head => exact nextBlock_bounded pulled
      | tail _ member => exact ih rfl chunk member

theorem supplies_stream (script : ReadScript) (blockSize : Nat) {bytes : Bytes}
    (brings : script.Brings bytes) :
    ∃ chunks, (Source.stream script blockSize).Supplies chunks none ∧ chunks.flatten = bytes := by
  obtain ⟨front, later, after, read, parts, remains, ended⟩ :=
    brings.readThrough (Nat.lt_of_lt_of_le Nat.zero_lt_one (Nat.le_max_right blockSize 1))
  by_cases none : front = []
  · have step : nextBlock script blockSize = (.ended, after) := by
      unfold nextBlock
      rw [read, none]
    refine ⟨[], .ended ?_, (ended none).symm⟩
    rw [next_stream, step]
  · have block : nextBlock script blockSize = (.chunk front, after) := by
      unfold nextBlock
      rw [read]
      cases front with
      | nil => exact absurd rfl none
      | cons byte more => rfl
    have step : (Source.stream script blockSize).next =
        (⟨.chunk front, false⟩, .stream after blockSize) := by
      rw [next_stream, block]
    have shrinks := ReadScript.weight_add_readThrough read
    have some := List.length_pos_iff.mpr none
    obtain ⟨chunks, supplies, whole⟩ := supplies_stream after blockSize remains
    refine ⟨front :: chunks, .chunk front (congrArg Prod.fst step) ?_, ?_⟩
    · rw [step]
      exact supplies
    · rw [List.flatten_cons, whole, parts]
termination_by script.weight

end Source

/-! ### Files -/

namespace Workspace

theorem pieces_brings {size : Nat} (positive : size ≠ 0) (bytes : Bytes) :
    ReadScript.Brings ((pieces size bytes).map .data) bytes := by
  fun_induction pieces size bytes with
  | case1 bytes none =>
      rcases none with zero | empty
      · exact absurd zero positive
      · rw [empty]
        exact .done
  | case2 bytes some ih =>
      have parts := ReadScript.Brings.data (bytes.take size) ih (fun none => by
        rcases List.take_eq_nil_iff.mp none with zero | empty
        · exact absurd zero positive
        · exact absurd (.inr empty) some)
      rw [List.take_append_drop] at parts
      exact parts

theorem script_brings {workspace : Workspace} {handle : Handle} {bytes : Bytes}
    (readable : workspace.contents handle = .ok bytes) (room : Nat) :
    (workspace.script handle room).Brings bytes := by
  unfold script
  rw [readable]
  dsimp only
  split
  · exact pieces_brings (by decide) bytes
  · have whole := ReadScript.Brings.data bytes .done fun _ => rfl
    rw [List.append_nil] at whole
    exact whole

end Workspace

/-! ### Messages in a block -/

namespace Frame

variable {limits : Limits} {buffer rest : Bytes} {message : Message}

theorem decode_front (decoded : decode limits buffer = (.ok (some message), rest)) :
    ∃ frame, encode limits message = .ok frame ∧ buffer = frame ++ rest ∧ 16 ≤ frame.length := by
  obtain ⟨frame, encoded, parts⟩ := (decode_eq_iff.mp decoded).encode_of_message
  obtain ⟨block, written, admitted, whole⟩ := encode_eq_ok_iff.mp encoded
  refine ⟨frame, encoded, parts, ?_⟩
  have opened := openingSize_le_length_body message block
  rw [whole, List.length_append, length_checksum]
  unfold Message.openingSize at opened
  unfold Message.checksumSize
  omega

theorem length_messages_le (limits : Limits) (buffer : Bytes) :
    16 * (messages limits buffer).1.length ≤ buffer.length := by
  fun_induction messages limits buffer with
  | case1 buffer error rest decoded => exact Nat.zero_le _
  | case2 buffer rest decoded => exact Nat.zero_le _
  | case3 buffer message rest decoded behind ih =>
      obtain ⟨frame, _, parts, long⟩ := decode_front decoded
      rw [parts, List.length_append, List.length_cons]
      change 16 * behind.1.length ≤ rest.length at ih
      omega

theorem decode_reaches {pending bytes : Bytes} (waits : decode limits pending = (.ok none, pending))
    (decoded : decode limits (pending ++ bytes) = (.ok (some message), rest)) :
    rest.length ≤ bytes.length := by
  obtain ⟨frame, encoded, parts, _⟩ := decode_front decoded
  rcases List.append_eq_append_iff.mp parts with ⟨more, _, back⟩ | ⟨more, front, _⟩
  · rw [back, List.length_append]
    exact Nat.le_add_left _ _
  · -- The frame would have been there without these bytes.
    have whole := decode_eq_iff.mpr (Reading.of_encode encoded more)
    rw [← front, waits] at whole
    cases whole

theorem length_completed_le {pending : Bytes} (waits : decode limits pending = (.ok none, pending))
    (bytes : Bytes) : (messages limits (pending ++ bytes)).1.length ≤ bytes.length / 16 + 1 := by
  rcases decoded : decode limits (pending ++ bytes) with ⟨answer, rest⟩
  cases answer with
  | error error =>
      rw [messages_failed decoded]
      exact Nat.zero_le _
  | ok found =>
      cases found with
      | none =>
          rw [messages_waiting decoded]
          exact Nat.zero_le _
      | some message =>
          have reaches := decode_reaches waits decoded
          have later := length_messages_le limits rest
          rw [messages_message decoded, List.length_cons]
          omega

end Frame

end FramedEvents
