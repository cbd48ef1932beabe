/-
What a source makes of the byte stream that it reads.

A byte stream tells of bytes, and in between of its end and of failures. A source tells the
same, in the same order: its chunks are the bytes, portion by portion, and its ends and its
failures stand where the stream has them. Only interruptions are not told of. Whatever has
not been told yet is left in the stream, so that later calls go on with it.
-/

import FramedEvents.Proofs.Chunk.Blocks

namespace FramedEvents

/-- One thing that is told of a byte stream. -/
inductive Item where
  | byte (value : UInt8)
  | ended
  | failed (error : TransportError)

/-- The bytes that come first, and the failure behind them unless an end comes there. -/
def Item.ahead : List Item → Bytes × Option TransportError
  | [] => ([], none)
  | .byte value :: later => (value :: (ahead later).1, (ahead later).2)
  | .ended :: _ => ([], none)
  | .failed error :: _ => ([], some error)

theorem Item.ahead_bytes (bytes : Bytes) (later : List Item) :
    ahead (bytes.map .byte ++ later) = (bytes ++ (ahead later).1, (ahead later).2) := by
  induction bytes with
  | nil => rfl
  | cons value bytes ih => simp [ahead, ih]

/-- A call without bytes is an end of the stream, and an interruption is nothing at all. -/
def ReadScript.items : ReadScript → List Item
  | [] => []
  | .data [] :: rest => .ended :: items rest
  | .data (value :: more) :: rest => (value :: more).map .byte ++ items rest
  | .fail error :: rest =>
      if error.kind = .interrupted then items rest else .failed (.io error) :: items rest
  | .eof :: rest => .ended :: items rest

def Pulled.items : Pulled → List Item
  | .chunk bytes => bytes.map .byte
  | .failed error => [.failed error]
  | .ended => [.ended]

/-! ### One call -/

namespace ReadScript

variable {room : Nat} {script : ReadScript}

def answerItems : Except IoError Bytes → List Item
  | .ok [] => [.ended]
  | .ok (value :: more) => (value :: more).map .byte
  | .error error => [.failed (.io error)]

/-- The answer to a call tells what the script tells first. Past the end of the script all
answers are ends. -/
def Tells (script : ReadScript) (called : Except IoError Bytes × ReadScript) : Prop :=
  script.items = answerItems called.1 ++ called.2.items ∨
    script.items = [] ∧ called = (.ok [], [])

theorem read_tells (hasRoom : 0 < room) (plain : ∀ error rest, script ≠ .fail error :: rest) :
    Tells script (script.read room) := by
  cases script with
  | nil => exact .inr ⟨rfl, rfl⟩
  | cons step rest =>
      left
      cases step with
      | fail error => exact absurd rfl (plain error rest)
      | eof => rfl
      | data bytes =>
          cases bytes with
          | nil =>
              rw [read, List.drop_nil]
              rfl
          | cons value more =>
              obtain ⟨less, rfl⟩ := Nat.exists_eq_succ_of_ne_zero (Nat.ne_of_gt hasRoom)
              rw [read, List.drop_succ_cons, List.take_succ_cons]
              cases left : more.drop less with
              | nil => rfl
              | cons next later =>
                  -- What there was no room for stays in front.
                  have whole := List.take_append_drop less more
                  rw [left] at whole
                  simp only [items, answerItems]
                  rw [← List.append_assoc, ← List.map_append, List.cons_append, whole]

theorem readThrough_tells (hasRoom : 0 < room) (script : ReadScript) :
    Tells script (script.readThrough room) := by
  fun_induction readThrough room script with
  | case1 error rest interrupted ih => simpa [Tells, items, interrupted] using ih
  | case2 error rest other => simp [Tells, items, answerItems, other]
  | case3 script plain => exact read_tells hasRoom plain

end ReadScript

namespace Source

open ReadScript

theorem nextBlock_tells (script : ReadScript) (blockSize : Nat) :
    script.items =
        (nextBlock script blockSize).1.items ++ (nextBlock script blockSize).2.items ∨
      script.items = [] ∧ nextBlock script blockSize = (.ended, []) := by
  have hasRoom : 0 < max blockSize 1 := by omega
  have tells := readThrough_tells hasRoom script
  unfold nextBlock
  generalize script.readThrough (max blockSize 1) = called at tells
  rcases called with ⟨answer, rest⟩
  rcases tells with first | ⟨nothing, same⟩
  · left
    rcases answer with error | _ | ⟨value, more⟩ <;> exact first
  · right
    cases same
    exact ⟨nothing, rfl⟩

/-! ### Repeated calls -/

def answers : Nat → Source → List Pulled
  | 0, _ => []
  | calls + 1, source => source.next.1.pulled :: answers calls source.next.2

def unread : Source → ReadScript
  | .stream script _ => script
  | _ => []

variable {script : ReadScript} {blockSize : Nat}

theorem answers_bounded {bytes : Bytes} (calls : Nat)
    (member : .chunk bytes ∈ (Source.stream script blockSize).answers calls) :
    bytes ≠ [] ∧ bytes.length ≤ max blockSize 1 := by
  induction calls generalizing script with
  | zero => cases member
  | succ calls ih =>
      rcases List.mem_cons.mp member with first | later
      · exact nextBlock_bounded first.symm
      · exact ih later

theorem advance_spent (calls blockSize : Nat) :
    (Source.stream [] blockSize).advance calls = .stream [] blockSize := by
  induction calls with
  | zero => rfl
  | succ calls ih => exact ih

/-- What the answers tell, and then what is left, is what the script tells, and then ends as
often as it was called past its end. -/
theorem answers_tell (calls : Nat) (script : ReadScript) (blockSize : Nat) :
    ∃ beyond,
      script.items ++ List.replicate beyond .ended =
        ((Source.stream script blockSize).answers calls).flatMap Pulled.items ++
          ((Source.stream script blockSize).advance calls).unread.items ∧
      (beyond ≠ 0 → ((Source.stream script blockSize).advance calls).unread = []) := by
  induction calls generalizing script with
  | zero => exact ⟨0, by simp [answers, advance, unread], fun none => absurd rfl none⟩
  | succ calls ih =>
      simp only [answers, advance, next_stream, List.flatMap_cons, List.append_assoc]
      rcases ih (nextBlock script blockSize).2 with ⟨beyond, told, spent⟩
      rcases nextBlock_tells script blockSize with first | ⟨nothing, called⟩
      · refine ⟨beyond, ?_, spent⟩
        rw [first, List.append_assoc, told]
      · rw [called] at told ⊢
        refine ⟨beyond + 1, ?_, fun _ => by rw [advance_spent]; rfl⟩
        rw [nothing, ← told, List.replicate_succ]
        rfl

theorem Supplies.ahead {chunks : List Bytes} {final : Option TransportError}
    (supplies : (Source.stream script blockSize).Supplies chunks final) :
    Item.ahead script.items = (chunks.flatten, final) := by
  generalize same : Source.stream script blockSize = source at supplies
  induction supplies generalizing script with
  | ended step =>
      subst same
      have pulled : (nextBlock script blockSize).1 = .ended := congrArg SourceStep.pulled step
      rcases nextBlock_tells script blockSize with first | ⟨nothing, _⟩
      · rw [first, pulled]
        rfl
      · rw [nothing]
        rfl
  | failed error step =>
      subst same
      have pulled : (nextBlock script blockSize).1 = .failed error :=
        congrArg SourceStep.pulled step
      rcases nextBlock_tells script blockSize with first | ⟨_, called⟩
      · rw [first, pulled]
        rfl
      · rw [called] at pulled
        cases pulled
  | @chunk source chunks final bytes step later ih =>
      subst same
      have pulled : (nextBlock script blockSize).1 = .chunk bytes :=
        congrArg SourceStep.pulled step
      rcases nextBlock_tells script blockSize with first | ⟨_, called⟩
      · have behind : Item.ahead (nextBlock script blockSize).2.items = (chunks.flatten, final) :=
          ih rfl
        rw [first, pulled]
        apply (Item.ahead_bytes bytes _).trans
        rw [behind]
        rfl
      · rw [called] at pulled
        cases pulled

/-- A source reads its stream faithfully, however it is portioned, interrupted, failed and
ended. Its chunks have some bytes each, and no more than there was room for. Up to the first
end or failure they are the bytes in front of it, and that is reported behind them. However
often it is called, also after that, its answers tell in turn what the stream tells, and what
they have not told is left in the stream. -/
theorem stream_faithful (script : ReadScript) (blockSize : Nat) :
    let source := Source.stream script blockSize
    (∀ calls bytes, .chunk bytes ∈ source.answers calls →
        bytes ≠ [] ∧ bytes.length ≤ max blockSize 1) ∧
      (∃ chunks, source.Supplies chunks (Item.ahead script.items).2 ∧
        chunks.flatten = (Item.ahead script.items).1) ∧
      ∀ calls, ∃ beyond,
        script.items ++ List.replicate beyond .ended =
          (source.answers calls).flatMap Pulled.items ++ (source.advance calls).unread.items ∧
        (beyond ≠ 0 → (source.advance calls).unread = []) := by
  intro source
  refine ⟨fun calls bytes member => answers_bounded calls member, ?_, fun calls =>
    answers_tell calls script blockSize⟩
  obtain ⟨chunks, final, supplies⟩ := exists_supplies source trivial
  have parts := supplies.ahead
  rw [parts]
  exact ⟨chunks, supplies, rfl⟩

/-- A stream that is interrupted between two portions, that fails behind them, and that goes
on after that, and once more after its end. -/
theorem stream_faithful_torn :
    let broken : IoError := { kind := .brokenPipe }
    let script : ReadScript :=
      [.data [97, 98, 99, 100], .fail { kind := .interrupted }, .data [101], .fail broken,
        .data [102], .eof, .data [103]]
    let source := Source.stream script 3
    source.answers 8 =
        [.chunk [97, 98, 99], .chunk [100], .chunk [101], .failed (.io broken), .chunk [102],
          .ended, .chunk [103], .ended] ∧
      (∀ bytes, .chunk bytes ∈ source.answers 8 → bytes ≠ [] ∧ bytes.length ≤ 3) ∧
      ∃ chunks, source.Supplies chunks (some (.io broken)) ∧
        chunks.flatten = [97, 98, 99, 100, 101] := by
  intro broken script source
  obtain ⟨bounded, whole, _⟩ := stream_faithful script 3
  exact ⟨by decide, bounded 8, whole⟩

end Source

end FramedEvents
