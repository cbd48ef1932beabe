/-
What a source supplies, if it is only asked often enough.

A source that leaves the delivery alone supplies finitely many chunks and then
one final signal. What it would do after that is of no interest. A delivery that
is asked for more takes them one by one.
-/

import FramedEvents.Chunk.Delivery
import Mathlib.Logic.Relation
import Mathlib.Algebra.GroupWithZero.Nat

namespace FramedEvents

open Relation

theorem Demand.eq_of_isMet {demand : Demand} (met : demand.isMet = true) : demand = {} := by
  have zero : demand.outstanding = 0 := eq_of_beq met
  obtain ⟨outstanding, bounded⟩ := demand
  change outstanding = 0 at zero
  subst zero
  rfl

namespace Source

/-- The chunks of a source, and the failure that follows them unless the end does. -/
inductive Supplies : Source → List Bytes → Option TransportError → Prop where
  | ended {source} (step : source.next.1 = ⟨.ended, false⟩) : Supplies source [] none
  | failed {source} (error : TransportError) (step : source.next.1 = ⟨.failed error, false⟩) :
      Supplies source [] (some error)
  | chunk {source chunks final} (bytes : Bytes) (step : source.next.1 = ⟨.chunk bytes, false⟩)
      (later : Supplies source.next.2 chunks final) : Supplies source (bytes :: chunks) final

/-- The source never cancels the delivery that it serves. -/
def Harmless : Source → Prop
  | .scripted left => ∀ step ∈ left, step.cancels = false
  | _ => True

theorem Harmless.next {source : Source} (harmless : source.Harmless) :
    source.next.1.cancels = false ∧ source.next.2.Harmless := by
  cases source with
  | chunks left =>
      cases left with
      | nil => exact ⟨rfl, trivial⟩
      | cons bytes later => exact ⟨rfl, trivial⟩
  | stream script blockSize => exact ⟨rfl, trivial⟩
  | scripted left =>
      cases left with
      | nil => exact ⟨rfl, harmless⟩
      | cons step later =>
          exact ⟨harmless step List.mem_cons_self,
            fun other member => harmless other (List.mem_cons_of_mem _ member)⟩

theorem exists_supplies (source : Source) (harmless : source.Harmless) :
    ∃ chunks final, source.Supplies chunks final := by
  obtain ⟨quiet, after⟩ := harmless.next
  cases pulled : source.next.1.pulled with
  | ended =>
      refine ⟨[], none, .ended ?_⟩
      rw [← pulled, ← quiet]
  | failed error =>
      refine ⟨[], some error, .failed error ?_⟩
      rw [← pulled, ← quiet]
  | chunk bytes =>
      have shrinks := weight_next_lt pulled
      obtain ⟨chunks, final, later⟩ := exists_supplies source.next.2 after
      refine ⟨bytes :: chunks, final, .chunk bytes ?_ later⟩
      rw [← pulled, ← quiet]
termination_by source.weight

theorem supplies_chunks (left : List Bytes) : (Source.chunks left).Supplies left none := by
  induction left with
  | nil => exact .ended rfl
  | cons bytes later ih => exact .chunk bytes rfl ih

def advance : Nat → Source → Source
  | 0, source => source
  | count + 1, source => advance count source.next.2

theorem advance_add (first second : Nat) (source : Source) :
    source.advance (first + second) = (source.advance first).advance second := by
  induction first generalizing source with
  | zero => rw [Nat.zero_add]; rfl
  | succ first ih =>
      rw [Nat.succ_add]
      exact ih source.next.2

theorem advance_succ (count : Nat) (source : Source) :
    source.advance (count + 1) = (source.advance count).next.2 :=
  advance_add count 1 source

theorem Supplies.drop {source : Source} {chunks : List Bytes} {final : Option TransportError}
    (supplies : source.Supplies chunks final) {count : Nat} (within : count ≤ chunks.length) :
    (source.advance count).Supplies (chunks.drop count) final := by
  induction supplies generalizing count with
  | ended step =>
      obtain rfl : count = 0 := Nat.le_zero.mp within
      exact .ended step
  | failed error step =>
      obtain rfl : count = 0 := Nat.le_zero.mp within
      exact .failed error step
  | chunk bytes step later ih =>
      cases count with
      | zero => exact .chunk bytes step later
      | succ count => exact ih (Nat.le_of_succ_le_succ within)

theorem Supplies.behind {source : Source} {front behind : List Bytes}
    {final : Option TransportError} (supplies : source.Supplies (front ++ behind) final) :
    (source.advance front.length).Supplies behind final := by
  have within : front.length ≤ (front ++ behind).length := by
    rw [List.length_append]
    exact Nat.le_add_right _ _
  have dropped := supplies.drop within
  rw [List.drop_left] at dropped
  exact dropped

end Source

/-! ### Turns of a delivery -/

namespace Delivery

variable {ω : Type} {reach : Reach ω} {source : Source} {world : ω}

def isWaiting (delivery : Delivery) : Bool := !(delivery.isOver || delivery.demand.isMet)

def takeTurn (reach : Reach ω) : ω → ω :=
  reach.update fun delivery => { delivery with demand := delivery.demand.serve }

def rest (reach : Reach ω) : ω → ω :=
  reach.update fun delivery => { delivery with busy := false }

theorem isWaiting_iff {delivery : Delivery} :
    delivery.isWaiting = true ↔ ¬(delivery.isOver || delivery.demand.isMet) = true := by
  unfold isWaiting
  rw [Bool.not_eq_true', Bool.not_eq_true]

theorem handOver_idle (idle : (reach.delivery world).isWaiting = false) :
    handOver reach source world = (source, rest reach world) := by
  have met : ((reach.delivery world).isOver || (reach.delivery world).demand.isMet) = true := by
    unfold isWaiting at idle
    rw [Bool.not_eq_false'] at idle
    exact idle
  rw [handOver]
  rw [if_pos met]
  rfl

theorem handOver_turn (waits : (reach.delivery world).isWaiting = true) :
    handOver reach source world =
      let asked :=
        if source.next.1.cancels then reach.onSourceCancel (takeTurn reach world)
        else takeTurn reach world
      match source.next.1.pulled with
      | .chunk bytes => handOver reach source.next.2 (reach.onChunk bytes asked)
      | .ended => (source.next.2, conclude reach reach.onEnd asked)
      | .failed error => (source.next.2, conclude reach (reach.onFailure error) asked) := by
  conv => lhs; rw [handOver]
  rw [if_neg (isWaiting_iff.mp waits)]
  dsimp only
  split
  · rename_i bytes pulled
    rw [pulled]
    rfl
  · rename_i pulled
    rw [pulled]
    rfl
  · rename_i error pulled
    rw [pulled]
    rfl

theorem handOver_chunk {bytes : Bytes} (waits : (reach.delivery world).isWaiting = true)
    (step : source.next.1 = ⟨.chunk bytes, false⟩) :
    handOver reach source world =
      handOver reach source.next.2 (reach.onChunk bytes (takeTurn reach world)) := by
  rw [handOver_turn waits, step]
  rfl

theorem handOver_ended (waits : (reach.delivery world).isWaiting = true)
    (step : source.next.1 = ⟨.ended, false⟩) :
    handOver reach source world =
      (source.next.2, conclude reach reach.onEnd (takeTurn reach world)) := by
  rw [handOver_turn waits, step]
  rfl

theorem handOver_failed {error : TransportError} (waits : (reach.delivery world).isWaiting = true)
    (step : source.next.1 = ⟨.failed error, false⟩) :
    handOver reach source world =
      (source.next.2, conclude reach (reach.onFailure error) (takeTurn reach world)) := by
  rw [handOver_turn waits, step]
  rfl

theorem request_ignored {count : Nat}
    (ignored : count = 0 ∨ (reach.delivery world).isOver = true) :
    request reach count source world = (source, world) := by
  unfold request
  apply if_pos
  rw [Bool.or_eq_true, decide_eq_true_eq]
  exact ignored

theorem request_counts {count : Nat} (counts : count ≠ 0)
    (opened : (reach.delivery world).isOver = false) :
    request reach count source world =
      let booked := reach.update (fun delivery => delivery.book count) world
      if (reach.delivery booked).busy then (source, booked)
      else
        handOver reach source
          (reach.update (fun delivery => { delivery with busy := true }) booked) := by
  unfold request
  apply if_neg
  rw [Bool.or_eq_true, decide_eq_true_eq, opened]
  exact fun either => either.elim counts Bool.false_ne_true

/-! ### What the receiver goes through -/

/-- What the receiver of a delivery goes through is a sequence of changes, if each
of its reactions is one. The delivery never cancels itself. -/
theorem handOver_changes {change : ω → ω → Prop}
    (update : ∀ made, (∀ delivery, (made delivery).cancelled = delivery.cancelled) →
      ∀ world, ReflTransGen change world (reach.update made world))
    (onChunk : ∀ bytes world, ReflTransGen change world (reach.onChunk bytes world))
    (onFailure : ∀ error world, ReflTransGen change world (reach.onFailure error world))
    (onEnd : ∀ world, ReflTransGen change world (reach.onEnd world))
    (onSourceCancel : ∀ world, ReflTransGen change world (reach.onSourceCancel world))
    (source : Source) (world : ω) :
    ReflTransGen change world (handOver reach source world).2 := by
  have resting : ∀ world, ReflTransGen change world (rest reach world) :=
    update (fun delivery => { delivery with busy := false }) fun _ => rfl
  have turn : ∀ world, ReflTransGen change world (takeTurn reach world) :=
    update (fun delivery => { delivery with demand := delivery.demand.serve }) fun _ => rfl
  have closing : ∀ world, ReflTransGen change world (reach.update _ world) :=
    update (fun delivery => { delivery with concluded := true }) fun _ => rfl
  have concluding (notify : ω → ω) (notified : ∀ world, ReflTransGen change world (notify world))
      (world : ω) : ReflTransGen change world (conclude reach notify world) := by
    unfold conclude
    dsimp only
    split
    · exact resting world
    · exact ((resting world).trans (closing _)).trans (notified _)
  have asking (cancels : Bool) (world : ω) :
      ReflTransGen change world (if cancels then reach.onSourceCancel world else world) := by
    split
    · exact onSourceCancel world
    · exact .refl
  fun_induction handOver reach source world with
  | case1 source world delivery idle => exact resting world
  | case2 source world delivery going taken step asked bytes pulled ih =>
      exact (((turn world).trans (asking step.cancels taken)).trans (onChunk bytes asked)).trans ih
  | case3 source world delivery going taken step asked pulled =>
      exact ((turn world).trans (asking step.cancels taken)).trans (concluding _ onEnd asked)
  | case4 source world delivery going taken step asked error pulled =>
      exact ((turn world).trans (asking step.cancels taken)).trans
        (concluding _ (onFailure error) asked)

theorem cancelled_book (delivery : Delivery) (count : Nat) :
    (delivery.book count).cancelled = delivery.cancelled := by
  unfold book
  split <;> rfl

theorem request_changes {change : ω → ω → Prop}
    (update : ∀ made, (∀ delivery, (made delivery).cancelled = delivery.cancelled) →
      ∀ world, ReflTransGen change world (reach.update made world))
    (onChunk : ∀ bytes world, ReflTransGen change world (reach.onChunk bytes world))
    (onFailure : ∀ error world, ReflTransGen change world (reach.onFailure error world))
    (onEnd : ∀ world, ReflTransGen change world (reach.onEnd world))
    (onSourceCancel : ∀ world, ReflTransGen change world (reach.onSourceCancel world))
    (count : Nat) (source : Source) (world : ω) :
    ReflTransGen change world (request reach count source world).2 := by
  unfold request
  split
  · exact .refl
  · dsimp only
    have booked := update (fun delivery => delivery.book count) (cancelled_book · count) world
    split
    · exact booked
    · have starting := update (fun delivery => { delivery with busy := true }) fun _ => rfl
      exact (booked.trans (starting _)).trans
        (handOver_changes update onChunk onFailure onEnd onSourceCancel source _)

end Delivery

end FramedEvents
