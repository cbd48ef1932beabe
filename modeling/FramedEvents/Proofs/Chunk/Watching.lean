/-
Hooks that are watched.

A subscriber may ask for more in any hook. To see whether anything is handed over
before a hook returns, what is asked for there is carried out the way it is from
outside, and what has been received is compared. While the loop is running, and
once everything is over, nothing is.
-/

import FramedEvents.Chunk.Publisher
import FramedEvents.Proofs.Chunk.Supply

namespace FramedEvents

theorem Demand.add_zero (demand : Demand) : demand.add 0 = demand := by
  obtain ⟨outstanding, bounded⟩ := demand
  change (⟨min (outstanding + 0) mostDemand, _⟩ : Demand) = ⟨outstanding, bounded⟩
  congr 1
  omega

namespace Publisher

variable {σ : Type} {subscriber : ChunkSubscriber σ}

theorem request_ignored {publisher : Publisher σ} {count : Nat}
    (ignored : count = 0 ∨ publisher.delivery.isOver = true) :
    publisher.request subscriber count = publisher := by
  have same : Delivery.request (reach subscriber) count publisher.source publisher = _ :=
    Delivery.request_ignored ignored
  unfold request
  rw [same]

/-- A publisher whose hooks are watched: whether anything has been handed over inside
one that the loop has called. -/
structure Observed (σ : Type) where
  publisher : Publisher σ
  nested : Bool := false

/-- Gives the subscriber a signal, and carries out what it asks for as it would be
carried out from outside. -/
def observe (subscriber : ChunkSubscriber σ) (given : ChunkSignal) (seen : Observed σ) :
    Observed σ :=
  let (informed, controls) := seen.publisher.signal subscriber given
  let after := controls.foldl (control subscriber) informed
  { publisher := after
    nested := seen.nested || after.received.length != informed.received.length }

def watched (subscriber : ChunkSubscriber σ) : Delivery.Reach (Observed σ) where
  delivery := fun seen => seen.publisher.delivery
  update := fun change seen =>
    { seen with
      publisher := { seen.publisher with delivery := change seen.publisher.delivery } }
  onChunk := fun bytes => observe subscriber (.next bytes)
  onFailure := fun error => observe subscriber (.failed error)
  onEnd := observe subscriber .completed
  onSourceCancel := fun seen => { seen with publisher := seen.publisher.cancel }

def Busy (delivery : Delivery) : Prop := delivery.busy = true ∨ delivery.isOver = true

theorem Busy.obey {delivery : Delivery} (busy : Busy delivery) (used : Control) :
    Busy (delivery.obey used) := by
  cases used with
  | cancel => exact .inr (Bool.or_true _)
  | request count =>
      change Busy (if delivery.isOver then delivery else _)
      split
      · exact busy
      · exact busy

theorem request_busy {publisher : Publisher σ} (busy : Busy publisher.delivery) (count : Nat) :
    publisher.request subscriber count =
      { publisher with delivery := publisher.delivery.book count } := by
  by_cases past : publisher.delivery.isOver = true
  · rw [request_ignored (.inr past), Delivery.book, if_pos past]
  · have booked : publisher.delivery.book count =
        { publisher.delivery with demand := publisher.delivery.demand.add count } :=
      if_neg past
    rw [booked]
    by_cases none : count = 0
    · subst none
      rw [request_ignored (.inl rfl), Demand.add_zero]
    · have looping : (publisher.delivery.book count).busy = true := by
        rw [booked]
        exact busy.resolve_right past
      have noted : Delivery.request (reach subscriber) count publisher.source publisher =
          (publisher.source, { publisher with delivery := publisher.delivery.book count }) :=
        (Delivery.request_counts none (Bool.eq_false_iff.mpr past)).trans (if_pos looping)
      unfold request
      rw [noted, booked]

theorem foldl_control_busy (controls : List Control) {publisher : Publisher σ}
    (busy : Busy publisher.delivery) :
    controls.foldl (control subscriber) publisher =
      { publisher with delivery := controls.foldl Delivery.obey publisher.delivery } := by
  induction controls generalizing publisher with
  | nil => rfl
  | cons used later ih =>
      have first : publisher.control subscriber used =
          { publisher with delivery := publisher.delivery.obey used } := by
        cases used with
        | cancel => rfl
        | request count => exact request_busy busy count
      rw [List.foldl_cons, first]
      apply ih
      exact busy.obey used

theorem delivery_signal (given : ChunkSignal) (publisher : Publisher σ) :
    (publisher.signal subscriber given).1.delivery = publisher.delivery := by
  unfold signal
  cases publisher.attached with
  | none => rfl
  | some state => rfl

theorem observe_busy (given : ChunkSignal) {publisher : Publisher σ}
    (busy : Busy publisher.delivery) :
    observe subscriber given ⟨publisher, false⟩ =
      ⟨signalInside subscriber given publisher, false⟩ := by
  have still : Busy (publisher.signal subscriber given).1.delivery := by
    rw [delivery_signal]
    exact busy
  unfold observe signalInside
  dsimp only
  rw [foldl_control_busy _ still]
  congr 1
  exact bne_self_eq_false _

theorem busy_signalInside (given : ChunkSignal) {publisher : Publisher σ}
    (looping : publisher.delivery.busy = true) :
    (signalInside subscriber given publisher).delivery.busy = true := by
  have kept (controls : List Control) (delivery : Delivery) (busy : delivery.busy = true) :
      (controls.foldl Delivery.obey delivery).busy = true := by
    induction controls generalizing delivery with
    | nil => exact busy
    | cons used later ih =>
        apply ih
        cases used with
        | cancel => exact busy
        | request count =>
            change (if delivery.isOver then delivery else _ : Delivery).busy = true
            split
            · exact busy
            · exact busy
  have still : (publisher.signal subscriber given).1.delivery.busy = true := by
    rw [delivery_signal]
    exact looping
  exact kept _ _ still

theorem conclude_watched (given : ChunkSignal) (publisher : Publisher σ) :
    Delivery.conclude (watched subscriber) (observe subscriber given) ⟨publisher, false⟩ =
      ⟨Delivery.conclude (reach subscriber) (signalInside subscriber given) publisher, false⟩ := by
  let idle := { publisher with delivery := { publisher.delivery with busy := false } }
  let ended := { idle with delivery := { idle.delivery with concluded := true } }
  change (if idle.delivery.isOver then (⟨idle, false⟩ : Observed σ)
    else observe subscriber given ⟨ended, false⟩) =
      ⟨if idle.delivery.isOver then idle else signalInside subscriber given ended, false⟩
  by_cases past : idle.delivery.isOver = true
  · rw [if_pos past, if_pos past]
  · rw [if_neg past, if_neg past]
    apply observe_busy
    exact .inr rfl

theorem handOver_watched (source : Source) (publisher : Publisher σ)
    (looping : publisher.delivery.busy = true) :
    Delivery.handOver (watched subscriber) source ⟨publisher, false⟩ =
      ((Delivery.handOver (reach subscriber) source publisher).1,
        ⟨(Delivery.handOver (reach subscriber) source publisher).2, false⟩) := by
  have turn (cancels : Bool) (publisher : Publisher σ) :
      (if cancels then (watched subscriber).onSourceCancel
          (Delivery.takeTurn (watched subscriber) ⟨publisher, false⟩)
        else Delivery.takeTurn (watched subscriber) ⟨publisher, false⟩) =
      (⟨if cancels then (reach subscriber).onSourceCancel
          (Delivery.takeTurn (reach subscriber) publisher)
        else Delivery.takeTurn (reach subscriber) publisher, false⟩ : Observed σ) := by
    cases cancels <;> rfl
  have busy (cancels : Bool) {publisher : Publisher σ} (looping : publisher.delivery.busy = true) :
      (if cancels then (reach subscriber).onSourceCancel
          (Delivery.takeTurn (reach subscriber) publisher)
        else Delivery.takeTurn (reach subscriber) publisher).delivery.busy = true := by
    cases cancels <;> exact looping
  fun_induction Delivery.handOver (reach subscriber) source publisher with
  | case1 source publisher delivery idle =>
      have same : ((watched subscriber).delivery ⟨publisher, false⟩).isOver ||
        ((watched subscriber).delivery ⟨publisher, false⟩).demand.isMet := idle
      rw [Delivery.handOver]
      exact if_pos same
  | case2 source publisher delivery going taken step asked bytes pulled ih =>
      have waits : ((watched subscriber).delivery ⟨publisher, false⟩).isWaiting = true :=
        Delivery.isWaiting_iff.mpr going
      have running : asked.delivery.busy = true := busy step.cancels looping
      rw [Delivery.handOver_turn waits, pulled, turn]
      have handed : observe subscriber (.next bytes) ⟨asked, false⟩ = _ :=
        observe_busy (.next bytes) (.inl running)
      exact (congrArg _ handed).trans (ih (busy_signalInside (.next bytes) running))
  | case3 source publisher delivery going taken step asked pulled =>
      have waits : ((watched subscriber).delivery ⟨publisher, false⟩).isWaiting = true :=
        Delivery.isWaiting_iff.mpr going
      rw [Delivery.handOver_turn waits, pulled, turn]
      exact congrArg (source.next.2, ·) (conclude_watched .completed asked)
  | case4 source publisher delivery going taken step asked error pulled =>
      have waits : ((watched subscriber).delivery ⟨publisher, false⟩).isWaiting = true :=
        Delivery.isWaiting_iff.mpr going
      rw [Delivery.handOver_turn waits, pulled, turn]
      exact congrArg (source.next.2, ·) (conclude_watched (.failed error) asked)

def Observed.request (subscriber : ChunkSubscriber σ) (count : Nat) (seen : Observed σ) :
    Observed σ :=
  let (source, after) :=
    Delivery.request (watched subscriber) count seen.publisher.source seen
  { after with publisher := { after.publisher with source := source } }

theorem Observed.request_eq (count : Nat) (publisher : Publisher σ) :
    Observed.request subscriber count ⟨publisher, false⟩ =
      ⟨publisher.request subscriber count, false⟩ := by
  let booked := { publisher with delivery := publisher.delivery.book count }
  let started := { booked with delivery := { booked.delivery with busy := true } }
  have same : Delivery.request (watched subscriber) count publisher.source ⟨publisher, false⟩ =
      ((Delivery.request (reach subscriber) count publisher.source publisher).1,
        ⟨(Delivery.request (reach subscriber) count publisher.source publisher).2, false⟩) := by
    by_cases ignored : count = 0 ∨ publisher.delivery.isOver = true
    · have plain : Delivery.request (reach subscriber) count publisher.source publisher =
          (publisher.source, publisher) := Delivery.request_ignored ignored
      rw [plain]
      exact Delivery.request_ignored ignored
    · obtain ⟨counts, opened⟩ := not_or.mp ignored
      have plain : Delivery.request (reach subscriber) count publisher.source publisher =
          if booked.delivery.busy then (publisher.source, booked)
          else Delivery.handOver (reach subscriber) publisher.source started :=
        Delivery.request_counts counts (Bool.eq_false_iff.mpr opened)
      have watching : Delivery.request (watched subscriber) count publisher.source
            ⟨publisher, false⟩ =
          if booked.delivery.busy then (publisher.source, ⟨booked, false⟩)
          else Delivery.handOver (watched subscriber) publisher.source ⟨started, false⟩ :=
        Delivery.request_counts counts (Bool.eq_false_iff.mpr opened)
      rw [plain, watching]
      by_cases busy : booked.delivery.busy = true
      · rw [if_pos busy, if_pos busy]
      · rw [if_neg busy, if_neg busy]
        exact handOver_watched publisher.source started rfl
  exact congrArg (fun left : Source × Observed σ =>
    { left.2 with publisher := { left.2.publisher with source := left.1 } }) same

end Publisher

end FramedEvents
