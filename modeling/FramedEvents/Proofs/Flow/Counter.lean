/-
Demand as a counter of calls.

Whatever is done to a stream, a few kinds of calls are all that its demand may depend on. Folded
from zero, they make a counter: a request adds to it until the subscription is cancelled, an
event that is dispatched takes one away until the stream has ended, and nothing else changes it.
As long as it neither saturates nor runs out, it is the difference between what has been asked
for and what has been dispatched.
-/

import FramedEvents.Demand
import FramedEvents.Flow.MessageKind
import Mathlib.Logic.Basic
import Mathlib.Algebra.GroupWithZero.Nat

namespace FramedEvents

/-- A call on a stream that its demand may depend on. -/
inductive Call where
  | requested (count : Nat)
  /-- Its subscription is cancelled, by the subscriber or after a failure in a chunk. -/
  | cancelled
  | arrived (transport : Nat) (bytes : Bytes)
  | dispatched (kind : MessageKind)
  | ended
  deriving DecidableEq

namespace Call

def units : Call → Nat
  | .requested count => count
  | _ => 0

def isEvent : Call → Bool
  | .dispatched .event => true
  | _ => false

end Call

structure Counter where
  outstanding : Nat := 0
  cancelled : Bool := false
  ended : Bool := false

namespace Counter

def next (counter : Counter) : Call → Counter
  | .requested count =>
      if count = 0 || counter.cancelled then counter
      else { counter with outstanding := min (counter.outstanding + count) mostDemand }
  | .cancelled => { counter with cancelled := true }
  | .arrived _ _ => counter
  | .dispatched .event =>
      if counter.ended then counter else { counter with outstanding := counter.outstanding - 1 }
  | .dispatched _ => counter
  | .ended => { counter with ended := true }

def after (counter : Counter) (calls : List Call) : Counter := calls.foldl next counter

theorem after_append (counter : Counter) (earlier later : List Call) :
    counter.after (earlier ++ later) = (counter.after earlier).after later :=
  List.foldl_append

theorem next_flags (counter : Counter) (call : Call) :
    (counter.next call).cancelled = (counter.cancelled || decide (call = .cancelled)) ∧
      (counter.next call).ended = (counter.ended || decide (call = .ended)) := by
  cases call with
  | requested count =>
      dsimp only [next]
      split <;> simp
  | dispatched kind =>
      cases kind with
      | event =>
          dsimp only [next]
          split <;> simp
      | _ => simp [next]
  | _ => simp [next]

/-! ### What is left -/

def asked (counter : Counter) (calls : List Call) : Nat :=
  if counter.cancelled then 0 else ((calls.takeWhile (· ≠ .cancelled)).map Call.units).sum

def dispatched (counter : Counter) (calls : List Call) : Nat :=
  if counter.ended then 0 else (calls.takeWhile (· ≠ .ended)).countP Call.isEvent

def InTurn (counter : Counter) (calls : List Call) : Prop :=
  ∀ earlier later, calls = earlier ++ .dispatched .event :: later →
    (counter.after earlier).ended = false → 0 < (counter.after earlier).outstanding

theorem asked_cons (counter : Counter) (call : Call) (later : List Call) :
    counter.asked (call :: later) =
      (if counter.cancelled then 0 else call.units) + (counter.next call).asked later := by
  unfold asked
  rw [(next_flags counter call).1]
  by_cases stops : call = .cancelled
  · simp [stops, Call.units]
  · cases counter.cancelled <;> simp [stops]

theorem dispatched_cons (counter : Counter) (call : Call) (later : List Call) :
    counter.dispatched (call :: later) =
      (if counter.ended then 0 else [call].countP Call.isEvent) +
        (counter.next call).dispatched later := by
  unfold dispatched
  rw [(next_flags counter call).2]
  by_cases ends : call = .ended
  · simp [ends, Call.isEvent]
  · cases counter.ended
    · simp [ends, List.countP_cons, Nat.add_comm]
    · simp

theorem next_outstanding_le (counter : Counter) (call : Call) :
    (counter.next call).outstanding ≤
      counter.outstanding + if counter.cancelled then 0 else call.units := by
  cases call with
  | requested count =>
      cases stopped : counter.cancelled with
      | true => simp [next, stopped]
      | false =>
          dsimp only [next]
          split
          · simp
          · exact Nat.min_le_left _ _
  | dispatched kind =>
      cases kind with
      | event =>
          dsimp only [next]
          split
          · simp
          · exact Nat.le_add_right_of_le (Nat.sub_le _ _)
      | _ => simp [next]
  | _ => simp [next]

theorem outstanding_after_le (counter : Counter) (calls : List Call) :
    (counter.after calls).outstanding ≤ counter.outstanding + counter.asked calls := by
  induction calls generalizing counter with
  | nil => exact Nat.le_add_right _ _
  | cons call later ih =>
      have first := next_outstanding_le counter call
      have rest : ((counter.next call).after later).outstanding ≤ _ := ih (counter.next call)
      rw [asked_cons]
      change ((counter.next call).after later).outstanding ≤ _
      omega

theorem next_outstanding (counter : Counter) (call : Call)
    (few : counter.outstanding + (if counter.cancelled then 0 else call.units) ≤ mostDemand)
    (wanted : call = .dispatched .event → counter.ended = false → 0 < counter.outstanding) :
    (counter.next call).outstanding +
        (if counter.ended then 0 else [call].countP Call.isEvent) =
      counter.outstanding + if counter.cancelled then 0 else call.units := by
  cases call with
  | requested count =>
      cases stopped : counter.cancelled with
      | true => simp [next, stopped, Call.isEvent]
      | false =>
          simp only [stopped, Bool.false_eq_true, ↓reduceIte, Call.units] at few ⊢
          by_cases none : count = 0
          · simp [next, none, Call.isEvent]
          · simpa [next, none, stopped, Call.isEvent] using Nat.min_eq_left few
  | dispatched kind =>
      cases kind with
      | event =>
          cases past : counter.ended with
          | true => simp [next, past, Call.units]
          | false =>
              have positive := wanted rfl past
              simpa [next, past, Call.isEvent, Call.units] using Nat.sub_add_cancel positive
      | _ => simp [next, Call.isEvent, Call.units]
  | _ => simp [next, Call.isEvent, Call.units]

theorem inTurn_nil (counter : Counter) : counter.InTurn [] := by
  intro earlier later parts
  simp at parts

theorem inTurn_cons {counter : Counter} {call : Call} {later : List Call} :
    counter.InTurn (call :: later) ↔
      (call = .dispatched .event → counter.ended = false → 0 < counter.outstanding) ∧
        (counter.next call).InTurn later := by
  constructor
  · intro inTurn
    refine ⟨?_, ?_⟩
    · rintro rfl
      exact inTurn [] later rfl
    · rintro earlier behind rfl
      exact inTurn (call :: earlier) behind rfl
  · rintro ⟨first, rest⟩ earlier behind parts
    cases earlier with
    | nil =>
        obtain ⟨rfl, rfl⟩ := List.cons.inj parts
        exact first rfl
    | cons head earlier =>
        obtain ⟨rfl, rfl⟩ := List.cons.inj parts
        exact rest earlier behind rfl

instance decidableInTurn : (counter : Counter) → (calls : List Call) →
    Decidable (counter.InTurn calls)
  | counter, [] => .isTrue (inTurn_nil counter)
  | counter, call :: later =>
      have : Decidable ((counter.next call).InTurn later) := decidableInTurn _ later
      decidable_of_iff _ inTurn_cons.symm

theorem outstanding_after {counter : Counter} {calls : List Call}
    (few : counter.outstanding + counter.asked calls ≤ mostDemand)
    (inTurn : counter.InTurn calls) :
    (counter.after calls).outstanding + counter.dispatched calls =
      counter.outstanding + counter.asked calls := by
  induction calls generalizing counter with
  | nil => simp [after, asked, dispatched]
  | cons call later ih =>
      rw [asked_cons] at few ⊢
      rw [dispatched_cons]
      obtain ⟨wanted, inTurnLater⟩ := inTurn_cons.mp inTurn
      have fewNow : counter.outstanding + (if counter.cancelled then 0 else call.units) ≤
          mostDemand := by omega
      have first := next_outstanding counter call fewNow wanted
      have rest : ((counter.next call).after later).outstanding +
          (counter.next call).dispatched later =
            (counter.next call).outstanding + (counter.next call).asked later :=
        ih (by omega) inTurnLater
      change ((counter.next call).after later).outstanding + _ = _
      omega

/-- Otherwise something is lost: an event too many is not made up for. -/
example : (Counter.after {} [.requested 1, .dispatched .event, .dispatched .event,
    .requested 2]).outstanding = 2 := by decide

/-! ### What is told -/

/-- Whether a call comes to something, and is told of. The end itself is not told of. -/
def logs (counter : Counter) : Call → Bool
  | .requested count => count ≠ 0 && !counter.cancelled
  | .cancelled => !counter.cancelled
  | .arrived _ _ => !counter.ended
  | .dispatched _ => !counter.ended
  | .ended => false

theorem next_of_not_logs {counter : Counter} {call : Call} (silent : counter.logs call = false)
    (other : call ≠ .ended) : counter.next call = counter := by
  cases call with
  | requested count => exact if_pos (by simpa [logs, or_iff_not_imp_left] using silent)
  | cancelled =>
      have stopped : counter.cancelled = true := by simpa [logs] using silent
      obtain ⟨outstanding, cancelled, ended⟩ := counter
      subst stopped
      rfl
  | arrived transport bytes => rfl
  | dispatched kind =>
      cases kind with
      | event => exact if_pos (by simpa [logs] using silent)
      | _ => rfl
  | ended => exact absurd rfl other

def logged : Counter → List Call → List Call
  | _, [] => []
  | counter, call :: later =>
      (if counter.logs call then [call] else []) ++ (counter.next call).logged later

def unended (counter : Counter) : Counter := { counter with ended := false }

theorem unended_next (counter : Counter) (call : Call) :
    counter.unended.after (if counter.logs call then [call] else []) =
      (counter.next call).unended := by
  cases call with
  | requested count =>
      cases stopped : counter.cancelled <;> by_cases none : count = 0 <;>
        simp [logs, after, next, unended, stopped, none]
  | cancelled => cases stopped : counter.cancelled <;> simp [logs, after, next, unended, stopped]
  | arrived transport bytes =>
      cases past : counter.ended <;> simp [logs, after, next, unended, past]
  | dispatched kind =>
      cases past : counter.ended <;> cases kind <;> simp [logs, after, next, unended, past]
  | ended => rfl

theorem after_logged (counter : Counter) (calls : List Call) :
    counter.unended.after (counter.logged calls) = (counter.after calls).unended := by
  induction calls generalizing counter with
  | nil => rfl
  | cons call later ih =>
      rw [logged, after_append, unended_next]
      exact ih (counter.next call)

end Counter

end FramedEvents
