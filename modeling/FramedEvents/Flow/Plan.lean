/-
Subscribers that follow a plan.

A plan says what a subscriber does in each hook: what it requests, and at which
item it cancels or refuses. The same plan serves for chunks and for events.
-/

import FramedEvents.Chunk.Publisher
import FramedEvents.Flow.Participant

namespace FramedEvents

structure Plan where
  onSubscribe : Option Nat := none
  onNext : Option Nat := none
  onEnd : Option Nat := none
  cancelAt : Option Nat := none
  refuseAt : Option Nat := none
  cancelsAtEnd : Bool := false
  refusesEnd : Bool := false
  ignoresEnd : Bool := false
  deriving DecidableEq

namespace Plan

def requests (count : Option Nat) : List Control := count.toList.map .request

def duringNext (plan : Plan) (number : Nat) : List Control :=
  requests plan.onNext ++ if plan.cancelAt = some number then [.cancel] else []

def duringEnd (plan : Plan) : List Control :=
  requests plan.onEnd ++ if plan.cancelsAtEnd then [.cancel] else []

/-- A subscriber for chunks. Its state is the number of chunks it was given. -/
def chunkSubscriber (plan : Plan) : ChunkSubscriber Nat where
  start := 0
  react
    | .subscribed, seen => (seen, requests plan.onSubscribe)
    | .next _, seen => (seen + 1, plan.duringNext (seen + 1))
    | _, seen => (seen, plan.duringEnd)

/-- A subscriber for events. Its state is the number of events it was given. -/
def eventSubscriber {ε : Type} (plan : Plan) : EventSubscriber ε Nat where
  start := 0
  react
    | .subscribed, seen => { state := seen, controls := requests plan.onSubscribe }
    | .next _, seen =>
        let number := seen + 1
        { state := number
          controls := plan.duringNext number
          refusal :=
            if plan.refuseAt = some number then some s!"subscriber rejected event {number}"
            else none }
    | _, seen =>
        if plan.ignoresEnd then { state := seen }
        else
          { state := seen
            controls := plan.duringEnd
            refusal := if plan.refusesEnd then some "subscriber rejected the end" else none }

end Plan

end FramedEvents
