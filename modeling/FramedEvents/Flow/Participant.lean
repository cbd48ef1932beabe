/-
The two parties that an event stream serves: subscribers, who ask for events
and receive them, and the handler, who owns the response.

A party's own behaviour is given as data. A subscriber answers each signal with
its next state, with the controls it uses before it returns, and possibly with
a refusal. A handler says which subscribers it attaches, and when, and what the
stream amounts to once it has completed.
-/

import FramedEvents.Demand
import FramedEvents.Flow.FlowError

namespace FramedEvents

inductive EventSignal (ε : Type) where
  | subscribed
  | next (event : ε)
  | failed (cause : FlowError)
  | completed

/-- What a subscriber does with a signal. A refused event fails the stream; a
refusal of any other signal is of no consequence. -/
structure Reaction (σ : Type) where
  state : σ
  controls : List Control := []
  refusal : Option String := none

structure EventSubscriber (ε σ : Type) where
  start : σ
  react : EventSignal ε → σ → Reaction σ

/-- Something that a stream hands out: the initial response to its handler, an event to
its subscriber. -/
inductive Given (ε ρ : Type) where
  | response (response : ρ)
  | event (event : ε)

def Given.event? {ε ρ : Type} : Given ε ρ → Option ε
  | .response _ => none
  | .event handed => some handed

/-- A list of what has been given is read as its events where events are wanted. -/
instance {ε ρ : Type} : CoeOut (List (Given ε ρ)) (List ε) := ⟨List.filterMap Given.event?⟩

structure Handler (ε ω : Type) (ρ : Type := String) where
  /-- The subscribers to attach once the stream can be subscribed to. -/
  onStream : List Nat := []
  /-- The subscribers to attach when the initial response arrives. -/
  onResponse : List Nat := []
  /-- The result of a completed stream, from what has been given, earliest first. -/
  result : List (Given ε ρ) → Except FlowError ω

end FramedEvents
