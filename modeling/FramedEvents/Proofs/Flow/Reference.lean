/-
What a stream should do with a byte string, told without chunks, demand and
transports.

The handler is given the stream and its subscriber is attached. Then the messages
are taken one after the other: the first marker hands over the initial response,
every event goes to the subscriber, and messages of other types are passed over.
The first failure ends the stream, be it one of a message or of the bytes. If
there is none, the stream ends the way its source does.
-/

import FramedEvents.Flow.Run
import FramedEvents.Proofs.Flow.Ending
import FramedEvents.Proofs.Wire.Messages

namespace FramedEvents

/-- A handler with one subscriber, as far as a stream has got with them. -/
structure Listener (ε ρ σ : Type) where
  response : Option ρ
  state : σ
  calls : List (Entry ε ρ)

def Message.isEvent (message : Message) : Bool := decide (message.kind = .event)

/-- The events that have been handed to a subscriber by these calls. -/
def events {ε ρ : Type} (calls : List (Entry ε ρ)) : List ε :=
  calls.filterMap fun entry =>
    match entry with
    | .signalled _ (.next event) => some event
    | _ => none

namespace Listener

variable {ε ρ ω σ : Type}

def attach (setup : Setup ε ω σ ρ) (number : Nat) (response : ρ) : Listener ε ρ σ :=
  let subscriber := setup.subscribers number
  { response := some response
    state := (subscriber.react .subscribed subscriber.start).state
    calls := [.streamReady, .signalled number .subscribed] }

def verdict : Option String → Except FlowError Unit
  | none => .ok ()
  | some reason => .error (.client reason)

def hear (setup : Setup ε ω σ ρ) (number : Nat) (listener : Listener ε ρ σ) (message : Message) :
    Listener ε ρ σ × Except FlowError Unit :=
  match message.kind with
  | .initialResponse =>
      match listener.response with
      | none => (listener, .ok ())
      | some response =>
          ({ listener with response := none, calls := listener.calls ++ [.responded response] },
            .ok ())
  | .event =>
      match setup.readEvent (EventMessage.ofMessage message) setup.attributes with
      | .error reason => (listener, .error (.client reason))
      | .ok event =>
          let reaction := (setup.subscribers number).react (.next event) listener.state
          ({ listener with
              state := reaction.state
              calls := listener.calls ++ [.signalled number (.next event)] },
            verdict reaction.refusal)
  | .missingEventType => (listener, .error .missingEventType)
  | .error code text => (listener, .error (.protocol code text))
  | .other _ => (listener, .ok ())

def failure? (verdict : Except FlowError Unit) (rest : Except FrameError Bytes)
    (final : Option TransportError) : Option FlowError :=
  match verdict, rest with
  | .error cause, _ => some cause
  | .ok (), .error malformed => some (.decode malformed)
  | .ok (), .ok _ => final.map FlowError.transport

def finish (setup : Setup ε ω σ ρ) (number : Nat) (listener : Listener ε ρ σ) :
    Option FlowError → List (Entry ε ρ) × Except FlowError ω
  | some cause =>
      (listener.calls ++ [.signalled number (.failed cause), .failureReported cause], .error cause)
  | none =>
      (listener.calls ++ [.signalled number .completed, .completionReported],
        setup.handler.result (listener.calls.filterMap Entry.given?))

/-- All calls of a stream and its outcome, if from now on it is given these bytes
and then the final signal of its source. -/
def hearAll (setup : Setup ε ω σ ρ) (number : Nat) (listener : Listener ε ρ σ) (bytes : Bytes)
    (final : Option TransportError) : List (Entry ε ρ) × Except FlowError ω :=
  let (messages, rest) := Frame.messages setup.limits bytes
  let (heard, verdict) := Fed.walk (hear setup number) listener messages
  finish setup number heard (failure? verdict rest final)

theorem stopped_eq (verdict : Except FlowError Unit) (rest : Except FrameError Bytes) :
    Fed.stopped FlowError.decode rest verdict =
      match failure? verdict rest none with
      | some cause => .error cause
      | none => .ok () := by
  cases verdict with
  | error cause => rfl
  | ok accepted => cases rest <;> rfl

theorem failure?_eq_none {verdict : Except FlowError Unit} {rest : Except FrameError Bytes}
    (sound : failure? verdict rest none = none) : verdict = .ok () ∧ ∃ left, rest = .ok left := by
  cases verdict with
  | error cause => cases sound
  | ok accepted =>
      cases rest with
      | error malformed => cases sound
      | ok left => exact ⟨rfl, left, rfl⟩

variable {setup : Setup ε ω σ ρ} {number : Nat} {listener heard : Listener ε ρ σ}
  {verdict : Except FlowError Unit}

theorem hearAll_of_failure {front : Bytes} {cause : FlowError}
    (walked : Fed.walk (hear setup number) listener (Frame.messages setup.limits front).1 =
      (heard, verdict))
    (failure : failure? verdict (Frame.messages setup.limits front).2 none = some cause)
    (back : Bytes) (final : Option TransportError) :
    listener.hearAll setup number (front ++ back) final =
      finish setup number heard (some cause) := by
  have longer : Frame.messages setup.limits (front ++ back) = _ := Frame.messages_append front back
  generalize Frame.messages setup.limits front = found at walked failure longer
  obtain ⟨messages, stop⟩ := found
  unfold hearAll
  rw [longer]
  cases stop with
  | error malformed =>
      dsimp only at walked failure ⊢
      rw [walked]
      have same : failure? verdict (.error malformed) final = some cause := by
        rw [← failure]
        cases verdict <;> rfl
      exact congrArg (finish setup number heard) same
  | ok left =>
      dsimp only at walked failure ⊢
      cases verdict with
      | ok accepted => cases failure
      | error refused =>
          cases failure
          rw [Fed.walk_append, walked]
          rfl

/-- If there is no failure in the front of the bytes, the rest is heard by the
listener as the front has left it. -/
theorem hearAll_append {front left : Bytes}
    (walked : Fed.walk (hear setup number) listener (Frame.messages setup.limits front).1 =
      (heard, .ok ()))
    (rest : (Frame.messages setup.limits front).2 = .ok left)
    (back : Bytes) (final : Option TransportError) :
    listener.hearAll setup number (front ++ back) final =
      heard.hearAll setup number (left ++ back) final := by
  have longer : Frame.messages setup.limits (front ++ back) = _ := Frame.messages_append front back
  generalize Frame.messages setup.limits front = found at walked rest longer
  obtain ⟨messages, stop⟩ := found
  dsimp only at walked rest
  subst rest
  unfold hearAll
  rw [longer]
  dsimp only
  rw [Fed.walk_append, walked]

theorem hearAll_waiting {pending : Bytes}
    (waits : Frame.decode setup.limits pending = (.ok none, pending))
    (final : Option TransportError) :
    listener.hearAll setup number pending final =
      finish setup number listener (final.map FlowError.transport) := by
  unfold hearAll
  rw [Frame.messages_waiting waits]
  rfl

end Listener

/-- All calls of a stream and its outcome, from the bytes that it is given and the
final signal of its source. -/
def reference {ε ρ ω σ : Type} (setup : Setup ε ω σ ρ) (number : Nat) (response : ρ) (bytes : Bytes)
    (final : Option TransportError) : List (Entry ε ρ) × Except FlowError ω :=
  (Listener.attach setup number response).hearAll setup number bytes final

end FramedEvents
