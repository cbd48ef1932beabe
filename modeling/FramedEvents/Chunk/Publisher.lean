/-
A publisher of chunks: a source, its delivery, and at most one subscriber.

A subscriber answers every signal with the controls it uses inside that hook.
It may keep a state of its own to decide on them.
-/

import FramedEvents.Chunk.Delivery

namespace FramedEvents

inductive ChunkSignal where
  | subscribed
  | next (bytes : Bytes)
  | failed (error : TransportError)
  | completed
  deriving DecidableEq

structure ChunkSubscriber (σ : Type) where
  start : σ
  /-- The state after a signal, and the controls used while it is handled. -/
  react : ChunkSignal → σ → σ × List Control

structure Publisher (σ : Type) where
  source : Source
  delivery : Delivery := {}
  /-- The state of the subscriber, once there is one. -/
  attached : Option σ := none
  received : List ChunkSignal := []

namespace Publisher

variable {σ : Type}

def signal (subscriber : ChunkSubscriber σ) (given : ChunkSignal) (publisher : Publisher σ) :
    Publisher σ × List Control :=
  match publisher.attached with
  | none => (publisher, [])
  | some state =>
      let (after, controls) := subscriber.react given state
      ({ publisher with attached := some after, received := given :: publisher.received },
        controls)

def signalInside (subscriber : ChunkSubscriber σ) (given : ChunkSignal) (publisher : Publisher σ) :
    Publisher σ :=
  let (after, controls) := publisher.signal subscriber given
  { after with delivery := controls.foldl Delivery.obey after.delivery }

def cancel (publisher : Publisher σ) : Publisher σ :=
  { publisher with delivery := publisher.delivery.cancel }

def reach (subscriber : ChunkSubscriber σ) : Delivery.Reach (Publisher σ) where
  delivery := Publisher.delivery
  update := fun change publisher => { publisher with delivery := change publisher.delivery }
  onChunk := fun bytes => signalInside subscriber (.next bytes)
  onFailure := fun error => signalInside subscriber (.failed error)
  onEnd := signalInside subscriber .completed
  onSourceCancel := cancel

def request (subscriber : ChunkSubscriber σ) (count : Nat) (publisher : Publisher σ) :
    Publisher σ :=
  let (source, after) := Delivery.request (reach subscriber) count publisher.source publisher
  { after with source := source }

/-- A control used by the subscriber between signals, or when it is attached. -/
def control (subscriber : ChunkSubscriber σ) (publisher : Publisher σ) : Control → Publisher σ
  | .request count => publisher.request subscriber count
  | .cancel => publisher.cancel

def subscribe (subscriber : ChunkSubscriber σ) (publisher : Publisher σ) :
    Except TransportError Unit × Publisher σ :=
  match publisher.attached with
  | some _ => (.error .alreadySubscribed, publisher)
  | none =>
      let attached := { publisher with attached := some subscriber.start }
      let (informed, controls) := attached.signal subscriber .subscribed
      (.ok (), controls.foldl (control subscriber) informed)

end Publisher

end FramedEvents
