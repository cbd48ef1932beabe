/-
Events to be fetched one by one.

A subscriber only sends its signals into a channel, and a stream of events takes
them out. The stream asks for one event when it is polled and the channel has
nothing for it, and for no other before that one has been fetched. A chunk may
bring more events than were asked for: they wait in the channel. Dropping a
stream before its end cancels the subscription.
-/

import FramedEvents.Flow.Mailbox
import FramedEvents.Flow.Run

namespace FramedEvents

inductive Polled (ε : Type) where
  | pending
  | finished
  | event (event : ε)
  | failed (cause : FlowError)

structure EventStream where
  /-- Whether an event has been asked for and not yet fetched. -/
  awaiting : Bool := false
  done : Bool := false
  deriving DecidableEq

namespace EventStream

variable {ε ρ ω κ : Type} [Mailbox ε κ]

def subscriber : Nat := 1

def queue (flow : Flow ε ρ ω κ) : List (EventSignal ε) :=
  match flow.subscriber with
  | none => []
  | some (_, box) => Mailbox.waiting box

def fetch (flow : Flow ε ρ ω κ) : Option (Option (EventSignal ε)) × Flow ε ρ ω κ :=
  match flow.subscriber with
  | none => (none, flow)
  | some (number, box) =>
      ((Mailbox.receive box).1,
        { flow with subscriber := some (number, (Mailbox.receive box).2) })

def yielded (stream : EventStream) : Option (EventSignal ε) → Polled ε × EventStream
  | some (.next event) => (.event event, { stream with awaiting := false })
  | some (.failed cause) => (.failed cause, { stream with done := true })
  | _ => (.finished, { stream with done := true })

/-- The next event, if it has arrived or can be had at once. -/
def poll (setup : Setup ε ω κ ρ) (stream : EventStream) (flow : Flow ε ρ ω κ) :
    Polled ε × EventStream × Flow ε ρ ω κ :=
  if stream.done then (.finished, stream, flow)
  else
    match fetch flow with
    | (some received, after) =>
        let (polled, next) := stream.yielded received
        (polled, next, after)
    | (none, after) =>
        if stream.awaiting then (.pending, stream, after)
        else
          let waiting := { stream with awaiting := true }
          match fetch (after.requestOutside setup 1) with
          | (some received, last) =>
              let (polled, next) := waiting.yielded received
              (polled, next, last)
          | (none, last) => (.pending, waiting, last)

def drop (stream : EventStream) (flow : Flow ε ρ ω κ) : Flow ε ρ ω κ :=
  let stopped := if stream.done then flow else flow.stop
  { stopped with
    subscriber := stopped.subscriber.map fun holder => (holder.1, Mailbox.close holder.2) }

end EventStream

end FramedEvents
