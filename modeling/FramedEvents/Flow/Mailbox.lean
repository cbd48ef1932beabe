/-
The channel between a subscriber and whoever fetches its signals.

The channel is not part of the program: it is tokio's unbounded mpsc channel, and is left
open here as a class. What is relied on is what its documentation says. A receive hands
out what has been sent, in order, and nothing is lost. It may come back without a signal
although there is one, which the documentation calls a spurious failure: inside a task,
this happens when the task has used up its budget. Where none happens, a channel is prompt.
-/

import FramedEvents.Flow.Participant

namespace FramedEvents

/-- A channel with both of its ends. Its sender is kept as long as the stream is, so that
it is only ever closed from the side that receives. -/
class Mailbox (ε : outParam Type) (κ : Type) where
  fresh : κ
  send : EventSignal ε → κ → Option κ
  /-- Nothing if whoever receives has to wait, and otherwise the next signal, or that there
  will be none any more. -/
  receive : κ → Option (Option (EventSignal ε)) × κ
  close : κ → κ
  /-- The signals that have been sent and not received, earliest first. -/
  waiting : κ → List (EventSignal ε)
  closed : κ → Bool

namespace Mailbox

variable {ε κ : Type} [Mailbox ε κ]

variable (κ) in
structure Documented : Prop where
  fresh : waiting (fresh : κ) = [] ∧ closed (fresh : κ) = false
  sent : ∀ box : κ, closed box = false → ∀ signal, ∃ filled, send signal box = some filled ∧
    waiting filled = waiting box ++ [signal] ∧ closed filled = false
  received : ∀ (box : κ) signal, (receive box).1 = some (some signal) →
    waiting box = signal :: waiting (receive box).2 ∧ closed (receive box).2 = closed box
  idle : ∀ box : κ, (receive box).1 = none →
    waiting (receive box).2 = waiting box ∧ closed (receive box).2 = closed box
  exhausted : ∀ box : κ, (receive box).1 = some none → closed box = true

variable (κ) in
/-- No receive fails spuriously: it only has to wait if there is nothing to receive. So it is
wherever the receiver is not held to a budget, as outside a task. -/
def Prompt : Prop := ∀ box : κ, waiting box ≠ [] → (receive box).1 ≠ none

/-- A subscriber that sends its signals on, and refuses events once nobody can receive
them. -/
def subscriber : EventSubscriber ε κ where
  start := fresh
  react
    | .subscribed, box => { state := box }
    | signal, box =>
        match send signal box with
        | some filled => { state := filled }
        | none => { state := box, refusal := some "event stream dropped" }

end Mailbox

/-- A channel that never fails: the signals that wait to be fetched, earliest first. -/
structure Channel (ε : Type) where
  queue : List (EventSignal ε) := []
  dropped : Bool := false

namespace Channel

variable {ε : Type}

instance : Mailbox ε (Channel ε) where
  fresh := {}
  send signal channel :=
    if channel.dropped then none else some { channel with queue := channel.queue ++ [signal] }
  receive channel :=
    match channel.queue with
    | first :: rest => (some (some first), { channel with queue := rest })
    | [] => (if channel.dropped then some none else none, channel)
  close _ := { queue := [], dropped := true }
  waiting := queue
  closed := dropped

def subscriber : EventSubscriber ε (Channel ε) := Mailbox.subscriber

end Channel

end FramedEvents
