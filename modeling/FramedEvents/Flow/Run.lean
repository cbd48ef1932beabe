/-
What happens to an event stream from outside.

Asking a transport for a chunk from outside starts its delivery, which runs
until no chunk is wanted any more. Requests from inside a delivery only add to
it, so there is never more than one delivery of a transport under way.
-/

import FramedEvents.Flow.Reaction

namespace FramedEvents.Flow

variable {ε ρ ω σ : Type}

/-! ### Asking for chunks -/

def bookChunk (flow : Flow ε ρ ω σ) : Flow ε ρ ω σ :=
  match flow.attachment with
  | none => flow
  | some index => flow.updateOutlet index Outlet.book

/-- The stream as the world that the delivery of a transport reaches into. A
source cancels on behalf of the subscriber with the number zero. -/
def reach (setup : Setup ε ω σ ρ) (index : Nat) : Delivery.Reach (Flow ε ρ ω σ) where
  delivery := fun flow => ((flow.transport? index).map fun at_ => at_.outlet.delivery).getD {}
  update := fun change flow => flow.updateOutlet index (Outlet.updateDelivery change)
  onChunk := chunk setup (asking setup bookChunk) index
  onFailure := transportFailed setup (asking setup bookChunk) index
  onEnd := transportEnded setup (asking setup bookChunk) index
  onSourceCancel := fun flow =>
    match flow.subscriber with
    | some (0, _) => stop flow
    | _ => flow

def drawChunk (setup : Setup ε ω σ ρ) (flow : Flow ε ρ ω σ) : Flow ε ρ ω σ :=
  match flow.attachment with
  | none => flow
  | some index =>
      match (flow.transport? index).map Transport.outlet with
      | some (.pull _ source) =>
          let (left, after) := Delivery.request (reach setup index) 1 source flow
          after.updateOutlet index (Outlet.withSource left)
      | _ => bookChunk flow

def ask (setup : Setup ε ω σ ρ) : Ask ε ρ ω σ := asking setup (drawChunk setup)

/-! ### Operations -/

def attach (setup : Setup ε ω σ ρ) (routed : Bool) (index : Nat) (flow : Flow ε ρ ω σ) :
    Except FlowError Unit × Flow ε ρ ω σ :=
  join setup (ask setup) routed index flow

/-- Runs a response on the first transport: its terminal signals end the stream. -/
def start (setup : Setup ε ω σ ρ) (response : ρ) (flow : Flow ε ρ ω σ) :
    Except FlowError Unit × Flow ε ρ ω σ :=
  attach setup true 0 (capture response flow)

def requestOutside (setup : Setup ε ω σ ρ) (count : Nat) (flow : Flow ε ρ ω σ) : Flow ε ρ ω σ :=
  request (ask setup) count flow

def step (setup : Setup ε ω σ ρ) (flow : Flow ε ρ ω σ) (event : Event ρ) : Flow ε ρ ω σ :=
  act setup (ask setup) flow event

def run (setup : Setup ε ω σ ρ) (flow : Flow ε ρ ω σ) (events : List (Event ρ)) : Flow ε ρ ω σ :=
  events.foldl (step setup) flow

end FramedEvents.Flow
