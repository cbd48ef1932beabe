/-
Delivery of chunks on demand.

A request starts a loop that pulls one chunk for every unit of demand and hands
it over before the next is pulled. A request made from inside the loop only
adds demand, which the loop picks up, so deliveries never nest. The loop ends
when demand runs out, when the delivery is cancelled, or with the one terminal
signal.

The receiver lives in a world of its own that also holds the delivery. While
the loop runs it keeps the source to itself.
-/

import FramedEvents.Chunk.Source
import FramedEvents.Demand

namespace FramedEvents

structure Delivery where
  demand : Demand := .zero
  busy : Bool := false
  concluded : Bool := false
  cancelled : Bool := false
  deriving DecidableEq

namespace Delivery

def isOver (delivery : Delivery) : Bool := delivery.concluded || delivery.cancelled

def book (delivery : Delivery) (count : Nat) : Delivery :=
  if delivery.isOver then delivery else { delivery with demand := delivery.demand.add count }

def cancel (delivery : Delivery) : Delivery := { delivery with cancelled := true, demand := .zero }

/-- A control used while chunks are being handed over, or after the end. -/
def obey (delivery : Delivery) : Control → Delivery
  | .request count => delivery.book count
  | .cancel => delivery.cancel

/-- How a delivery reaches into the world of its receiver. -/
structure Reach (ω : Type) where
  delivery : ω → Delivery
  update : (Delivery → Delivery) → ω → ω
  onChunk : Bytes → ω → ω
  onFailure : TransportError → ω → ω
  onEnd : ω → ω
  onSourceCancel : ω → ω

variable {ω : Type}

/-- Ends the loop, and the delivery with it unless it was cancelled before. -/
def conclude (reach : Reach ω) (notify : ω → ω) (world : ω) : ω :=
  let idle := reach.update (fun delivery => { delivery with busy := false }) world
  if (reach.delivery idle).isOver then idle
  else notify (reach.update (fun delivery => { delivery with concluded := true }) idle)

def handOver (reach : Reach ω) (source : Source) (world : ω) : Source × ω :=
  let delivery := reach.delivery world
  if delivery.isOver || delivery.demand.isMet then
    (source, reach.update (fun delivery => { delivery with busy := false }) world)
  else
    let taken :=
      reach.update (fun delivery => { delivery with demand := delivery.demand.serve }) world
    let step := source.next.1
    let asked := if step.cancels then reach.onSourceCancel taken else taken
    match _pulled : step.pulled with
    | .chunk bytes => handOver reach source.next.2 (reach.onChunk bytes asked)
    | .ended => (source.next.2, conclude reach reach.onEnd asked)
    | .failed error => (source.next.2, conclude reach (reach.onFailure error) asked)
termination_by source.weight
decreasing_by exact Source.weight_next_lt _pulled

/-- A request made by the receiver, from inside the loop or from outside. -/
def request (reach : Reach ω) (count : Nat) (source : Source) (world : ω) : Source × ω :=
  if count = 0 || (reach.delivery world).isOver then (source, world)
  else
    let booked := reach.update (fun delivery => delivery.book count) world
    if (reach.delivery booked).busy then (source, booked)
    else handOver reach source (reach.update (fun delivery => { delivery with busy := true }) booked)

end Delivery

end FramedEvents
