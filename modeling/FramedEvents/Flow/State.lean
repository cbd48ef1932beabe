/-
The state of one event stream and of the transports it may be attached to.

The log records, latest first, every call that the stream makes on its handler,
its subscriber and its transport, and the steps in between that decide about
them. It is only ever added to.
-/

import FramedEvents.Chunk.Delivery
import FramedEvents.Flow.EventMessage
import FramedEvents.Flow.MessageKind
import FramedEvents.Flow.Outcome
import FramedEvents.Flow.Participant
import FramedEvents.Flow.Stage
import FramedEvents.Wire.Frame

namespace FramedEvents

/-! ### Transports -/

/-- Where chunks come from: from outside, as it likes, or pulled on request. -/
inductive Outlet where
  | manual (requested cancelled : Nat)
  | pull (delivery : Delivery) (source : Source)
  deriving DecidableEq

inductive Consumer where
  /-- Somebody who has nothing to do with the stream. -/
  | stranger
  /-- The stream, with the bytes of an incomplete message, unless a chunk is just
  being decoded. Only if `routed` do the transport's terminal signals reach the
  stream. -/
  | stream (routed : Bool) (pending : Option Bytes)
  deriving DecidableEq

structure Transport where
  outlet : Outlet
  consumer : Option Consumer := none
  deriving DecidableEq

namespace Outlet

def idle : Outlet := .manual 0 0

def delivery : Outlet → Delivery
  | .manual _ _ => {}
  | .pull delivery _ => delivery

def source : Outlet → Source
  | .manual _ _ => .empty
  | .pull _ source => source

def updateDelivery (change : Delivery → Delivery) : Outlet → Outlet
  | .pull delivery source => .pull (change delivery) source
  | outlet => outlet

def withSource (source : Source) : Outlet → Outlet
  | .pull delivery _ => .pull delivery source
  | outlet => outlet

/-- A request for one chunk that does not start a delivery by itself. -/
def book : Outlet → Outlet
  | .manual requested cancelled => .manual (requested + 1) cancelled
  | .pull delivery source => .pull (delivery.book 1) source

def cancel : Outlet → Outlet
  | .manual requested cancelled => .manual requested (cancelled + 1)
  | .pull delivery source => .pull delivery.cancel source

end Outlet

/-! ### The log -/

/-- An entry of the log. The handler was called with the first four, a subscriber with
`signalled`, and the transport with `chunkRequested` and `transportCancelled`. The others are
about controls that counted, and about chunks and messages that came while the stream was
running; only a chunk of which no message failed was `chunkFinished`. -/
inductive Entry (ε ρ : Type) where
  | streamReady
  | responded (response : ρ)
  | failureReported (cause : FlowError)
  | completionReported
  | signalled (subscriber : Nat) (signal : EventSignal ε)
  | refused (subscriber : Nat) (reason : FlowError)
  | demanded (count : Nat)
  | stopped
  | chunkRequested
  | transportCancelled (transport : Nat)
  | chunkArrived (transport : Nat) (bytes : Bytes)
  | chunkFinished
  | looked (kind : MessageKind)

/-- What is handed out with an entry. -/
def Entry.given? {ε ρ : Type} : Entry ε ρ → Option (Given ε ρ)
  | .responded response => some (.response response)
  | .signalled _ (.next event) => some (.event event)
  | _ => none

/-! ### The stream -/

/-- Something that is done to a stream by those around it. -/
inductive Flow.Event (ρ : Type) where
  | capture (response : ρ)
  | attach (routed : Bool) (transport : Nat)
  | push (transport : Nat) (bytes : Bytes)
  | transportEnded (transport : Nat)
  | transportFailed (transport : Nat) (error : TransportError)
  | request (count : Nat)
  | cancel
  | subscribe (subscriber : Nat)
  | fail (cause : FlowError)
  | complete

/-- A stream. It holds the initial response until it is handed over, its subscriber with number
and state, and the transport that it is attached to. -/
structure Flow (ε ρ ω σ : Type) where
  response : Option ρ := none
  stage : Stage := .running
  demand : Demand := .zero
  subscriber : Option (Nat × σ) := none
  attachment : Option Nat := none
  /-- Whether a chunk has been asked for and not yet been dealt with. -/
  chunkDue : Bool := false
  cancelled : Bool := false
  outcome : Outcome ω := .pending
  /-- What else is done to the stream from inside the hooks it calls, one list a
  hook, in the order of the calls. -/
  interludes : List (List (Flow.Event ρ)) := []
  transports : List Transport := []
  log : List (Entry ε ρ) := []

/-- What stays the same during a stream. -/
structure Setup (ε ω σ : Type) (ρ : Type := String) where
  limits : Limits := {}
  readEvent : ReadEvent ε
  attributes : Attributes := []
  subscribers : Nat → EventSubscriber ε σ
  handler : Handler ε ω ρ

namespace Flow

variable {ε ρ ω σ : Type}

def record (entry : Entry ε ρ) (flow : Flow ε ρ ω σ) : Flow ε ρ ω σ :=
  { flow with log := entry :: flow.log }

def transport? (flow : Flow ε ρ ω σ) (index : Nat) : Option Transport := flow.transports[index]?

def updateTransport (index : Nat) (change : Transport → Transport) (flow : Flow ε ρ ω σ) :
    Flow ε ρ ω σ :=
  { flow with transports := flow.transports.modify index change }

def updateOutlet (index : Nat) (change : Outlet → Outlet) (flow : Flow ε ρ ω σ) : Flow ε ρ ω σ :=
  flow.updateTransport index fun transport => { transport with outlet := change transport.outlet }

/-- The events that have been handed to a subscriber, in order. -/
def delivered (flow : Flow ε ρ ω σ) : List ε :=
  flow.log.reverse.filterMap fun entry =>
    match entry with
    | .signalled _ (.next event) => some event
    | _ => none

/-- Everything that has been handed out, in order. -/
def given (flow : Flow ε ρ ω σ) : List (Given ε ρ) := flow.log.reverse.filterMap Entry.given?

end Flow

end FramedEvents
