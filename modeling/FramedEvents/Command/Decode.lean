/-
The command that decodes a stream and shows its events.

The source is read in chunks, as far as events are wanted. Everything that is
shown follows from the log of the stream: a record for the initial response
when it is handed over, and one for each event that the printer was given, up
to the number asked for.
-/

import FramedEvents.Command.Completion
import FramedEvents.Flow.Run
import FramedEvents.Report.StreamRecord

namespace FramedEvents.Decode

/-! ### The printer -/

def isEnough (limit : Option Nat) (printed : Nat) : Bool :=
  match limit with
  | none => false
  | some most => most ≤ printed

/-- The subscriber that prints events. Its state is the number of events it has
printed. With the last one asked for it cancels; later ones it passes over. -/
def printer (limit : Option Nat) : EventSubscriber ReceivedEvent Nat where
  start := 0
  react
    | .subscribed, printed => { state := printed, controls := [.request (limit.getD mostDemand)] }
    | .next _, printed =>
        if isEnough limit printed then { state := printed }
        else
          { state := printed + 1
            controls := if limit = some (printed + 1) then [.cancel] else [] }
    | _, printed => { state := printed }

def receive : ReadEvent ReceivedEvent := fun message _ =>
  .ok ⟨message.header? Reserved.eventType, message.body⟩

def setup (limits : Limits) (limit : Option Nat) : Setup ReceivedEvent Nat Nat where
  limits := limits
  readEvent := receive
  subscribers := fun _ => printer limit
  handler :=
    { onStream := [0]
      result := fun given =>
        let events : List ReceivedEvent := given
        .ok (min events.length (limit.getD events.length)) }

/-! ### Records -/

/-- The records that a log gives rise to, earliest first, after so many events. -/
def records (limit : Option Nat) : Nat → List (Entry ReceivedEvent String) → List StreamRecord
  | _, [] => []
  | printed, .responded source :: rest =>
      .initialResponse source :: records limit printed rest
  | printed, .signalled _ (.next event) :: rest =>
      if isEnough limit printed then records limit printed rest
      else .ofEvent (printed + 1) event :: records limit (printed + 1) rest
  | printed, _ :: rest => records limit printed rest

/-! ### The command -/

def stream (limits : Limits) (limit : Option Nat) (name : String) (source : Source) :
    Except FlowError Unit × Flow ReceivedEvent String Nat Nat :=
  let idle : Flow ReceivedEvent String Nat Nat := { transports := [⟨.pull {} source, none⟩] }
  idle.start (setup limits limit) name

/-- The failure of a stream. One that has been stopped early has none. -/
def failure (answer : Except FlowError Unit) (flow : Flow ReceivedEvent String Nat Nat) :
    Option Failure :=
  match answer, flow.outcome.take?.1 with
  | .error error, _ => some (Failure.ofFlow "decode failed" error)
  | .ok (), some (.error error) => some (Failure.ofFlow "decode failed" error)
  | .ok (), _ => none

def run (format : Format) (source : String) (chunkSize : Nat) (count : Option Nat)
    (limits : Limits) (workspace : Workspace) : Completion :=
  if chunkSize = 0 then .refused workspace ⟨Failure.usage, "--chunk-size must be at least 1"⟩
  else if count = some 0 then .refused workspace ⟨Failure.usage, "--count must be at least 1"⟩
  else
    match workspace.openSource source with
    | .error failure => .refused workspace failure
    | .ok handle =>
        let chunks := Source.stream (workspace.script handle chunkSize) chunkSize
        let (answer, flow) := stream limits count (sourceName source) chunks
        { output := (records count 0 flow.log.reverse).flatMap (·.print format)
          failure := failure answer flow
          workspace := workspace }

end FramedEvents.Decode
