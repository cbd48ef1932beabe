/-
How an event stream reacts, while chunks are being decoded and otherwise.

Demand for events is turned into requests for chunks, one at a time: the next
chunk is asked for only when the one before has been dealt with and events are
still wanted. The first failure or completion ends the stream: its subscriber
and its handler are told, in this order, and nothing reaches them afterwards.

What asking the transport for a chunk does depends on who is running: from
inside a delivery it only adds demand, from outside it may start a delivery.
And whoever is called may act on the stream before the call returns. The
functions here are given both as `ask`.
-/

import FramedEvents.Flow.State
import FramedEvents.Wire.Decoder

namespace FramedEvents.Flow

/-- Whom a stream turns to while it reacts. -/
structure Ask (ε ρ ω σ : Type) where
  forChunk : Flow ε ρ ω σ → Flow ε ρ ω σ
  /-- Lets those act whom the stream has just called. -/
  others : Flow ε ρ ω σ → Flow ε ρ ω σ

variable {ε ρ ω σ : Type}

/-! ### Demand and cancellation -/

/-- Asks for one chunk, unless one is due, or none is wanted any more. -/
def askNext (ask : Ask ε ρ ω σ) (flow : Flow ε ρ ω σ) : Flow ε ρ ω σ :=
  if flow.cancelled || flow.stage.isDone || flow.attachment.isNone || flow.chunkDue then flow
  else ask.forChunk (record .chunkRequested { flow with chunkDue := true })

def request (ask : Ask ε ρ ω σ) (count : Nat) (flow : Flow ε ρ ω σ) : Flow ε ρ ω σ :=
  if count = 0 || flow.cancelled then flow
  else askNext ask (record (.demanded count) { flow with demand := flow.demand.add count })

def cancelTransport (index : Nat) (flow : Flow ε ρ ω σ) : Flow ε ρ ω σ :=
  record (.transportCancelled index) (flow.updateOutlet index Outlet.cancel)

/-- Stops asking for chunks and tells the transport. The second time nothing
happens. -/
def stop (flow : Flow ε ρ ω σ) : Flow ε ρ ω σ :=
  if flow.cancelled then flow
  else
    let stopped := record .stopped { flow with cancelled := true }
    match stopped.attachment with
    | none => stopped
    | some index => cancelTransport index stopped

def obey (ask : Ask ε ρ ω σ) (flow : Flow ε ρ ω σ) : Control → Flow ε ρ ω σ
  | .request count => request ask count flow
  | .cancel => stop flow

/-! ### The subscriber -/

/-- Gives the subscriber a signal, if there is a subscriber, and obeys its
controls, and whatever else is done in its hook. The answer is its refusal. -/
def signal (setup : Setup ε ω σ ρ) (ask : Ask ε ρ ω σ) (given : EventSignal ε)
    (flow : Flow ε ρ ω σ) : Flow ε ρ ω σ × Option String :=
  match flow.subscriber with
  | none => (flow, none)
  | some (number, state) =>
      let reaction := (setup.subscribers number).react given state
      let informed :=
        record (.signalled number given) { flow with subscriber := some (number, reaction.state) }
      (ask.others (reaction.controls.foldl (obey ask) informed), reaction.refusal)

def subscribe (setup : Setup ε ω σ ρ) (ask : Ask ε ρ ω σ) (number : Nat)
    (flow : Flow ε ρ ω σ) : Except FlowError Unit × Flow ε ρ ω σ :=
  match flow.subscriber with
  | some _ => (.error .alreadySubscribed, flow)
  | none =>
      let attached := { flow with subscriber := some (number, (setup.subscribers number).start) }
      (.ok (), (signal setup ask .subscribed attached).1)

def handlerSubscribe (setup : Setup ε ω σ ρ) (ask : Ask ε ρ ω σ)
    (flow : Flow ε ρ ω σ) (number : Nat) : Flow ε ρ ω σ :=
  match subscribe setup ask number flow with
  | (.ok (), after) => after
  | (.error reason, after) => record (.refused number reason) after

/-! ### The end of the stream -/

def fail (setup : Setup ε ω σ ρ) (ask : Ask ε ρ ω σ) (cause : FlowError)
    (flow : Flow ε ρ ω σ) : Flow ε ρ ω σ :=
  match flow.stage.fail cause with
  | (.won, stage) =>
      let told := (signal setup ask (.failed cause) { flow with stage := stage }).1
      let reported := ask.others (record (.failureReported cause) told)
      { reported with outcome := reported.outcome.resolve (.error cause) }
  | _ => flow

/-- Ends the stream, unless it has ended. The answer is the handler's result,
or how the stream had ended. -/
def complete (setup : Setup ε ω σ ρ) (ask : Ask ε ρ ω σ) (flow : Flow ε ρ ω σ) :
    Except FlowError ω × Flow ε ρ ω σ :=
  match flow.stage.complete with
  | (.won, stage) =>
      let told := (signal setup ask .completed { flow with stage := stage }).1
      let reported := record .completionReported told
      (setup.handler.result reported.given, ask.others reported)
  | (.alreadyFailed cause, _) => (.error cause, flow)
  | (.alreadyCompleted, _) => (.error .alreadyCompleted, flow)

/-! ### Messages -/

def respond (setup : Setup ε ω σ ρ) (ask : Ask ε ρ ω σ) (flow : Flow ε ρ ω σ) :
    Flow ε ρ ω σ :=
  match flow.response with
  | none => flow
  | some response =>
      let released := record (.responded response) { flow with response := none }
      if released.attachment.isSome then
        ask.others (setup.handler.onResponse.foldl (handlerSubscribe setup ask) released)
      else ask.others released

/-- Hands an event to the subscriber. It uses up demand, also when it cannot be
read or is refused. -/
def handEvent (setup : Setup ε ω σ ρ) (ask : Ask ε ρ ω σ) (message : Message)
    (flow : Flow ε ρ ω σ) : Flow ε ρ ω σ × Except FlowError Unit :=
  let served := { flow with demand := flow.demand.serve }
  match setup.readEvent (EventMessage.ofMessage message) setup.attributes with
  | .error reason => (served, .error (.client reason))
  | .ok event =>
      match served.subscriber with
      | none => (served, .error .noSubscriber)
      | some _ =>
          match signal setup ask (.next event) served with
          | (after, none) => (after, .ok ())
          | (after, some reason) => (after, .error (.client reason))

/-- Deals with one message. Once the stream has ended, messages are dropped. -/
def deal (setup : Setup ε ω σ ρ) (ask : Ask ε ρ ω σ) (flow : Flow ε ρ ω σ)
    (message : Message) : Flow ε ρ ω σ × Except FlowError Unit :=
  if flow.stage.isDone then (flow, .ok ())
  else
    let noted := record (.looked message.kind) flow
    match message.kind with
    | .initialResponse => (respond setup ask noted, .ok ())
    | .event => handEvent setup ask message noted
    | .missingEventType => (noted, .error .missingEventType)
    | .error code text => (noted, .error (.protocol code text))
    | .other _ => (noted, .ok ())

/-! ### Chunks -/

/-- A chunk has been dealt with. The next one is asked for if events are still
wanted. -/
def finishChunk (ask : Ask ε ρ ω σ) (flow : Flow ε ρ ω σ) : Flow ε ρ ω σ :=
  let finished := record .chunkFinished { flow with chunkDue := false }
  if finished.demand.isMet then finished else askNext ask finished

def keepPending (index : Nat) (routed : Bool) (pending : Option Bytes) (flow : Flow ε ρ ω σ) :
    Flow ε ρ ω σ :=
  flow.updateTransport index fun transport =>
    { transport with consumer := some (.stream routed pending) }

/-- Decodes a chunk and deals with the messages it completes. A failure ends the
stream and stops the transport. -/
def consume (setup : Setup ε ω σ ρ) (ask : Ask ε ρ ω σ) (index : Nat)
    (routed : Bool) (pending bytes : Bytes) (flow : Flow ε ρ ω σ) : Flow ε ρ ω σ :=
  if flow.stage.isDone then flow
  else
    let arrived := record (.chunkArrived index bytes) (flow.keepPending index routed none)
    let fed := Fed.decodeAll setup.limits .decode (deal setup ask) arrived (pending ++ bytes)
    let kept := fed.state.keepPending index routed (some fed.pending)
    match fed.outcome with
    | .ok () => finishChunk ask kept
    | .error cause => stop (fail setup ask cause kept)

/-- A chunk from a transport. One that comes from inside a hook while another is
being decoded would never get through. -/
def chunk (setup : Setup ε ω σ ρ) (ask : Ask ε ρ ω σ) (index : Nat) (bytes : Bytes)
    (flow : Flow ε ρ ω σ) : Flow ε ρ ω σ :=
  match (flow.transport? index).bind Transport.consumer with
  | some (.stream routed (some pending)) => consume setup ask index routed pending bytes flow
  | _ => flow

/-- The end of a transport. It completes the stream if it is routed to it. -/
def transportEnded (setup : Setup ε ω σ ρ) (ask : Ask ε ρ ω σ) (index : Nat)
    (flow : Flow ε ρ ω σ) : Flow ε ρ ω σ :=
  match (flow.transport? index).bind Transport.consumer with
  | some (.stream true _) =>
      let (result, after) := complete setup ask flow
      { after with outcome := after.outcome.resolve result }
  | _ => flow

/-- The failure of a transport. It fails the stream if it is routed to it. -/
def transportFailed (setup : Setup ε ω σ ρ) (ask : Ask ε ρ ω σ) (index : Nat)
    (error : TransportError) (flow : Flow ε ρ ω σ) : Flow ε ρ ω σ :=
  match (flow.transport? index).bind Transport.consumer with
  | some (.stream true _) => fail setup ask (.transport error) flow
  | _ => flow

/-! ### Acts -/

/-- Keeps the initial response until its marker arrives. The first one held is
kept. -/
def capture (response : ρ) (flow : Flow ε ρ ω σ) : Flow ε ρ ω σ :=
  { flow with response := flow.response.or (some response) }

/-- Subscribes the stream to a transport. Only the first transport is attached:
another one is cancelled at once. -/
def join (setup : Setup ε ω σ ρ) (ask : Ask ε ρ ω σ) (routed : Bool) (index : Nat)
    (flow : Flow ε ρ ω σ) : Except FlowError Unit × Flow ε ρ ω σ :=
  match flow.transport? index with
  | some ⟨_, none⟩ =>
      let taken := flow.keepPending index routed (some [])
      match taken.attachment with
      | some _ => (.ok (), cancelTransport index taken)
      | none =>
          let attached := record .streamReady { taken with attachment := some index }
          (.ok (), ask.others (setup.handler.onStream.foldl (handlerSubscribe setup ask) attached))
  | _ => (.error (.transport .alreadySubscribed), flow)

/-- The stream after something has been done to it. Only a subscriber can make
requests and cancel, and only a stream that has been handed to its handler can
be subscribed to. -/
def act (setup : Setup ε ω σ ρ) (ask : Ask ε ρ ω σ) (flow : Flow ε ρ ω σ) : Event ρ → Flow ε ρ ω σ
  | .capture response => capture response flow
  | .attach routed index => (join setup ask routed index flow).2
  | .push index bytes => chunk setup ask index bytes flow
  | .transportEnded index => transportEnded setup ask index flow
  | .transportFailed index error => transportFailed setup ask index error flow
  | .request count => if flow.subscriber.isSome then request ask count flow else flow
  | .cancel => if flow.subscriber.isSome then stop flow else flow
  | .subscribe number =>
      if flow.attachment.isSome then (subscribe setup ask number flow).2 else flow
  | .fail cause => fail setup ask cause flow
  | .complete => (complete setup ask flow).2

/-- The next interlude, in which hooks are called that may have interludes of
their own. Every interlude is taken out before it is played, so that the depth to
which they nest is at most their number. -/
def interlude (setup : Setup ε ω σ ρ) (forChunk : Flow ε ρ ω σ → Flow ε ρ ω σ) :
    Nat → Flow ε ρ ω σ → Flow ε ρ ω σ
  | 0, flow => flow
  | depth + 1, flow =>
      match flow.interludes with
      | [] => flow
      | events :: later =>
          events.foldl (act setup ⟨forChunk, interlude setup forChunk depth⟩)
            { flow with interludes := later }

def asking (setup : Setup ε ω σ ρ) (forChunk : Flow ε ρ ω σ → Flow ε ρ ω σ) : Ask ε ρ ω σ where
  forChunk := forChunk
  others := fun flow => interlude setup forChunk flow.interludes.length flow

end FramedEvents.Flow
