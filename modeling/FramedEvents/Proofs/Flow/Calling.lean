/-
The calls on a stream, in the order in which they are made.

A request may bring a chunk before it returns, a chunk its messages, and a message a hook in which
more is asked for. Told apart here are all calls that the demand of a stream may depend on, be it
running, cancelled or at its end, with the stream as each of them leaves it, before anything
else that it leads to. The functions follow those by which a stream reacts, one by one. Runs
are made of acts on the stream, and of what its subscriber does with its own state meanwhile.
-/

import FramedEvents.Flow.EventStream
import FramedEvents.Proofs.Flow.Counter
import FramedEvents.Proofs.Flow.Handing

namespace FramedEvents

def Entry.call? {ε ρ : Type} : Entry ε ρ → Option Call
  | .demanded count => some (.requested count)
  | .stopped => some .cancelled
  | .chunkArrived transport bytes => some (.arrived transport bytes)
  | .looked kind => some (.dispatched kind)
  | _ => none

namespace Flow

variable {ε ρ ω σ : Type}

/-- A call, and the stream as the call itself leaves it. -/
structure Moment (ε ρ ω σ : Type) where
  call : Call
  flow : Flow ε ρ ω σ

abbrev Trace (ε ρ ω σ : Type) := List (Moment ε ρ ω σ)

/-- Whom a stream turns to while it reacts, and the calls on the stream that this leads to. -/
structure Tracer (ε ρ ω σ : Type) extends Ask ε ρ ω σ where
  chunkCalls : Flow ε ρ ω σ → Trace ε ρ ω σ
  otherCalls : Flow ε ρ ω σ → Trace ε ρ ω σ

/-! ### What is called -/

def foldCalls {α : Type} (act : Flow ε ρ ω σ → α → Flow ε ρ ω σ)
    (calls : Flow ε ρ ω σ → α → Trace ε ρ ω σ) : List α → Flow ε ρ ω σ → Trace ε ρ ω σ
  | [], _ => []
  | item :: items, flow => calls flow item ++ foldCalls act calls items (act flow item)

namespace Tracer

variable (tracer : Tracer ε ρ ω σ)

def askNext (flow : Flow ε ρ ω σ) : Trace ε ρ ω σ :=
  if flow.cancelled || flow.stage.isDone || flow.attachment.isNone || flow.chunkDue then []
  else tracer.chunkCalls (record .chunkRequested { flow with chunkDue := true })

def request (count : Nat) (flow : Flow ε ρ ω σ) : Trace ε ρ ω σ :=
  if count = 0 || flow.cancelled then [⟨.requested count, flow⟩]
  else
    let counted := record (.demanded count) { flow with demand := flow.demand.add count }
    ⟨.requested count, counted⟩ :: tracer.askNext counted

def stop (flow : Flow ε ρ ω σ) : Trace ε ρ ω σ := [⟨.cancelled, Flow.stop flow⟩]

def obey (flow : Flow ε ρ ω σ) : Control → Trace ε ρ ω σ
  | .request count => tracer.request count flow
  | .cancel => stop flow

variable (setup : Setup ε ω σ ρ)

def signal (given : EventSignal ε) (flow : Flow ε ρ ω σ) : Trace ε ρ ω σ :=
  match flow.subscriber with
  | none => []
  | some (number, state) =>
      let told := informed setup given number state flow
      let controls := ((setup.subscribers number).react given state).controls
      foldCalls (Flow.obey tracer.toAsk) tracer.obey controls told ++
        tracer.otherCalls (controls.foldl (Flow.obey tracer.toAsk) told)

def subscribe (flow : Flow ε ρ ω σ) (number : Nat) : Trace ε ρ ω σ :=
  match flow.subscriber with
  | some _ => []
  | none =>
      tracer.signal setup .subscribed
        { flow with subscriber := some (number, (setup.subscribers number).start) }

def attachAll (numbers : List Nat) (flow : Flow ε ρ ω σ) : Trace ε ρ ω σ :=
  foldCalls (handlerSubscribe setup tracer.toAsk) (tracer.subscribe setup) numbers flow ++
    tracer.otherCalls (numbers.foldl (handlerSubscribe setup tracer.toAsk) flow)

def finish (final : Stage) (flow : Flow ε ρ ω σ) : Trace ε ρ ω σ :=
  if flow.stage.isDone then []
  else
    let ended := { flow with stage := final }
    ⟨.ended, ended⟩ :: tracer.signal setup final.signal ended ++
      tracer.otherCalls (reported setup tracer.toAsk final flow)

def respond (flow : Flow ε ρ ω σ) : Trace ε ρ ω σ :=
  match flow.response with
  | none => []
  | some response =>
      let released := record (.responded response) { flow with response := none }
      tracer.attachAll setup (if released.attachment.isSome then setup.handler.onResponse else [])
        released

def deal (flow : Flow ε ρ ω σ) (message : Message) : Trace ε ρ ω σ :=
  if flow.stage.isDone then [⟨.dispatched message.kind, flow⟩]
  else
    let noted := record (.looked message.kind) flow
    match message.kind with
    | .initialResponse => ⟨.dispatched .initialResponse, noted⟩ :: tracer.respond setup noted
    | .event =>
        ⟨.dispatched .event, flow.charged⟩ ::
          match setup.readEvent (EventMessage.ofMessage message) setup.attributes with
          | .error _ => []
          | .ok event => tracer.signal setup (.next event) flow.charged
    | kind => [⟨.dispatched kind, noted⟩]

def walk : List Message → Flow ε ρ ω σ → Trace ε ρ ω σ
  | [], _ => []
  | message :: later, flow =>
      tracer.deal setup flow message ++
        match Flow.deal setup tracer.toAsk flow message with
        | (after, .ok ()) => walk later after
        | (_, .error _) => []

def finishChunk (flow : Flow ε ρ ω σ) : Trace ε ρ ω σ :=
  let finished := record .chunkFinished { flow with chunkDue := false }
  if finished.demand.isMet then [] else tracer.askNext finished

def consume (index : Nat) (routed : Bool) (pending bytes : Bytes) (flow : Flow ε ρ ω σ) :
    Trace ε ρ ω σ :=
  if flow.stage.isDone then [⟨.arrived index bytes, flow⟩]
  else
    let arrived := arriving index routed bytes flow
    let fed := Fed.decodeAll setup.limits .decode (Flow.deal setup tracer.toAsk) arrived
      (pending ++ bytes)
    let kept := fed.state.keepPending index routed (some fed.pending)
    ⟨.arrived index bytes, arrived⟩ ::
      tracer.walk setup (Frame.messages setup.limits (pending ++ bytes)).1 arrived ++
        match fed.outcome with
        | .ok () => tracer.finishChunk kept
        | .error cause =>
            tracer.finish setup (.failed cause) kept ++
              stop (Flow.fail setup tracer.toAsk cause kept)

def chunk (index : Nat) (bytes : Bytes) (flow : Flow ε ρ ω σ) : Trace ε ρ ω σ :=
  match (flow.transport? index).bind Transport.consumer with
  | some (.stream routed (some pending)) => tracer.consume setup index routed pending bytes flow
  | _ => []

/-- A transport ends or fails. The stream ends with it if the transport is routed to it. -/
def close (index : Nat) (final : Stage) (flow : Flow ε ρ ω σ) : Trace ε ρ ω σ :=
  match (flow.transport? index).bind Transport.consumer with
  | some (.stream true _) => tracer.finish setup final flow
  | _ => []

def join (routed : Bool) (index : Nat) (flow : Flow ε ρ ω σ) : Trace ε ρ ω σ :=
  match flow.transport? index with
  | some ⟨_, none⟩ =>
      let taken := flow.keepPending index routed (some [])
      match taken.attachment with
      | some _ => []
      | none =>
          tracer.attachAll setup setup.handler.onStream
            (record .streamReady { taken with attachment := some index })
  | _ => []

def act (flow : Flow ε ρ ω σ) : Event ρ → Trace ε ρ ω σ
  | .capture _ => []
  | .attach routed index => tracer.join setup routed index flow
  | .push index bytes => tracer.chunk setup index bytes flow
  | .transportEnded index => tracer.close setup index .completed flow
  | .transportFailed index error => tracer.close setup index (.failed (.transport error)) flow
  | .request count => if flow.subscriber.isSome then tracer.request count flow else []
  | .cancel => if flow.subscriber.isSome then stop flow else []
  | .subscribe number =>
      if flow.attachment.isSome then tracer.subscribe setup flow number else []
  | .fail cause => tracer.finish setup (.failed cause) flow
  | .complete => tracer.finish setup .completed flow

end Tracer

variable (setup : Setup ε ω σ ρ)

def interludeCalls (forChunk : Flow ε ρ ω σ → Flow ε ρ ω σ)
    (chunkCalls : Flow ε ρ ω σ → Trace ε ρ ω σ) : Nat → Flow ε ρ ω σ → Trace ε ρ ω σ
  | 0, _ => []
  | depth + 1, flow =>
      match flow.interludes with
      | [] => []
      | events :: later =>
          let inside : Ask ε ρ ω σ := ⟨forChunk, interlude setup forChunk depth⟩
          foldCalls (act setup inside)
            (Tracer.act ⟨inside, chunkCalls, interludeCalls forChunk chunkCalls depth⟩ setup) events
            { flow with interludes := later }

def tracing (forChunk : Flow ε ρ ω σ → Flow ε ρ ω σ)
    (chunkCalls : Flow ε ρ ω σ → Trace ε ρ ω σ) : Tracer ε ρ ω σ where
  toAsk := asking setup forChunk
  chunkCalls := chunkCalls
  otherCalls := fun flow => interludeCalls setup forChunk chunkCalls flow.interludes.length flow

def booking : Tracer ε ρ ω σ := tracing setup bookChunk fun _ => []

/-- The calls of an act are put behind those that have been made before. -/
def overhear (act : Flow ε ρ ω σ → Flow ε ρ ω σ) (calls : Flow ε ρ ω σ → Trace ε ρ ω σ)
    (heard : Flow ε ρ ω σ × Trace ε ρ ω σ) : Flow ε ρ ω σ × Trace ε ρ ω σ :=
  (act heard.1, heard.2 ++ calls heard.1)

def sourceStop (flow : Flow ε ρ ω σ) : Trace ε ρ ω σ :=
  match flow.subscriber with
  | some (0, _) => Tracer.stop flow
  | _ => []

/-- The stream as the world that a delivery reaches into, with the calls that it makes. -/
def overheard (index : Nat) : Delivery.Reach (Flow ε ρ ω σ × Trace ε ρ ω σ) where
  delivery := fun heard => (reach setup index).delivery heard.1
  update := fun change => overhear ((reach setup index).update change) fun _ => []
  onChunk := fun bytes =>
    overhear ((reach setup index).onChunk bytes) ((booking setup).chunk setup index bytes)
  onFailure := fun error =>
    overhear ((reach setup index).onFailure error)
      ((booking setup).close setup index (.failed (.transport error)))
  onEnd := overhear (reach setup index).onEnd ((booking setup).close setup index .completed)
  onSourceCancel := overhear (reach setup index).onSourceCancel sourceStop

def drawCalls (flow : Flow ε ρ ω σ) : Trace ε ρ ω σ :=
  match flow.attachment with
  | none => []
  | some index =>
      match (flow.transport? index).map Transport.outlet with
      | some (.pull _ source) => (Delivery.request (overheard setup index) 1 source (flow, [])).2.2
      | _ => []

/-- How a transport may serve a request for a chunk: it takes note of it, it pulls from a source,
or it acts before the request returns, and is asked again in the meantime. -/
inductive Service (ε ρ ω σ : Type) where
  | notes
  | pulls
  | acts (meanwhile : Service ε ρ ω σ) (reply : Flow ε ρ ω σ → List (Event ρ))

def Service.tracer : Service ε ρ ω σ → Tracer ε ρ ω σ
  | .notes => booking setup
  | .pulls => tracing setup (drawChunk setup) (drawCalls setup)
  | .acts meanwhile reply =>
      tracing setup
        (fun flow => (reply flow).foldl (act setup (meanwhile.tracer).toAsk) (bookChunk flow))
        fun flow => foldCalls (act setup (meanwhile.tracer).toAsk) ((meanwhile.tracer).act setup)
          (reply flow) (bookChunk flow)

/-! ### Runs -/

/-- What happens to a stream in a run: it is acted on, or the subscriber's own state changes
between its signals, as it does when events are taken out of a queue. -/
inductive Deed (ρ σ : Type) where
  | act (event : Event ρ)
  | turn (change : σ → σ)

def turnSubscriber (change : σ → σ) (flow : Flow ε ρ ω σ) : Flow ε ρ ω σ :=
  { flow with subscriber := flow.subscriber.map fun holder => (holder.1, change holder.2) }

def perform (setup : Setup ε ω σ ρ) (ask : Ask ε ρ ω σ) (flow : Flow ε ρ ω σ) :
    Deed ρ σ → Flow ε ρ ω σ
  | .act event => act setup ask flow event
  | .turn change => turnSubscriber change flow

def Tracer.perform (tracer : Tracer ε ρ ω σ) (setup : Setup ε ω σ ρ) (flow : Flow ε ρ ω σ) :
    Deed ρ σ → Trace ε ρ ω σ
  | .act event => tracer.act setup flow event
  | .turn _ => []

def Tracer.performAll (tracer : Tracer ε ρ ω σ) (setup : Setup ε ω σ ρ) (deeds : List (Deed ρ σ))
    (flow : Flow ε ρ ω σ) : Trace ε ρ ω σ :=
  foldCalls (Flow.perform setup tracer.toAsk) (tracer.perform setup) deeds flow

theorem exists_service {forChunk : Flow ε ρ ω σ → Flow ε ρ ω σ}
    (serving : Serving setup forChunk) :
    ∃ service : Service ε ρ ω σ, (service.tracer setup).toAsk = asking setup forChunk := by
  induction serving with
  | notes => exact ⟨.notes, rfl⟩
  | pulls => exact ⟨.pulls, rfl⟩
  | @acts forChunk _ reply ih =>
      obtain ⟨service, same⟩ := ih
      have asks : (Service.tracer setup (.acts service reply)).toAsk = asking setup fun flow =>
          (reply flow).foldl (act setup (service.tracer setup).toAsk) (bookChunk flow) := rfl
      exact ⟨.acts service reply, by rw [asks, same]⟩

theorem run_eq_perform (setup : Setup ε ω σ ρ) (events : List (Event ρ)) (flow : Flow ε ρ ω σ) :
    run setup flow events =
      (events.map Deed.act).foldl (perform setup ((Service.pulls.tracer setup).toAsk)) flow := by
  rw [List.foldl_map]
  rfl

section

variable {κ : Type} [Mailbox ε κ]

theorem fetch_performs (setup : Setup ε ω κ ρ) (flow : Flow ε ρ ω κ) :
    ∃ deeds : List (Deed ρ κ),
      (EventStream.fetch flow).2 = deeds.foldl (perform setup (ask setup)) flow := by
  unfold EventStream.fetch
  split
  · exact ⟨[], rfl⟩
  · rename_i number box holder
    refine ⟨[.turn fun box => (Mailbox.receive box).2], ?_⟩
    simp [perform, turnSubscriber, holder]

theorem poll_performs (setup : Setup ε ω κ ρ) (stream : EventStream) {flow : Flow ε ρ ω κ}
    (bound : flow.subscriber.isSome = true) :
    ∃ deeds : List (Deed ρ κ),
      (EventStream.poll setup stream flow).2.2 = deeds.foldl (perform setup (ask setup)) flow := by
  have holds : (EventStream.fetch flow).2.subscriber.isSome = true := by
    unfold EventStream.fetch
    split
    · exact bound
    · rfl
  have requested : perform setup (ask setup) (EventStream.fetch flow).2 (.act (.request 1)) =
      (EventStream.fetch flow).2.requestOutside setup 1 := if_pos holds
  obtain ⟨taken, fetched⟩ := fetch_performs setup flow
  obtain ⟨later, fetchedLater⟩ :=
    fetch_performs setup ((EventStream.fetch flow).2.requestOutside setup 1)
  unfold EventStream.poll
  split
  · exact ⟨[], rfl⟩
  · generalize EventStream.fetch flow = first at requested fetched fetchedLater
    obtain ⟨_ | received, after⟩ := first
    · dsimp only
      split
      · exact ⟨taken, fetched⟩
      · refine ⟨taken ++ .act (.request 1) :: later, ?_⟩
        rw [List.foldl_append, ← fetched, List.foldl_cons, requested, ← fetchedLater]
        dsimp only
        generalize EventStream.fetch (after.requestOutside setup 1) = second
        obtain ⟨_ | received, last⟩ := second <;> rfl
    · exact ⟨taken, fetched⟩

theorem drop_performs (setup : Setup ε ω κ ρ) (stream : EventStream) {flow : Flow ε ρ ω κ}
    (bound : flow.subscriber.isSome = true) :
    ∃ deeds : List (Deed ρ κ),
      EventStream.drop stream flow = deeds.foldl (perform setup (ask setup)) flow := by
  have stopped : perform setup (ask setup) flow (.act .cancel) = stop flow := if_pos bound
  let closed : Deed ρ κ := .turn Mailbox.close
  unfold EventStream.drop
  split
  · exact ⟨[closed], rfl⟩
  · refine ⟨[.act .cancel, closed], ?_⟩
    rw [List.foldl_cons, stopped]
    rfl

end

end Flow

end FramedEvents
