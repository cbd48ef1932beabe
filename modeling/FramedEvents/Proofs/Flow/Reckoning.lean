/-
What the calls on a stream make of its demand.

A reading of a stream is where its demand stands, whether it has been cancelled or has ended, and
what its log tells of calls. Every single call leads from one reading to the next, as the counter
says, and nothing in between does: this is shown of each way in which a stream reacts, given
that it is so of those whom it turns to, and so of whole runs.
-/

import FramedEvents.Proofs.Chunk.Cancelling
import FramedEvents.Proofs.Flow.Calling
import FramedEvents.Proofs.Flow.Execution

namespace FramedEvents.Flow

open Relation

variable {ε ρ ω σ : Type}

/-! ### What the calls tell -/

def counter (flow : Flow ε ρ ω σ) : Counter :=
  ⟨flow.demand.outstanding, flow.cancelled, flow.stage.isDone⟩

/-- Where the counter stands, and what the log tells of calls, the latest first. -/
structure Reading where
  counter : Counter
  logged : List Call

def Reading.next (reading : Reading) (call : Call) : Reading :=
  ⟨reading.counter.next call, (if reading.counter.logs call then [call] else []) ++ reading.logged⟩

theorem Reading.next_of_logs {reading : Reading} {call : Call}
    (logs : reading.counter.logs call = true) :
    reading.next call = ⟨reading.counter.next call, call :: reading.logged⟩ := by
  unfold Reading.next
  rw [if_pos logs]
  rfl

theorem Reading.next_of_not_logs {reading : Reading} {call : Call}
    (silent : reading.counter.logs call = false) (other : call ≠ .ended) :
    reading.next call = reading := by
  unfold Reading.next
  rw [silent, Counter.next_of_not_logs silent other]
  rfl

def reading (flow : Flow ε ρ ω σ) : Reading :=
  ⟨flow.counter, flow.log.filterMap Entry.call?⟩

/-- Every call leads from one reading to the next, and nothing else does. -/
inductive Tracked : Reading → Trace ε ρ ω σ → Reading → Prop where
  | nothing (reading : Reading) : Tracked reading [] reading
  | call {reading last : Reading} {moment : Moment ε ρ ω σ} {later : Trace ε ρ ω σ}
      (now : moment.flow.reading = reading.next moment.call)
      (rest : Tracked moment.flow.reading later last) : Tracked reading (moment :: later) last

namespace Tracked

variable {first middle last : Reading} {earlier later trace : Trace ε ρ ω σ}

theorem append (front : Tracked first earlier middle) (back : Tracked middle later last) :
    Tracked first (earlier ++ later) last := by
  induction front with
  | nothing => exact back
  | call now _ ih => exact .call now (ih back)

theorem counter (tracked : Tracked first trace last) :
    last.counter = first.counter.after (trace.map Moment.call) := by
  induction tracked with
  | nothing => rfl
  | call now _ ih =>
      rw [ih, now]
      rfl

theorem logged (tracked : Tracked first trace last) :
    last.logged = (first.counter.logged (trace.map Moment.call)).reverse ++ first.logged := by
  induction tracked with
  | nothing => rfl
  | @call reading last moment later now _ ih =>
      rw [ih, now, List.map_cons, Counter.logged, List.reverse_append, List.append_assoc]
      dsimp only [Reading.next]
      split <;> rfl

theorem always (tracked : Tracked first trace last) {moment : Moment ε ρ ω σ}
    (parts : trace = earlier ++ moment :: later) :
    moment.flow.reading.counter =
      first.counter.after ((earlier ++ [moment]).map Moment.call) := by
  induction tracked generalizing earlier with
  | nothing =>
      cases earlier <;> cases parts
  | @call reading last next behind now _ ih =>
      cases earlier with
      | nil =>
          cases parts
          rw [now]
          rfl
      | cons head earlier =>
          obtain ⟨rfl, rest⟩ := List.cons.inj parts
          rw [ih rest, now]
          rfl

end Tracked

def Tracks (flow : Flow ε ρ ω σ) (trace : Trace ε ρ ω σ) (after : Flow ε ρ ω σ) : Prop :=
  Tracked flow.reading trace after.reading

namespace Tracks

variable {flow middle after : Flow ε ρ ω σ} {earlier later : Trace ε ρ ω σ}

theorem append (front : Tracks flow earlier middle) (back : Tracks middle later after) :
    Tracks flow (earlier ++ later) after :=
  Tracked.append front back

theorem still (same : after.reading = flow.reading) : Tracks flow ([] : Trace ε ρ ω σ) after := by
  unfold Tracks
  rw [same]
  exact .nothing _

theorem onward (front : Tracks flow earlier middle) (same : after.reading = middle.reading) :
    Tracks flow earlier after := by
  unfold Tracks
  rw [same]
  exact front

theorem one {call : Call} (now : after.reading = flow.reading.next call) :
    Tracks flow [⟨call, after⟩] after :=
  .call now (.nothing _)

theorem idle {call : Call} (silent : flow.reading.counter.logs call = false)
    (other : call ≠ .ended) : Tracks flow [⟨call, flow⟩] flow :=
  .one (Reading.next_of_not_logs silent other).symm

theorem cons {call : Call} (now : middle.reading = flow.reading.next call)
    (rest : Tracks middle later after) : Tracks flow (⟨call, middle⟩ :: later) after :=
  .call now rest

theorem guarded {allowed : Bool} (acts : Tracks flow earlier after) :
    Tracks flow (if allowed then earlier else []) (if allowed then after else flow) := by
  cases allowed with
  | true => exact acts
  | false => exact .nothing _

theorem foldCalls {α : Type} {act : Flow ε ρ ω σ → α → Flow ε ρ ω σ}
    {calls : Flow ε ρ ω σ → α → Trace ε ρ ω σ}
    (acts : ∀ flow item, Tracks flow (calls flow item) (act flow item)) (items : List α)
    (flow : Flow ε ρ ω σ) :
    Tracks flow (Flow.foldCalls act calls items flow) (items.foldl act flow) := by
  induction items generalizing flow with
  | nil => exact .nothing _
  | cons item items ih => exact (acts flow item).append (ih (act flow item))

end Tracks

structure Tracer.Faithful (tracer : Tracer ε ρ ω σ) : Prop where
  forChunk : ∀ flow, Tracks flow (tracer.chunkCalls flow) (tracer.forChunk flow)
  others : ∀ flow, Tracks flow (tracer.otherCalls flow) (tracer.others flow)

/-! ### Demand and signals -/

theorem reading_looked {flow : Flow ε ρ ω σ} (running : flow.stage = .running)
    {kind : MessageKind} (other : kind ≠ .event) :
    (record (.looked kind) flow).reading = flow.reading.next (.dispatched kind) := by
  have same : flow.reading.counter.next (.dispatched kind) = flow.reading.counter := by
    cases kind with
    | event => exact absurd rfl other
    | _ => rfl
  rw [Reading.next_of_logs, same]
  · rfl
  · simp [Counter.logs, reading, counter, not_isDone running]

theorem reading_charged {flow : Flow ε ρ ω σ} (running : flow.stage = .running) :
    flow.charged.reading = flow.reading.next (.dispatched .event) := by
  have less : flow.reading.counter.next (.dispatched .event) = _ := if_neg (not_isDone running)
  rw [Reading.next_of_logs, less]
  · simp [reading, counter, charged, record, Entry.call?]
  · simp [Counter.logs, reading, counter, not_isDone running]

theorem stop_tracks (flow : Flow ε ρ ω σ) : Tracks flow (Tracer.stop flow) (stop flow) := by
  unfold Tracer.stop stop
  cases stopped : flow.cancelled with
  | true => exact .idle (by simp [Counter.logs, reading, counter, stopped]) nofun
  | false =>
      apply Tracks.one
      rw [if_neg Bool.false_ne_true,
        Reading.next_of_logs (by simp [Counter.logs, reading, counter, stopped])]
      dsimp only
      split <;> rfl

namespace Tracer.Faithful

variable {setup} {tracer : Tracer ε ρ ω σ}

theorem askNext (faithful : tracer.Faithful) (flow : Flow ε ρ ω σ) :
    Tracks flow (tracer.askNext flow) (Flow.askNext tracer.toAsk flow) := by
  unfold Tracer.askNext Flow.askNext
  split
  · exact .nothing _
  · exact faithful.forChunk (record .chunkRequested { flow with chunkDue := true })

theorem request (faithful : tracer.Faithful) (count : Nat) (flow : Flow ε ρ ω σ) :
    Tracks flow (tracer.request count flow) (Flow.request tracer.toAsk count flow) := by
  unfold Tracer.request Flow.request
  split
  · rename_i ignored
    refine .idle ?_ nofun
    simpa [Counter.logs, reading, counter, or_iff_not_imp_left] using ignored
  · rename_i counted
    refine .cons ?_ (faithful.askNext _)
    have more : flow.reading.counter.next (.requested count) = _ := if_neg counted
    rw [Reading.next_of_logs, more]
    · rfl
    · simpa [Counter.logs, reading, counter] using counted

theorem obey (faithful : tracer.Faithful) (flow : Flow ε ρ ω σ) (control : Control) :
    Tracks flow (tracer.obey flow control) (Flow.obey tracer.toAsk flow control) := by
  cases control with
  | request count => exact faithful.request count flow
  | cancel => exact stop_tracks flow

theorem signal (faithful : tracer.Faithful) (setup : Setup ε ω σ ρ) (given : EventSignal ε)
    (flow : Flow ε ρ ω σ) :
    Tracks flow (tracer.signal setup given flow) (Flow.signal setup tracer.toAsk given flow).1 := by
  unfold Tracer.signal Flow.signal
  cases flow.subscriber with
  | none => exact .nothing _
  | some holder =>
      have told : Tracks flow [] (informed setup given holder.1 holder.2 flow) := .still rfl
      exact (told.append (.foldCalls faithful.obey _ _)).append (faithful.others _)

theorem subscribe (faithful : tracer.Faithful) (setup : Setup ε ω σ ρ) (flow : Flow ε ρ ω σ)
    (number : Nat) :
    Tracks flow (tracer.subscribe setup flow number)
      (Flow.subscribe setup tracer.toAsk number flow).2 := by
  unfold Tracer.subscribe Flow.subscribe
  cases flow.subscriber with
  | none =>
      exact faithful.signal setup .subscribed
        { flow with subscriber := some (number, (setup.subscribers number).start) }
  | some holder => exact .nothing _

theorem handlerSubscribe (faithful : tracer.Faithful) (setup : Setup ε ω σ ρ)
    (flow : Flow ε ρ ω σ) (number : Nat) :
    Tracks flow (tracer.subscribe setup flow number)
      (Flow.handlerSubscribe setup tracer.toAsk flow number) := by
  have inside := faithful.subscribe setup flow number
  unfold Flow.handlerSubscribe
  split
  · rename_i after answered
    rwa [answered] at inside
  · rename_i reason after answered
    rw [answered] at inside
    exact inside

theorem attachAll (faithful : tracer.Faithful) (setup : Setup ε ω σ ρ) (numbers : List Nat)
    (flow : Flow ε ρ ω σ) :
    Tracks flow (tracer.attachAll setup numbers flow)
      (tracer.others (numbers.foldl (Flow.handlerSubscribe setup tracer.toAsk) flow)) :=
  (Tracks.foldCalls (faithful.handlerSubscribe setup) numbers flow).append (faithful.others _)

/-! ### Messages -/

theorem respond (faithful : tracer.Faithful) (setup : Setup ε ω σ ρ) (flow : Flow ε ρ ω σ) :
    Tracks flow (tracer.respond setup flow) (Flow.respond setup tracer.toAsk flow) := by
  unfold Tracer.respond Flow.respond
  cases flow.response with
  | none => exact .nothing _
  | some response =>
      let released := record (.responded response) { flow with response := none }
      dsimp only
      split
      · exact faithful.attachAll setup setup.handler.onResponse released
      · exact faithful.attachAll setup [] released

theorem handEvent (faithful : tracer.Faithful) (setup : Setup ε ω σ ρ) (message : Message)
    (flow : Flow ε ρ ω σ) :
    Tracks flow.charged
      (match setup.readEvent (EventMessage.ofMessage message) setup.attributes with
        | .error _ => []
        | .ok event => tracer.signal setup (.next event) flow.charged)
      (Flow.handEvent setup tracer.toAsk message (record (.looked .event) flow)).1 := by
  cases read : setup.readEvent (EventMessage.ofMessage message) setup.attributes with
  | error reason =>
      rw [handEvent_unreadable read]
      exact .nothing _
  | ok event =>
      have told := faithful.signal setup (.next event) flow.charged
      cases bound : flow.subscriber with
      | none =>
          have nobody : flow.charged.subscriber = none := bound
          rw [handEvent_unwanted read bound]
          rwa [signal_of_nobody _ _ nobody] at told
      | some holder =>
          rw [handEvent_handed read (isSome_of_eq bound)]
          exact told

theorem deal (faithful : tracer.Faithful) (setup : Setup ε ω σ ρ) (flow : Flow ε ρ ω σ)
    (message : Message) :
    Tracks flow (tracer.deal setup flow message) (Flow.deal setup tracer.toAsk flow message).1 := by
  unfold Tracer.deal
  rcases running_or_isDone flow with running | done
  · rw [if_neg (not_isDone running), deal_of_running running]
    have looked {kind : MessageKind} (other : kind ≠ .event) := reading_looked running other
    cases message.kind with
    | initialResponse => exact .cons (reading_looked running nofun) (faithful.respond setup _)
    | event => exact .cons (reading_charged running) (faithful.handEvent setup message flow)
    | missingEventType => exact .one (reading_looked running nofun)
    | error code text => exact .one (reading_looked running nofun)
    | other type => exact .one (reading_looked running nofun)
  · rw [if_pos done, deal_of_isDone done]
    exact .idle (by simp [Counter.logs, reading, counter, done]) nofun

theorem walk (faithful : tracer.Faithful) (setup : Setup ε ω σ ρ) (messages : List Message)
    (flow : Flow ε ρ ω σ) :
    Tracks flow (tracer.walk setup messages flow)
      (Fed.walk (Flow.deal setup tracer.toAsk) flow messages).1 := by
  induction messages generalizing flow with
  | nil => exact .nothing _
  | cons message later ih =>
      have dealt := faithful.deal setup flow message
      rw [Tracer.walk, Fed.walk]
      generalize Flow.deal setup tracer.toAsk flow message = answer at dealt ⊢
      obtain ⟨after, verdict⟩ := answer
      cases verdict with
      | error cause =>
          rw [List.append_nil]
          exact dealt
      | ok accepted => exact dealt.append (ih after)

/-! ### The end -/

theorem reported (faithful : tracer.Faithful) (setup : Setup ε ω σ ρ) {final : Stage}
    (done : final.isDone = true) {flow : Flow ε ρ ω σ} (running : flow.stage = .running) :
    Tracks flow (tracer.finish setup final flow)
      (tracer.others (reported setup tracer.toAsk final flow)) := by
  let ended := { flow with stage := final }
  have told : Tracks ended (tracer.signal setup final.signal ended)
      (Flow.reported setup tracer.toAsk final flow) := by
    refine (faithful.signal setup final.signal ended).onward ?_
    cases final <;> rfl
  unfold Tracer.finish
  rw [if_neg (not_isDone running)]
  refine .cons ?_ (told.append (faithful.others _))
  have past : ended.counter = { flow.counter with ended := true } :=
    congrArg (Counter.mk _ _) done
  exact congrArg (Reading.mk · _) past

theorem fail (faithful : tracer.Faithful) (setup : Setup ε ω σ ρ) (cause : FlowError)
    (flow : Flow ε ρ ω σ) :
    Tracks flow (tracer.finish setup (.failed cause) flow)
      (Flow.fail setup tracer.toAsk cause flow) := by
  rcases running_or_isDone flow with running | done
  · rw [fail_of_running running]
    exact (faithful.reported setup rfl running).onward rfl
  · rw [fail_of_isDone setup tracer.toAsk cause done, Tracer.finish, if_pos done]
    exact .nothing _

theorem complete (faithful : tracer.Faithful) (setup : Setup ε ω σ ρ) (flow : Flow ε ρ ω σ) :
    Tracks flow (tracer.finish setup .completed flow)
      (Flow.complete setup tracer.toAsk flow).2 := by
  rcases running_or_isDone flow with running | done
  · rw [complete_of_running running]
    exact faithful.reported setup rfl running
  · rw [complete_of_isDone setup tracer.toAsk done, Tracer.finish, if_pos done]
    exact .nothing _

theorem transportEnded (faithful : tracer.Faithful) (setup : Setup ε ω σ ρ) (index : Nat)
    (flow : Flow ε ρ ω σ) :
    Tracks flow (tracer.close setup index .completed flow)
      (Flow.transportEnded setup tracer.toAsk index flow) := by
  unfold Tracer.close Flow.transportEnded
  generalize (flow.transport? index).bind Transport.consumer = consumer
  match consumer with
  | some (.stream true pending) => exact (faithful.complete setup flow).onward rfl
  | some (.stream false pending) => exact .nothing _
  | some .stranger => exact .nothing _
  | none => exact .nothing _

theorem transportFailed (faithful : tracer.Faithful) (setup : Setup ε ω σ ρ) (index : Nat)
    (error : TransportError) (flow : Flow ε ρ ω σ) :
    Tracks flow (tracer.close setup index (.failed (.transport error)) flow)
      (Flow.transportFailed setup tracer.toAsk index error flow) := by
  unfold Tracer.close Flow.transportFailed
  generalize (flow.transport? index).bind Transport.consumer = consumer
  match consumer with
  | some (.stream true pending) => exact faithful.fail setup _ flow
  | some (.stream false pending) => exact .nothing _
  | some .stranger => exact .nothing _
  | none => exact .nothing _

/-! ### Chunks -/

theorem finishChunk (faithful : tracer.Faithful) (flow : Flow ε ρ ω σ) :
    Tracks flow (tracer.finishChunk flow) (Flow.finishChunk tracer.toAsk flow) := by
  let finished := record .chunkFinished { flow with chunkDue := false }
  unfold Tracer.finishChunk Flow.finishChunk
  dsimp only
  split
  · exact .still rfl
  · exact faithful.askNext finished

theorem consume (faithful : tracer.Faithful) (setup : Setup ε ω σ ρ) (index : Nat) (routed : Bool)
    (pending bytes : Bytes) (flow : Flow ε ρ ω σ) :
    Tracks flow (tracer.consume setup index routed pending bytes flow)
      (Flow.consume setup tracer.toAsk index routed pending bytes flow) := by
  rcases running_or_isDone flow with running | done
  · let arrived := arriving index routed bytes flow
    let messages := (Frame.messages setup.limits (pending ++ bytes)).1
    let fed := Fed.decodeAll setup.limits .decode (Flow.deal setup tracer.toAsk) arrived
      (pending ++ bytes)
    let kept := fed.state.keepPending index routed (some fed.pending)
    have came : arrived.reading = flow.reading.next (.arrived index bytes) := by
      rw [Reading.next_of_logs (by simp [Counter.logs, reading, counter, not_isDone running])]
      rfl
    -- decoding deals with the messages as a walk does that has them all at hand
    have dealt : Tracks arrived (tracer.walk setup messages arrived) fed.state := by
      rw [(Fed.decodeAll_eq_walk arrived (pending ++ bytes)).1]
      exact faithful.walk setup messages arrived
    have walked := dealt.onward (rfl : kept.reading = fed.state.reading)
    unfold Tracer.consume Flow.consume
    rw [if_neg (not_isDone running), if_neg (not_isDone running)]
    refine .cons came (walked.append ?_)
    dsimp only [kept, fed, arrived, arriving]
    cases (Fed.decodeAll setup.limits .decode (Flow.deal setup tracer.toAsk)
      (record (.chunkArrived index bytes) (flow.keepPending index routed none))
      (pending ++ bytes)).outcome with
    | ok accepted => exact faithful.finishChunk _
    | error cause => exact (faithful.fail setup cause _).append (stop_tracks _)
  · unfold Tracer.consume Flow.consume
    rw [if_pos done, if_pos done]
    exact .idle (by simp [Counter.logs, reading, counter, done]) (by simp)

theorem chunk (faithful : tracer.Faithful) (setup : Setup ε ω σ ρ) (index : Nat) (bytes : Bytes)
    (flow : Flow ε ρ ω σ) :
    Tracks flow (tracer.chunk setup index bytes flow)
      (Flow.chunk setup tracer.toAsk index bytes flow) := by
  unfold Tracer.chunk Flow.chunk
  generalize (flow.transport? index).bind Transport.consumer = consumer
  match consumer with
  | some (.stream routed (some pending)) =>
      exact faithful.consume setup index routed pending bytes flow
  | some (.stream routed none) => exact .nothing _
  | some .stranger => exact .nothing _
  | none => exact .nothing _

/-! ### Acts -/

theorem join (faithful : tracer.Faithful) (setup : Setup ε ω σ ρ) (routed : Bool) (index : Nat)
    (flow : Flow ε ρ ω σ) :
    Tracks flow (tracer.join setup routed index flow)
      (Flow.join setup tracer.toAsk routed index flow).2 := by
  unfold Tracer.join Flow.join
  generalize flow.transport? index = transport
  match transport with
  | some ⟨outlet, none⟩ =>
      let taken := flow.keepPending index routed (some [])
      dsimp only
      cases taken.attachment with
      | some other => exact .still rfl
      | none =>
          exact faithful.attachAll setup setup.handler.onStream
            (record .streamReady { taken with attachment := some index })
  | some ⟨outlet, some consumer⟩ => exact .nothing _
  | none => exact .nothing _

theorem act (faithful : tracer.Faithful) (setup : Setup ε ω σ ρ) (flow : Flow ε ρ ω σ)
    (event : Event ρ) :
    Tracks flow (tracer.act setup flow event) (Flow.act setup tracer.toAsk flow event) := by
  cases event with
  | capture response => exact .still rfl
  | attach routed index => exact faithful.join setup routed index flow
  | push index bytes => exact faithful.chunk setup index bytes flow
  | transportEnded index => exact faithful.transportEnded setup index flow
  | transportFailed index error => exact faithful.transportFailed setup index error flow
  | request count => exact .guarded (faithful.request count flow)
  | cancel => exact .guarded (stop_tracks flow)
  | subscribe number => exact .guarded (faithful.subscribe setup flow number)
  | fail cause => exact faithful.fail setup cause flow
  | complete => exact faithful.complete setup flow

end Tracer.Faithful

/-! ### Interludes -/

variable {setup} {forChunk : Flow ε ρ ω σ → Flow ε ρ ω σ}
  {chunkCalls : Flow ε ρ ω σ → Trace ε ρ ω σ}

theorem interlude_tracks (asks : ∀ flow, Tracks flow (chunkCalls flow) (forChunk flow))
    (depth : Nat) (flow : Flow ε ρ ω σ) :
    Tracks flow (interludeCalls setup forChunk chunkCalls depth flow)
      (interlude setup forChunk depth flow) := by
  -- the hooks inside an interlude have interludes of a smaller depth
  induction depth generalizing flow with
  | zero => exact .nothing _
  | succ depth ih =>
      unfold interludeCalls interlude
      cases flow.interludes with
      | nil => exact .nothing _
      | cons events later =>
          let inside : Tracer ε ρ ω σ :=
            ⟨⟨forChunk, interlude setup forChunk depth⟩, chunkCalls,
              interludeCalls setup forChunk chunkCalls depth⟩
          have faithful : inside.Faithful := ⟨asks, ih⟩
          exact .foldCalls (faithful.act setup) events { flow with interludes := later }

theorem tracing_faithful (asks : ∀ flow, Tracks flow (chunkCalls flow) (forChunk flow)) :
    (tracing setup forChunk chunkCalls).Faithful :=
  ⟨asks, fun flow => interlude_tracks asks flow.interludes.length flow⟩

/-! ### Transports -/

theorem bookChunk_tracks (flow : Flow ε ρ ω σ) :
    Tracks flow ([] : Trace ε ρ ω σ) (bookChunk flow) := by
  apply Tracks.still
  unfold bookChunk
  cases flow.attachment <;> rfl

theorem booking_faithful : (booking setup : Tracer ε ρ ω σ).Faithful :=
  tracing_faithful bookChunk_tracks

/-- The calls that have been heard from one point to another are all that has been done in
between. -/
def Overheard (first last : Flow ε ρ ω σ × Trace ε ρ ω σ) : Prop :=
  ∃ more, last.2 = first.2 ++ more ∧ Tracks first.1 more last.1

theorem overhear_changes {act : Flow ε ρ ω σ → Flow ε ρ ω σ} {calls : Flow ε ρ ω σ → Trace ε ρ ω σ}
    (acts : ∀ flow, Tracks flow (calls flow) (act flow)) (heard : Flow ε ρ ω σ × Trace ε ρ ω σ) :
    ReflTransGen Overheard heard (overhear act calls heard) :=
  .single ⟨_, rfl, acts heard.1⟩

theorem overheard_of_changes {first last : Flow ε ρ ω σ × Trace ε ρ ω σ}
    (changes : ReflTransGen Overheard first last) : Overheard first last := by
  induction changes with
  | refl => exact ⟨[], (List.append_nil _).symm, .nothing _⟩
  | tail _ step ih =>
      obtain ⟨earlier, heardFirst, front⟩ := ih
      obtain ⟨later, heardThen, back⟩ := step
      exact ⟨earlier ++ later, by rw [heardThen, heardFirst, List.append_assoc], front.append back⟩

theorem overheard_shows (setup : Setup ε ω σ ρ) (index : Nat) :
    Delivery.Shows Prod.fst (overheard setup index)
      (reach setup index : Delivery.Reach (Flow ε ρ ω σ)) :=
  ⟨fun _ => rfl, fun _ _ => rfl, fun _ _ => rfl, fun _ _ => rfl, fun _ => rfl, fun _ => rfl⟩

theorem sourceStop_tracks (setup : Setup ε ω σ ρ) (index : Nat) (flow : Flow ε ρ ω σ) :
    Tracks flow (sourceStop flow) ((reach setup index).onSourceCancel flow) := by
  unfold sourceStop reach
  dsimp only
  match flow.subscriber with
  | some (0, state) => exact stop_tracks flow
  | some (number + 1, state) => exact .nothing _
  | none => exact .nothing _

theorem delivery_overheard (setup : Setup ε ω σ ρ) (index : Nat) (source : Source)
    (heard : Flow ε ρ ω σ × Trace ε ρ ω σ) :
    Overheard heard (Delivery.request (overheard setup index) 1 source heard).2 := by
  have faithful : (booking setup : Tracer ε ρ ω σ).Faithful := booking_faithful
  have updated (change : Delivery → Delivery) (flow : Flow ε ρ ω σ) :
      Tracks flow [] ((reach setup index).update change flow) := .still rfl
  apply overheard_of_changes
  apply Delivery.request_changes
  · exact fun change _ => overhear_changes (updated change)
  · exact fun bytes => overhear_changes (faithful.chunk setup index bytes)
  · exact fun error => overhear_changes (faithful.transportFailed setup index error)
  · exact overhear_changes (faithful.transportEnded setup index)
  · exact overhear_changes (sourceStop_tracks setup index)

theorem drawChunk_tracks (setup : Setup ε ω σ ρ) (flow : Flow ε ρ ω σ) :
    Tracks flow (drawCalls setup flow) (drawChunk setup flow) := by
  unfold drawCalls drawChunk
  cases flow.attachment with
  | none => exact .nothing _
  | some index =>
      dsimp only
      generalize (flow.transport? index).map Transport.outlet = outlet
      match outlet with
      | some (.pull delivery source) =>
          -- without its calls, the delivery that is overheard is the one that is made
          have shown := (overheard_shows setup index).request 1 source (flow, [])
          obtain ⟨calls, heard, tracks⟩ := delivery_overheard setup index source (flow, [])
          dsimp only at shown heard ⊢
          rw [shown, heard, List.nil_append]
          exact tracks.onward rfl
      | some (.manual requested cancelled) => exact bookChunk_tracks flow
      | none => exact bookChunk_tracks flow

theorem Service.faithful (service : Service ε ρ ω σ) : (service.tracer setup).Faithful := by
  induction service with
  | notes => exact booking_faithful
  | pulls => exact tracing_faithful (drawChunk_tracks setup)
  | acts meanwhile reply ih =>
      refine tracing_faithful fun flow => ?_
      exact (bookChunk_tracks flow).append (.foldCalls (ih.act setup) (reply flow) _)

/-! ### Runs -/

theorem Tracer.Faithful.perform {tracer : Tracer ε ρ ω σ} (faithful : tracer.Faithful)
    (setup : Setup ε ω σ ρ) (flow : Flow ε ρ ω σ) (deed : Deed ρ σ) :
    Tracks flow (tracer.perform setup flow deed) (Flow.perform setup tracer.toAsk flow deed) := by
  cases deed with
  | act event => exact faithful.act setup flow event
  | turn change => exact .still rfl

theorem consume_of_messages {ask : Ask ε ρ ω σ} {index : Nat} {routed : Bool}
    {pending bytes rest : Bytes} {messages : List Message} {flow dealt : Flow ε ρ ω σ}
    (running : flow.stage = .running)
    (found : Frame.messages setup.limits (pending ++ bytes) = (messages, .ok rest))
    (accepted : Fed.walk (deal setup ask) (arriving index routed bytes flow) messages =
      (dealt, .ok ())) :
    consume setup ask index routed pending bytes flow =
      finishChunk ask (dealt.keepPending index routed (some rest)) := by
  have fed : Fed.decodeAll setup.limits .decode (deal setup ask)
      (arriving index routed bytes flow) (pending ++ bytes) = ⟨dealt, .ok (), rest⟩ :=
    Fed.decodeAll_of_messages found accepted
  unfold arriving at fed
  unfold consume
  rw [if_neg (not_isDone running)]
  dsimp only
  rw [fed]

theorem Tracer.consume_of_messages {tracer : Tracer ε ρ ω σ} {index : Nat} {routed : Bool}
    {pending bytes rest : Bytes} {messages : List Message} {flow dealt : Flow ε ρ ω σ}
    (running : flow.stage = .running)
    (found : Frame.messages setup.limits (pending ++ bytes) = (messages, .ok rest))
    (accepted : Fed.walk (Flow.deal setup tracer.toAsk) (arriving index routed bytes flow)
      messages = (dealt, .ok ())) :
    tracer.consume setup index routed pending bytes flow =
      ⟨.arrived index bytes, arriving index routed bytes flow⟩ ::
          tracer.walk setup messages (arriving index routed bytes flow) ++
        tracer.finishChunk (dealt.keepPending index routed (some rest)) := by
  have fed : Fed.decodeAll setup.limits .decode (Flow.deal setup tracer.toAsk)
      (arriving index routed bytes flow) (pending ++ bytes) = ⟨dealt, .ok (), rest⟩ :=
    Fed.decodeAll_of_messages found accepted
  unfold Tracer.consume
  rw [if_neg (not_isDone running)]
  dsimp only
  rw [fed, found]

/-- In every run, however its transports serve requests, the outstanding demand is what the counter
makes of the calls from zero, at the end and after every single call, and is never more than has
been asked for. The log tells of just those calls that come to something, and they are enough.
While what is asked for does not exceed the bound, and no event is dispatched in want of demand,
what is left is the difference. -/
theorem demand_counts_calls (setup : Setup ε ω σ ρ) (service : Service ε ρ ω σ)
    (transports : List Transport) (interludes : List (List (Event ρ))) (deeds : List (Deed ρ σ)) :
    let tracer := service.tracer setup
    let initial : Flow ε ρ ω σ := { transports, interludes }
    let trace := tracer.performAll setup deeds initial
    let calls := trace.map Moment.call
    let after := deeds.foldl (perform setup tracer.toAsk) initial
    let told := after.log.reverse.filterMap Entry.call?
    after.counter = Counter.after {} calls ∧
      (∀ earlier moment later, trace = earlier ++ moment :: later →
        let soFar := (earlier ++ [moment]).map Moment.call
        moment.flow.counter = Counter.after {} soFar ∧
          moment.flow.demand.outstanding ≤ Counter.asked {} soFar) ∧
      told = Counter.logged {} calls ∧
      after.demand.outstanding = (Counter.after {} told).outstanding ∧
      (Counter.asked {} calls ≤ mostDemand → Counter.InTurn {} calls →
        after.demand.outstanding + Counter.dispatched {} calls = Counter.asked {} calls) := by
  intro tracer initial trace calls after told
  have faithful : tracer.Faithful := service.faithful
  have tracked : Tracks initial trace after := .foldCalls (faithful.perform setup) deeds initial
  have counted : after.counter = Counter.after {} calls := tracked.counter
  have logged : told = Counter.logged {} calls := by
    -- the log has the latest entry first
    have latest : after.log.filterMap Entry.call? = (Counter.logged {} calls).reverse ++ [] :=
      tracked.logged
    rw [List.append_nil] at latest
    rw [← List.reverse_reverse (Counter.logged {} calls), ← latest, ← List.filterMap_reverse]
  refine ⟨counted, fun earlier moment later parts => ?_, logged, ?_, fun few inTurn => ?_⟩
  · let soFar := (earlier ++ [moment]).map Moment.call
    have now : moment.flow.counter = Counter.after {} soFar := tracked.always parts
    have most := Counter.outstanding_after_le {} soFar
    rw [← now, Nat.zero_add] at most
    exact ⟨now, most⟩
  · have enough : Counter.after {} told = (Counter.after {} calls).unended := by
      rw [logged]
      exact Counter.after_logged {} calls
    rw [enough, ← counted]
    rfl
  · have fits : (0 : Nat) + Counter.asked {} calls ≤ mostDemand := by rwa [Nat.zero_add]
    have balance := Counter.outstanding_after fits inTurn
    rwa [← counted, Nat.zero_add] at balance

private def thrifty : Setup String Nat Nat where
  readEvent := fun _ _ => .ok "event"
  subscribers := fun _ => Plan.eventSubscriber { onSubscribe := some 3 }
  handler := { onStream := [0], result := fun given => .ok given.length }

private def tickPair : Bytes := tickFrame ++ tickFrame

private def spending : List (Deed String Nat) :=
  [.act (.attach true 0), .act (.push 0 tickPair), .act (.request 0), .act .cancel,
    .act (.request 4)]

private def noting : Tracer String String Nat Nat := Service.notes.tracer thrifty

private def unattached : Flow String String Nat Nat := { transports := [⟨.idle, none⟩] }

private def joined : Flow String String Nat Nat :=
  act thrifty noting.toAsk unattached (.attach true 0)

private def spent : Flow String String Nat Nat :=
  (Fed.walk (deal thrifty noting.toAsk) (arriving 0 true tickPair joined) [tick, tick]).1

private theorem tickPair_accepted :
    Fed.walk (deal thrifty noting.toAsk) (arriving 0 true tickPair joined) [tick, tick] =
      (spent, .ok ()) := rfl

private theorem act_tickPair :
    act thrifty noting.toAsk joined (.push 0 tickPair) =
      finishChunk noting.toAsk (spent.keepPending 0 true (some [])) := by
  have consumed : act thrifty noting.toAsk joined (.push 0 tickPair) =
      consume thrifty noting.toAsk 0 true [] tickPair joined := rfl
  exact consumed.trans (consume_of_messages rfl messages_twoTicks tickPair_accepted)

private theorem calls_tickPair :
    (noting.act thrifty joined (.push 0 tickPair)).map Moment.call =
      [.arrived 0 tickPair, .dispatched .event, .dispatched .event] := by
  have consumed : noting.act thrifty joined (.push 0 tickPair) =
      noting.consume thrifty 0 true [] tickPair joined := rfl
  rw [consumed, Tracer.consume_of_messages rfl messages_twoTicks tickPair_accepted]
  rfl

private theorem calls_spending :
    (noting.performAll thrifty spending unattached).map Moment.call =
      [.requested 3, .arrived 0 tickPair, .dispatched .event, .dispatched .event, .requested 0,
        .cancelled, .requested 4] := by
  have parts : noting.performAll thrifty spending unattached =
      noting.act thrifty unattached (.attach true 0) ++
        (noting.act thrifty joined (.push 0 tickPair) ++
          foldCalls (perform thrifty noting.toAsk) (noting.perform thrifty) (spending.drop 2)
            (act thrifty noting.toAsk joined (.push 0 tickPair))) := rfl
  rw [parts, List.map_append, List.map_append, calls_tickPair, act_tickPair]
  rfl

/-- Of three events two have come when the subscription is cancelled: one is left, and a request
for four more does not count. -/
theorem demand_counts_calls_spending :
    let after := spending.foldl (perform thrifty noting.toAsk) unattached
    after.demand.outstanding + 2 = 3 ∧ after.cancelled = true ∧ after.stage.isDone = false ∧
      after.log.reverse.filterMap Entry.call? =
        [.requested 3, .arrived 0 tickPair, .dispatched .event, .dispatched .event,
          .cancelled] := by
  obtain ⟨counted, _, told, _, balance⟩ :=
    demand_counts_calls thrifty Service.notes [⟨.idle, none⟩] [] spending
  have calls := calls_spending
  unfold noting unattached at calls
  rw [calls] at counted told balance
  exact ⟨balance (by decide) (by decide), congrArg Counter.cancelled counted,
    congrArg Counter.ended counted, told⟩

end FramedEvents.Flow
