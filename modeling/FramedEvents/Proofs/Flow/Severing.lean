/-
A failure in a chunk cuts the stream there.

The messages of a chunk are dealt with one after the other, as long as the stream is
running. The first one that fails it is where it is cut: the events in front have been
handed over, what is behind it is not looked at, and the cause is kept. The transport is
told to stop, unless the subscriber has told it before, and whatever it still brings is
dropped.
-/

import FramedEvents.Flow.Plan
import FramedEvents.Proofs.Flow.Execution
import FramedEvents.Proofs.Flow.Handing

namespace FramedEvents.Flow

variable {ε ρ ω σ : Type} {setup : Setup ε ω σ ρ} {ask : Ask ε ρ ω σ}
  {flow after broken final : Flow ε ρ ω σ} {position : Nat} {cause : FlowError} {handed : Option ε}

/-! ### Failing messages -/

/-- How a message fails a stream: the cause, the event that has been handed over
nevertheless, and the stream when the failure comes up. -/
inductive Failing (setup : Setup ε ω σ ρ) (ask : Ask ε ρ ω σ) (flow : Flow ε ρ ω σ)
    (message : Message) : FlowError → Option ε → Flow ε ρ ω σ → Prop where
  | reported (code text : String) (kind : message.kind = .error code text) :
      Failing setup ask flow message (.protocol code text) none
        (record (.looked (.error code text)) flow)
  | untyped (kind : message.kind = .missingEventType) :
      Failing setup ask flow message .missingEventType none (record (.looked .missingEventType) flow)
  | unreadable (reason : String) (kind : message.kind = .event)
      (unread : setup.readEvent (EventMessage.ofMessage message) setup.attributes = .error reason) :
      Failing setup ask flow message (.client reason) none flow.charged
  | unwanted (event : ε) (kind : message.kind = .event)
      (read : setup.readEvent (EventMessage.ofMessage message) setup.attributes = .ok event)
      (nobody : flow.subscriber = none) :
      Failing setup ask flow message .noSubscriber none flow.charged
  | refused (event : ε) (reason : String) (kind : message.kind = .event)
      (read : setup.readEvent (EventMessage.ofMessage message) setup.attributes = .ok event)
      (bound : flow.subscriber.isSome = true)
      (answer : (signal setup ask (.next event) flow.charged).2 = some reason) :
      Failing setup ask flow message (.client reason) (some event)
        (signal setup ask (.next event) flow.charged).1

theorem Failing.deal {message : Message}
    (failing : Failing setup ask flow message cause handed after)
    (running : flow.stage = .running) :
    deal setup ask flow message = (after, .error cause) := by
  rw [deal_of_running running]
  cases failing with
  | reported code text kind => rw [kind]
  | untyped kind => rw [kind]
  | unreadable reason kind unread =>
      rw [kind]
      exact handEvent_unreadable unread
  | unwanted event kind read nobody =>
      rw [kind]
      exact handEvent_unwanted read nobody
  | refused event reason kind read bound answer =>
      rw [kind]
      dsimp only
      rw [handEvent_handed read bound, answer]
      rfl

/-- An event is handed over to a subscriber that does not refuse it, or it fails the stream. -/
theorem handEvent_failing {message : Message} (kind : message.kind = .event)
    (failed : handEvent setup ask message (record (.looked .event) flow) = (after, .error cause)) :
    ∃ handed, Failing setup ask flow message cause handed after := by
  cases read : setup.readEvent (EventMessage.ofMessage message) setup.attributes with
  | error reason =>
      rw [handEvent_unreadable read] at failed
      cases failed
      exact ⟨none, .unreadable reason kind read⟩
  | ok event =>
      cases bound : flow.subscriber with
      | none =>
          rw [handEvent_unwanted read bound] at failed
          cases failed
          exact ⟨none, .unwanted event kind read bound⟩
      | some holder =>
          rw [handEvent_handed read (isSome_of_eq bound)] at failed
          obtain ⟨rfl, refusal⟩ := Prod.mk.inj failed
          cases answer : (signal setup ask (.next event) flow.charged).2 with
          | none =>
              rw [answer] at refusal
              cases refusal
          | some reason =>
              rw [answer] at refusal
              cases refusal
              exact ⟨some event, .refused event reason kind read (isSome_of_eq bound) answer⟩

theorem deal_eq_error_iff (running : flow.stage = .running) {message : Message} :
    deal setup ask flow message = (after, .error cause) ↔
      ∃ handed, Failing setup ask flow message cause handed after := by
  constructor
  · intro failed
    rw [deal_of_running running] at failed
    cases kind : message.kind with
    | initialResponse =>
        rw [kind] at failed
        cases failed
    | missingEventType =>
        rw [kind] at failed
        cases failed
        exact ⟨none, .untyped kind⟩
    | error code text =>
        rw [kind] at failed
        cases failed
        exact ⟨none, .reported code text kind⟩
    | other type =>
        rw [kind] at failed
        cases failed
    | event =>
        rw [kind] at failed
        exact handEvent_failing kind failed
  · rintro ⟨handed, failing⟩
    exact failing.deal running

/-! ### Where a chunk is cut -/

/-- The first failure in a buffer: the messages in front of this position are accepted,
and then either the next one fails the stream or there is no next one but a faulty frame. -/
inductive Cut (setup : Setup ε ω σ ρ) (ask : Ask ε ρ ω σ) (flow : Flow ε ρ ω σ) (buffer : Bytes) :
    Nat → FlowError → Option ε → Flow ε ρ ω σ → Prop where
  | damaged {broken : Flow ε ρ ω σ} (error : FrameError)
      (stop : (Frame.messages setup.limits buffer).2 = .error error)
      (dealt : Fed.walk (deal setup ask) flow (Frame.messages setup.limits buffer).1 =
        (broken, .ok ())) :
      Cut setup ask flow buffer (Frame.messages setup.limits buffer).1.length (.decode error) none
        broken
  | failing {reached broken : Flow ε ρ ω σ} {cause : FlowError} {handed : Option ε}
      (position : Nat) (message : Message)
      (found : (Frame.messages setup.limits buffer).1[position]? = some message)
      (dealt : Fed.walk (deal setup ask) flow
        ((Frame.messages setup.limits buffer).1.take position) = (reached, .ok ()))
      (running : reached.stage = .running)
      (fails : Failing setup ask reached message cause handed broken) :
      Cut setup ask flow buffer position cause handed broken

theorem Cut.decodeAll {buffer : Bytes}
    (cut : Cut setup ask flow buffer position cause handed broken) :
    (Fed.decodeAll setup.limits .decode (deal setup ask) flow buffer).state = broken ∧
      (Fed.decodeAll setup.limits .decode (deal setup ask) flow buffer).outcome = .error cause := by
  obtain ⟨state, outcome⟩ := @Fed.decodeAll_eq_walk _ _ setup.limits FlowError.decode
    (deal setup ask) flow buffer
  rw [state, outcome]
  cases cut with
  | damaged error stop dealt =>
      rw [dealt, stop]
      exact ⟨rfl, rfl⟩
  | failing position message found dealt running fails =>
      obtain ⟨within, here⟩ := List.getElem?_eq_some_iff.mp found
      have parts : (Frame.messages setup.limits buffer).1 =
          (Frame.messages setup.limits buffer).1.take position ++
            message :: (Frame.messages setup.limits buffer).1.drop (position + 1) := by
        rw [← here, ← List.drop_eq_getElem_cons within, List.take_append_drop]
      have walked : Fed.walk (deal setup ask) flow (Frame.messages setup.limits buffer).1 =
          (broken, .error cause) := by
        rw [parts, Fed.walk_append, dealt]
        dsimp only
        rw [Fed.walk, fails.deal running]
      rw [walked]
      exact ⟨rfl, rfl⟩

theorem exists_failing {messages : List Message}
    (failed : Fed.walk (deal setup ask) flow messages = (broken, .error cause)) :
    ∃ position message reached handed, messages[position]? = some message ∧
      Fed.walk (deal setup ask) flow (messages.take position) = (reached, .ok ()) ∧
      reached.stage = .running ∧ Failing setup ask reached message cause handed broken := by
  induction messages generalizing flow with
  | nil => cases failed
  | cons message later ih =>
      rw [Fed.walk] at failed
      cases dealt : deal setup ask flow message with
      | mk next verdict =>
          rw [dealt] at failed
          cases verdict with
          | error first =>
              cases failed
              rcases running_or_isDone flow with running | done
              · obtain ⟨handed, failing⟩ := (deal_eq_error_iff running).mp dealt
                exact ⟨0, message, flow, handed, rfl, rfl, running, failing⟩
              · cases (deal_of_isDone done message).symm.trans dealt
          | ok =>
              obtain ⟨position, culprit, reached, handed, found, walked, rest⟩ := ih failed
              refine ⟨position + 1, culprit, reached, handed, found, ?_, rest⟩
              rw [List.take_succ_cons, Fed.walk, dealt]
              exact walked

theorem exists_cut_iff {buffer : Bytes} :
    (∃ position handed, Cut setup ask flow buffer position cause handed broken) ↔
      (Fed.decodeAll setup.limits .decode (deal setup ask) flow buffer).state = broken ∧
        (Fed.decodeAll setup.limits .decode (deal setup ask) flow buffer).outcome = .error cause := by
  constructor
  · rintro ⟨position, handed, cut⟩
    exact cut.decodeAll
  · obtain ⟨state, outcome⟩ := @Fed.decodeAll_eq_walk _ _ setup.limits FlowError.decode
      (deal setup ask) flow buffer
    rw [state, outcome]
    rintro ⟨rfl, failed⟩
    cases walked : Fed.walk (deal setup ask) flow (Frame.messages setup.limits buffer).1 with
    | mk reached verdict =>
        rw [walked] at failed
        cases verdict with
        | error first =>
            cases failed
            obtain ⟨position, message, before, handed, found, dealt, running, failing⟩ :=
              exists_failing walked
            exact ⟨position, handed, .failing position message found dealt running failing⟩
        | ok =>
            cases stop : (Frame.messages setup.limits buffer).2 with
            | error error =>
                rw [stop] at failed
                cases failed
                exact ⟨_, none, .damaged error stop walked⟩
            | ok left =>
                rw [stop] at failed
                cases failed

theorem Failing.hands {message : Message} (keeps : ask.Keeps (Hushed setup))
    (running : flow.stage = .running)
    (failing : Failing setup ask flow message cause handed broken) :
    Hands setup handed.toList flow broken := by
  have looked : Hands setup [] flow flow.charged := .of_look (.served running) rfl
  cases failing with
  | reported code text kind => exact .of_look (.looked running (.error code text) (by simp)) rfl
  | untyped kind => exact .of_look (.looked running .missingEventType (by simp)) rfl
  | unreadable reason kind unread => exact looked
  | unwanted event kind read nobody => exact looked
  | refused event reason kind read bound answer =>
      have going : flow.charged.stage = .running := running
      exact looked.trans (signal_hands keeps going event bound)

/-- In front of the cut all events have been handed over, and at the cut at most one that
has been refused. -/
theorem Cut.hands {buffer : Bytes} (keeps : ask.Keeps (Hushed setup))
    (cut : Cut setup ask flow buffer position cause handed broken)
    (running : broken.stage = .running) :
    Hands setup
      (((Frame.messages setup.limits buffer).1.take position).filterMap setup.event? ++
        handed.toList) flow broken := by
  cases cut with
  | damaged error stop dealt =>
      rw [List.take_length, Option.toList_none, List.append_nil]
      exact walk_hands keeps _ dealt running
  | failing position message found dealt going fails =>
      exact (walk_hands keeps _ dealt going).trans (fails.hands keeps going)

/-! ### After the failure -/

/-- The stream has been cut, and told its transport to stop. -/
structure Severed (cause : FlowError) (broken final : Flow ε ρ ω σ) : Prop where
  stage : final.stage = .failed cause
  told : .failureReported cause ∈ final.log
  silent : Silent broken final
  stopped : final.cancelled = true

theorem reported_silent (keeps : ask.Keeps (Steps setup)) (cause : FlowError)
    (flow : Flow ε ρ ω σ) :
    Silent flow (reported setup ask (.failed cause) flow) ∧
      (reported setup ask (.failed cause) flow).stage = .failed cause := by
  unfold reported
  rcases nobody_or_holder flow with nobody | ⟨number, state, holder⟩
  · rw [signal_of_nobody _ { flow with stage := .failed cause } nobody]
    exact ⟨.of_note rfl rfl, rfl⟩
  · have told := signal_keeps (steps_law setup).toLaw keeps (.failed cause)
      { flow with stage := .failed cause } holder
    have quiet := told.quiet_of_isDone rfl
    have informing : Silent flow (informed setup (.failed cause) number state
        { flow with stage := .failed cause }) := .of_note rfl rfl
    exact ⟨(informing.trans quiet.silent).trans (.of_note rfl rfl), quiet.stage⟩

theorem fail_silent (keeps : ask.Keeps (Steps setup)) (cause : FlowError)
    (running : flow.stage = .running) :
    Silent flow (fail setup ask cause flow) ∧ (fail setup ask cause flow).stage = .failed cause ∧
      .failureReported cause ∈ (fail setup ask cause flow).log := by
  rw [fail_of_running running]
  obtain ⟨silent, stage⟩ := reported_silent keeps cause flow
  have others := keeps.others (reported setup ask (.failed cause) flow)
  have quiet := others.quiet_of_isDone (by rw [stage]; rfl)
  refine ⟨silent.trans quiet.silent, quiet.stage.trans stage, ?_⟩
  exact others.grows.subset List.mem_cons_self

theorem Cut.severed (keeps : ask.Keeps (Steps setup)) {index : Nat} {routed : Bool}
    {pending bytes : Bytes}
    (consumer : (flow.transport? index).bind Transport.consumer =
      some (.stream routed (some pending)))
    (cut : Cut setup ask (arriving index routed bytes flow) (pending ++ bytes) position cause handed
      broken)
    (running : broken.stage = .running) :
    Severed cause broken (chunk setup ask index bytes flow) := by
  have law : WholeLaw setup (Steps setup : Flow ε ρ ω σ → _) := steps_law setup
  obtain ⟨state, outcome⟩ := cut.decodeAll
  have decoded := decodeAll_keeps law keeps (arriving index routed bytes flow) (pending ++ bytes)
  rw [state] at decoded
  have going : flow.stage = .running := decoded.running running
  have feeding : Feeds index broken := decoded.feeds ((Feeds.of_consumer consumer).kept routed none)
  obtain ⟨left, same⟩ : ∃ left, chunk setup ask index bytes flow =
      stop (fail setup ask cause (broken.keepPending index routed (some left))) := by
    unfold chunk
    rw [consumer]
    exact consume_of_error going state outcome
  -- That the bytes behind the cut are put back is no matter of the log.
  have kept := feeding.kept routed (some left)
  have unended : (broken.keepPending index routed (some left)).stage = .running := running
  obtain ⟨silent, stage, told⟩ := fail_silent keeps cause unended
  have failed := fail_keeps law.toLaw keeps cause (broken.keepPending index routed (some left))
  have stopping := stop_keeps law.toLaw (.inr ⟨index, failed.feeds kept⟩)
  have quiet := stopping.quiet_of_isDone (by rw [stage]; rfl)
  rw [same]
  refine ⟨quiet.stage.trans stage, stopping.grows.subset told, ?_, stop_cancelled _⟩
  exact silent.trans quiet.silent

theorem Severed.steps (severed : Severed cause broken flow) (steps : Steps setup flow after) :
    Severed cause broken after := by
  have quiet := steps.quiet_of_isDone (by rw [severed.stage]; rfl)
  exact ⟨quiet.stage.trans severed.stage, steps.grows.subset severed.told,
    severed.silent.trans quiet.silent, quiet.cancelled severed.stopped⟩

/-- The first failure in a chunk, whatever transport it comes from and whatever else has
been done before, cuts the stream there: the events in front of it are handed over, and
unless another chunk arrives in between, no others but the one that has been refused. The
cause is kept, and from then on nothing goes through the stream, so no chunk is asked
for and every chunk that still arrives is dropped. The transport of the stream is told to
stop once, now or when the subscriber has cancelled before, and this is what it knows. -/
theorem cut_severs {forChunk : Flow ε ρ ω σ → Flow ε ρ ω σ} (serving : Serving setup forChunk)
    (depth : Flow ε ρ ω σ → Nat) {transports : List Transport}
    (unused : ∀ transport ∈ transports, transport.consumer.map Consumer.isStream ≠ some true)
    {interludes : List (List (Event ρ))}
    (before : Steps setup { transports := transports, interludes := interludes } flow)
    {index : Nat} {routed : Bool} {pending bytes : Bytes}
    (consumer : (flow.transport? index).bind Transport.consumer =
      some (.stream routed (some pending)))
    (cut : Cut setup (acting setup forChunk depth) (arriving index routed bytes flow)
      (pending ++ bytes) position cause handed broken)
    (running : broken.stage = .running)
    (later : Steps setup (chunk setup (acting setup forChunk depth) index bytes flow) final) :
    let own := ((Frame.messages setup.limits (pending ++ bytes)).1.take position).filterMap
      setup.event? ++ handed.toList
    final.stage = .failed cause ∧ .failureReported cause ∈ final.log ∧
      (∃ given, final.delivered = flow.delivered ++ given ∧ own.Sublist given ∧
        (arrivals final.log = arrivals flow.log + 1 → given = own)) ∧
      Silent broken final ∧ requests final.log = requests broken.log ∧
      (∃ first, final.attachment = some first ∧ cancellations first final.log = 1 ∧
        ∃ unstopped stopped, transports[first]? = some unstopped ∧
          final.transport? first = some stopped ∧
          stopped.outlet.stops = unstopped.outlet.stops.add 1) ∧
      ∀ ask other more, chunk setup ask other more final = final := by
  intro own
  have keeps : (acting setup forChunk depth).Keeps (Hushed setup) := acting_keeps serving depth
  have stepping := keeps.mono Hushed.steps
  have severed : Severed cause broken final := (cut.severed stepping consumer running).steps later
  obtain ⟨given, delivered, within, exactly⟩ := (cut.hands keeps running).given
  have arrived : (arriving index routed bytes flow).delivered = flow.delivered :=
    delivered_note rfl fun _ _ => by simp
  have one : arrivals (arriving index routed bytes flow).log = arrivals flow.log + 1 :=
    arrivals_cons (.chunkArrived index bytes) flow.log
  have whole := (before.trans (chunk_keeps (steps_law setup) stepping index bytes flow)).trans later
  have wired : Wired final := Steps.wired whole (Wired.initial interludes unused)
  have notified : Notified transports final :=
    Steps.notified whole (Notified.initial transports interludes)
  refine ⟨severed.stage, severed.told, ⟨given, ?_, within, ?_⟩, severed.silent,
    severed.silent.requests, ?_, ?_⟩
  · rw [severed.silent.delivered, delivered, arrived]
  · rw [severed.silent.arrivals, ← one]
    exact exactly
  · cases held : final.attachment with
    | none =>
        obtain ⟨_, wanted, _⟩ := wired.loose held
        cases severed.stopped.symm.trans wanted
    | some first =>
        obtain ⟨feeds, told⟩ := wired.held first held
        rw [severed.stopped] at told
        obtain ⟨unstopped, stopped, there, here, knows⟩ := notified.stops feeds
        rw [told] at knows
        exact ⟨first, rfl, told, unstopped, stopped, there, here, knows⟩
  · intro ask other more
    exact chunk_of_isDone setup ask other more (by rw [severed.stage]; rfl)

private def choosy : Setup String Nat Nat where
  readEvent := fun _ _ => .ok "event"
  subscribers := fun _ =>
    Plan.eventSubscriber { onSubscribe := some 3, cancelAt := some 1, refuseAt := some 2 }
  handler := { onStream := [0], result := fun given => .ok given.length }

private def awaiting : Flow String String Nat Nat :=
  run choosy { transports := [⟨.idle, none⟩] } [.attach false 0]

private def threeTicks : Bytes := tickFrame ++ (tickFrame ++ tickFrame)

private def refusing : Flow String String Nat Nat :=
  (signal choosy (Flow.ask choosy) (.next "event")
    (deal choosy (Flow.ask choosy) (arriving 0 false threeTicks awaiting) tick).1.charged).1

private def refused : Flow String String Nat Nat :=
  run choosy (chunk choosy (Flow.ask choosy) 0 threeTicks awaiting) [.request 1, .push 0 tickFrame]

/-- Of three events the second is refused: the third is not handed over, nor what comes in
another chunk, and the transport is told to stop once, at the first. -/
theorem cut_severs_refused :
    refused.stage = .failed (.client "subscriber rejected event 2") ∧
      refused.delivered = ["event", "event"] ∧ cancellations 0 refused.log = 1 ∧
      (refused.transport? 0).map (fun transport => transport.outlet.stops) = some (.counted 1) := by
  have found : Frame.messages choosy.limits threeTicks = ([tick, tick, tick], .ok []) := by
    have first : Frame.messages choosy.limits threeTicks = _ := messages_tickFrame _
    rw [first, messages_twoTicks]
  have cut : Cut choosy (acting choosy (drawChunk choosy) fun flow => flow.interludes.length)
      (arriving 0 false threeTicks awaiting) ([] ++ threeTicks) 1
      (.client "subscriber rejected event 2") (some "event") refusing := by
    apply Cut.failing 1 tick
    · rw [List.nil_append, found]
      rfl
    · rw [List.nil_append, found]
      rfl
    · rfl
    · exact .refused "event" _ rfl rfl rfl rfl
  have unused : ∀ transport ∈ [(⟨.idle, none⟩ : Transport)],
      transport.consumer.map Consumer.isStream ≠ some true := by decide
  have later : Steps choosy (chunk choosy (Flow.ask choosy) 0 threeTicks awaiting) refused :=
    run_steps _ [.request 1, .push 0 tickFrame]
  obtain ⟨stage, _, ⟨given, delivered, _, exactly⟩, silent, _,
    ⟨first, held, told, unstopped, stopped, there, here, knows⟩, _⟩ :=
    cut_severs .pulls (fun flow => flow.interludes.length) unused (run_steps _ [.attach false 0])
      rfl cut rfl later
  have alone : arrivals refused.log = arrivals awaiting.log + 1 := silent.arrivals
  refine ⟨stage, ?_, ?_⟩
  · rw [delivered, exactly alone, List.nil_append, found]
    rfl
  · have attached : refused.attachment = some 0 := by
      have chunked := chunk_keeps (steps_law choosy)
        ((acting_keeps .pulls fun flow => flow.interludes.length).mono Hushed.steps) 0 threeTicks
        awaiting
      exact Steps.attachment (chunked.trans later) rfl
    obtain rfl : 0 = first := Option.some.inj (attached.symm.trans held)
    obtain rfl : ⟨.idle, none⟩ = unstopped := Option.some.inj there
    rw [here]
    exact ⟨told, congrArg some knows⟩

end FramedEvents.Flow
