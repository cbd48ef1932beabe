/-
A stream and its listener.

A subscriber that never cancels, and that has asked for enough, cannot change what
it is going to be given: its requests add demand, and demand is all that they
change as long as a chunk is due. So while chunks are delivered the state of a
stream is told by its listener: what has been called, what the subscriber's state
is, and whether the response is still held. The listener is carried through the
messages, and to the end of the stream.
-/

import FramedEvents.Proofs.Flow.Reference

namespace FramedEvents

/-- A subscriber that makes requests at most. -/
def EventSubscriber.NeverCancels {ε σ : Type} (subscriber : EventSubscriber ε σ) : Prop :=
  ∀ signal state, .cancel ∉ (subscriber.react signal state).controls

namespace Flow

variable {ε ρ ω σ : Type} {setup : Setup ε ω σ ρ} {ask : Ask ε ρ ω σ}

/-! ### Requests that ask for no chunk -/

def Resting (flow : Flow ε ρ ω σ) : Prop := flow.chunkDue = true ∨ flow.stage.isDone = true

def Ask.Alone (ask : Ask ε ρ ω σ) : Prop := ∀ flow, flow.interludes = [] → ask.others flow = flow

theorem asking_alone (forChunk : Flow ε ρ ω σ → Flow ε ρ ω σ) : (asking setup forChunk).Alone := by
  intro flow none
  unfold asking
  dsimp only
  rw [none]
  rfl

/-- Nothing has been done but demand added and the log written, without a call. -/
def Demands (flow after : Flow ε ρ ω σ) : Prop :=
  ∃ demand log, after = { flow with demand := demand, log := log } ∧
    flow.demand.outstanding ≤ demand.outstanding ∧ after.calls = flow.calls

theorem Demands.refl (flow : Flow ε ρ ω σ) : Demands flow flow :=
  ⟨flow.demand, flow.log, rfl, Nat.le_refl _, rfl⟩

theorem Demands.trans {flow middle after : Flow ε ρ ω σ} (first : Demands flow middle)
    (second : Demands middle after) : Demands flow after := by
  obtain ⟨demand, log, same, more, calls⟩ := first
  obtain ⟨demandToo, logToo, sameToo, moreToo, callsToo⟩ := second
  subst same
  refine ⟨demandToo, logToo, sameToo, Nat.le_trans more moreToo, callsToo.trans calls⟩

theorem Demands.resting {flow after : Flow ε ρ ω σ} (demands : Demands flow after)
    (resting : Resting flow) : Resting after := by
  obtain ⟨demand, log, same, more, calls⟩ := demands
  subst same
  exact resting

theorem Demands.quiet {flow after : Flow ε ρ ω σ} (demands : Demands flow after)
    (quiet : flow.interludes = []) : after.interludes = [] := by
  obtain ⟨demand, log, same, _⟩ := demands
  exact (congrArg Flow.interludes same).trans quiet

theorem Demands.note {entry : Entry ε ρ} (other : entry.isCall = false) (flow : Flow ε ρ ω σ) :
    Demands flow (record entry flow) :=
  ⟨flow.demand, entry :: flow.log, rfl, Nat.le_refl _, calls_record_other other flow⟩

theorem outstanding_le_add (demand : Demand) (count : Nat) :
    demand.outstanding ≤ (demand.add count).outstanding := by
  have bounded := demand.le_most
  rw [Demand.outstanding_add]
  omega

theorem askNext_of_resting {flow : Flow ε ρ ω σ} (resting : Resting flow) :
    askNext ask flow = flow := by
  unfold askNext
  rw [if_pos]
  rcases resting with due | done
  · rw [due, Bool.or_true]
  · rw [done, Bool.or_true, Bool.true_or, Bool.true_or]

theorem request_zero (ask : Ask ε ρ ω σ) (flow : Flow ε ρ ω σ) : request ask 0 flow = flow := rfl

theorem request_of_cancelled {flow : Flow ε ρ ω σ} (stopped : flow.cancelled = true)
    (ask : Ask ε ρ ω σ) (count : Nat) : request ask count flow = flow := by
  unfold request
  rw [stopped, Bool.or_true]
  rfl

theorem stop_of_cancelled {flow : Flow ε ρ ω σ} (stopped : flow.cancelled = true) :
    stop flow = flow := by
  unfold stop
  exact if_pos stopped

theorem controls_keep {Kept : Flow ε ρ ω σ → Prop}
    (requested : ∀ flow count, Kept flow → Kept (request ask count flow))
    (stopped : ∀ flow, Kept flow → Kept (stop flow)) {flow : Flow ε ρ ω σ} (kept : Kept flow)
    (controls : List Control) : Kept (controls.foldl (obey ask) flow) := by
  induction controls generalizing flow with
  | nil => exact kept
  | cons control later ih =>
      cases control with
      | request count => exact ih (requested flow count kept)
      | cancel => exact ih (stopped flow kept)

theorem request_demands (count : Nat) {flow : Flow ε ρ ω σ} (resting : Resting flow) :
    Demands flow (request ask count flow) := by
  unfold request
  split
  · exact .refl flow
  · rw [askNext_of_resting]
    · exact ⟨flow.demand.add count, .demanded count :: flow.log, rfl,
        outstanding_le_add flow.demand count, calls_record_other rfl _⟩
    · exact resting

theorem controls_demands (controls : List Control) (willing : .cancel ∉ controls)
    {flow : Flow ε ρ ω σ} (resting : Resting flow) :
    Demands flow (controls.foldl (obey ask) flow) := by
  induction controls generalizing flow with
  | nil => exact .refl flow
  | cons control later ih =>
      have laterWilling : .cancel ∉ later := fun member =>
        willing (List.mem_cons_of_mem _ member)
      cases control with
      | cancel => exact absurd List.mem_cons_self willing
      | request count =>
          have first : Demands flow (request ask count flow) := request_demands count resting
          exact first.trans (ih laterWilling (first.resting resting))

theorem signal_alone (alone : ask.Alone) {flow told : Flow ε ρ ω σ} {number : Nat} {state : σ}
    {given : EventSignal ε} (holder : flow.subscriber = some (number, state))
    (obeyed : ((setup.subscribers number).react given state).controls.foldl (obey ask)
      (informed setup given number state flow) = told)
    (quiet : told.interludes = []) :
    signal setup ask given flow =
      (told, ((setup.subscribers number).react given state).refusal) := by
  subst obeyed
  unfold signal
  rw [holder]
  exact congrArg (·, _) (alone _ quiet)

theorem signal_demands (alone : ask.Alone) {flow : Flow ε ρ ω σ} {number : Nat} {state : σ}
    (given : EventSignal ε) (holder : flow.subscriber = some (number, state))
    (willing : (setup.subscribers number).NeverCancels) (quiet : flow.interludes = [])
    (resting : Resting flow) :
    Demands (informed setup given number state flow) (signal setup ask given flow).1 ∧
      (signal setup ask given flow).2 = ((setup.subscribers number).react given state).refusal := by
  have obeyed : Demands (informed setup given number state flow)
      (((setup.subscribers number).react given state).controls.foldl (obey ask)
        (informed setup given number state flow)) :=
    controls_demands _ (willing given state) resting
  rw [signal_alone alone holder rfl (obeyed.quiet quiet)]
  exact ⟨obeyed, rfl⟩

theorem handlerSubscribe_taken (number : Nat) {flow : Flow ε ρ ω σ}
    (taken : flow.subscriber.isSome = true) :
    handlerSubscribe setup ask flow number = record (.refused number .alreadySubscribed) flow := by
  obtain ⟨holder, held⟩ := Option.isSome_iff_exists.mp taken
  unfold handlerSubscribe subscribe
  rw [held]

/-- Whoever comes after the subscriber is refused, and what one refusal leaves as it is,
all of them leave. -/
theorem handlerSubscribes_taken {Kept : Flow ε ρ ω σ → Prop} {flow : Flow ε ρ ω σ}
    (taken : flow.subscriber.isSome = true) (kept : Kept flow)
    (refused : ∀ flow number, flow.subscriber.isSome = true → Kept flow →
      Kept (record (.refused number .alreadySubscribed) flow))
    (numbers : List Nat) : Kept (numbers.foldl (handlerSubscribe setup ask) flow) := by
  induction numbers generalizing flow with
  | nil => exact kept
  | cons number later ih =>
      rw [List.foldl_cons, handlerSubscribe_taken number taken]
      exact ih taken (refused flow number taken kept)

theorem handlerSubscribes_demands (numbers : List Nat) {flow : Flow ε ρ ω σ}
    (taken : flow.subscriber.isSome = true) :
    Demands flow (numbers.foldl (handlerSubscribe setup ask) flow) :=
  handlerSubscribes_taken taken (.refl flow)
    (fun _ _ _ demands => demands.trans (.note rfl _)) numbers

theorem respond_of_none {flow : Flow ε ρ ω σ} (nothing : flow.response = none) :
    respond setup ask flow = flow := by
  unfold respond
  rw [nothing]

theorem respond_of_some (alone : ask.Alone) {flow : Flow ε ρ ω σ} {response : ρ}
    (held : flow.response = some response) (attached : flow.attachment.isSome = true)
    (taken : flow.subscriber.isSome = true) (quiet : flow.interludes = []) :
    respond setup ask flow = setup.handler.onResponse.foldl (handlerSubscribe setup ask)
      (record (.responded response) { flow with response := none }) := by
  let released := record (.responded response) { flow with response := none }
  have refused : Demands released
      (setup.handler.onResponse.foldl (handlerSubscribe setup ask) released) :=
    handlerSubscribes_demands _ taken
  unfold respond
  rw [held]
  change (if flow.attachment.isSome = true then _ else _) = _
  rw [if_pos attached]
  exact alone _ (refused.quiet quiet)

/-! ### A stream and its listener -/

def streaming (number : Nat) (delivery : Delivery) (source : Source) (pending : Option Bytes)
    (listener : Listener ε ρ σ) (demand : Demand) (log : List (Entry ε ρ)) : Flow ε ρ ω σ :=
  { response := listener.response
    demand := demand
    subscriber := some (number, listener.state)
    attachment := some 0
    chunkDue := true
    transports := [⟨.pull delivery source, some (.stream true pending)⟩]
    log := log }

structure Follows (number : Nat) (delivery : Delivery) (source : Source) (pending : Option Bytes)
    (flow : Flow ε ρ ω σ) (listener : Listener ε ρ σ) : Prop where
  shape : flow = streaming number delivery source pending listener flow.demand flow.log
  calls : flow.calls = listener.calls

variable {number : Nat} {delivery : Delivery} {source : Source} {pending : Option Bytes}
  {flow after : Flow ε ρ ω σ} {listener : Listener ε ρ σ}

theorem Follows.demands (follows : Follows number delivery source pending flow listener)
    (demands : Demands flow after) :
    Follows number delivery source pending after listener ∧
      flow.demand.outstanding ≤ after.demand.outstanding := by
  obtain ⟨demand, log, same, more, calls⟩ := demands
  subst same
  refine ⟨⟨?_, calls.trans follows.calls⟩, more⟩
  rw [follows.shape]
  rfl

theorem Follows.informed (setup : Setup ε ω σ ρ)
    (follows : Follows number delivery source pending flow listener) (given : EventSignal ε) :
    Follows number delivery source pending
      (informed setup given number listener.state flow)
      { listener with
        state := ((setup.subscribers number).react given listener.state).state
        calls := listener.calls ++ [.signalled number given] } := by
  refine ⟨?_, ?_⟩
  · rw [follows.shape]
    rfl
  · rw [calls_informed, follows.calls]

theorem Follows.note (follows : Follows number delivery source pending flow listener)
    {entry : Entry ε ρ} (other : entry.isCall = false) :
    Follows number delivery source pending (record entry flow) listener :=
  (follows.demands (.note other flow)).1

theorem Follows.served (follows : Follows number delivery source pending flow listener) :
    Follows number delivery source pending { flow with demand := flow.demand.serve } listener := by
  refine ⟨?_, follows.calls⟩
  rw [follows.shape]
  rfl

theorem Follows.resting (follows : Follows number delivery source pending flow listener) :
    Resting flow := by
  rw [follows.shape]
  exact .inl rfl

theorem Follows.running (follows : Follows number delivery source pending flow listener) :
    flow.stage = .running := by
  rw [follows.shape]
  rfl

theorem Follows.going (follows : Follows number delivery source pending flow listener) :
    ¬flow.stage.isDone = true := by
  rw [follows.running]
  exact Bool.false_ne_true

theorem Follows.quiet (follows : Follows number delivery source pending flow listener) :
    flow.interludes = [] := by
  rw [follows.shape]
  rfl

theorem Follows.loose (follows : Follows number delivery source pending flow listener) :
    flow.outcome = .pending := by
  rw [follows.shape]
  rfl

theorem Follows.holder (follows : Follows number delivery source pending flow listener) :
    flow.subscriber = some (number, listener.state) := by
  rw [follows.shape]
  rfl

theorem Follows.response (follows : Follows number delivery source pending flow listener) :
    flow.response = listener.response := by
  rw [follows.shape]
  rfl

theorem Follows.attachment (follows : Follows number delivery source pending flow listener) :
    flow.attachment = some 0 := by
  rw [follows.shape]
  rfl

theorem Follows.signal (alone : ask.Alone) (willing : (setup.subscribers number).NeverCancels)
    (follows : Follows number delivery source pending flow listener) (given : EventSignal ε) :
    let reaction := (setup.subscribers number).react given listener.state
    Follows number delivery source pending (signal setup ask given flow).1
        { listener with
          state := reaction.state, calls := listener.calls ++ [.signalled number given] } ∧
      (signal setup ask given flow).2 = reaction.refusal ∧
      flow.demand.outstanding ≤ (signal setup ask given flow).1.demand.outstanding := by
  obtain ⟨demands, refusal⟩ :=
    signal_demands alone given follows.holder willing follows.quiet follows.resting
  have told := (follows.informed setup given).demands demands
  exact ⟨told.1, refusal, told.2⟩

/-! ### Messages -/

theorem respond_hears (setup : Setup ε ω σ ρ) (alone : ask.Alone)
    (follows : Follows number delivery source pending flow listener) {message : Message}
    (kind : message.kind = .initialResponse) :
    ∃ heard, listener.hear setup number message = (heard, .ok ()) ∧
      Follows number delivery source pending (respond setup ask flow) heard ∧
      flow.demand.outstanding ≤ (respond setup ask flow).demand.outstanding := by
  cases held : listener.response with
  | none =>
      refine ⟨listener, ?_, ?_⟩
      · unfold Listener.hear
        rw [kind]
        dsimp only
        rw [held]
      · rw [respond_of_none (follows.response.trans held)]
        exact ⟨follows, Nat.le_refl _⟩
  | some response =>
      let heard : Listener ε ρ σ :=
        { listener with response := none, calls := listener.calls ++ [.responded response] }
      let released := record (.responded response) { flow with response := none }
      have told : Follows number delivery source pending released heard := by
        refine ⟨?_, ?_⟩
        · change record _ { flow with response := none } = _
          rw [follows.shape]
          rfl
        · change released.calls = listener.calls ++ [.responded response]
          rw [calls_record_call rfl]
          exact congrArg (· ++ _) follows.calls
      have taken : flow.subscriber.isSome = true := isSome_of_eq follows.holder
      have refused : Demands released
          (setup.handler.onResponse.foldl (handlerSubscribe setup ask) released) :=
        handlerSubscribes_demands _ taken
      refine ⟨heard, ?_, ?_⟩
      · unfold Listener.hear
        rw [kind]
        dsimp only
        rw [held]
      · rw [respond_of_some alone (follows.response.trans held) (isSome_of_eq follows.attachment)
          taken follows.quiet]
        exact told.demands refused

theorem handEvent_of_read {message : Message} {event : ε} {holder : Nat × σ}
    (read : setup.readEvent (EventMessage.ofMessage message) setup.attributes = .ok event)
    (held : flow.subscriber = some holder) :
    let told := signal setup ask (.next event) { flow with demand := flow.demand.serve }
    handEvent setup ask message flow = (told.1, Listener.verdict told.2) := by
  intro told
  unfold handEvent
  rw [read]
  dsimp only
  split
  · rename_i nobody
    rw [held] at nobody
    cases nobody
  · split
    · rename_i after answered
      have same : told = (after, none) := answered
      rw [same]
      rfl
    · rename_i after reason answered
      have same : told = (after, some reason) := answered
      rw [same]
      rfl

theorem handEvent_hears (alone : ask.Alone) (willing : (setup.subscribers number).NeverCancels)
    (follows : Follows number delivery source pending flow listener) {message : Message}
    (kind : message.kind = .event) :
    ∃ heard, listener.hear setup number message = (heard, (handEvent setup ask message flow).2) ∧
      Follows number delivery source pending (handEvent setup ask message flow).1 heard ∧
      flow.demand.outstanding ≤ (handEvent setup ask message flow).1.demand.outstanding + 1 := by
  have served := follows.served
  have less : flow.demand.outstanding ≤ flow.demand.serve.outstanding + 1 := by
    rw [Demand.outstanding_serve]
    omega
  cases read : setup.readEvent (EventMessage.ofMessage message) setup.attributes with
  | error reason =>
      have refused : handEvent setup ask message flow =
          ({ flow with demand := flow.demand.serve }, .error (.client reason)) := by
        unfold handEvent
        rw [read]
      refine ⟨listener, ?_, ?_⟩
      · unfold Listener.hear
        rw [kind, refused]
        dsimp only
        rw [read]
      · rw [refused]
        exact ⟨served, less⟩
  | ok event =>
      obtain ⟨followed, refusal, more⟩ := served.signal alone willing (.next event)
      rw [handEvent_of_read read follows.holder, refusal]
      refine ⟨_, ?_, followed, Nat.le_trans less (Nat.add_le_add_right more 1)⟩
      unfold Listener.hear
      rw [kind]
      dsimp only
      rw [read]

/-- A message takes away one unit of demand at most, and only if it is an event. -/
theorem deal_hears (alone : ask.Alone) (willing : (setup.subscribers number).NeverCancels)
    (follows : Follows number delivery source pending flow listener) (message : Message) :
    ∃ heard, listener.hear setup number message = (heard, (deal setup ask flow message).2) ∧
      Follows number delivery source pending (deal setup ask flow message).1 heard ∧
      flow.demand.outstanding ≤
        (deal setup ask flow message).1.demand.outstanding + [message].countP Message.isEvent := by
  have noted : Follows number delivery source pending
      (record (.looked message.kind) flow) listener := follows.note rfl
  unfold deal
  rw [if_neg follows.going]
  cases kind : message.kind with
  | initialResponse =>
      rw [kind] at noted
      obtain ⟨heard, same, followed, more⟩ := respond_hears setup alone noted kind
      exact ⟨heard, same, followed, Nat.le_trans more (Nat.le_add_right _ _)⟩
  | event =>
      rw [kind] at noted
      obtain ⟨heard, same, followed, more⟩ := handEvent_hears alone willing noted kind
      have one : [message].countP Message.isEvent = 1 := by
        rw [List.countP_singleton, Message.isEvent, kind]
        rfl
      rw [one]
      exact ⟨heard, same, followed, more⟩
  | missingEventType =>
      rw [kind] at noted
      refine ⟨listener, ?_, noted, Nat.le_add_right _ _⟩
      unfold Listener.hear
      rw [kind]
  | error code text =>
      rw [kind] at noted
      refine ⟨listener, ?_, noted, Nat.le_add_right _ _⟩
      unfold Listener.hear
      rw [kind]
  | other type =>
      rw [kind] at noted
      refine ⟨listener, ?_, noted, Nat.le_add_right _ _⟩
      unfold Listener.hear
      rw [kind]

theorem walk_hears (alone : ask.Alone) (willing : (setup.subscribers number).NeverCancels)
    (messages : List Message) (follows : Follows number delivery source pending flow listener) :
    ∃ heard, Fed.walk (Listener.hear setup number) listener messages =
        (heard, (Fed.walk (deal setup ask) flow messages).2) ∧
      Follows number delivery source pending (Fed.walk (deal setup ask) flow messages).1 heard ∧
      flow.demand.outstanding ≤
        (Fed.walk (deal setup ask) flow messages).1.demand.outstanding +
          messages.countP Message.isEvent := by
  -- The demand that a message leaves pays for those behind it.
  induction messages generalizing flow listener with
  | nil => exact ⟨listener, rfl, follows, Nat.le_refl _⟩
  | cons message later ih =>
      obtain ⟨next, same, followed, more⟩ := deal_hears alone willing follows message
      have counted : (message :: later).countP Message.isEvent =
          [message].countP Message.isEvent + later.countP Message.isEvent :=
        @List.countP_append _ Message.isEvent [message] later
      rw [Fed.walk, Fed.walk, same, counted]
      generalize deal setup ask flow message = dealt at followed more ⊢
      obtain ⟨after, verdict⟩ := dealt
      cases verdict with
      | error cause =>
          refine ⟨next, rfl, followed, ?_⟩
          change flow.demand.outstanding ≤ after.demand.outstanding + _ at more
          change flow.demand.outstanding ≤ after.demand.outstanding + _
          omega
      | ok accepted =>
          obtain ⟨heard, walked, further, rest⟩ := ih followed
          refine ⟨heard, walked, further, ?_⟩
          change flow.demand.outstanding ≤ after.demand.outstanding + _ at more
          change after.demand.outstanding ≤
            (Fed.walk (deal setup ask) after later).1.demand.outstanding + _ at rest
          change flow.demand.outstanding ≤
            (Fed.walk (deal setup ask) after later).1.demand.outstanding + _
          omega

/-! ### The end -/

/-- The stream has ended, with these calls and this outcome. -/
structure Ended (told : List (Entry ε ρ) × Except FlowError ω) (flow : Flow ε ρ ω σ) : Prop where
  calls : flow.calls = told.1
  outcome : flow.outcome = .ready told.2
  done : flow.stage.isDone = true
  quiet : flow.interludes = []
  taken : flow.subscriber.isSome = true

variable {told : List (Entry ε ρ) × Except FlowError ω}

theorem Ended.demands (ended : Ended told flow) (demands : Demands flow after) :
    Ended told after := by
  obtain ⟨demand, log, same, more, calls⟩ := demands
  subst same
  exact ⟨calls.trans ended.calls, ended.outcome, ended.done, ended.quiet, ended.taken⟩

theorem Ended.updateTransport (ended : Ended told flow) (index : Nat)
    (change : Transport → Transport) : Ended told (flow.updateTransport index change) :=
  ⟨ended.calls, ended.outcome, ended.done, ended.quiet, ended.taken⟩

theorem Ended.resting (ended : Ended told flow) : Resting flow := .inr ended.done

theorem Ended.stop (ended : Ended told flow) : Ended told (stop flow) := by
  unfold Flow.stop
  split
  · exact ended
  · have stopped : Ended told (record .stopped { flow with cancelled := true }) :=
      ⟨(calls_record_other rfl _).trans ended.calls, ended.outcome, ended.done, ended.quiet,
        ended.taken⟩
    dsimp only
    split
    · exact stopped
    · exact (stopped.updateTransport _ _).demands (.note rfl _)

theorem delivered_eq_events (flow : Flow ε ρ ω σ) : flow.delivered = events flow.calls := by
  unfold delivered events calls
  rw [List.filterMap_filter]
  congr 1
  funext entry
  cases entry <;> rfl

theorem given_eq_calls (flow : Flow ε ρ ω σ) :
    flow.given = flow.calls.filterMap Entry.given? := by
  unfold given calls
  rw [List.filterMap_filter]
  congr 1
  funext entry
  cases entry <;> rfl

theorem reported_ends (alone : ask.Alone) (willing : (setup.subscribers number).NeverCancels)
    (follows : Follows number delivery source pending flow listener) (final : Stage)
    (result : Except FlowError ω) (done : final.isDone = true) :
    ask.others (reported setup ask final flow) = reported setup ask final flow ∧
      (reported setup ask final flow).transports = flow.transports ∧
      Ended (listener.calls ++ [.signalled number final.signal, final.report], result)
        ((reported setup ask final flow).resolve result) := by
  let ending : Flow ε ρ ω σ := { flow with stage := final }
  have resting : Resting ending := .inr done
  have holder : ending.subscriber = some (number, listener.state) := follows.holder
  obtain ⟨⟨demand, log, same, _, calls⟩, _⟩ :=
    signal_demands alone final.signal holder willing follows.quiet resting
  have shape : reported setup ask final flow = record final.report
      { informed setup final.signal number listener.state ending with
        demand := demand, log := log } := congrArg (record final.report) same
  have quiet : (reported setup ask final flow).interludes = [] :=
    (congrArg Flow.interludes shape).trans follows.quiet
  refine ⟨alone _ quiet, ?_, ?_, ?_, ?_, quiet, ?_⟩
  · rw [shape]
    rfl
  · have before : ending.calls = listener.calls := follows.calls
    change (record final.report (signal setup ask final.signal ending).1).calls = _
    rw [calls_record_call (isCall_report final), calls, calls_informed, before,
      List.append_assoc]
    rfl
  · change (reported setup ask final flow).outcome.resolve result = _
    rw [shape]
    change flow.outcome.resolve result = _
    rw [follows.loose]
    rfl
  · change (reported setup ask final flow).stage.isDone = true
    rw [shape]
    exact done
  · change (reported setup ask final flow).subscriber.isSome = true
    rw [shape]
    rfl

theorem fail_ends (alone : ask.Alone) (willing : (setup.subscribers number).NeverCancels)
    (follows : Follows number delivery source pending flow listener) (cause : FlowError) :
    Ended (listener.finish setup number (some cause)) (fail setup ask cause flow) ∧
      (fail setup ask cause flow).transports = flow.transports := by
  obtain ⟨alike, transports, ended⟩ :=
    reported_ends alone willing follows (.failed cause) (.error cause) rfl
  rw [fail_of_running follows.running, alike]
  exact ⟨ended, transports⟩

theorem complete_ends (alone : ask.Alone) (willing : (setup.subscribers number).NeverCancels)
    (follows : Follows number delivery source pending flow listener) :
    Ended (listener.finish setup number none)
      ((complete setup ask flow).2.resolve (complete setup ask flow).1) := by
  have given : (reported setup ask .completed flow).given =
      listener.calls.filterMap Entry.given? := by
    obtain ⟨_, _, ended⟩ :=
      reported_ends alone willing follows .completed (.error .noSubscriber) rfl
    have calls : (reported setup ask .completed flow).calls = _ := ended.calls
    rw [given_eq_calls, calls, List.filterMap_append]
    exact List.append_nil _
  obtain ⟨alike, _, ended⟩ := reported_ends alone willing follows .completed
    (setup.handler.result (listener.calls.filterMap Entry.given?)) rfl
  rw [complete_of_running follows.running, alike, given]
  exact ended

end Flow

end FramedEvents
