/-
What is handed over with a chunk.

An event is handed over only while the chunk that brings it is being decoded. Whatever
is done in the hooks in between, even if it goes through the stream again, hands over no
other event, unless another chunk arrives. So messages that are all accepted hand over
exactly their events, in order, up to those of other chunks.
-/

import FramedEvents.Proofs.Flow.Discipline
import FramedEvents.Proofs.Flow.Listening
import FramedEvents.Proofs.Flow.Wiring

namespace FramedEvents

def Setup.event? {ε ω σ : Type} (setup : Setup ε ω σ ρ) (message : Message) : Option ε :=
  if message.isEvent then
    (setup.readEvent (EventMessage.ofMessage message) setup.attributes).toOption
  else none

namespace Flow

variable {ε ρ ω σ : Type} {setup : Setup ε ω σ ρ} {ask : Ask ε ρ ω σ}
  {flow middle after reached : Flow ε ρ ω σ}

/-! ### Messages and chunks -/

/-- The stream after it has looked at an event and taken demand for it. -/
def charged (flow : Flow ε ρ ω σ) : Flow ε ρ ω σ :=
  { record (.looked .event) flow with demand := flow.demand.serve }

theorem not_isDone (running : flow.stage = .running) : ¬flow.stage.isDone = true := by
  rw [running]
  exact Bool.false_ne_true

theorem deal_of_running (running : flow.stage = .running) (message : Message) :
    deal setup ask flow message =
      match message.kind with
      | .initialResponse => (respond setup ask (record (.looked .initialResponse) flow), .ok ())
      | .event => handEvent setup ask message (record (.looked .event) flow)
      | .missingEventType => (record (.looked .missingEventType) flow, .error .missingEventType)
      | .error code text =>
          (record (.looked (.error code text)) flow, .error (.protocol code text))
      | .other type => (record (.looked (.other type)) flow, .ok ()) := by
  unfold deal
  rw [if_neg (not_isDone running)]
  cases message.kind <;> rfl

theorem handEvent_unreadable {message : Message} {reason : String}
    (unread : setup.readEvent (EventMessage.ofMessage message) setup.attributes = .error reason) :
    handEvent setup ask message (record (.looked .event) flow) =
      (flow.charged, .error (.client reason)) := by
  unfold handEvent
  rw [unread]
  rfl

theorem handEvent_unwanted {message : Message} {event : ε}
    (read : setup.readEvent (EventMessage.ofMessage message) setup.attributes = .ok event)
    (nobody : flow.subscriber = none) :
    handEvent setup ask message (record (.looked .event) flow) =
      (flow.charged, .error .noSubscriber) := by
  unfold handEvent
  rw [read]
  dsimp only
  split
  · rfl
  · rename_i holder held
    cases nobody.symm.trans held

theorem handEvent_handed {message : Message} {event : ε}
    (read : setup.readEvent (EventMessage.ofMessage message) setup.attributes = .ok event)
    (bound : flow.subscriber.isSome = true) :
    handEvent setup ask message (record (.looked .event) flow) =
      ((signal setup ask (.next event) flow.charged).1,
        Listener.verdict (signal setup ask (.next event) flow.charged).2) := by
  obtain ⟨holder, held⟩ := Option.isSome_iff_exists.mp bound
  have noted : (record (.looked .event) flow).subscriber = some holder := held
  exact handEvent_of_read read noted

theorem deal_of_isDone (done : flow.stage.isDone = true) (message : Message) :
    deal setup ask flow message = (flow, .ok ()) := by
  unfold deal
  rw [if_pos done]

/-- The stream when a chunk has arrived, and its messages are about to be dealt with. -/
def arriving (index : Nat) (routed : Bool) (bytes : Bytes) (flow : Flow ε ρ ω σ) : Flow ε ρ ω σ :=
  record (.chunkArrived index bytes) (flow.keepPending index routed none)

theorem chunk_of_isDone (setup : Setup ε ω σ ρ) (ask : Ask ε ρ ω σ) (index : Nat) (bytes : Bytes)
    (done : flow.stage.isDone = true) : chunk setup ask index bytes flow = flow := by
  unfold chunk
  split
  · unfold consume
    rw [if_pos done]
  · rfl

/-! ### The log -/

theorem delivered_note {entry : Entry ε ρ} (log : after.log = entry :: flow.log)
    (other : ∀ number event, entry ≠ .signalled number (.next event)) :
    after.delivered = flow.delivered := by
  unfold delivered
  rw [log, List.reverse_cons, List.filterMap_append]
  apply List.append_right_eq_self.mpr
  cases entry with
  | signalled number signal =>
      cases signal with
      | next event => exact absurd rfl (other number event)
      | _ => rfl
  | _ => rfl

theorem given_note {entry : Entry ε ρ} (log : after.log = entry :: flow.log)
    (nothing : entry.given? = none) : after.given = flow.given := by
  unfold given
  rw [log, List.reverse_cons, List.filterMap_append]
  exact List.append_right_eq_self.mpr (List.filterMap_eq_nil_iff.mpr (by simpa using nothing))

theorem delivered_handed {number : Nat} {event : ε}
    (log : after.log = .signalled number (.next event) :: flow.log) :
    after.delivered = flow.delivered ++ [event] := by
  unfold delivered
  rw [log, List.reverse_cons, List.filterMap_append]
  rfl

theorem Silent.countP (silent : Silent flow after) {counted : Entry ε ρ → Bool}
    (traffic : ∀ entry, counted entry = true → entry.isTraffic = true) :
    after.log.countP counted = flow.log.countP counted := by
  obtain ⟨notes, log, others⟩ := silent
  have none : notes.countP counted = 0 := by
    apply List.countP_eq_zero.mpr
    intro note member counts
    exact Bool.false_ne_true ((others note member).symm.trans (traffic note counts))
  rw [log, List.countP_append, none, Nat.zero_add]

theorem Silent.requests (silent : Silent flow after) : requests after.log = requests flow.log := by
  apply silent.countP
  intro entry request
  cases entry with
  | chunkRequested => rfl
  | _ => cases request

theorem Silent.arrivals (silent : Silent flow after) : arrivals after.log = arrivals flow.log := by
  apply silent.countP
  intro entry arrival
  cases entry with
  | chunkArrived index bytes => rfl
  | _ => cases arrival

theorem Steps.arrivals (steps : Steps setup flow after) : arrivals flow.log ≤ arrivals after.log :=
  steps.grows.sublist.countP_le

/-! ### Between two events -/

/-- No event is handed over in between, unless another chunk arrives. -/
structure Hushed (setup : Setup ε ω σ ρ) (flow after : Flow ε ρ ω σ) : Prop where
  steps : Steps setup flow after
  same : arrivals after.log = arrivals flow.log → after.delivered = flow.delivered

theorem Silent.hushed (silent : Silent flow after) (steps : Steps setup flow after) :
    Hushed setup flow after :=
  ⟨steps, fun _ => silent.delivered⟩

theorem Hushed.trans (first : Hushed setup flow middle) (second : Hushed setup middle after) :
    Hushed setup flow after := by
  refine ⟨first.steps.trans second.steps, ?_⟩
  intro level
  -- Arrivals are never taken back, so none has been added in either part.
  have earlier := first.steps.arrivals
  have later := second.steps.arrivals
  exact (second.same (by omega)).trans (first.same (by omega))

theorem Asks.delivered (asks : Asks flow after) : after.delivered = flow.delivered := by
  cases asks with
  | nothing needless => rfl
  | chunk running wanted index held free unmet transports once =>
      exact delivered_note rfl fun _ _ => by simp

theorem Hushed.told {final : Stage} (running : flow.stage = .running) (done : final.isDone = true)
    {number : Nat} {state : σ} (holder : flow.subscriber = some (number, state))
    (hook : Hushed setup
      (informed setup final.signal number state { flow with stage := final }) after) :
    Hushed setup flow (record final.report after) := by
  have informing : Silent flow (informed setup final.signal number state
      { flow with stage := final }) := .of_note rfl (by cases final <;> rfl)
  have reporting : Silent after (record final.report after) := .of_note rfl final.isTraffic_report
  refine ⟨told_steps running final done number state holder hook.steps, ?_⟩
  intro level
  rw [reporting.arrivals, ← informing.arrivals] at level
  rw [reporting.delivered, hook.same level, informing.delivered]

theorem hushed_law (setup : Setup ε ω σ ρ) : Law setup (Hushed setup : Flow ε ρ ω σ → _) where
  steps hushed := hushed.steps
  refl _ := ⟨.refl, fun _ => rfl⟩
  trans := Hushed.trans
  calm step _ := step.silent.hushed (.single (.quiet step))
  requested count counts wanted _ asks := by
    refine ⟨demanded_steps counts wanted asks, fun _ => ?_⟩
    rw [asks.delivered]
    exact delivered_note rfl fun _ _ => by simp
  responded running response held :=
    ⟨.single (.responded running response held), fun _ => delivered_note rfl fun _ _ => by simp⟩
  alone running final done nobody :=
    Silent.hushed (.of_note rfl final.isTraffic_report)
      (.single (.endedAlone running final done nobody))
  told running _ done _ _ holder hook := .told running done holder hook

theorem consume_of_error (running : flow.stage = .running) {index : Nat} {routed : Bool}
    {pending bytes : Bytes} {cause : FlowError} {broken : Flow ε ρ ω σ}
    (state : (Fed.decodeAll setup.limits .decode (deal setup ask)
      (arriving index routed bytes flow) (pending ++ bytes)).state = broken)
    (outcome : (Fed.decodeAll setup.limits .decode (deal setup ask)
      (arriving index routed bytes flow) (pending ++ bytes)).outcome = .error cause) :
    ∃ left, consume setup ask index routed pending bytes flow =
      stop (fail setup ask cause (broken.keepPending index routed (some left))) := by
  unfold arriving at state outcome
  unfold consume
  rw [if_neg (not_isDone running)]
  dsimp only
  rw [state, outcome]
  exact ⟨_, rfl⟩

theorem consume_steps (keeps : ask.Keeps (Steps setup)) {index : Nat} (routed : Bool)
    (pending bytes : Bytes) (feeds : Feeds index flow) (running : flow.stage = .running) :
    Steps setup (arriving index routed bytes flow)
      (consume setup ask index routed pending bytes flow) := by
  have law : WholeLaw setup (Steps setup : Flow ε ρ ω σ → _) := steps_law setup
  have fed : Feeds index (arriving index routed bytes flow) := feeds.kept routed none
  have decoded := decodeAll_keeps law keeps (arriving index routed bytes flow) (pending ++ bytes)
  have kept := fun left => decoded.trans
    (keepPending_keeps law.toLaw routed (some left) (decoded.feeds fed))
  unfold consume
  rw [if_neg (not_isDone running)]
  dsimp only
  split
  · obtain ⟨middle, asks, rest⟩ := finishChunk_asks law.toLaw keeps _
    exact (((kept _).tail (.quiet .finished)).trans asks.steps).trans rest
  · rename_i cause refused
    have failed := fun left => (kept left).trans (fail_keeps law.toLaw keeps cause _)
    exact (failed _).trans (stop_keeps law.toLaw (.inr ⟨index, Steps.feeds (failed _) fed⟩))

theorem chunk_hushed (keeps : ask.Keeps (Hushed setup)) (index : Nat) (bytes : Bytes)
    (flow : Flow ε ρ ω σ) : Hushed setup flow (chunk setup ask index bytes flow) := by
  have stepping := keeps.mono Hushed.steps
  refine ⟨chunk_keeps (steps_law setup) stepping index bytes flow, ?_⟩
  rcases running_or_isDone flow with running | done
  · unfold chunk
    split
    · rename_i routed pending consumer
      -- With the chunk itself there is one arrival more, whatever else happens.
      intro level
      have grown := (consume_steps stepping routed pending bytes (.of_consumer consumer)
        running).arrivals
      have one : arrivals (arriving index routed bytes flow).log = arrivals flow.log + 1 :=
        arrivals_cons (.chunkArrived index bytes) flow.log
      omega
    · exact fun _ => rfl
  · rw [chunk_of_isDone setup ask index bytes done]
    exact fun _ => rfl

theorem hushed_chunks (setup : Setup ε ω σ ρ) :
    ChunkLaw setup (Hushed setup : Flow ε ρ ω σ → _) where
  toLaw := hushed_law setup
  chunk keeps index bytes flow := chunk_hushed keeps index bytes flow

/-- Asking for chunks in the given way, with interludes in every hook that nest to this
depth at most. -/
def acting (setup : Setup ε ω σ ρ) (forChunk : Flow ε ρ ω σ → Flow ε ρ ω σ)
    (depth : Flow ε ρ ω σ → Nat) : Ask ε ρ ω σ where
  forChunk := forChunk
  others := fun flow => interlude setup forChunk (depth flow) flow

theorem acting_keeps {forChunk : Flow ε ρ ω σ → Flow ε ρ ω σ} (serving : Serving setup forChunk)
    (depth : Flow ε ρ ω σ → Nat) : (acting setup forChunk depth).Keeps (Hushed setup) where
  forChunk := serving.asking (hushed_chunks setup)
  others flow :=
    interlude_keeps (hushed_chunks setup) (serving.asking (hushed_chunks setup)) _ flow

/-! ### The events of messages -/

/-- These events have been handed over in between, in this order, and no others unless
another chunk has arrived. -/
structure Hands (setup : Setup ε ω σ ρ) (own : List ε) (flow after : Flow ε ρ ω σ) : Prop where
  steps : Steps setup flow after
  given : ∃ given, after.delivered = flow.delivered ++ given ∧ own.Sublist given ∧
    (arrivals after.log = arrivals flow.log → given = own)

theorem Hands.trans {own more : List ε} (first : Hands setup own flow middle)
    (second : Hands setup more middle after) : Hands setup (own ++ more) flow after := by
  obtain ⟨given, delivered, within, exactly⟩ := first.given
  obtain ⟨givenToo, deliveredToo, withinToo, exactlyToo⟩ := second.given
  refine ⟨first.steps.trans second.steps, given ++ givenToo, ?_, within.append withinToo, ?_⟩
  · rw [deliveredToo, delivered, List.append_assoc]
  · intro level
    have earlier := first.steps.arrivals
    have later := second.steps.arrivals
    rw [exactly (by omega), exactlyToo (by omega)]

theorem Hushed.hands (hushed : Hushed setup flow after) : Hands setup [] flow after := by
  obtain ⟨given, delivered⟩ := hushed.steps.delivered
  refine ⟨hushed.steps, given, delivered, List.nil_sublist given, ?_⟩
  intro level
  have same := hushed.same level
  rw [delivered] at same
  exact List.append_right_eq_self.mp same

theorem Hands.of_look {kind : MessageKind} (step : Step setup flow after)
    (log : after.log = .looked kind :: flow.log) : Hands setup [] flow after := by
  have same : after.delivered = flow.delivered := delivered_note log fun _ _ => by simp
  exact Hushed.hands ⟨.single step, fun _ => same⟩

theorem signal_hands (keeps : ask.Keeps (Hushed setup)) (running : flow.stage = .running)
    (event : ε) (bound : flow.subscriber.isSome = true) :
    Hands setup [event] flow (signal setup ask (.next event) flow).1 := by
  obtain ⟨⟨number, state⟩, holder⟩ := Option.isSome_iff_exists.mp bound
  have handed : Hands setup [event] flow (informed setup (.next event) number state flow) :=
    ⟨.single (.handed running event number state holder), [event], delivered_handed rfl,
      List.Sublist.refl _, fun _ => rfl⟩
  exact handed.trans (signal_keeps (hushed_law setup) keeps (.next event) flow holder).hands

theorem event?_of_kind {message : Message} (other : message.kind ≠ .event) :
    setup.event? message = none := by
  unfold Setup.event? Message.isEvent
  rw [decide_eq_false other]
  rfl

theorem event?_of_read {message : Message} {event : ε} (kind : message.kind = .event)
    (read : setup.readEvent (EventMessage.ofMessage message) setup.attributes = .ok event) :
    setup.event? message = some event := by
  unfold Setup.event? Message.isEvent
  rw [decide_eq_true kind, read]
  rfl

theorem deal_hands (keeps : ask.Keeps (Hushed setup)) (running : flow.stage = .running)
    {message : Message} (accepted : deal setup ask flow message = (after, .ok ())) :
    Hands setup (setup.event? message).toList flow after := by
  rw [deal_of_running running] at accepted
  cases kind : message.kind with
  | initialResponse =>
      rw [kind] at accepted
      cases accepted
      have looked : Hands setup [] flow (record (.looked .initialResponse) flow) :=
        .of_look (.looked running .initialResponse (by simp)) rfl
      have going : (record (.looked .initialResponse) flow).stage = .running := running
      rw [event?_of_kind (by rw [kind]; simp)]
      exact looked.trans (respond_keeps (hushed_law setup) keeps going).hands
  | missingEventType =>
      rw [kind] at accepted
      cases accepted
  | error code text =>
      rw [kind] at accepted
      cases accepted
  | other type =>
      rw [kind] at accepted
      cases accepted
      rw [event?_of_kind (by rw [kind]; simp)]
      exact .of_look (.looked running (.other type) (by simp)) rfl
  | event =>
      rw [kind] at accepted
      dsimp only at accepted
      cases read : setup.readEvent (EventMessage.ofMessage message) setup.attributes with
      | error reason =>
          rw [handEvent_unreadable read] at accepted
          cases accepted
      | ok event =>
          cases bound : flow.subscriber with
          | none =>
              rw [handEvent_unwanted read bound] at accepted
              cases accepted
          | some holder =>
              rw [handEvent_handed read (isSome_of_eq bound)] at accepted
              obtain ⟨rfl, _⟩ := Prod.mk.inj accepted
              rw [event?_of_read kind read]
              have looked : Hands setup [] flow flow.charged := .of_look (.served running) rfl
              have going : flow.charged.stage = .running := running
              exact looked.trans (signal_hands keeps going event (isSome_of_eq bound))

theorem walk_steps (keeps : ask.Keeps (Steps setup)) (messages : List Message)
    (flow : Flow ε ρ ω σ) : Steps setup flow (Fed.walk (deal setup ask) flow messages).1 := by
  have law : WholeLaw setup (Steps setup : Flow ε ρ ω σ → _) := steps_law setup
  induction messages generalizing flow with
  | nil => exact .refl
  | cons message later ih =>
      have dealt := deal_keeps law keeps flow message
      rw [Fed.walk]
      generalize deal setup ask flow message = answer at dealt ⊢
      obtain ⟨next, verdict⟩ := answer
      cases verdict with
      | error cause => exact dealt
      | ok accepted => exact dealt.trans (ih next)

theorem walk_hands (keeps : ask.Keeps (Hushed setup)) (messages : List Message)
    (accepted : Fed.walk (deal setup ask) flow messages = (reached, .ok ()))
    (running : reached.stage = .running) :
    Hands setup (messages.filterMap setup.event?) flow reached := by
  induction messages generalizing flow with
  | nil =>
      cases accepted
      exact ((hushed_law setup).refl reached).hands
  | cons message later ih =>
      have steps := walk_steps (keeps.mono Hushed.steps) (message :: later) flow
      rw [accepted] at steps
      have going : flow.stage = .running := steps.running running
      rw [Fed.walk] at accepted
      generalize dealt : deal setup ask flow message = answer at accepted
      obtain ⟨next, verdict⟩ := answer
      cases verdict with
      | error cause => cases accepted
      | ok =>
          have first := deal_hands keeps going dealt
          have parts : (message :: later).filterMap setup.event? =
              (setup.event? message).toList ++ later.filterMap setup.event? := by
            rw [List.filterMap_cons]
            cases setup.event? message <;> rfl
          rw [parts]
          exact first.trans (ih accepted)

end Flow

end FramedEvents
