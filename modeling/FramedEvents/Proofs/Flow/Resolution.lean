/-
The outcome of a stream.

The outcome is resolved in two places: when a failure has been told, and when the end of a
transport has completed the stream. Both come after the end, so a stream that is running
has no outcome yet, and between any two things that are done to a stream its outcome is
resolved exactly if it has ended. What it is resolved with depends on the stage and on the
events that have been handed over, neither of which changes any more. Whoever takes it
gets this result once, and before the end gets nothing.
-/

import FramedEvents.Proofs.Flow.Execution
import FramedEvents.Proofs.Flow.Holding

namespace FramedEvents

namespace Outcome

variable {ω : Type} {outcome : Outcome ω}

theorem isResolved_resolve (result : Except FlowError ω) :
    (outcome.resolve result).isResolved = true := by
  cases outcome with
  | pending => rfl
  | ready first => rfl
  | taken => rfl

theorem resolve_of_isResolved (resolved : outcome.isResolved = true)
    (result : Except FlowError ω) : outcome.resolve result = outcome := by
  cases outcome with
  | pending => cases resolved
  | ready first => rfl
  | taken => rfl

theorem isResolved_take? (outcome : Outcome ω) :
    outcome.take?.2.isResolved = outcome.isResolved := by
  cases outcome <;> rfl

theorem eq_pending (unresolved : outcome.isResolved = false) : outcome = .pending := by
  cases outcome with
  | pending => rfl
  | ready first => cases unresolved
  | taken => cases unresolved

end Outcome

/-- The result of a stream in this stage that has handed out all this. -/
def Setup.due? {ε ρ ω σ : Type} (setup : Setup ε ω σ ρ) (given : List (Given ε ρ)) :
    Stage → Option (Except FlowError ω)
  | .running => none
  | .failed cause => some (.error cause)
  | .completed => some (setup.handler.result given)

namespace Flow

variable {ε ρ ω σ : Type} {setup : Setup ε ω σ ρ} {ask : Ask ε ρ ω σ} {flow after : Flow ε ρ ω σ}

def Event.isEnd : Event ρ → Bool
  | .transportEnded _ => true
  | .complete => true
  | _ => false

/-- There is no result in the outcome but the one that is due, and none before the end. -/
structure Truthful (setup : Setup ε ω σ ρ) (flow : Flow ε ρ ω σ) : Prop where
  modest : ∀ events ∈ flow.interludes, ∀ event ∈ events, event.isEnd = false
  late : flow.outcome.isResolved = true → flow.stage.isDone = true
  result : ∀ result, flow.outcome = .ready result →
    setup.due? flow.given flow.stage = some result

/-- What holds between any two things that are done to a stream. -/
structure Conclusive (setup : Setup ε ω σ ρ) (flow : Flow ε ρ ω σ) : Prop
    extends Truthful setup flow where
  prompt : flow.stage.isDone = true → flow.outcome.isResolved = true

/-- What holds while the end is being told, in this stage and after these events, and if
`sure` the outcome has been resolved already. -/
structure Concluding (setup : Setup ε ω σ ρ) (final : Stage) (given : List (Given ε ρ)) (sure : Bool)
    (flow : Flow ε ρ ω σ) : Prop extends Truthful setup flow where
  stage : flow.stage = final
  given : flow.given = given
  resolved : sure = true → flow.outcome.isResolved = true

/-- Those whom a stream turns to leave its outcome truthful. -/
structure Ask.Discreet (setup : Setup ε ω σ ρ) (ask : Ask ε ρ ω σ) : Prop where
  conclusive : ask.Holds (Conclusive setup)
  concluding : ∀ final given sure, final.isDone = true →
    ask.Holds (Concluding setup final given sure)

variable {final : Stage} {given : List (Given ε ρ)} {sure : Bool}

/-! ### Streams that are alike -/

theorem Alike.truthful (alike : Alike flow after) (truthful : Truthful setup flow) :
    Truthful setup after := by
  refine ⟨?_, ?_, ?_⟩
  · intro events member
    exact truthful.modest events (alike.interludes events member)
  · rw [alike.outcome, alike.stage]
    exact truthful.late
  · intro result ready
    rw [alike.outcome] at ready
    have done : flow.stage.isDone = true := truthful.late (by rw [ready]; rfl)
    rw [alike.given done, alike.stage]
    exact truthful.result result ready

theorem Alike.conclusive (alike : Alike flow after) (conclusive : Conclusive setup flow) :
    Conclusive setup after := by
  refine ⟨alike.truthful conclusive.toTruthful, ?_⟩
  rw [alike.outcome, alike.stage]
  exact conclusive.prompt

theorem Alike.concluding (alike : Alike flow after) (done : final.isDone = true)
    (concluding : Concluding setup final given sure flow) :
    Concluding setup final given sure after := by
  have ended : flow.stage.isDone = true := (congrArg Stage.isDone concluding.stage).trans done
  refine ⟨alike.truthful concluding.toTruthful, ?_, ?_, ?_⟩
  · exact alike.stage.trans concluding.stage
  · exact (alike.given ended).trans concluding.given
  · rw [alike.outcome]
    exact concluding.resolved

/-! ### The end -/

theorem Truthful.pending (truthful : Truthful setup flow) (running : flow.stage = .running) :
    flow.outcome = .pending := by
  refine Outcome.eq_pending (Bool.eq_false_iff.mpr ?_)
  intro resolved
  exact absurd (truthful.late resolved) (not_isDone running)

theorem Truthful.reported (truthful : Truthful setup flow) (discreet : ask.Discreet setup)
    (running : flow.stage = .running) (done : final.isDone = true) :
    Concluding setup final flow.given false (reported setup ask final flow) := by
  have keeps := discreet.concluding final flow.given false done
  have pending := truthful.pending running
  have ending : Concluding setup final flow.given false { flow with stage := final } := by
    refine ⟨⟨truthful.modest, fun _ => done, ?_⟩, rfl, rfl, fun sure => by cases sure⟩
    intro result ready
    cases pending.symm.trans ready
  have told : Concluding setup final flow.given false
      (signal setup ask final.signal { flow with stage := final }).1 := by
    refine keeps.signal (fun _ event same => ?_) ending
    cases final <;> cases same
  refine keeps.alike (.note ?_ _) told
  cases final <;> rfl

theorem Concluding.resolve (concluding : Concluding setup final given sure flow)
    (done : final.isDone = true) {result : Except FlowError ω}
    (due : setup.due? given final = some result) : Conclusive setup (flow.resolve result) := by
  have ended : flow.stage.isDone = true := (congrArg Stage.isDone concluding.stage).trans done
  refine ⟨⟨concluding.modest, fun _ => ended, ?_⟩, fun _ => Outcome.isResolved_resolve result⟩
  intro other ready
  change setup.due? flow.given flow.stage = some other
  cases before : flow.outcome.isResolved with
  | false =>
      have same : (flow.outcome.resolve result) = .ready result := by
        rw [Outcome.eq_pending before]
        rfl
      cases same.symm.trans ready
      rw [concluding.given, concluding.stage]
      exact due
  | true =>
      have same : flow.outcome.resolve result = flow.outcome :=
        Outcome.resolve_of_isResolved before result
      exact concluding.result other (same.symm.trans ready)

theorem resolve_of_isResolved (resolved : flow.outcome.isResolved = true)
    (result : Except FlowError ω) : flow.resolve result = flow := by
  unfold resolve
  rw [Outcome.resolve_of_isResolved resolved]

theorem Conclusive.fail (conclusive : Conclusive setup flow) (discreet : ask.Discreet setup)
    (cause : FlowError) : Conclusive setup (fail setup ask cause flow) := by
  rcases running_or_isDone flow with running | done
  · have told : Concluding setup (.failed cause) flow.given false
        (reported setup ask (.failed cause) flow) :=
      conclusive.reported discreet running rfl
    rw [fail_of_running running]
    exact ((discreet.concluding _ _ false rfl).others told).resolve rfl rfl
  · rw [fail_of_isDone setup ask cause done]
    exact conclusive

theorem Conclusive.transportEnded (conclusive : Conclusive setup flow)
    (discreet : ask.Discreet setup) (index : Nat) :
    Conclusive setup (transportEnded setup ask index flow) := by
  unfold Flow.transportEnded
  split
  · rcases running_or_isDone flow with running | done
    · have told : Concluding setup .completed flow.given false
          (reported setup ask .completed flow) :=
        conclusive.reported discreet running rfl
      rw [complete_of_running running, told.given]
      exact ((discreet.concluding _ _ false rfl).others told).resolve rfl rfl
    · rw [complete_of_isDone setup ask done]
      change Conclusive setup (flow.resolve _)
      rw [resolve_of_isResolved (conclusive.prompt done)]
      exact conclusive
  · exact conclusive

theorem Concluding.fail (concluding : Concluding setup final given sure flow)
    (done : final.isDone = true) (cause : FlowError) :
    Concluding setup final given sure (fail setup ask cause flow) := by
  have ended : flow.stage.isDone = true := (congrArg Stage.isDone concluding.stage).trans done
  rw [fail_of_isDone setup ask cause ended]
  exact concluding

/-- The end of a transport is answered with how the stream has ended. This is the result
that is due, but for a completion whose own result is not there yet. -/
theorem Concluding.transportEnded (concluding : Concluding setup final given sure flow)
    (done : final.isDone = true) (safe : final = .completed → sure = true) (index : Nat) :
    Concluding setup final given sure (transportEnded setup ask index flow) := by
  have ended : flow.stage.isDone = true := (congrArg Stage.isDone concluding.stage).trans done
  unfold Flow.transportEnded
  split
  · rw [complete_of_isDone setup ask ended]
    change Concluding setup final given sure (flow.resolve _)
    cases final with
    | running => cases done
    | failed cause =>
        have due : setup.due? given (.failed cause) =
            some (.error (flow.stage.failure?.getD .alreadyCompleted)) := by
          rw [concluding.stage]
          rfl
        exact ⟨(concluding.resolve rfl due).toTruthful, concluding.stage, concluding.given,
          fun _ => Outcome.isResolved_resolve _⟩
    | completed =>
        rw [resolve_of_isResolved (concluding.resolved (safe rfl))]
        exact concluding
  · exact concluding

/-! ### Acts -/

theorem Conclusive.act (conclusive : Conclusive setup flow) (discreet : ask.Discreet setup)
    {event : Event ρ} (plain : event ≠ .complete) : Conclusive setup (act setup ask flow event) :=
  discreet.conclusive.act (fun cause _ held => held.fail discreet cause)
    (fun index _ _ held => held.transportEnded discreet index) plain conclusive

theorem Conclusive.acts (conclusive : Conclusive setup flow) (discreet : ask.Discreet setup)
    {events : List (Event ρ)} (plain : .complete ∉ events) :
    Conclusive setup (events.foldl (Flow.act setup ask) flow) := by
  refine holds_foldl events ?_ conclusive
  intro event member flow held
  exact held.act discreet fun same => plain (same ▸ member)

theorem Concluding.acts (concluding : Concluding setup final given sure flow)
    (discreet : ask.Discreet setup) (done : final.isDone = true) {events : List (Event ρ)}
    (plain : .complete ∉ events)
    (safe : final = .completed → sure = true ∨ ∀ index, .transportEnded index ∉ events) :
    Concluding setup final given sure (events.foldl (act setup ask) flow) := by
  refine holds_foldl events ?_ concluding
  intro event member flow held
  refine (discreet.concluding final given sure done).act (fun cause _ held => held.fail done cause)
    ?_ (fun same => plain (same ▸ member)) held
  rintro index rfl flow held
  refine held.transportEnded done (fun completed => ?_) index
  exact (safe completed).resolve_right fun none => none index member

/-! ### Those around a stream -/

theorem Alike.bookChunk (flow : Flow ε ρ ω σ) : Alike flow (bookChunk flow) := by
  unfold Flow.bookChunk
  split
  · exact ⟨rfl, rfl, fun _ member => member, fun _ => rfl⟩
  · exact .updateTransport flow _ _

theorem Alike.scripted {events : List (Event ρ)} {later : List (List (Event ρ))}
    (next : flow.interludes = events :: later) : Alike flow { flow with interludes := later } := by
  refine ⟨rfl, rfl, ?_, fun _ => rfl⟩
  intro others member
  rw [next]
  exact List.mem_cons_of_mem _ member

theorem not_mem_of_modest {events : List (Event ρ)}
    (modest : ∀ event ∈ events, event.isEnd = false) {event : Event ρ}
    (ends : event.isEnd = true) : event ∉ events := by
  intro member
  cases ends.symm.trans (modest event member)

theorem interlude_discreet {forChunk : Flow ε ρ ω σ → Flow ε ρ ω σ}
    (draws : ∀ {flow}, Conclusive setup flow → Conclusive setup (forChunk flow)) (depth : Nat) :
    Ask.Discreet setup ⟨forChunk, interlude setup forChunk depth⟩ := by
  have drawing {final : Stage} {given : List (Given ε ρ)} {sure : Bool} (done : final.isDone = true)
      {flow : Flow ε ρ ω σ} (running : flow.stage = .running)
      (concluding : Concluding setup final given sure flow) :
      Concluding setup final given sure (forChunk flow) := by
    rw [← concluding.stage, running] at done
    cases done
  -- Those who act in the hooks of an interlude are one level further down.
  induction depth with
  | zero =>
      refine ⟨⟨Alike.conclusive, fun _ held => draws held, id⟩, fun final given sure done => ?_⟩
      exact ⟨fun alike held => alike.concluding done held, drawing done, id⟩
  | succ depth ih =>
      refine ⟨⟨Alike.conclusive, fun _ held => draws held, ?_⟩, fun final given sure done =>
        ⟨fun alike held => alike.concluding done held, drawing done, ?_⟩⟩
      · intro flow held
        unfold interlude
        split
        · exact held
        · rename_i events later next
          have modest := held.modest events (next ▸ List.mem_cons_self)
          exact ((Alike.scripted next).conclusive held).acts ih (not_mem_of_modest modest rfl)
      · intro flow held
        unfold interlude
        split
        · exact held
        · rename_i events later next
          have modest := held.modest events (next ▸ List.mem_cons_self)
          exact ((Alike.scripted next).concluding done held).acts ih done
            (not_mem_of_modest modest rfl)
            fun _ => .inr fun index => not_mem_of_modest modest rfl

theorem asking_discreet {forChunk : Flow ε ρ ω σ → Flow ε ρ ω σ}
    (draws : ∀ {flow}, Conclusive setup flow → Conclusive setup (forChunk flow)) :
    (asking setup forChunk).Discreet setup where
  conclusive :=
    { alike := Alike.conclusive
      forChunk := fun _ held => draws held
      others := fun {flow} held =>
        (interlude_discreet draws flow.interludes.length).conclusive.others held }
  concluding final given sure done :=
    { alike := fun alike held => alike.concluding done held
      forChunk := ((interlude_discreet draws 0).concluding final given sure done).forChunk
      others := fun {flow} held =>
        ((interlude_discreet draws flow.interludes.length).concluding final given sure
          done).others held }

theorem bookChunk_conclusive (conclusive : Conclusive setup flow) :
    Conclusive setup (bookChunk flow) :=
  (Alike.bookChunk flow).conclusive conclusive

theorem drawChunk_conclusive (conclusive : Conclusive setup flow) :
    Conclusive setup (drawChunk setup flow) := by
  have discreet : (asking setup bookChunk : Ask ε ρ ω σ).Discreet setup :=
    asking_discreet fun held => bookChunk_conclusive held
  unfold drawChunk
  split
  · exact conclusive
  · rename_i index _
    split
    · have delivered := fun source =>
        delivery_holds discreet.conclusive (fun cause _ held => held.fail discreet cause)
          (fun index _ held => held.transportEnded discreet index) index 1 source conclusive
      exact (Alike.updateTransport _ index _).conclusive (delivered _)
    · exact bookChunk_conclusive conclusive

/-- Those around a stream. Requests for chunks are taken note of, or chunks are pulled, and
interludes are played in the hooks; or somebody answers the requests, and somebody acts in
the hooks, with others around meanwhile. Only the end of a transport completes the stream,
and while a completion is being told no transport ends: its end would never get through.
Neither would a failure, which makes no difference here, as the stage is taken by then. -/
inductive Around (setup : Setup ε ω σ ρ) : Ask ε ρ ω σ → Prop where
  | notes : Around setup (asking setup bookChunk)
  | pulls : Around setup (Flow.ask setup)
  | acts {others : Ask ε ρ ω σ} (meanwhile : Around setup others)
      (reply inside : Flow ε ρ ω σ → List (Event ρ))
      (replies : ∀ flow, .complete ∉ reply flow) (plain : ∀ flow, .complete ∉ inside flow)
      (told : ∀ flow, flow.stage = .completed → flow.outcome.isResolved = false →
        ∀ index, .transportEnded index ∉ inside flow) :
      Around setup
        { forChunk := fun flow => (reply flow).foldl (act setup others) (bookChunk flow)
          others := fun flow => (inside flow).foldl (act setup others) flow }

theorem Around.discreet (around : Around setup ask) : ask.Discreet setup := by
  induction around with
  | notes => exact asking_discreet fun held => bookChunk_conclusive held
  | pulls => exact asking_discreet fun held => drawChunk_conclusive held
  | acts meanwhile reply inside replies plain told ih =>
      refine ⟨⟨Alike.conclusive, ?_, ?_⟩, fun final given sure done =>
        ⟨fun alike held => alike.concluding done held, ?_, ?_⟩⟩
      · intro flow running held
        exact (bookChunk_conclusive held).acts ih (replies flow)
      · intro flow held
        exact held.acts ih (plain flow)
      · intro flow running held
        rw [← held.stage, running] at done
        cases done
      · intro flow held
        cases resolved : flow.outcome.isResolved with
        | false =>
            refine held.acts ih done (plain flow) fun completed => .inr ?_
            exact told flow (held.stage.trans completed) resolved
        | true =>
            have settled : Concluding setup final given true flow :=
              ⟨held.toTruthful, held.stage, held.given, fun _ => resolved⟩
            have acted := settled.acts ih done (plain flow) fun _ => .inl rfl
            exact ⟨acted.toTruthful, acted.stage, acted.given, fun _ => acted.resolved rfl⟩

theorem Around.keeps {R : Flow ε ρ ω σ → Flow ε ρ ω σ → Prop} (law : ChunkLaw setup R)
    (around : Around setup ask) : ask.Keeps R := by
  induction around with
  | notes => exact booking_keeps law
  | pulls => exact pulling_keeps law
  | acts meanwhile reply inside replies plain told ih =>
      refine ⟨?_, fun flow => acts_keep law ih (inside flow) flow⟩
      intro flow index held
      obtain ⟨transports, once, booked⟩ := bookChunk_once held
      refine ⟨transports, once, ?_⟩
      rw [← booked]
      exact acts_keep law ih (reply flow) (bookChunk flow)

theorem Around.act_steps (around : Around setup ask) (event : Event ρ) (flow : Flow ε ρ ω σ) :
    Steps setup flow (act setup ask flow event) :=
  act_keeps (steps_law setup).chunks (around.keeps (steps_law setup).chunks) flow event

/-! ### Steps and the outcome -/

theorem QuietStep.outcome (step : QuietStep setup flow after)
    (resolved : flow.outcome.isResolved = true) : after.outcome = flow.outcome := by
  cases step with
  | resolved result done => exact Outcome.resolve_of_isResolved resolved result
  | _ => rfl

theorem QuietSteps.outcome (steps : QuietSteps setup flow after)
    (resolved : flow.outcome.isResolved = true) : after.outcome = flow.outcome := by
  induction steps with
  | refl => rfl
  | tail _ step ih =>
      refine (step.outcome ?_).trans ih
      rw [ih]
      exact resolved

theorem QuietStep.untaken (step : QuietStep setup flow after) (untaken : flow.outcome ≠ .taken) :
    after.outcome ≠ .taken := by
  cases step with
  | resolved result done =>
      change flow.outcome.resolve result ≠ .taken
      generalize flow.outcome = outcome at untaken
      cases outcome with
      | pending => simp [Outcome.resolve]
      | ready first => simp [Outcome.resolve]
      | taken => exact absurd rfl untaken
  | _ => exact untaken

theorem Step.untaken (step : Step setup flow after) (untaken : flow.outcome ≠ .taken) :
    after.outcome ≠ .taken := by
  cases step with
  | quiet step => exact step.untaken untaken
  | @endedTelling told running final done number state holder hook =>
      change told.outcome ≠ .taken
      induction hook with
      | refl => exact untaken
      | tail _ step ih => exact step.untaken ih
  | _ => exact untaken

theorem Steps.untaken (steps : Steps setup flow after) (untaken : flow.outcome ≠ .taken) :
    after.outcome ≠ .taken := by
  induction steps with
  | refl => exact untaken
  | tail _ step ih => exact step.untaken ih

/-! ### Taking the outcome -/

/-- Something that is done once a stream has been started: to the stream, or an attempt
at taking its outcome. -/
inductive Use (ρ : Type) where
  | act (event : Event ρ)
  | take

def Use.isTake : Use ρ → Bool
  | .act _ => false
  | .take => true

def use (setup : Setup ε ω σ ρ) (ask : Ask ε ρ ω σ) (flow : Flow ε ρ ω σ) : Use ρ → Flow ε ρ ω σ
  | .act event => act setup ask flow event
  | .take => { flow with outcome := flow.outcome.take?.2 }

/-- The answers to the attempts at taking the outcome. -/
def answers (setup : Setup ε ω σ ρ) (ask : Ask ε ρ ω σ) :
    Flow ε ρ ω σ → List (Use ρ) → List (Option (Except FlowError ω))
  | _, [] => []
  | flow, .act event :: later => answers setup ask (use setup ask flow (.act event)) later
  | flow, .take :: later =>
      flow.outcome.take?.1 :: answers setup ask (use setup ask flow .take) later

/-- What so many attempts at taking an outcome with this result are answered. -/
def givenOnce (result : Except FlowError ω) : Nat → List (Option (Except FlowError ω))
  | 0 => []
  | late + 1 => some result :: List.replicate late (some (.error .outcomeUnavailable))

/-- What holds of a stream between any two uses. -/
structure Consistent (setup : Setup ε ω σ ρ) (flow : Flow ε ρ ω σ) : Prop
    extends Conclusive setup flow where
  settled : Settled flow

theorem Conclusive.take (conclusive : Conclusive setup flow) :
    Conclusive setup { flow with outcome := flow.outcome.take?.2 } := by
  refine ⟨⟨conclusive.modest, ?_, ?_⟩, ?_⟩
  · rw [Outcome.isResolved_take?]
    exact conclusive.late
  · intro result ready
    cases outcome : flow.outcome with
    | pending => cases outcome ▸ ready
    | ready first => cases outcome ▸ ready
    | taken => cases outcome ▸ ready
  · rw [Outcome.isResolved_take?]
    exact conclusive.prompt

theorem Consistent.use (consistent : Consistent setup flow) (around : Around setup ask)
    {used : Use ρ} (plain : used ≠ .act .complete) :
    Consistent setup (use setup ask flow used) := by
  cases used with
  | act event =>
      refine ⟨consistent.act around.discreet fun same => plain (congrArg Use.act same), ?_⟩
      exact (around.act_steps event flow).settled consistent.settled
  | take => exact ⟨consistent.take, consistent.settled.of_same rfl rfl rfl⟩

theorem Consistent.uses (consistent : Consistent setup flow) (around : Around setup ask)
    {uses : List (Use ρ)} (plain : .act .complete ∉ uses) :
    Consistent setup (uses.foldl (Flow.use setup ask) flow) := by
  refine holds_foldl uses ?_ consistent
  intro used member flow held
  exact held.use around fun same => plain (same ▸ member)

/-- After the end, the stage and the events that have been handed over stay, and an outcome
that has been resolved stays resolved. -/
theorem use_isDone (around : Around setup ask) (done : flow.stage.isDone = true)
    (used : Use ρ) :
    (use setup ask flow used).stage = flow.stage ∧
      (use setup ask flow used).given = flow.given := by
  cases used with
  | act event =>
      have quiet := (around.act_steps event flow).quiet_of_isDone done
      exact ⟨quiet.stage, quiet.silent.given⟩
  | take => exact ⟨rfl, rfl⟩

theorem uses_isDone (around : Around setup ask) (done : flow.stage.isDone = true)
    (uses : List (Use ρ)) :
    (uses.foldl (use setup ask) flow).stage = flow.stage ∧
      (uses.foldl (use setup ask) flow).given = flow.given := by
  induction uses generalizing flow with
  | nil => exact ⟨rfl, rfl⟩
  | cons used later ih =>
      obtain ⟨stage, given⟩ := use_isDone around done used
      obtain ⟨laterStage, laterGiven⟩ := ih ((congrArg Stage.isDone stage).trans done)
      exact ⟨laterStage.trans stage, laterGiven.trans given⟩

theorem answers_append (earlier later : List (Use ρ)) :
    answers setup ask flow (earlier ++ later) =
      answers setup ask flow earlier ++
        answers setup ask (earlier.foldl (use setup ask) flow) later := by
  induction earlier generalizing flow with
  | nil => rfl
  | cons used earlier ih =>
      cases used with
      | act event => exact ih
      | take => exact congrArg (flow.outcome.take?.1 :: ·) ih

theorem act_resolved (around : Around setup ask) (done : flow.stage.isDone = true)
    (resolved : flow.outcome.isResolved = true) (event : Event ρ) :
    (act setup ask flow event).outcome = flow.outcome :=
  ((around.act_steps event flow).quiet_of_isDone done).outcome resolved

theorem uses_resolved (around : Around setup ask) (done : flow.stage.isDone = true)
    (resolved : flow.outcome.isResolved = true) (uses : List (Use ρ)) :
    (uses.foldl (use setup ask) flow).outcome.isResolved = true := by
  induction uses generalizing flow with
  | nil => exact resolved
  | cons used later ih =>
      refine ih ((congrArg Stage.isDone (use_isDone around done used).1).trans done) ?_
      cases used with
      | act event =>
          exact (congrArg Outcome.isResolved (act_resolved around done resolved event)).trans
            resolved
      | take => exact (Outcome.isResolved_take? flow.outcome).trans resolved

theorem answers_taken (around : Around setup ask) (done : flow.stage.isDone = true)
    (taken : flow.outcome = .taken) (uses : List (Use ρ)) :
    answers setup ask flow uses =
      List.replicate (uses.countP Use.isTake) (some (.error .outcomeUnavailable)) := by
  induction uses generalizing flow with
  | nil => rfl
  | cons used later ih =>
      have stays := (congrArg Stage.isDone (use_isDone around done used).1).trans done
      cases used with
      | act event =>
          have resolved : flow.outcome.isResolved = true := by rw [taken]; rfl
          rw [List.countP_cons_of_neg Bool.false_ne_true]
          exact ih stays ((act_resolved around done resolved event).trans taken)
      | take =>
          have left : (use setup ask flow .take).outcome = .taken := by
            change flow.outcome.take?.2 = .taken
            rw [taken]
            rfl
          unfold answers
          rw [ih stays left, taken, List.countP_cons_of_pos rfl, List.replicate_succ]
          rfl

theorem answers_ready (around : Around setup ask) (done : flow.stage.isDone = true)
    {result : Except FlowError ω} (ready : flow.outcome = .ready result) (uses : List (Use ρ)) :
    answers setup ask flow uses = givenOnce result (uses.countP Use.isTake) := by
  induction uses generalizing flow with
  | nil => rfl
  | cons used later ih =>
      have stays := (congrArg Stage.isDone (use_isDone around done used).1).trans done
      cases used with
      | act event =>
          have resolved : flow.outcome.isResolved = true := by rw [ready]; rfl
          rw [List.countP_cons_of_neg Bool.false_ne_true]
          exact ih stays ((act_resolved around done resolved event).trans ready)
      | take =>
          have left : (use setup ask flow .take).outcome = .taken := by
            change flow.outcome.take?.2 = .taken
            rw [ready]
            rfl
          unfold answers
          rw [answers_taken around stays left, ready, List.countP_cons_of_pos rfl]
          rfl

theorem answers_pending (around : Around setup ask) (consistent : Consistent setup flow)
    {uses : List (Use ρ)} (plain : .act .complete ∉ uses)
    (unresolved : (uses.foldl (use setup ask) flow).outcome.isResolved = false) :
    answers setup ask flow uses = List.replicate (uses.countP Use.isTake) none := by
  induction uses generalizing flow with
  | nil => rfl
  | cons used later ih =>
      have first : used ≠ .act .complete := fun same => plain (same ▸ List.mem_cons_self)
      have rest := ih (consistent.use around first)
        (fun member => plain (List.mem_cons_of_mem _ member)) unresolved
      cases used with
      | act event =>
          rw [List.countP_cons_of_neg Bool.false_ne_true]
          exact rest
      | take =>
          have pending : flow.outcome = .pending := by
            refine Outcome.eq_pending (Bool.eq_false_iff.mpr fun resolved => ?_)
            have settled := uses_resolved around (consistent.late resolved) resolved
              (.take :: later)
            cases settled.symm.trans unresolved
          unfold answers
          rw [rest, pending, List.countP_cons_of_pos rfl, List.replicate_succ]
          rfl

/-! ### A stream that has been started -/

theorem started_consistent (around : Around setup ask) (response : ρ)
    (transports : List Transport) {interludes : List (List (Event ρ))}
    (modest : ∀ events ∈ interludes, ∀ event ∈ events, event.isEnd = false) :
    let started := (join setup ask true 0
      (capture response { transports := transports, interludes := interludes })).2
    Consistent setup started ∧ started.outcome ≠ .taken := by
  intro started
  have idle : Conclusive setup (capture response
      ({ transports := transports, interludes := interludes } : Flow ε ρ ω σ)) := by
    refine ⟨⟨modest, ?_, ?_⟩, ?_⟩
    · intro resolved
      cases resolved
    · intro result ready
      cases ready
    · intro done
      cases done
  have steps : Steps setup
      (capture response ({ transports := transports, interludes := interludes } : Flow ε ρ ω σ))
      started :=
    join_keeps (steps_law setup).toLaw (around.keeps (steps_law setup).chunks) true 0 _
  have settled : Settled (capture response
      ({ transports := transports, interludes := interludes } : Flow ε ρ ω σ)) :=
    (Settled.initial transports interludes).of_same rfl rfl rfl
  refine ⟨⟨around.discreet.conclusive.join true 0 idle, steps.settled settled⟩, ?_⟩
  exact steps.untaken fun taken => by cases taken

/-- At the first moment at which the outcome is resolved, nobody has taken it, and every
attempt before has been in vain. -/
theorem first_resolved (around : Around setup ask) (consistent : Consistent setup flow)
    (untaken : flow.outcome ≠ .taken) {earlier : List (Use ρ)} (plain : .act .complete ∉ earlier)
    (first : ∀ front back, earlier = front ++ back → back ≠ [] →
      (front.foldl (use setup ask) flow).outcome.isResolved = false)
    (resolved : (earlier.foldl (use setup ask) flow).outcome.isResolved = true) :
    (∃ result, (earlier.foldl (use setup ask) flow).outcome = .ready result) ∧
      answers setup ask flow earlier = List.replicate (earlier.countP Use.isTake) none := by
  have ready {outcome : Outcome ω} (resolved : outcome.isResolved = true)
      (untaken : outcome ≠ .taken) : ∃ result, outcome = .ready result := by
    cases outcome with
    | pending => cases resolved
    | ready result => exact ⟨result, rfl⟩
    | taken => exact absurd rfl untaken
  rcases List.eq_nil_or_concat' earlier with rfl | ⟨front, last, rfl⟩
  · exact ⟨ready resolved untaken, rfl⟩
  · have unresolved := first front [last] rfl (List.cons_ne_nil _ _)
    have pending := Outcome.eq_pending unresolved
    rw [List.foldl_append] at resolved ⊢
    cases last with
    | act event =>
        have loose : (front.foldl (use setup ask) flow).outcome ≠ .taken := by
          rw [pending]
          exact fun taken => by cases taken
        have before := answers_pending around consistent
          (fun member => plain (List.mem_append_left _ member)) unresolved
        refine ⟨ready resolved ((around.act_steps event _).untaken loose), ?_⟩
        rw [answers_append, before, List.countP_append]
        exact List.append_nil _
    | take =>
        have still := (Outcome.isResolved_take? _).trans unresolved
        cases resolved.symm.trans still

/-- The outcome of a stream is resolved exactly when the stream ends, whatever is done to
the stream and however often somebody tries to take the outcome, and it is never unresolved
again. Before that there is nothing to take, and trying to makes no difference. Afterwards
the first to try is given the result that is due, the cause of the failure or what the
handler has made of the events, and everybody else is told that it is unavailable. -/
theorem outcome_resolves_once (setup : Setup ε ω σ ρ) {ask : Ask ε ρ ω σ}
    (around : Around setup ask) (response : ρ) (transports : List Transport)
    {interludes : List (List (Event ρ))}
    (modest : ∀ events ∈ interludes, ∀ event ∈ events, event.isEnd = false)
    (earlier later : List (Use ρ)) (plain : .act .complete ∉ earlier ++ later) :
    let started := (join setup ask true 0
      (capture response { transports := transports, interludes := interludes })).2
    let moment := fun uses => List.foldl (use setup ask) started uses
    let now := moment earlier
    let last := moment (earlier ++ later)
    now.outcome.isResolved = now.stage.isDone ∧ Orderly now.stage now.calls ∧
      (now.outcome.isResolved = false →
        use setup ask now .take = now ∧
          answers setup ask started earlier =
            List.replicate (earlier.countP Use.isTake) none) ∧
      (now.outcome.isResolved = true →
        last.outcome.isResolved = true ∧ last.stage = now.stage ∧
          ((∀ front back, earlier = front ++ back → back ≠ [] →
              (moment front).outcome.isResolved = false) →
            ∃ result, setup.due? now.given now.stage = some result ∧
              answers setup ask started (earlier ++ later) =
                List.replicate (earlier.countP Use.isTake) none ++
                  givenOnce result (later.countP Use.isTake))) := by
  intro started moment now last
  obtain ⟨consistent, untaken⟩ := started_consistent around response transports modest
  have plainEarlier : .act .complete ∉ earlier :=
    fun member => plain (List.mem_append_left _ member)
  have held : Consistent setup now := consistent.uses around plainEarlier
  refine ⟨?_, held.settled.orderly, ?_, ?_⟩
  · exact Bool.eq_iff_iff.mpr ⟨held.late, held.prompt⟩
  · intro unresolved
    refine ⟨?_, answers_pending around consistent plainEarlier unresolved⟩
    have pending := Outcome.eq_pending unresolved
    change { now with outcome := now.outcome.take?.2 } = now
    rw [pending]
    change { now with outcome := .pending } = now
    rw [← pending]
  · intro resolved
    have done := held.late resolved
    have reached : last = later.foldl (use setup ask) now := List.foldl_append
    refine ⟨?_, ?_, ?_⟩
    · rw [reached]
      exact uses_resolved around done resolved later
    · rw [reached]
      exact (uses_isDone around done later).1
    · intro first
      obtain ⟨⟨result, ready⟩, before⟩ :=
        first_resolved around consistent untaken plainEarlier first resolved
      refine ⟨result, held.result result ready, ?_⟩
      rw [answers_append, before, answers_ready around done ready]

private theorem front_of_pair {α : Type} {first second : α} {front back : List α}
    (parts : [first, second] = front ++ back) (some : back ≠ []) :
    front = [] ∨ front = [first] := by
  match front with
  | [] => exact .inl rfl
  | [only] =>
      cases parts
      exact .inr rfl
  | only :: other :: more =>
      simp only [List.cons_append, List.cons.injEq, List.nil_eq, List.append_eq_nil_iff] at parts
      exact absurd parts.2.2.2 some

private theorem push_zeros (flow : Flow String String Nat Unit) (running : flow.stage = .running)
    (consumer : (flow.transport? 0).bind Transport.consumer = some (.stream true (some []))) :
    ∃ left, act greedy (asking greedy bookChunk) flow (.push 0 zeros) =
      stop (fail greedy (asking greedy bookChunk) (.decode (.preludeChecksum 0 1696784233))
        ((arriving 0 true zeros flow).keepPending 0 true (some left))) := by
  have refused : Frame.decode greedy.limits zeros =
      (.error (.preludeChecksum 0 1696784233), zeros) := decode_zeros
  change ∃ left, chunk greedy (asking greedy bookChunk) 0 _ flow = _
  unfold chunk
  rw [consumer]
  refine consume_of_error running ?_ ?_
  · rw [List.nil_append, Fed.decodeAll_failed refused]
  · rw [List.nil_append, Fed.decodeAll_failed refused]

/-- Somebody tries to take the outcome too early, in time and too late. One stream is
completed by the end of its transport, which fails later on. One is failed by its transport
while its subscriber is being attached. And one is failed by its decoder, and the end of its
transport comes too late. -/
theorem outcome_resolves_once_late_failures :
    let ask : Ask String String Nat Unit := asking greedy bookChunk
    let started := fun interludes => (join greedy ask true 0 (capture "hello"
      { transports := [⟨.idle, none⟩], interludes := interludes })).2
    answers greedy ask (started []) [.take, .act (.transportEnded 0),
        .act (.transportFailed 0 (.aborted "late")), .take, .take] =
      [none, some (.ok 0), some (.error .outcomeUnavailable)] ∧
    answers greedy ask (started [[.transportFailed 0 (.aborted "early")]])
        [.act (.transportEnded 0), .take, .take] =
      [some (.error (.transport (.aborted "early"))), some (.error .outcomeUnavailable)] ∧
    answers greedy ask (started []) [.take, .act (.push 0 zeros),
        .act (.transportEnded 0), .take, .take] =
      [none, some (.error (.decode (.preludeChecksum 0 1696784233))),
        some (.error .outcomeUnavailable)] := by
  intro ask started
  refine ⟨?_, ?_, ?_⟩
  · obtain ⟨_, _, _, settled⟩ := outcome_resolves_once greedy (.notes) "hello" [⟨.idle, none⟩]
      (List.forall_mem_nil _) [.take, .act (.transportEnded 0)]
      [.act (.transportFailed 0 (.aborted "late")), .take, .take] (by simp)
    obtain ⟨_, _, taking⟩ := settled rfl
    obtain ⟨result, due, same⟩ := taking fun front back parts some => by
      obtain rfl | rfl := front_of_pair parts some <;> rfl
    cases due
    exact same
  · have modest : ∀ events ∈ ([[.transportFailed 0 (.aborted "early")]] :
        List (List (Event String))), ∀ event ∈ events, event.isEnd = false := by
      intro events member event inside
      cases List.mem_singleton.mp member
      cases List.mem_singleton.mp inside
      rfl
    obtain ⟨_, _, _, settled⟩ := outcome_resolves_once greedy (.notes) "hello" [⟨.idle, none⟩]
      modest [] [.act (.transportEnded 0), .take, .take] (by simp)
    obtain ⟨_, _, taking⟩ := settled rfl
    obtain ⟨result, due, same⟩ := taking fun front back parts some =>
      absurd (List.append_eq_nil_iff.mp parts.symm).2 some
    cases due
    exact same
  · obtain ⟨settles, _, _, settled⟩ := outcome_resolves_once greedy (.notes) "hello"
      [⟨.idle, none⟩] (List.forall_mem_nil _) [.take, .act (.push 0 zeros)]
      [.act (.transportEnded 0), .take, .take] (by simp)
    obtain ⟨left, pushed⟩ := push_zeros (use greedy ask (started []) .take) rfl rfl
    have failed : (List.foldl (use greedy ask) (started [])
        [.take, .act (.push 0 zeros)]).stage =
          .failed (.decode (.preludeChecksum 0 1696784233)) := by
      change (act greedy ask (use greedy ask (started []) .take) (.push 0 _)).stage = _
      rw [pushed]
      rfl
    obtain ⟨_, _, taking⟩ := settled (settles.trans (congrArg Stage.isDone failed))
    obtain ⟨result, due, same⟩ := taking fun front back parts some => by
      obtain rfl | rfl := front_of_pair parts some <;> rfl
    rw [failed] at due
    cases due
    exact same

end Flow

end FramedEvents
