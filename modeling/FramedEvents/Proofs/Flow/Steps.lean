/-
What a stream can do, one effect at a time.

Whatever is done to a stream, from outside or from inside its hooks, comes down
to a sequence of small steps: one entry in the log together with the change that
goes with it, and the condition under which it is made.
-/

import FramedEvents.Flow.Run
import Mathlib.Logic.Relation
import Mathlib.Algebra.GroupWithZero.Nat

namespace FramedEvents

open Relation

def Stage.signal {ε : Type} : Stage → EventSignal ε
  | .failed cause => .failed cause
  | _ => .completed

def Stage.report {ε ρ : Type} : Stage → Entry ε ρ
  | .failed cause => .failureReported cause
  | _ => .completionReported

theorem Stage.eq_running {stage : Stage} (going : stage.isDone = false) : stage = .running := by
  cases stage with
  | running => rfl
  | failed cause => cases going
  | completed => cases going

theorem Demand.isMet_add {demand : Demand} {count : Nat} (some : count ≠ 0) :
    (demand.add count).isMet = false := by
  have most : mostDemand ≠ 0 := by decide
  have positive : (demand.add count).outstanding ≠ 0 := by
    rw [Demand.outstanding_add]
    omega
  exact beq_eq_false_iff_ne.mpr positive

def Consumer.isStream : Consumer → Bool
  | .stranger => false
  | .stream _ _ => true

/-- What a transport knows of having been told to stop: how often, if it is used from
outside, and else only whether. -/
inductive Stops where
  | counted (times : Nat)
  | noticed (stopped : Bool)
  deriving DecidableEq

def Stops.add (times : Nat) : Stops → Stops
  | .counted before => .counted (before + times)
  | .noticed stopped => .noticed (stopped || times != 0)

theorem Stops.add_zero (stops : Stops) : stops.add 0 = stops := by
  cases stops with
  | counted before => rfl
  | noticed stopped => exact congrArg noticed (Bool.or_false stopped)

theorem Stops.add_add (stops : Stops) (first second : Nat) :
    (stops.add first).add second = stops.add (first + second) := by
  cases stops with
  | counted before => exact congrArg counted (Nat.add_assoc before first second)
  | noticed stopped =>
      apply congrArg noticed
      rw [Bool.or_assoc]
      congr 1
      rw [Bool.eq_iff_iff]
      simp
      omega

def Outlet.stops : Outlet → Stops
  | .manual _ cancelled => .counted cancelled
  | .pull delivery _ => .noticed delivery.cancelled

namespace Flow

variable {ε ρ ω σ : Type}

/-- Of each transport, whether somebody receives its chunks, and whether that is the
stream. -/
def receivers (flow : Flow ε ρ ω σ) : List (Option Bool) :=
  flow.transports.map fun transport => transport.consumer.map Consumer.isStream

def stops (flow : Flow ε ρ ω σ) : List Stops :=
  flow.transports.map fun transport => transport.outlet.stops

def Feeds (index : Nat) (flow : Flow ε ρ ω σ) : Prop := flow.receivers[index]? = some (some true)

/-- The transports are the ones of the stream after it has subscribed to one of them. -/
structure Joins (index : Nat) (transports : List Transport) (flow : Flow ε ρ ω σ) : Prop where
  free : flow.receivers[index]? = some none
  taken : ({ flow with transports := transports } : Flow ε ρ ω σ).receivers =
    flow.receivers.set index (some true)

/-- The stream after its subscriber has been given a signal, before the subscriber
does anything. -/
def informed (setup : Setup ε ω σ ρ) (given : EventSignal ε) (number : Nat) (state : σ)
    (flow : Flow ε ρ ω σ) : Flow ε ρ ω σ :=
  record (.signalled number given)
    { flow with subscriber := some (number, ((setup.subscribers number).react given state).state) }

/-! ### Steps -/

/-- A step that can also be made after the end, or on the way to it. -/
inductive QuietStep (setup : Setup ε ω σ ρ) : Flow ε ρ ω σ → Flow ε ρ ω σ → Prop where
  | captured {flow} (response : ρ) (free : flow.response = none) :
      QuietStep setup flow { flow with response := some response }
  | scripted {flow} (events : List (Event ρ)) (later : List (List (Event ρ)))
      (next : flow.interludes = events :: later) :
      QuietStep setup flow { flow with interludes := later }
  | carried {flow} (transports : List Transport)
      (same : ({ flow with transports := transports } : Flow ε ρ ω σ).receivers = flow.receivers)
      (kept : ({ flow with transports := transports } : Flow ε ρ ω σ).stops = flow.stops) :
      QuietStep setup flow { flow with transports := transports }
  | demanded {flow} (count : Nat) (counts : count ≠ 0) (wanted : flow.cancelled = false) :
      QuietStep setup flow
        (record (.demanded count) { flow with demand := flow.demand.add count })
  | stopped {flow} (wanted : flow.cancelled = false) (loose : flow.attachment = none)
      (reason : flow.subscriber.isSome = true ∨ ∃ index, Feeds index flow) :
      QuietStep setup flow (record .stopped { flow with cancelled := true })
  | halted {flow} (index : Nat) (transports : List Transport) (wanted : flow.cancelled = false)
      (held : flow.attachment = some index)
      (same : ({ flow with transports := transports } : Flow ε ρ ω σ).receivers = flow.receivers)
      (told : ({ flow with transports := transports } : Flow ε ρ ω σ).stops =
        flow.stops.modify index (Stops.add 1)) :
      QuietStep setup flow
        (record (.transportCancelled index)
          (record .stopped { flow with cancelled := true, transports := transports }))
  | declined {flow} (index first : Nat) (transports : List Transport)
      (held : flow.attachment = some first) (joins : Joins index transports flow)
      (told : ({ flow with transports := transports } : Flow ε ρ ω σ).stops =
        flow.stops.modify index (Stops.add 1)) :
      QuietStep setup flow
        (record (.transportCancelled index) { flow with transports := transports })
  | attached {flow} (index : Nat) (loose : flow.attachment = none) (transports : List Transport)
      (joins : Joins index transports flow)
      (kept : ({ flow with transports := transports } : Flow ε ρ ω σ).stops = flow.stops) :
      QuietStep setup flow
        (record .streamReady { flow with attachment := some index, transports := transports })
  | subscribed {flow} (number : Nat) (free : flow.subscriber = none)
      (held : flow.attachment.isSome = true) :
      QuietStep setup flow
        (informed setup .subscribed number (setup.subscribers number).start flow)
  | refused {flow} (number : Nat) (taken : flow.subscriber.isSome = true) :
      QuietStep setup flow (record (.refused number .alreadySubscribed) flow)
  | finished {flow} : QuietStep setup flow (record .chunkFinished { flow with chunkDue := false })
  | resolved {flow} (result : Except FlowError ω) (done : flow.stage.isDone = true) :
      QuietStep setup flow { flow with outcome := flow.outcome.resolve result }

abbrev QuietSteps (setup : Setup ε ω σ ρ) : Flow ε ρ ω σ → Flow ε ρ ω σ → Prop :=
  ReflTransGen (QuietStep setup)

/-- A step of a stream. All but the quiet ones are made only while it is running.
The end is one step, with whatever the subscriber does when it is told. -/
inductive Step (setup : Setup ε ω σ ρ) : Flow ε ρ ω σ → Flow ε ρ ω σ → Prop where
  | quiet {flow after} (step : QuietStep setup flow after) : Step setup flow after
  | asked {flow} (running : flow.stage = .running) (wanted : flow.cancelled = false)
      (held : flow.attachment.isSome = true) (free : flow.chunkDue = false)
      (unmet : flow.demand.isMet = false) :
      Step setup flow (record .chunkRequested { flow with chunkDue := true })
  | arrived {flow} (running : flow.stage = .running) (index : Nat) (bytes : Bytes) :
      Step setup flow (record (.chunkArrived index bytes) flow)
  | looked {flow} (running : flow.stage = .running) (kind : MessageKind) (other : kind ≠ .event) :
      Step setup flow (record (.looked kind) flow)
  | served {flow} (running : flow.stage = .running) :
      Step setup flow (record (.looked .event) { flow with demand := flow.demand.serve })
  | responded {flow} (running : flow.stage = .running) (response : ρ)
      (held : flow.response = some response) :
      Step setup flow (record (.responded response) { flow with response := none })
  | handed {flow} (running : flow.stage = .running) (event : ε) (number : Nat) (state : σ)
      (holder : flow.subscriber = some (number, state)) :
      Step setup flow (informed setup (.next event) number state flow)
  | endedAlone {flow} (running : flow.stage = .running) (final : Stage)
      (done : final.isDone = true) (nobody : flow.subscriber = none) :
      Step setup flow (record final.report { flow with stage := final })
  | endedTelling {flow told} (running : flow.stage = .running) (final : Stage)
      (done : final.isDone = true) (number : Nat) (state : σ)
      (holder : flow.subscriber = some (number, state))
      (hook : QuietSteps setup
        (informed setup final.signal number state { flow with stage := final }) told) :
      Step setup flow (record final.report told)

abbrev Steps (setup : Setup ε ω σ ρ) : Flow ε ρ ω σ → Flow ε ρ ω σ → Prop :=
  ReflTransGen (Step setup)

theorem QuietStep.stage {setup : Setup ε ω σ ρ} {flow after : Flow ε ρ ω σ}
    (step : QuietStep setup flow after) : after.stage = flow.stage := by
  cases step <;> rfl

theorem QuietSteps.stage {setup : Setup ε ω σ ρ} {flow after : Flow ε ρ ω σ}
    (steps : QuietSteps setup flow after) : after.stage = flow.stage := by
  induction steps with
  | refl => rfl
  | tail _ step ih => exact step.stage.trans ih

theorem Step.quiet_of_isDone {setup : Setup ε ω σ ρ} {flow after : Flow ε ρ ω σ}
    (step : Step setup flow after) (done : flow.stage.isDone = true) :
    QuietStep setup flow after := by
  have ended : flow.stage ≠ .running := by
    intro running
    rw [running] at done
    cases done
  cases step with
  | quiet step => exact step
  | asked running => exact absurd running ended
  | arrived running => exact absurd running ended
  | looked running => exact absurd running ended
  | served running => exact absurd running ended
  | responded running => exact absurd running ended
  | handed running => exact absurd running ended
  | endedAlone running => exact absurd running ended
  | endedTelling running => exact absurd running ended

theorem Steps.quiet_of_isDone {setup : Setup ε ω σ ρ} {flow after : Flow ε ρ ω σ}
    (steps : Steps setup flow after) (done : flow.stage.isDone = true) :
    QuietSteps setup flow after := by
  induction steps with
  | refl => exact .refl
  | tail _ step ih =>
      refine ih.tail (step.quiet_of_isDone ?_)
      rw [ih.stage]
      exact done

theorem QuietStep.once {setup : Setup ε ω σ ρ} {flow after : Flow ε ρ ω σ}
    (step : QuietStep setup flow after) : Steps setup flow after :=
  .single (.quiet step)

/-! ### What stays -/

theorem QuietStep.bound {setup : Setup ε ω σ ρ} {flow after : Flow ε ρ ω σ}
    (step : QuietStep setup flow after) (bound : flow.subscriber.isSome = true) :
    after.subscriber.isSome = true := by
  cases step with
  | subscribed number free => rfl
  | _ => exact bound

theorem Step.bound {setup : Setup ε ω σ ρ} {flow after : Flow ε ρ ω σ}
    (step : Step setup flow after) (bound : flow.subscriber.isSome = true) :
    after.subscriber.isSome = true := by
  cases step with
  | quiet step => exact step.bound bound
  | handed running event number state holder => rfl
  | @endedTelling told running final done number state holder hook =>
      change told.subscriber.isSome = true
      induction hook with
      | refl => rfl
      | tail _ step ih => exact step.bound ih
  | _ => exact bound

theorem Steps.bound {setup : Setup ε ω σ ρ} {flow after : Flow ε ρ ω σ}
    (steps : Steps setup flow after) (bound : flow.subscriber.isSome = true) :
    after.subscriber.isSome = true := by
  induction steps with
  | refl => exact bound
  | tail _ step ih => exact step.bound ih

theorem QuietStep.attachment {setup : Setup ε ω σ ρ} {flow after : Flow ε ρ ω σ}
    (step : QuietStep setup flow after) {index : Nat} (held : flow.attachment = some index) :
    after.attachment = some index := by
  cases step with
  | attached other loose =>
      rw [held] at loose
      cases loose
  | _ => exact held

theorem Step.attachment {setup : Setup ε ω σ ρ} {flow after : Flow ε ρ ω σ}
    (step : Step setup flow after) {index : Nat} (held : flow.attachment = some index) :
    after.attachment = some index := by
  cases step with
  | quiet step => exact step.attachment held
  | @endedTelling told running final done number state holder hook =>
      change told.attachment = some index
      induction hook with
      | refl => exact held
      | tail _ step ih => exact step.attachment ih
  | _ => exact held

theorem Steps.attachment {setup : Setup ε ω σ ρ} {flow after : Flow ε ρ ω σ}
    (steps : Steps setup flow after) {index : Nat} (held : flow.attachment = some index) :
    after.attachment = some index := by
  induction steps with
  | refl => exact held
  | tail _ step ih => exact step.attachment ih

theorem Joins.apart {flow : Flow ε ρ ω σ} {index other : Nat} {transports : List Transport}
    (joins : Joins other transports flow) (feeds : Feeds index flow) : other ≠ index := by
  rintro rfl
  cases joins.free.symm.trans feeds

theorem Joins.feeds {flow : Flow ε ρ ω σ} {index other : Nat} {transports : List Transport}
    (joins : Joins other transports flow) (feeds : Feeds index flow) :
    Feeds index { flow with transports := transports } := by
  unfold Feeds
  rw [joins.taken, List.getElem?_set_ne (joins.apart feeds)]
  exact feeds

theorem Joins.feeds_self {flow : Flow ε ρ ω σ} {index : Nat} {transports : List Transport}
    (joins : Joins index transports flow) : Feeds index { flow with transports := transports } := by
  obtain ⟨within, _⟩ := List.getElem?_eq_some_iff.mp joins.free
  unfold Feeds
  rw [joins.taken, List.getElem?_set_self within]

theorem QuietStep.feeds {setup : Setup ε ω σ ρ} {flow after : Flow ε ρ ω σ}
    (step : QuietStep setup flow after) {index : Nat} (feeds : Feeds index flow) :
    Feeds index after := by
  cases step with
  | carried transports same => exact (congrArg (·[index]?) same).trans feeds
  | halted other transports wanted held same => exact (congrArg (·[index]?) same).trans feeds
  | declined other first transports held joins => exact joins.feeds feeds
  | attached other loose transports joins => exact joins.feeds feeds
  | _ => exact feeds

theorem Step.feeds {setup : Setup ε ω σ ρ} {flow after : Flow ε ρ ω σ}
    (step : Step setup flow after) {index : Nat} (feeds : Feeds index flow) :
    Feeds index after := by
  cases step with
  | quiet step => exact step.feeds feeds
  | @endedTelling told running final done number state holder hook =>
      change Feeds index told
      induction hook with
      | refl => exact feeds
      | tail _ step ih => exact step.feeds ih
  | _ => exact feeds

theorem Steps.feeds {setup : Setup ε ω σ ρ} {flow after : Flow ε ρ ω σ}
    (steps : Steps setup flow after) {index : Nat} (feeds : Feeds index flow) :
    Feeds index after := by
  induction steps with
  | refl => exact feeds
  | tail _ step ih => exact step.feeds ih

/-! ### The end -/

variable {setup : Setup ε ω σ ρ} {ask : Ask ε ρ ω σ}

theorem signal_of_nobody (given : EventSignal ε) (flow : Flow ε ρ ω σ)
    (nobody : flow.subscriber = none) : signal setup ask given flow = (flow, none) := by
  unfold signal
  rw [nobody]

theorem nobody_or_holder (flow : Flow ε ρ ω σ) :
    flow.subscriber = none ∨ ∃ number state, flow.subscriber = some (number, state) := by
  cases flow.subscriber with
  | none => exact .inl rfl
  | some holder => exact .inr ⟨holder.1, holder.2, rfl⟩

/-- The stream after its subscriber and its handler have been told of the end. -/
def reported (setup : Setup ε ω σ ρ) (ask : Ask ε ρ ω σ) (final : Stage) (flow : Flow ε ρ ω σ) :
    Flow ε ρ ω σ :=
  record final.report (signal setup ask final.signal { flow with stage := final }).1

def resolve (result : Except FlowError ω) (flow : Flow ε ρ ω σ) : Flow ε ρ ω σ :=
  { flow with outcome := flow.outcome.resolve result }

theorem fail_of_running {flow : Flow ε ρ ω σ} (running : flow.stage = .running)
    (cause : FlowError) :
    fail setup ask cause flow =
      (ask.others (reported setup ask (.failed cause) flow)).resolve (.error cause) := by
  unfold fail
  rw [running]
  rfl

theorem complete_of_running {flow : Flow ε ρ ω σ} (running : flow.stage = .running) :
    complete setup ask flow =
      (setup.handler.result (reported setup ask .completed flow).given,
        ask.others (reported setup ask .completed flow)) := by
  unfold complete
  rw [running]
  rfl

theorem fail_of_isDone (setup : Setup ε ω σ ρ) (ask : Ask ε ρ ω σ) (cause : FlowError)
    {flow : Flow ε ρ ω σ} (done : flow.stage.isDone = true) : fail setup ask cause flow = flow := by
  unfold fail
  cases stage : flow.stage with
  | running =>
      rw [stage] at done
      cases done
  | failed first => rfl
  | completed => rfl

theorem complete_of_isDone (setup : Setup ε ω σ ρ) (ask : Ask ε ρ ω σ) {flow : Flow ε ρ ω σ}
    (done : flow.stage.isDone = true) :
    complete setup ask flow = (.error (flow.stage.failure?.getD .alreadyCompleted), flow) := by
  unfold complete
  cases stage : flow.stage with
  | running =>
      rw [stage] at done
      cases done
  | failed first => rfl
  | completed => rfl

theorem running_or_isDone (flow : Flow ε ρ ω σ) :
    flow.stage = .running ∨ flow.stage.isDone = true := by
  cases flow.stage with
  | running => exact .inl rfl
  | failed cause => exact .inr rfl
  | completed => exact .inr rfl

end Flow

end FramedEvents
