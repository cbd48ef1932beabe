/-
A stream ends once.

The log shows what its handler and its subscriber were called with. While the
stream is running, none of these calls is a final one. The end adds the final
calls, first the subscriber's and then the handler's, and from then on there is
nothing but introductions: the handler may be given the stream, and a subscriber
may be attached to it.
-/

import FramedEvents.Flow.Plan
import FramedEvents.Proofs.Flow.Laws

namespace FramedEvents

/-! ### Calls -/

namespace Entry

variable {ε ρ : Type}

def isCall : Entry ε ρ → Bool
  | .streamReady => true
  | .responded _ => true
  | .failureReported _ => true
  | .completionReported => true
  | .signalled _ _ => true
  | _ => false

def isFinal : Entry ε ρ → Bool
  | .failureReported _ => true
  | .completionReported => true
  | .signalled _ (.failed _) => true
  | .signalled _ .completed => true
  | _ => false

def isIntroduction : Entry ε ρ → Bool
  | .streamReady => true
  | .signalled _ .subscribed => true
  | _ => false

def attaches? : Entry ε ρ → Option Nat
  | .signalled number .subscribed => some number
  | _ => none

end Entry

def attached? {ε ρ : Type} (calls : List (Entry ε ρ)) : Option Nat :=
  calls.findSome? Entry.attaches?

namespace Flow

variable {ε ρ ω σ : Type}

/-- The calls on the handler and on the subscriber, earliest first. -/
def calls (flow : Flow ε ρ ω σ) : List (Entry ε ρ) := flow.log.reverse.filter Entry.isCall

theorem calls_record_call {entry : Entry ε ρ} (call : entry.isCall = true)
    (flow : Flow ε ρ ω σ) : (record entry flow).calls = flow.calls ++ [entry] := by
  unfold calls record
  rw [List.reverse_cons, List.filter_append, List.filter_cons_of_pos call, List.filter_nil]

theorem calls_record_other {entry : Entry ε ρ} (other : entry.isCall = false)
    (flow : Flow ε ρ ω σ) : (record entry flow).calls = flow.calls := by
  unfold calls record
  rw [List.reverse_cons, List.filter_append, List.filter_cons_of_neg (by rw [other]; simp),
    List.filter_nil, List.append_nil]

theorem calls_informed (setup : Setup ε ω σ ρ) (given : EventSignal ε) (number : Nat) (state : σ)
    (flow : Flow ε ρ ω σ) :
    (informed setup given number state flow).calls = flow.calls ++ [.signalled number given] :=
  calls_record_call rfl _

/-! ### Introductions -/

def Introduces (flow after : Flow ε ρ ω σ) : Prop :=
  ∃ more, after.calls = flow.calls ++ more ∧ ∀ call ∈ more, call.isIntroduction = true

theorem Introduces.of_same {flow after : Flow ε ρ ω σ} (same : after.calls = flow.calls) :
    Introduces flow after := by
  refine ⟨[], ?_, ?_⟩
  · rw [same, List.append_nil]
  · intro call member
    cases member

theorem Introduces.of_one {flow after : Flow ε ρ ω σ} {call : Entry ε ρ}
    (introduction : call.isIntroduction = true) (added : after.calls = flow.calls ++ [call]) :
    Introduces flow after := by
  refine ⟨[call], added, ?_⟩
  intro other member
  rw [List.mem_singleton] at member
  rw [member]
  exact introduction

theorem Introduces.trans {flow middle after : Flow ε ρ ω σ} (first : Introduces flow middle)
    (second : Introduces middle after) : Introduces flow after := by
  obtain ⟨more, added, introductions⟩ := first
  obtain ⟨further, addedToo, introductionsToo⟩ := second
  refine ⟨more ++ further, ?_, ?_⟩
  · rw [addedToo, added, List.append_assoc]
  · intro call member
    rcases List.mem_append.mp member with early | late
    · exact introductions call early
    · exact introductionsToo call late

theorem QuietStep.introduces {setup : Setup ε ω σ ρ} {flow after : Flow ε ρ ω σ}
    (step : QuietStep setup flow after) : Introduces flow after := by
  cases step with
  | captured response free => exact .of_same rfl
  | scripted events later next => exact .of_same rfl
  | carried transports => exact .of_same rfl
  | demanded count counts wanted => exact .of_same (calls_record_other rfl _)
  | stopped wanted loose => exact .of_same (calls_record_other rfl _)
  | halted index transports wanted held =>
      exact .of_same ((calls_record_other rfl _).trans (calls_record_other rfl _))
  | declined index first transports held => exact .of_same (calls_record_other rfl _)
  | attached index loose => exact .of_one rfl (calls_record_call rfl _)
  | subscribed number free => exact .of_one rfl (calls_informed setup _ number _ flow)
  | refused number taken => exact .of_same (calls_record_other rfl _)
  | finished => exact .of_same (calls_record_other rfl _)
  | resolved result done => exact .of_same rfl

theorem QuietSteps.introduces {setup : Setup ε ω σ ρ} {flow after : Flow ε ρ ω σ}
    (steps : QuietSteps setup flow after) : Introduces flow after := by
  induction steps with
  | refl => exact .of_same rfl
  | tail _ step ih => exact ih.trans step.introduces

/-! ### The subscriber in the calls -/

theorem attached?_append (calls more : List (Entry ε ρ)) :
    attached? (calls ++ more) = (attached? calls).or (attached? more) :=
  List.findSome?_append

def Known (flow : Flow ε ρ ω σ) : Prop := attached? flow.calls = flow.subscriber.map Prod.fst

theorem Known.of_same {flow after : Flow ε ρ ω σ} (known : Known flow)
    (calls : after.calls = flow.calls) (subscriber : after.subscriber = flow.subscriber) :
    Known after := by
  unfold Known
  rw [calls, subscriber]
  exact known

theorem Known.of_call {flow after : Flow ε ρ ω σ} {call : Entry ε ρ} (known : Known flow)
    (nobody : call.attaches? = none) (added : after.calls = flow.calls ++ [call])
    (subscriber : after.subscriber.map Prod.fst = flow.subscriber.map Prod.fst) :
    Known after := by
  have none : attached? [call] = none := by
    unfold attached?
    rw [List.findSome?_cons, nobody, List.findSome?_nil]
  unfold Known
  rw [added, attached?_append, none, Option.or_none, subscriber]
  exact known

theorem QuietStep.known {setup : Setup ε ω σ ρ} {flow after : Flow ε ρ ω σ}
    (step : QuietStep setup flow after) (known : Known flow) : Known after := by
  cases step with
  | captured response free => exact known
  | scripted events later next => exact known
  | carried transports => exact known
  | demanded count counts wanted => exact known.of_same (calls_record_other rfl _) rfl
  | stopped wanted loose => exact known.of_same (calls_record_other rfl _) rfl
  | halted index transports wanted held =>
      exact known.of_same ((calls_record_other rfl _).trans (calls_record_other rfl _)) rfl
  | declined index first transports held => exact known.of_same (calls_record_other rfl _) rfl
  | attached index loose => exact known.of_call rfl (calls_record_call rfl _) rfl
  | subscribed number free =>
      unfold Known at known ⊢
      rw [free, Option.map_none] at known
      rw [calls_informed, attached?_append, known]
      rfl
  | refused number taken => exact known.of_same (calls_record_other rfl _) rfl
  | finished => exact known.of_same (calls_record_other rfl _) rfl
  | resolved result done => exact known

theorem QuietSteps.known {setup : Setup ε ω σ ρ} {flow after : Flow ε ρ ω σ}
    (steps : QuietSteps setup flow after) (known : Known flow) : Known after := by
  induction steps with
  | refl => exact known
  | tail _ step ih => exact step.known ih

theorem Known.informed {setup : Setup ε ω σ ρ} {flow : Flow ε ρ ω σ} {given : EventSignal ε}
    {number : Nat} {state : σ} (known : Known flow)
    (nobody : (Entry.signalled number given : Entry ε ρ).attaches? = none)
    (holder : flow.subscriber = some (number, state)) :
    Known (Flow.informed setup given number state flow) := by
  refine known.of_call nobody (calls_informed setup given number state flow) ?_
  rw [holder]
  rfl

/-! ### One end -/

/-- The calls of a stream in a stage. Before the end there is no final call. The end
is one call on the handler, right behind one on the subscriber if there is one, and
only introductions follow, be it from inside the subscriber's hook or later. -/
inductive Orderly : Stage → List (Entry ε ρ) → Prop where
  | running {calls} (before : ∀ call ∈ calls, call.isFinal = false) : Orderly .running calls
  | endedAlone {calls after} (final : Stage) (done : final.isDone = true)
      (before : ∀ call ∈ calls, call.isFinal = false) (nobody : attached? calls = none)
      (introductions : ∀ call ∈ after, call.isIntroduction = true) :
      Orderly final (calls ++ final.report :: after)
  | endedTelling {calls during after} (final : Stage) (done : final.isDone = true)
      (before : ∀ call ∈ calls, call.isFinal = false) (number : Nat)
      (holder : attached? calls = some number)
      (inside : ∀ call ∈ during, call.isIntroduction = true)
      (introductions : ∀ call ∈ after, call.isIntroduction = true) :
      Orderly final
        (calls ++ .signalled number final.signal :: (during ++ final.report :: after))

theorem isFinal_of_isIntroduction {call : Entry ε ρ} (introduction : call.isIntroduction = true) :
    call.isFinal = false := by
  unfold Entry.isIntroduction at introduction
  split at introduction
  · rfl
  · rfl
  · cases introduction

theorem Orderly.append {stage : Stage} {calls more : List (Entry ε ρ)}
    (orderly : Orderly stage calls) (introductions : ∀ call ∈ more, call.isIntroduction = true) :
    Orderly stage (calls ++ more) := by
  have both {after : List (Entry ε ρ)} (earlier : ∀ call ∈ after, call.isIntroduction = true) :
      ∀ call ∈ after ++ more, call.isIntroduction = true := by
    intro call member
    rcases List.mem_append.mp member with early | late
    · exact earlier call early
    · exact introductions call late
  cases orderly with
  | running before =>
      refine .running ?_
      intro call member
      rcases List.mem_append.mp member with early | late
      · exact before call early
      · exact isFinal_of_isIntroduction (introductions call late)
  | endedAlone final done before nobody earlier =>
      rw [List.append_assoc, List.cons_append]
      exact .endedAlone stage done before nobody (both earlier)
  | endedTelling final done before number holder inside earlier =>
      rw [List.append_assoc, List.cons_append, List.append_assoc, List.cons_append]
      exact .endedTelling stage done before number holder inside (both earlier)

/-- What holds of a stream at any time, between any two steps. -/
structure Settled (flow : Flow ε ρ ω σ) : Prop where
  orderly : Orderly flow.stage flow.calls
  known : Known flow

theorem Settled.initial (transports : List Transport) (interludes : List (List (Event ρ))) :
    Settled ({ transports := transports, interludes := interludes } : Flow ε ρ ω σ) :=
  ⟨.running (by intro call member; cases member), rfl⟩

theorem Settled.before {flow : Flow ε ρ ω σ} (settled : Settled flow)
    (running : flow.stage = .running) : ∀ call ∈ flow.calls, call.isFinal = false := by
  have orderly := settled.orderly
  rw [running] at orderly
  generalize calls : flow.calls = made at orderly
  cases orderly with
  | running before => exact before
  | endedAlone final done => cases done
  | endedTelling final done => cases done

theorem Settled.of_same {flow after : Flow ε ρ ω σ} (settled : Settled flow)
    (calls : after.calls = flow.calls) (stage : after.stage = flow.stage)
    (subscriber : after.subscriber = flow.subscriber) : Settled after := by
  refine ⟨?_, settled.known.of_same calls subscriber⟩
  rw [stage, calls]
  exact settled.orderly

theorem Settled.of_call {flow after : Flow ε ρ ω σ} {call : Entry ε ρ} (settled : Settled flow)
    (running : flow.stage = .running) (goes : after.stage = .running) (known : Known after)
    (ordinary : call.isFinal = false) (added : after.calls = flow.calls ++ [call]) :
    Settled after := by
  refine ⟨?_, known⟩
  rw [goes, added]
  refine .running ?_
  intro other member
  rcases List.mem_append.mp member with early | late
  · exact settled.before running other early
  · rw [List.mem_singleton] at late
    rw [late]
    exact ordinary

theorem QuietStep.settled {setup : Setup ε ω σ ρ} {flow after : Flow ε ρ ω σ}
    (step : QuietStep setup flow after) (settled : Settled flow) : Settled after := by
  refine ⟨?_, step.known settled.known⟩
  obtain ⟨more, added, introductions⟩ := step.introduces
  rw [step.stage, added]
  exact settled.orderly.append introductions

theorem isCall_report (final : Stage) : (final.report : Entry ε ρ).isCall = true := by
  cases final <;> rfl

theorem attaches?_report (final : Stage) : (final.report : Entry ε ρ).attaches? = none := by
  cases final <;> rfl

theorem attaches?_signal (number : Nat) (final : Stage) :
    (Entry.signalled number final.signal : Entry ε ρ).attaches? = none := by
  cases final <;> rfl

theorem Settled.endAlone {flow : Flow ε ρ ω σ} (settled : Settled flow)
    (running : flow.stage = .running) (final : Stage) (done : final.isDone = true)
    (nobody : flow.subscriber = none) :
    Settled (record final.report { flow with stage := final }) := by
  have added := calls_record_call (isCall_report final) { flow with stage := final }
  refine ⟨?_, settled.known.of_call (attaches?_report final) added rfl⟩
  rw [added]
  refine .endedAlone final done (settled.before running) ?_ ?_
  · have known := settled.known
    unfold Known at known
    rw [nobody] at known
    exact known
  · intro call member
    cases member

theorem Settled.endTelling {setup : Setup ε ω σ ρ} {flow told : Flow ε ρ ω σ}
    (settled : Settled flow) (running : flow.stage = .running) (final : Stage)
    (done : final.isDone = true) {number : Nat} {state : σ}
    (holder : flow.subscriber = some (number, state))
    (hook : QuietSteps setup
      (informed setup final.signal number state { flow with stage := final }) told) :
    Settled (record final.report told) := by
  have ended : Known { flow with stage := final } := settled.known
  have telling : Known (informed setup final.signal number state { flow with stage := final }) :=
    ended.informed (attaches?_signal number final) holder
  have added := calls_record_call (isCall_report final) told
  refine ⟨?_, (hook.known telling).of_call (attaches?_report final) added rfl⟩
  obtain ⟨during, inside, introductions⟩ := hook.introduces
  have stage : (record final.report told).stage = final := hook.stage
  have calls : (record final.report told).calls =
      flow.calls ++ .signalled number final.signal :: (during ++ [final.report]) := by
    rw [added, inside, calls_informed, List.append_assoc, List.append_assoc]
    rfl
  rw [stage, calls]
  refine .endedTelling final done (settled.before running) number ?_ introductions ?_
  · have known := settled.known
    unfold Known at known
    rw [holder] at known
    exact known
  · intro call member
    cases member

theorem Step.settled {setup : Setup ε ω σ ρ} {flow after : Flow ε ρ ω σ}
    (step : Step setup flow after) (settled : Settled flow) : Settled after := by
  cases step with
  | quiet step => exact step.settled settled
  | asked running wanted held free unmet => exact settled.of_same (calls_record_other rfl _) rfl rfl
  | arrived running index bytes => exact settled.of_same (calls_record_other rfl _) rfl rfl
  | looked running kind other => exact settled.of_same (calls_record_other rfl _) rfl rfl
  | served running => exact settled.of_same (calls_record_other rfl _) rfl rfl
  | responded running response held =>
      have added : (record (.responded response) { flow with response := none }).calls =
          flow.calls ++ [.responded response] := calls_record_call rfl _
      exact settled.of_call running running (settled.known.of_call rfl added rfl) rfl added
  | handed running event number state holder =>
      exact settled.of_call running running (settled.known.informed rfl holder) rfl
        (calls_informed setup _ number state flow)
  | endedAlone running final done nobody => exact settled.endAlone running final done nobody
  | endedTelling running final done number state holder hook =>
      exact settled.endTelling running final done holder hook

theorem Steps.settled {setup : Setup ε ω σ ρ} {flow after : Flow ε ρ ω σ}
    (steps : Steps setup flow after) (settled : Settled flow) : Settled after := by
  induction steps with
  | refl => exact settled
  | tail _ step ih => exact step.settled ih

/-- A stream ends at most once, whatever is done to it, in whatever order, be it from
outside or from inside the hooks it calls. There are final calls only at the end:
the subscriber's if it has one, even if it refuses, and behind it the handler's.
Once it has ended it stays so: nobody is called but to be introduced, a failure
changes nothing, and a completion is answered with how the stream ended. -/
theorem run_ends_once (setup : Setup ε ω σ ρ) (transports : List Transport)
    (interludes : List (List (Event ρ))) (history later : List (Event ρ)) :
    let flow := run setup { transports := transports, interludes := interludes } history
    let after := run setup flow later
    Orderly flow.stage flow.calls ∧
      (flow.stage.isDone = true →
        after.stage = flow.stage ∧ Introduces flow after ∧
        ∀ ask : Ask ε ρ ω σ,
          (∀ cause, fail setup ask cause flow = flow) ∧
          complete setup ask flow =
            (.error (flow.stage.failure?.getD .alreadyCompleted), flow)) := by
  intro flow after
  have settled : Settled flow :=
    (run_steps _ history).settled (Settled.initial transports interludes)
  refine ⟨settled.orderly, ?_⟩
  intro done
  have quiet : QuietSteps setup flow after := (run_steps flow later).quiet_of_isDone done
  refine ⟨quiet.stage, quiet.introduces, ?_⟩
  intro ask
  exact ⟨fun cause => fail_of_isDone setup ask cause done, complete_of_isDone setup ask done⟩

private def reluctant : Setup String Nat Nat where
  readEvent := fun _ _ => .ok "event"
  subscribers := fun _ => Plan.eventSubscriber { refusesEnd := true }
  handler := { onStream := [0], result := fun given => .ok given.length }

/-- A stream that is failed from inside the hook in which it is handed over, with a
subscriber that refuses to hear of it. -/
theorem run_ends_once_inside_hook :
    let flow : Flow String String Nat Nat := run reluctant
      { transports := [⟨.idle, none⟩], interludes := [[], [.fail .noSubscriber]] } [.attach true 0]
    flow.stage.isDone = true ∧
      complete reluctant (ask reluctant) flow = (.error .noSubscriber, flow) := by
  intro flow
  have done : flow.stage.isDone = true := by decide
  obtain ⟨_, ended⟩ := run_ends_once reluctant [⟨.idle, none⟩] [[], [.fail .noSubscriber]]
    [.attach true 0] ([] : List (Event String))
  obtain ⟨_, _, refused⟩ := ended done
  exact ⟨done, (refused (ask reluctant)).2⟩

end Flow

end FramedEvents
