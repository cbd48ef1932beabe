/-
Streams that are polled past the end.

The end is told to whoever is the subscriber at that moment. A stream of events that was
obtained before is told of it, so whoever polls it afterwards gets the events that are left,
then the failure, and then that it is finished, and never has to wait unless a receive from
the channel fails spuriously. A subscriber may be attached at any time, but one that comes
after the end is told nothing, neither events nor the end: whoever polls a stream that is
obtained then waits forever.
-/

import FramedEvents.Proofs.Flow.Polling
import Mathlib.Tactic.ByContra
import Mathlib.Data.List.TakeWhile

namespace FramedEvents

variable {ε ρ ω σ : Type}

/-! ### The calls before the end -/

section

variable {calls more : List (Entry ε ρ)} {stage : Stage} {number : Nat}

def beforeEnd (calls : List (Entry ε ρ)) : List (Entry ε ρ) :=
  calls.takeWhile fun call => !call.isFinal

def Acquainted (calls : List (Entry ε ρ)) : Prop :=
  ∀ front, front <+: calls → attached? front = none → signals front = []

theorem beforeEnd_append (before : ∀ call ∈ calls, call.isFinal = false) {final : Entry ε ρ}
    (ends : final.isFinal = true) (rest : List (Entry ε ρ)) :
    beforeEnd (calls ++ final :: rest) = calls := by
  unfold beforeEnd
  rw [List.takeWhile_append_of_pos fun call member => by rw [before call member]; rfl,
    List.takeWhile_cons_of_neg (by rw [ends]; exact Bool.false_ne_true), List.append_nil]

theorem beforeEnd_eq_self (before : ∀ call ∈ calls, call.isFinal = false) :
    beforeEnd calls = calls := by
  apply List.takeWhile_eq_self_iff.mpr
  intro call member
  rw [before call member]
  rfl

theorem filterMap_of_introductions {α : Type} {read : Entry ε ρ → Option α}
    (deaf : ∀ call, call.isIntroduction = true → read call = none)
    (introductions : ∀ call ∈ calls, call.isIntroduction = true) : calls.filterMap read = [] :=
  List.filterMap_eq_nil_iff.mpr fun call member => deaf call (introductions call member)

theorem Entry.signal?_of_isIntroduction (call : Entry ε ρ)
    (introduction : call.isIntroduction = true) : call.signal? = none := by
  unfold Entry.isIntroduction at introduction
  split at introduction
  · rfl
  · rfl
  · cases introduction

theorem signals_of_introductions (introductions : ∀ call ∈ calls, call.isIntroduction = true) :
    signals calls = [] :=
  filterMap_of_introductions Entry.signal?_of_isIntroduction introductions

theorem events_of_introductions (introductions : ∀ call ∈ calls, call.isIntroduction = true) :
    events calls = [] := by
  refine filterMap_of_introductions ?_ introductions
  intro call introduction
  unfold Entry.isIntroduction at introduction
  split at introduction
  · rfl
  · rfl
  · cases introduction

theorem failureIn_of_introductions (introductions : ∀ call ∈ calls, call.isIntroduction = true) :
    failureIn calls = none :=
  failureIn_of_unended fun call member =>
    Flow.isFinal_of_isIntroduction (introductions call member)

theorem Acquainted.append (acquainted : Acquainted calls)
    (heard : attached? calls = none → signals more = []) : Acquainted (calls ++ more) := by
  intro front within nobody
  rcases List.prefix_or_prefix_of_prefix within (List.prefix_append calls more) with early | late
  · exact acquainted front early nobody
  · obtain ⟨middle, rfl⟩ := late
    have part : middle <+: more := (List.prefix_append_right_inj calls).mp within
    rw [Flow.attached?_append, Option.or_eq_none_iff] at nobody
    have silent : signals middle <+: signals more := part.filterMap _
    rw [heard nobody.1, List.prefix_nil] at silent
    rw [signals_append, acquainted calls List.prefix_rfl nobody.1, silent, List.append_nil]

end

namespace Flow

theorem Orderly.told {stage : Stage} {calls : List (Entry ε ρ)} (orderly : Orderly stage calls)
    (done : stage.isDone = true) {number : Nat}
    (early : attached? (beforeEnd calls) = some number) :
    failureIn calls = stage.failure? ∧ Concluded calls := by
  cases orderly with
  | running before => cases done
  | endedAlone _ done before nobody introductions =>
      rw [beforeEnd_append before (by cases stage <;> rfl)] at early
      cases nobody.symm.trans early
  | @endedTelling calls during after _ done before other holder inside introductions =>
      have given := signals_of_unended before
      have none := failureIn_of_unended before
      have shape : calls ++ .signalled other stage.signal :: (during ++ stage.report :: after) =
          calls ++ ([.signalled other stage.signal] ++ (during ++ ([stage.report] ++ after))) := rfl
      have signalled : signals (calls ++ .signalled other stage.signal ::
          (during ++ stage.report :: after)) = signals calls ++ [stage.signal] := by
        rw [shape, signals_append, signals_append, signals_append, signals_append,
          signals_of_introductions inside, signals_of_introductions introductions]
        cases stage <;> rfl
      have handed : events (calls ++ .signalled other stage.signal ::
          (during ++ stage.report :: after)) = events calls := by
        rw [shape, Listener.events_append, Listener.events_append, Listener.events_append,
          Listener.events_append,
          events_of_introductions inside, events_of_introductions introductions]
        cases stage <;> exact List.append_nil _
      have failed : failureIn (calls ++ .signalled other stage.signal ::
          (during ++ stage.report :: after)) = stage.failure? := by
        rw [shape, failureIn_append, failureIn_append, failureIn_append, failureIn_append, none,
          failureIn_of_introductions inside, failureIn_of_introductions introductions]
        cases stage <;> rfl
      refine ⟨failed, ?_⟩
      unfold Concluded
      rw [signalled, handed, failed, given]
      cases stage with
      | running => cases done
      | failed cause => rfl
      | completed => rfl

theorem Orderly.untold {stage : Stage} {calls : List (Entry ε ρ)} (orderly : Orderly stage calls)
    (acquainted : Acquainted calls) (late : attached? (beforeEnd calls) = none) :
    signals calls = [] := by
  cases orderly with
  | running before =>
      rw [beforeEnd_eq_self before] at late
      exact acquainted calls List.prefix_rfl late
  | @endedAlone calls after _ done before nobody introductions =>
      have ends : (stage.report : Entry ε ρ).signal? = none := by cases stage <;> rfl
      rw [signals_append, acquainted calls (List.prefix_append _ _) nobody, List.nil_append]
      unfold signals
      rw [List.filterMap_cons_none ends]
      exact signals_of_introductions introductions
  | endedTelling _ done before number holder inside introductions =>
      rw [beforeEnd_append before (by cases stage <;> rfl), holder] at late
      cases late

/-! ### Steps -/

section

variable {setup : Setup ε ω σ ρ} {flow after : Flow ε ρ ω σ}

theorem calls_of_log {notes : List (Entry ε ρ)} (log : after.log = notes ++ flow.log) :
    after.calls = flow.calls ++ callsIn notes := by
  unfold Flow.calls
  rw [log]
  exact callsIn_append notes flow.log

theorem Step.acquainted (step : Step setup flow after) (known : Known flow)
    (acquainted : Acquainted flow.calls) : Acquainted after.calls := by
  have same (other : after.calls = flow.calls) : Acquainted after.calls := by
    rw [other]
    exact acquainted
  have mute {call : Entry ε ρ} (deaf : call.signal? = none)
      (added : after.calls = flow.calls ++ [call]) : Acquainted after.calls := by
    rw [added]
    refine acquainted.append fun _ => ?_
    unfold signals
    rw [List.filterMap_cons_none deaf, List.filterMap_nil]
  -- Whoever is given a signal has been attached.
  have given {number : Nat} {state : σ} (holder : flow.subscriber = some (number, state)) :
      Acquainted after.calls := by
    obtain ⟨notes, log⟩ := step.grows
    rw [calls_of_log log.symm]
    refine acquainted.append fun nobody => ?_
    unfold Known at known
    rw [nobody, holder] at known
    cases known
  cases step with
  | quiet step =>
      obtain ⟨more, added, introductions⟩ := step.introduces
      rw [added]
      exact acquainted.append fun _ => signals_of_introductions introductions
  | asked running wanted held free unmet => exact same (calls_record_other rfl _)
  | arrived running index bytes => exact same (calls_record_other rfl _)
  | looked running kind other => exact same (calls_record_other rfl _)
  | served running => exact same (calls_record_other rfl _)
  | responded running response held => exact mute rfl (calls_record_call rfl _)
  | handed running event number state holder => exact given holder
  | endedAlone running final done nobody =>
      exact mute (by cases final <;> rfl)
        (calls_record_call (isCall_report final) { flow with stage := final })
  | endedTelling running final done number state holder hook => exact given holder

theorem Steps.acquainted (steps : Steps setup flow after) (settled : Settled flow)
    (acquainted : Acquainted flow.calls) : Acquainted after.calls := by
  induction steps with
  | refl => exact acquainted
  | tail earlier step ih => exact step.acquainted (Steps.settled earlier settled).known ih

theorem Steps.number (steps : Steps setup flow after) (settled : Settled flow) {number : Nat}
    (holder : flow.subscriber.map Prod.fst = some number) :
    after.subscriber.map Prod.fst = some number := by
  have before : attached? flow.calls = some number := settled.known.trans holder
  have known : attached? after.calls = after.subscriber.map Prod.fst :=
    (steps.settled settled).known
  obtain ⟨notes, log⟩ := steps.grows
  rw [calls_of_log log.symm, attached?_append, before] at known
  exact known.symm

end

/-! ### Streams that are obtained -/

open EventStream

variable {κ : Type} [Mailbox ε κ] {setup : Setup ε ω κ ρ} {flow after : Flow ε ρ ω κ}
  {taken : List (EventSignal ε)} {number : Nat}

theorem Step.joins (documented : Mailbox.Documented κ)
    (channel : setup.subscribers number = Mailbox.subscriber)
    (step : Step setup flow after) (nobody : flow.subscriber = none)
    (silent : signals flow.calls = []) {state : κ}
    (holder : after.subscriber = some (number, state)) : Queued number [] after := by
  have nowhere (same : after.subscriber = flow.subscriber) : Queued number [] after := by
    rw [same, nobody] at holder
    cases holder
  cases step with
  | quiet step =>
      cases step with
      | subscribed other free held =>
          obtain ⟨rfl, _⟩ := Prod.mk.inj (Option.some.inj holder)
          obtain ⟨empty, usable⟩ := documented.fresh
          have start : (informed setup .subscribed other (setup.subscribers other).start
              flow).subscriber = some (other, Mailbox.fresh) := by
            change some (other, ((setup.subscribers other).react .subscribed _).state) = _
            rw [channel]
            rfl
          refine .of_holder start usable ?_
          rw [calls_informed, signals_append, silent, empty]
          rfl
      | _ => exact nowhere rfl
  | handed running event other state given =>
      rw [nobody] at given
      cases given
  | endedTelling running final done other state given hook =>
      rw [nobody] at given
      cases given
  | _ => exact nowhere rfl

theorem Steps.joins (documented : Mailbox.Documented κ)
    (channel : setup.subscribers number = Mailbox.subscriber)
    (steps : Steps setup flow after) (settled : Settled flow) (acquainted : Acquainted flow.calls)
    (nobody : flow.subscriber = none) {state : κ}
    (holder : after.subscriber = some (number, state)) : Queued number [] after := by
  induction steps generalizing state with
  | refl =>
      rw [nobody] at holder
      cases holder
  | @tail middle after earlier step ih =>
      have between : Settled middle := Steps.settled earlier settled
      rcases nobody_or_holder middle with free | ⟨other, held, taken⟩
      · have unknown : attached? middle.calls = none := by
          rw [between.known, free]
          rfl
        have silent : signals middle.calls = [] :=
          Steps.acquainted earlier settled acquainted _ List.prefix_rfl unknown
        exact step.joins documented channel free silent holder
      · have same : after.subscriber.map Prod.fst = some other := by
          refine Steps.number (.single step) between ?_
          rw [taken]
          rfl
        rw [holder] at same
        obtain rfl := Option.some.inj same
        exact step.queued documented channel (ih taken)

end Flow

/-! ### Polls among other things -/

namespace EventStream

/-- What happens to a stream that is polled by somebody. -/
inductive Occasion (ρ : Type) where
  | act (event : Flow.Event ρ)
  | poll

def Occasion.isPoll : Occasion ρ → Bool
  | .act _ => false
  | .poll => true

/-- Whether the stream has been obtained, which makes it the subscriber. -/
def obtained (flow : Flow ε ρ ω σ) : Bool := flow.subscriber.map Prod.fst == some subscriber

/-- What the polls among these occasions answer, and what becomes of the stream. Nobody
can poll a stream before it has been obtained. -/
def occur {κ : Type} [Mailbox ε κ] (setup : Setup ε ω κ ρ) : EventStream → Flow ε ρ ω κ →
    List (Occasion ρ) → List (Polled ε) × EventStream × Flow ε ρ ω κ
  | stream, flow, [] => ([], stream, flow)
  | stream, flow, .act event :: later => occur setup stream (flow.step setup event) later
  | stream, flow, .poll :: later =>
      if obtained flow then
        let polled := poll setup stream flow
        let rest := occur setup polled.2.1 polled.2.2 later
        (polled.1 :: rest.1, rest.2)
      else occur setup stream flow later

open FramedEvents.Flow

section

variable {setup : Setup ε ω σ ρ} {flow middle after : Flow ε ρ ω σ}

theorem obtained_iff : obtained flow = true ↔ flow.subscriber.map Prod.fst = some subscriber :=
  beq_iff_eq

def Turned (flow after : Flow ε ρ ω σ) : Prop :=
  ∃ box : σ, after = { flow with subscriber := some (subscriber, box) }

theorem Turned.obtained (turned : Turned flow after) : obtained after = true := by
  obtain ⟨box, rfl⟩ := turned
  exact obtained_iff.mpr rfl

theorem Turned.calls (turned : Turned flow after) : after.calls = flow.calls := by
  obtain ⟨box, rfl⟩ := turned
  rfl

/-- What a poll does: something may be received, then steps are made, and then something may
be received again. -/
def Passes (setup : Setup ε ω σ ρ) (flow after : Flow ε ρ ω σ) : Prop :=
  ∃ first last, Turned flow first ∧ Steps setup first last ∧ Turned last after

theorem Passes.obtained (passes : Passes setup flow after) : obtained after = true := by
  obtain ⟨first, last, _, _, turned⟩ := passes
  exact turned.obtained

theorem Turned.settled (turned : Turned flow after) (settled : Settled flow)
    (here : EventStream.obtained flow = true) : Settled after := by
  obtain ⟨box, rfl⟩ := turned
  obtain ⟨⟨number, held⟩, holder, rfl⟩ := Option.map_eq_some_iff.mp (obtained_iff.mp here)
  exact settled.turn holder box

theorem Passes.settled (passes : Passes setup flow after) (settled : Settled flow)
    (here : EventStream.obtained flow = true) : Settled after := by
  obtain ⟨first, last, received, steps, turned⟩ := passes
  have before : Settled first := received.settled settled here
  refine turned.settled (steps.settled before) ?_
  exact obtained_iff.mpr (steps.number before (obtained_iff.mp received.obtained))

theorem Passes.acquainted (passes : Passes setup flow after) (settled : Settled flow)
    (here : EventStream.obtained flow = true) (acquainted : Acquainted flow.calls) :
    Acquainted after.calls := by
  obtain ⟨first, last, received, steps, turned⟩ := passes
  rw [turned.calls]
  rw [← received.calls] at acquainted
  exact steps.acquainted (received.settled settled here) acquainted

/-- The stream has ended, and it goes on in the same stage. At most somebody is introduced. -/
structure Outlasts (flow after : Flow ε ρ ω σ) : Prop where
  stage : after.stage = flow.stage
  introduces : Introduces flow after

theorem Outlasts.trans (earlier : Outlasts flow middle)
    (later : Outlasts middle after) : Outlasts flow after :=
  ⟨later.stage.trans earlier.stage, earlier.introduces.trans later.introduces⟩

theorem Outlasts.of_steps (steps : Steps setup flow after) (done : flow.stage.isDone = true) :
    Outlasts flow after :=
  ⟨(steps.quiet_of_isDone done).stage, (steps.quiet_of_isDone done).introduces⟩

theorem Outlasts.reads (outlasts : Outlasts flow after) :
    signals after.calls = signals flow.calls ∧ events after.calls = events flow.calls ∧
      failureIn after.calls = failureIn flow.calls := by
  obtain ⟨more, added, introductions⟩ := outlasts.introduces
  rw [added, signals_append, signals_of_introductions introductions, Listener.events_append,
    events_of_introductions introductions, failureIn_append,
    failureIn_of_introductions introductions, List.append_nil, List.append_nil, Option.or_none]
  exact ⟨rfl, rfl, rfl⟩

theorem Outlasts.concluded (outlasts : Outlasts flow after) (concluded : Concluded flow.calls) :
    Concluded after.calls := by
  obtain ⟨given, handed, failed⟩ := outlasts.reads
  unfold Concluded
  rw [given, handed, failed]
  exact concluded

theorem Passes.outlasts (passes : Passes setup flow after) (done : flow.stage.isDone = true) :
    Outlasts flow after := by
  obtain ⟨first, last, ⟨box, rfl⟩, steps, ⟨boxToo, rfl⟩⟩ := passes
  obtain ⟨stage, introduces⟩ := Outlasts.of_steps steps done
  exact ⟨stage, introduces⟩

end

variable {κ : Type} [Mailbox ε κ] {setup : Setup ε ω κ ρ} {flow middle after : Flow ε ρ ω κ}
  {stream : EventStream} {taken waiting : List (EventSignal ε)} {signal : EventSignal ε}
  {extra : Nat} {answers : List (Polled ε)}

/-- These signals have been taken out of the queue and answered, and after the last one so
many polls more. -/
structure Fetching (taken : List (EventSignal ε)) (extra : Nat) (answers : List (Polled ε))
    (stream : EventStream) (flow : Flow ε ρ ω κ) : Prop where
  queued : Queued subscriber taken flow
  answered : answers.filter Polled.isAnswer =
    taken.map EventSignal.polled ++ List.replicate extra .finished
  going : stream.done = false → extra = 0 ∧ ∀ signal ∈ taken, ∃ event, signal = .next event
  ended : stream.done = true → ∃ signal ∈ taken, ∀ event, signal ≠ .next event

theorem Turned.of_queued (queued : Queued subscriber taken flow) : Turned flow flow := by
  obtain ⟨box, holder, _⟩ := queued.holder
  exact ⟨box, by rw [← holder]⟩

theorem isAnswer_polled (signal : EventSignal ε) : signal.polled.isAnswer = true := by
  cases signal <;> rfl

/-- A signal is taken, or nothing is. It may only be that nothing is although there is
something if receives fail spuriously. -/
theorem Fetching.fetch (documented : Mailbox.Documented κ)
    (fetching : Fetching taken extra answers stream flow) (going : stream.done = false) :
    ∃ after : Flow ε ρ ω κ, Turned flow after ∧
      (EventStream.fetch flow = (none, after) ∧ Fetching taken extra answers stream after ∧
          (Mailbox.Prompt κ → queue flow = []) ∨
        ∃ signal, EventStream.fetch flow = (some (some signal), after) ∧
          Fetching (taken ++ [signal]) 0 (answers ++ [(stream.yielded (some signal)).1])
            (stream.yielded (some signal)).2 after) := by
  obtain ⟨box, usable, received⟩ := fetching.queued.fetch documented
  let after : Flow ε ρ ω κ := { flow with subscriber := some (subscriber, box) }
  have holder : after.subscriber = some (subscriber, box) := rfl
  refine ⟨after, ⟨box, rfl⟩, ?_⟩
  rcases received with ⟨fetched, kept, empty⟩ | ⟨signal, fetched, first⟩
  · refine .inl ⟨fetched, ⟨?_, fetching.answered, fetching.going, fetching.ended⟩, empty⟩
    refine .of_holder holder usable ?_
    rw [kept]
    exact fetching.queued.order
  · obtain ⟨none, events⟩ := fetching.going going
    have reply : (stream.yielded (some signal)).1 = signal.polled := by cases signal <;> rfl
    refine .inr ⟨signal, fetched, ?_, ?_, ?_, ?_⟩
    · refine .of_holder holder usable ?_
      rw [List.append_assoc]
      exact fetching.queued.order.trans (congrArg _ first)
    · rw [List.filter_append, fetching.answered, none, reply,
        List.filter_cons_of_pos (isAnswer_polled signal), List.map_append]
      simp
    · intro still
      refine ⟨rfl, List.forall_mem_append.mpr ⟨events, List.forall_mem_singleton.mpr ?_⟩⟩
      cases signal with
      | next event => exact ⟨event, rfl⟩
      | _ => cases still
    · intro finished
      refine ⟨signal, List.mem_append_right _ (List.mem_singleton_self signal), ?_⟩
      rintro event rfl
      cases going.symm.trans finished

theorem Fetching.pend (fetching : Fetching taken extra answers stream flow) :
    Fetching taken extra (answers ++ [.pending]) stream flow := by
  obtain ⟨queued, answered, going, ended⟩ := fetching
  refine ⟨queued, ?_, going, ended⟩
  rw [List.filter_append, answered]
  exact List.append_nil _

theorem Fetching.steps (documented : Mailbox.Documented κ)
    (channel : setup.subscribers subscriber = Mailbox.subscriber)
    (fetching : Fetching taken extra answers stream flow) (steps : Steps setup flow after)
    (awaiting : Bool) :
    Fetching taken extra answers { stream with awaiting := awaiting } after :=
  ⟨steps.queued documented channel fetching.queued, fetching.answered, fetching.going,
    fetching.ended⟩

/-- A poll takes a signal out of the queue. If it does not receive any, the stream is asked
for an event first. -/
theorem Fetching.poll (documented : Mailbox.Documented κ)
    (channel : setup.subscribers subscriber = Mailbox.subscriber)
    (fetching : Fetching taken extra answers stream flow) :
    let polled := EventStream.poll setup stream flow
    Passes setup flow polled.2.2 ∧
      ∃ taken extra, Fetching taken extra (answers ++ [polled.1]) polled.2.1 polled.2.2 := by
  have turned := Turned.of_queued fetching.queued
  unfold EventStream.poll
  by_cases done : stream.done = true
  · rw [if_pos done]
    refine ⟨⟨flow, flow, turned, .refl, turned⟩, taken, extra + 1, fetching.queued, ?_, ?_,
      fetching.ended⟩
    · rw [List.filter_append, fetching.answered, List.replicate_succ', ← List.append_assoc]
      rfl
    · intro going
      cases done.symm.trans going
  · rw [if_neg done]
    have going : stream.done = false := Bool.eq_false_iff.mpr done
    obtain ⟨after, received, ⟨fetched, idle, _⟩ | ⟨signal, fetched, next⟩⟩ :=
      fetching.fetch documented going
    · rw [fetched]
      dsimp only
      by_cases expected : stream.awaiting = true
      · rw [if_pos expected]
        exact ⟨⟨after, after, received, .refl, .of_queued idle.queued⟩, taken, extra, idle.pend⟩
      · rw [if_neg expected]
        have steps : Steps setup after (after.requestOutside setup 1) :=
          request_steps setup 1 idle.queued.subscribed
        obtain ⟨last, receivedLater, ⟨fetched, idle, _⟩ | ⟨signal, fetched, next⟩⟩ :=
          (idle.steps documented channel steps true).fetch documented going
        · rw [fetched]
          exact ⟨⟨after, _, received, steps, receivedLater⟩, taken, extra, idle.pend⟩
        · rw [fetched]
          exact ⟨⟨after, _, received, steps, receivedLater⟩, taken ++ [signal], 0, next⟩
    · rw [fetched]
      exact ⟨⟨after, after, received, .refl, .of_queued next.queued⟩, taken ++ [signal], 0, next⟩

theorem Fetching.exhausted (fetching : Fetching taken extra answers stream flow)
    (concluded : Concluded flow.calls) (done : stream.done = true) : queue flow = [] := by
  by_contra waiting
  obtain ⟨signal, member, last⟩ := fetching.ended done
  have whole : taken ++ (queue flow).dropLast = (events flow.calls).map .next := by
    have order := fetching.queued.order
    rw [concluded] at order
    rw [← List.dropLast_append_of_ne_nil waiting, ← order, List.dropLast_concat]
  have early : signal ∈ (events flow.calls).map EventSignal.next := by
    rw [← whole]
    exact List.mem_append_left _ member
  obtain ⟨event, _, same⟩ := List.mem_map.mp early
  exact last event same.symm

theorem Fetching.stocked (fetching : Fetching taken extra answers stream flow)
    (concluded : Concluded flow.calls) (going : stream.done = false) : queue flow ≠ [] := by
  intro empty
  have order := fetching.queued.order
  rw [concluded, empty, List.append_nil] at order
  have member : EventSignal.last (failureIn flow.calls) ∈ taken := by
    rw [← order]
    exact List.mem_append_right _ (List.mem_singleton_self _)
  obtain ⟨event, same⟩ := (fetching.going going).2 _ member
  exact EventSignal.last_ne_next _ event same

theorem Fetching.prompt (documented : Mailbox.Documented κ) (prompt : Mailbox.Prompt κ)
    (setup : Setup ε ω κ ρ) (fetching : Fetching taken extra answers stream flow)
    (concluded : Concluded flow.calls) :
    (EventStream.poll setup stream flow).1 ≠ .pending := by
  unfold EventStream.poll
  cases done : stream.done with
  | true => exact nofun
  | false =>
      obtain ⟨after, _, ⟨_, _, empty⟩ | ⟨signal, fetched, _⟩⟩ := fetching.fetch documented done
      · exact absurd (empty prompt) (fetching.stocked concluded done)
      · rw [if_neg Bool.false_ne_true, fetched]
        cases signal <;> exact nofun

theorem Fetching.replies (fetching : Fetching taken extra answers stream flow)
    (concluded : Concluded flow.calls) :
    let fetched := answers.filter Polled.isAnswer
    fetched = (List.range fetched.length).map fun index =>
      (FramedEvents.replies flow.calls)[index]?.getD .finished := by
  intro fetched
  have same : fetched = taken.map EventSignal.polled ++ List.replicate extra .finished :=
    fetching.answered
  apply List.ext_getElem
  · rw [List.length_map, List.length_range]
  · intro index within inside
    rw [List.getElem_map, List.getElem_range]
    by_cases early : index < taken.length
    · have here : (signals flow.calls)[index]? = some taken[index] := by
        rw [fetching.queued.order, List.getElem?_append_left early, List.getElem?_eq_getElem early]
      rw [(concluded.reply here).1]
      simp only [same, List.getElem_append_left, List.length_map, early, List.getElem_map]
    · have past : taken.length ≤ index := Nat.le_of_not_lt early
      have total : fetched.length = taken.length + extra := by
        rw [same, List.length_append, List.length_map, List.length_replicate]
      have done : stream.done = true := by
        refine Bool.not_eq_false _ ▸ fun going => ?_
        have none := (fetching.going going).1
        omega
      have order := fetching.queued.order
      rw [fetching.exhausted concluded done, List.append_nil] at order
      rw [concluded.finished (by rw [order]; exact past)]
      simp only [same, List.getElem_append_right, List.length_map, past, List.getElem_replicate]

/-! ### On every occasion -/

/-- What holds between any two occasions, after these answers. -/
structure Watched (answers : List (Polled ε)) (stream : EventStream)
    (flow : Flow ε ρ ω κ) : Prop where
  settled : Settled flow
  acquainted : Acquainted flow.calls
  fetching : obtained flow = true → ∃ taken extra, Fetching taken extra answers stream flow
  untouched : obtained flow = false → answers = [] ∧ stream = {}

theorem Watched.initial (transports : List Transport)
    (interludes : List (List (Flow.Event ρ))) :
    Watched [] {} ({ transports := transports, interludes := interludes } :
      Flow ε ρ ω κ) := by
  refine ⟨.initial transports interludes, ?_, nofun, fun _ => ⟨rfl, rfl⟩⟩
  intro front within _
  rw [List.prefix_nil.mp within]
  rfl

theorem Watched.act (documented : Mailbox.Documented κ)
    (channel : setup.subscribers subscriber = Mailbox.subscriber)
    (watched : Watched answers stream flow) (event : Flow.Event ρ) :
    Watched answers stream (flow.step setup event) := by
  have steps : Steps setup flow (flow.step setup event) := run_steps flow [event]
  have settled := steps.settled watched.settled
  have acquainted := steps.acquainted watched.settled watched.acquainted
  cases here : obtained flow with
  | true =>
      obtain ⟨taken, extra, fetching⟩ := watched.fetching here
      have still : obtained (flow.step setup event) = true :=
        obtained_iff.mpr (steps.number watched.settled (obtained_iff.mp here))
      refine ⟨settled, acquainted, fun _ => ⟨taken, extra, ?_⟩, fun gone => ?_⟩
      · exact fetching.steps documented channel steps stream.awaiting
      · cases still.symm.trans gone
  | false =>
      obtain ⟨rfl, rfl⟩ := watched.untouched here
      refine ⟨settled, acquainted, fun now => ⟨[], 0, ?_⟩, fun _ => ⟨rfl, rfl⟩⟩
      obtain ⟨⟨number, state⟩, holder, same⟩ := Option.map_eq_some_iff.mp (obtained_iff.mp now)
      obtain rfl : number = subscriber := same
      rcases nobody_or_holder flow with nobody | ⟨other, held, taken⟩
      · have queued :=
          steps.joins documented channel watched.settled watched.acquainted nobody holder
        exact ⟨queued, rfl, fun _ => ⟨rfl, List.forall_mem_nil _⟩, nofun⟩
      · have kept := steps.number watched.settled (congrArg (Option.map Prod.fst) taken)
        rw [holder] at kept
        obtain rfl : subscriber = other := Option.some.inj kept
        cases here.symm.trans (obtained_iff.mpr (congrArg (Option.map Prod.fst) taken))

theorem Watched.poll (documented : Mailbox.Documented κ)
    (channel : setup.subscribers subscriber = Mailbox.subscriber)
    (watched : Watched answers stream flow) (here : obtained flow = true) :
    let polled := EventStream.poll setup stream flow
    Passes setup flow polled.2.2 ∧
      Watched (answers ++ [polled.1]) polled.2.1 polled.2.2 := by
  intro polled
  obtain ⟨taken, extra, fetching⟩ := watched.fetching here
  obtain ⟨passes, next⟩ := fetching.poll documented channel
  refine ⟨passes, passes.settled watched.settled here,
    passes.acquainted watched.settled here watched.acquainted, fun _ => next, fun gone => ?_⟩
  cases passes.obtained.symm.trans gone

theorem Watched.occur (documented : Mailbox.Documented κ)
    (channel : setup.subscribers subscriber = Mailbox.subscriber)
    (watched : Watched answers stream flow) (occasions : List (Occasion ρ)) :
    let last := EventStream.occur setup stream flow occasions
    Watched (answers ++ last.1) last.2.1 last.2.2 := by
  induction occasions generalizing answers stream flow with
  | nil =>
      rw [← List.append_nil answers] at watched
      exact watched
  | cons occasion later ih =>
      cases occasion with
      | act event => exact ih (watched.act documented channel event)
      | poll =>
          unfold EventStream.occur
          cases here : obtained flow with
          | false =>
              rw [if_neg Bool.false_ne_true]
              exact ih watched
          | true =>
              have next := ih (watched.poll documented channel here).2
              dsimp only at next
              rw [List.append_assoc] at next
              rw [if_pos rfl]
              exact next

/-! ### Polls past the end -/

theorem Watched.lasts (documented : Mailbox.Documented κ)
    (channel : setup.subscribers subscriber = Mailbox.subscriber)
    (watched : Watched answers stream flow) (here : obtained flow = true)
    (done : flow.stage.isDone = true) (like : Polled ε → Prop)
    (always : ∀ answers stream (after : Flow ε ρ ω κ), Watched answers stream after →
      obtained after = true → Outlasts flow after → like (EventStream.poll setup stream after).1)
    (later : List (Occasion ρ)) :
    let last := EventStream.occur setup stream flow later
    obtained last.2.2 = true ∧ Outlasts flow last.2.2 ∧
      last.1.length = later.countP Occasion.isPoll ∧ ∀ answer ∈ last.1, like answer := by
  induction later generalizing answers stream flow with
  | nil => exact ⟨here, ⟨rfl, .of_same rfl⟩, rfl, List.forall_mem_nil _⟩
  | cons occasion later ih =>
      have onward {next : Flow ε ρ ω κ} (outlasts : Outlasts flow next) :
          next.stage.isDone = true ∧ ∀ answers stream (after : Flow ε ρ ω κ),
            Watched answers stream after → obtained after = true → Outlasts next after →
              like (EventStream.poll setup stream after).1 :=
        ⟨(congrArg Stage.isDone outlasts.stage).trans done,
          fun answers stream after watched here more =>
            always answers stream after watched here (outlasts.trans more)⟩
      cases occasion with
      | act event =>
          have steps : Steps setup flow (flow.step setup event) := run_steps flow [event]
          have outlasts := Outlasts.of_steps steps done
          obtain ⟨still, rest⟩ := onward outlasts
          have kept : obtained (flow.step setup event) = true :=
            obtained_iff.mpr (steps.number watched.settled (obtained_iff.mp here))
          obtain ⟨holds, lasts, count, all⟩ :=
            ih (watched.act documented channel event) kept still rest
          refine ⟨holds, outlasts.trans lasts, ?_, all⟩
          rw [List.countP_cons_of_neg Bool.false_ne_true]
          exact count
      | poll =>
          obtain ⟨passes, next⟩ := watched.poll documented channel here
          have outlasts := passes.outlasts done
          obtain ⟨still, rest⟩ := onward outlasts
          obtain ⟨holds, lasts, count, all⟩ := ih next passes.obtained still rest
          unfold EventStream.occur
          rw [if_pos here, List.countP_cons_of_pos rfl]
          refine ⟨holds, outlasts.trans lasts, congrArg (· + 1) count, ?_⟩
          exact List.forall_mem_cons.mpr ⟨always _ _ _ watched here ⟨rfl, .of_same rfl⟩, all⟩

theorem Watched.waits (watched : Watched answers stream flow) (here : obtained flow = true)
    (silent : signals flow.calls = []) : ∀ answer ∈ answers, answer = .pending := by
  obtain ⟨taken, extra, fetching⟩ := watched.fetching here
  have order := fetching.queued.order
  rw [silent] at order
  obtain ⟨rfl, _⟩ := List.nil_eq_append_iff.mp order
  have going : stream.done = false := by
    refine Bool.not_eq_true _ ▸ fun finished => ?_
    obtain ⟨signal, member, _⟩ := fetching.ended finished
    cases member
  have answered := fetching.answered
  rw [(fetching.going going).1] at answered
  intro answer member
  have unanswered := List.filter_eq_nil_iff.mp answered answer member
  cases answer with
  | pending => rfl
  | _ => exact absurd rfl unanswered

/-- What the polls of a stream are answered past its end depends on whether the stream had
been obtained before. If so, all answers, before the end and past it, are the events that were
handed over, the failure if there is one, and then that the stream is finished; and past the
end no poll has to wait if no receive fails spuriously. If the stream has been obtained since,
all its polls wait, however often it is polled and whatever else is done. -/
theorem polls_past_the_end (documented : Mailbox.Documented κ)
    (channel : setup.subscribers subscriber = Mailbox.subscriber)
    (transports : List Transport) (interludes : List (List (Flow.Event ρ)))
    (history later : List (Occasion ρ)) :
    let now := occur setup {} { transports := transports, interludes := interludes } history
    let flow := now.2.2
    let last := occur setup now.2.1 flow later
    let fetched := now.1.filter Polled.isAnswer
    let answered := (now.1 ++ last.1).filter Polled.isAnswer
    let reply := fun index => (replies flow.calls)[index]?.getD .finished
    let polls := later.countP Occasion.isPoll
    flow.stage.isDone = true → obtained flow = true →
      ((attached? (beforeEnd flow.calls)).isSome = true →
        failureIn flow.calls = flow.stage.failure? ∧ last.1.length = polls ∧
          answered = (List.range answered.length).map reply ∧
          (Mailbox.Prompt κ → .pending ∉ last.1 ∧
            fetched ++ last.1 = (List.range (fetched.length + polls)).map reply)) ∧
      (attached? (beforeEnd flow.calls) = none →
        now.1 ++ last.1 = List.replicate (now.1.length + polls) .pending) := by
  intro now flow last fetched answered reply polls done here
  have watched : Watched now.1 now.2.1 flow :=
    (Watched.initial transports interludes).occur documented channel history
  have final : Watched (now.1 ++ last.1) last.2.1 last.2.2 :=
    watched.occur documented channel later
  refine ⟨fun early => ?_, fun late => ?_⟩
  · obtain ⟨number, attached⟩ := Option.isSome_iff_exists.mp early
    obtain ⟨failed, concluded⟩ := watched.settled.orderly.told done attached
    obtain ⟨still, outlasts, count, _⟩ := watched.lasts documented channel here done
      (fun _ => True) (fun _ _ _ _ _ _ => trivial) later
    have told : replies last.2.2.calls = replies flow.calls := by
      obtain ⟨_, handed, failure⟩ := outlasts.reads
      unfold replies
      rw [handed, failure]
    obtain ⟨taken, extra, fetching⟩ := final.fetching still
    have all : answered = (List.range answered.length).map reply := by
      have replied := fetching.replies (outlasts.concluded concluded)
      dsimp only at replied
      rw [told] at replied
      exact replied
    refine ⟨failed, count, all, fun prompt => ?_⟩
    have always : ∀ answers stream (after : Flow ε ρ ω κ),
        Watched answers stream after → obtained after = true → Outlasts flow after →
          (EventStream.poll setup stream after).1 ≠ .pending := by
      intro answers stream after watched here outlasts
      obtain ⟨taken, extra, fetching⟩ := watched.fetching here
      exact fetching.prompt documented prompt setup (outlasts.concluded concluded)
    obtain ⟨_, _, _, quick⟩ :=
      watched.lasts documented channel here done (· ≠ .pending) always later
    have kept : last.1.filter Polled.isAnswer = last.1 := by
      apply List.filter_eq_self.mpr
      intro answer member
      have some := quick answer member
      cases answer with
      | pending => exact absurd rfl some
      | _ => rfl
    have split : answered = fetched ++ last.1 :=
      (List.filter_append _ _).trans (congrArg (fetched ++ ·) kept)
    refine ⟨fun member => quick _ member rfl, ?_⟩
    rw [split, List.length_append, count] at all
    exact all
  · have silent := watched.settled.orderly.untold watched.acquainted late
    obtain ⟨still, outlasts, count, _⟩ := watched.lasts documented channel here done
      (fun _ => True) (fun _ _ _ _ _ _ => trivial) later
    apply List.eq_replicate_iff.mpr
    refine ⟨?_, final.waits still (outlasts.reads.1.trans silent)⟩
    rw [List.length_append, count]

private def unhurried : Setup String Nat (Channel String) where
  readEvent := fun _ _ => .ok "tick"
  subscribers := fun _ => Channel.subscriber
  handler := { result := fun given => .ok given.length }

/-- One stream that is obtained before a failure, and one that is obtained after the end. -/
theorem polls_past_the_end_twice :
    let answers := fun history later =>
      let now := occur unhurried {} { transports := [⟨.idle, none⟩] } history
      (occur unhurried now.2.1 now.2.2 (later : List (Occasion String))).1
    answers [.act (.attach true 0), .act (.subscribe subscriber), .act (.fail .noSubscriber)]
        [.poll, .act .complete, .poll] = [.failed .noSubscriber, .finished] ∧
      answers [.act (.attach true 0), .act .complete, .act (.subscribe subscriber)]
        [.poll, .act (.request 3), .poll] = [.pending, .pending] := by
  intro answers
  have channel : unhurried.subscribers subscriber = Mailbox.subscriber := rfl
  obtain ⟨timely, _⟩ := polls_past_the_end Channel.documented channel [⟨.idle, none⟩] []
    [.act (.attach true 0), .act (.subscribe subscriber), .act (.fail .noSubscriber)]
    ([.poll, .act .complete, .poll] : List (Occasion String)) rfl rfl
  obtain ⟨_, late⟩ := polls_past_the_end Channel.documented channel [⟨.idle, none⟩] []
    [.act (.attach true 0), .act .complete, .act (.subscribe subscriber)]
    ([.poll, .act (.request 3), .poll] : List (Occasion String)) rfl rfl
  obtain ⟨_, _, _, prompt⟩ := timely rfl
  exact ⟨(prompt Channel.prompt).2, late rfl⟩

/-- Not every stream that has been obtained is told of the end. -/
theorem late_stream_waits :
    ¬∀ history : List (Occasion String),
      let now := occur unhurried {} { transports := [⟨.idle, none⟩] } history
      now.2.2.stage.isDone = true → obtained now.2.2 = true →
        (poll unhurried now.2.1 now.2.2).1 ≠ .pending := by
  intro told
  exact told [.act (.attach true 0), .act .complete, .act (.subscribe subscriber)] rfl rfl rfl

end EventStream

end FramedEvents
