/-
How a stream is wired to its transport.

A stream is attached to the first transport that it subscribes to, and has neither a
subscriber nor chunks before. It tells this transport to stop the first time that it is
cancelled or fails, and never again. Once a stream has ended nothing goes through it:
what is still added to the log tells of no chunk, of no message and of no event.
-/

import FramedEvents.Proofs.Flow.Laws

namespace FramedEvents

open Relation

namespace Entry

variable {ε ρ : Type}

/-- Whether something goes through the stream: a chunk is asked for or arrives, a message
is looked at, or the response or an event is handed over. -/
def isTraffic : Entry ε ρ → Bool
  | .responded _ => true
  | .signalled _ (.next _) => true
  | .chunkRequested => true
  | .chunkArrived _ _ => true
  | .looked _ => true
  | _ => false

def cancels (index : Nat) : Entry ε ρ → Bool
  | .transportCancelled other => other == index
  | _ => false

end Entry

def cancellations {ε ρ : Type} (index : Nat) (log : List (Entry ε ρ)) : Nat :=
  log.countP (Entry.cancels index)

theorem Stage.isTraffic_report {ε ρ : Type} (final : Stage) :
    (final.report : Entry ε ρ).isTraffic = false := by
  cases final <;> rfl

theorem Stage.cancels_report {ε ρ : Type} (final : Stage) (index : Nat) :
    (final.report : Entry ε ρ).cancels index = false := by
  cases final <;> rfl

namespace Flow

variable {ε ρ ω σ : Type} {setup : Setup ε ω σ ρ} {flow middle after : Flow ε ρ ω σ}

/-! ### The log -/

/-- Nothing has gone through the stream in between. -/
def Silent (flow after : Flow ε ρ ω σ) : Prop :=
  ∃ notes, after.log = notes ++ flow.log ∧ ∀ note ∈ notes, note.isTraffic = false

theorem Silent.of_same (same : after.log = flow.log) : Silent flow after :=
  ⟨[], same, List.forall_mem_nil _⟩

theorem Silent.of_note {entry : Entry ε ρ} (log : after.log = entry :: flow.log)
    (other : entry.isTraffic = false) : Silent flow after :=
  ⟨[entry], log, List.forall_mem_singleton.mpr other⟩

theorem Silent.trans (first : Silent flow middle) (second : Silent middle after) :
    Silent flow after := by
  obtain ⟨earlier, log, silent⟩ := first
  obtain ⟨later, more, silentToo⟩ := second
  refine ⟨later ++ earlier, ?_, List.forall_mem_append.mpr ⟨silentToo, silent⟩⟩
  rw [more, log, List.append_assoc]

theorem QuietStep.silent (step : QuietStep setup flow after) : Silent flow after := by
  cases step with
  | captured response free => exact .of_same rfl
  | scripted events later next => exact .of_same rfl
  | carried transports same => exact .of_same rfl
  | resolved result done => exact .of_same rfl
  | halted index transports wanted held same =>
      have stopped : Silent flow (record .stopped
          { flow with cancelled := true, transports := transports }) := .of_note rfl rfl
      exact stopped.trans (.of_note rfl rfl)
  | _ => exact .of_note rfl rfl

theorem QuietSteps.silent (steps : QuietSteps setup flow after) : Silent flow after := by
  induction steps with
  | refl => exact .of_same rfl
  | tail _ step ih => exact ih.trans step.silent

theorem Step.grows (step : Step setup flow after) : flow.log <:+ after.log := by
  cases step with
  | quiet step =>
      obtain ⟨notes, log, _⟩ := step.silent
      exact ⟨notes, log.symm⟩
  | @endedTelling told running final done number state holder hook =>
      obtain ⟨notes, log, _⟩ := hook.silent
      refine ⟨final.report :: (notes ++ [.signalled number final.signal]), ?_⟩
      change _ = final.report :: told.log
      rw [log, List.cons_append, List.append_assoc]
      rfl
  | _ => exact List.suffix_cons _ _

theorem Steps.grows (steps : Steps setup flow after) : flow.log <:+ after.log := by
  induction steps with
  | refl => exact List.suffix_rfl
  | tail _ step ih => exact ih.trans step.grows

theorem delivered_of_log {notes : List (Entry ε ρ)} (log : after.log = notes ++ flow.log) :
    ∃ given, after.delivered = flow.delivered ++ given := by
  unfold delivered
  rw [log, List.reverse_append, List.filterMap_append]
  exact ⟨_, rfl⟩

theorem Steps.delivered (steps : Steps setup flow after) :
    ∃ given, after.delivered = flow.delivered ++ given := by
  obtain ⟨notes, log⟩ := steps.grows
  exact delivered_of_log log.symm

theorem Silent.given (silent : Silent flow after) : after.given = flow.given := by
  obtain ⟨notes, log, others⟩ := silent
  unfold Flow.given
  rw [log, List.reverse_append, List.filterMap_append]
  apply List.append_right_eq_self.mpr
  apply List.filterMap_eq_nil_iff.mpr
  intro note member
  have other := others note (List.mem_reverse.mp member)
  cases note with
  | responded response => cases other
  | signalled number signal =>
      cases signal with
      | next event => cases other
      | _ => rfl
  | _ => rfl

theorem Silent.delivered (silent : Silent flow after) : after.delivered = flow.delivered := by
  obtain ⟨notes, log, others⟩ := silent
  unfold Flow.delivered
  rw [log, List.reverse_append, List.filterMap_append]
  apply List.append_right_eq_self.mpr
  apply List.filterMap_eq_nil_iff.mpr
  intro note member
  have other := others note (List.mem_reverse.mp member)
  cases note with
  | signalled number signal =>
      cases signal with
      | next event => cases other
      | _ => rfl
  | _ => rfl

/-! ### Cancelling -/

theorem QuietStep.cancelled (step : QuietStep setup flow after) (stopped : flow.cancelled = true) :
    after.cancelled = true := by
  cases step with
  | stopped wanted loose reason => rfl
  | halted index transports wanted held same => rfl
  | _ => exact stopped

theorem QuietSteps.cancelled (steps : QuietSteps setup flow after)
    (stopped : flow.cancelled = true) : after.cancelled = true := by
  induction steps with
  | refl => exact stopped
  | tail _ step ih => exact step.cancelled ih

theorem stop_cancelled (flow : Flow ε ρ ω σ) : (stop flow).cancelled = true := by
  unfold stop
  split
  · assumption
  · dsimp only
    split
    · rfl
    · rfl

/-! ### The transport of a stream -/

/-- A stream without a transport has no subscriber and gets no chunks. A transport has
been told to stop once if the stream has been cancelled, and not at all before. -/
structure Wired (flow : Flow ε ρ ω σ) : Prop where
  loose : flow.attachment = none → flow.subscriber = none ∧ flow.cancelled = false ∧
    (∀ index, ¬Feeds index flow) ∧ ∀ index, cancellations index flow.log = 0
  held : ∀ index, flow.attachment = some index → Feeds index flow ∧
    cancellations index flow.log = if flow.cancelled then 1 else 0

theorem Wired.initial {transports : List Transport} (interludes : List (List (Event ρ)))
    (unused : ∀ transport ∈ transports, transport.consumer.map Consumer.isStream ≠ some true) :
    Wired ({ transports := transports, interludes := interludes } : Flow ε ρ ω σ) := by
  constructor
  · intro _
    refine ⟨rfl, rfl, ?_, fun _ => rfl⟩
    intro index feeds
    unfold Feeds receivers at feeds
    rw [List.getElem?_map] at feeds
    obtain ⟨transport, found, used⟩ := Option.map_eq_some_iff.mp feeds
    exact unused transport (List.mem_of_getElem? found) used
  · intro index impossible
    cases impossible

theorem Wired.of_same (wired : Wired flow)
    (log : ∀ index, cancellations index after.log = cancellations index flow.log)
    (attachment : after.attachment = flow.attachment) (cancelled : after.cancelled = flow.cancelled)
    (receivers : after.receivers = flow.receivers)
    (bound : after.subscriber.isSome = true →
      flow.subscriber.isSome = true ∨ flow.attachment.isSome = true) : Wired after := by
  have same (index : Nat) : Feeds index after ↔ Feeds index flow := by
    unfold Feeds
    rw [receivers]
  constructor
  · intro none
    rw [attachment] at none
    obtain ⟨nobody, wanted, unfed, untouched⟩ := wired.loose none
    refine ⟨?_, cancelled.trans wanted, fun index feeds => unfed index ((same index).mp feeds), ?_⟩
    · apply Option.not_isSome_iff_eq_none.mp
      intro some
      rcases bound some with before | held
      · rw [nobody] at before
        cases before
      · rw [none] at held
        cases held
    · intro index
      rw [log, untouched]
  · intro index held
    rw [attachment] at held
    obtain ⟨feeds, told⟩ := wired.held index held
    refine ⟨(same index).mpr feeds, ?_⟩
    rw [log, told, cancelled]

theorem cancellations_note {entry : Entry ε ρ} (other : ∀ index, entry.cancels index = false)
    (index : Nat) (log : List (Entry ε ρ)) :
    cancellations index (entry :: log) = cancellations index log := by
  unfold cancellations
  rw [List.countP_cons_of_neg]
  rw [other]
  exact Bool.false_ne_true

theorem cancellations_cancelled (index : Nat) (log : List (Entry ε ρ)) :
    cancellations index (.transportCancelled index :: log) = cancellations index log + 1 :=
  List.countP_cons_of_pos (beq_self_eq_true index)

theorem cancellations_other {index other : Nat} (apart : other ≠ index) (log : List (Entry ε ρ)) :
    cancellations index (.transportCancelled other :: log) = cancellations index log :=
  List.countP_cons_of_neg fun same => apart (eq_of_beq same)

theorem Wired.of_note (wired : Wired flow) (entry : Entry ε ρ) (log : after.log = entry :: flow.log)
    (other : ∀ index, entry.cancels index = false) (attachment : after.attachment = flow.attachment)
    (cancelled : after.cancelled = flow.cancelled) (receivers : after.receivers = flow.receivers)
    (bound : after.subscriber.isSome = true →
      flow.subscriber.isSome = true ∨ flow.attachment.isSome = true) : Wired after := by
  apply wired.of_same _ attachment cancelled receivers bound
  intro index
  rw [log]
  exact cancellations_note other index flow.log

theorem QuietStep.wired (step : QuietStep setup flow after) (wired : Wired flow) : Wired after := by
  cases step with
  | captured response free => exact wired.of_same (fun _ => rfl) rfl rfl rfl .inl
  | scripted events later next => exact wired.of_same (fun _ => rfl) rfl rfl rfl .inl
  | carried transports same => exact wired.of_same (fun _ => rfl) rfl rfl same .inl
  | resolved result done => exact wired.of_same (fun _ => rfl) rfl rfl rfl .inl
  | demanded count counts wanted => exact wired.of_note _ rfl (fun _ => rfl) rfl rfl rfl .inl
  | refused number taken => exact wired.of_note _ rfl (fun _ => rfl) rfl rfl rfl .inl
  | finished => exact wired.of_note _ rfl (fun _ => rfl) rfl rfl rfl .inl
  | subscribed number free held =>
      exact wired.of_note _ rfl (fun _ => rfl) rfl rfl rfl fun _ => .inr held
  | stopped wanted loose reason =>
      obtain ⟨nobody, _, unfed, _⟩ := wired.loose loose
      rcases reason with bound | ⟨index, feeds⟩
      · rw [nobody] at bound
        cases bound
      · exact absurd feeds (unfed index)
  | halted index transports wanted held same =>
      constructor
      · intro none
        cases held.symm.trans none
      · intro other attached
        obtain rfl : index = other := Option.some.inj (held.symm.trans attached)
        obtain ⟨feeds, told⟩ := wired.held index held
        refine ⟨(congrArg (·[index]?) same).trans feeds, ?_⟩
        rw [wanted] at told
        change cancellations index (.transportCancelled index :: .stopped :: flow.log) = 1
        rw [cancellations_cancelled, cancellations_note (fun _ => rfl), told]
        rfl
  | declined index first transports held joins =>
      constructor
      · intro none
        cases held.symm.trans none
      · intro other attached
        obtain rfl : first = other := Option.some.inj (held.symm.trans attached)
        obtain ⟨feeds, told⟩ := wired.held first held
        refine ⟨joins.feeds feeds, ?_⟩
        exact (cancellations_other (joins.apart feeds) flow.log).trans told
  | attached index loose transports joins =>
      obtain ⟨nobody, wanted, unfed, untouched⟩ := wired.loose loose
      constructor
      · intro none
        cases none
      · intro other attached
        obtain rfl : index = other := Option.some.inj attached
        refine ⟨joins.feeds_self, ?_⟩
        change cancellations index (.streamReady :: flow.log) = if flow.cancelled then 1 else 0
        rw [cancellations_note (fun _ => rfl), untouched, wanted]
        rfl

theorem QuietSteps.wired (steps : QuietSteps setup flow after) (wired : Wired flow) :
    Wired after := by
  induction steps with
  | refl => exact wired
  | tail _ step ih => exact step.wired ih

theorem Step.wired (step : Step setup flow after) (wired : Wired flow) : Wired after := by
  cases step with
  | quiet step => exact step.wired wired
  | handed running event number state holder =>
      exact wired.of_note _ rfl (fun _ => rfl) rfl rfl rfl fun _ => .inl (isSome_of_eq holder)
  | endedAlone running final done nobody =>
      exact wired.of_note final.report rfl final.cancels_report rfl rfl rfl .inl
  | endedTelling running final done number state holder hook =>
      have told : Wired (informed setup final.signal number state { flow with stage := final }) :=
        wired.of_note _ rfl (fun _ => rfl) rfl rfl rfl fun _ => .inl (isSome_of_eq holder)
      exact (hook.wired told).of_note final.report rfl final.cancels_report rfl rfl rfl .inl
  | _ => exact wired.of_note _ rfl (fun _ => rfl) rfl rfl rfl .inl

theorem Steps.wired (steps : Steps setup flow after) (wired : Wired flow) : Wired after := by
  induction steps with
  | refl => exact wired
  | tail _ step ih => exact step.wired ih

/-! ### What the transports know -/

/-- Each transport knows of having been told to stop as often as the log says. -/
def Notified (transports : List Transport) (flow : Flow ε ρ ω σ) : Prop :=
  ∀ index, flow.stops[index]? = transports[index]?.map fun transport : Transport =>
    transport.outlet.stops.add (cancellations index flow.log)

variable {transports : List Transport}

theorem Notified.initial (transports : List Transport) (interludes : List (List (Event ρ))) :
    Notified transports
      ({ transports := transports, interludes := interludes } : Flow ε ρ ω σ) := by
  intro index
  change (List.map _ transports)[index]? = _
  rw [List.getElem?_map]
  cases transports[index]? with
  | none => rfl
  | some transport => exact congrArg some transport.outlet.stops.add_zero.symm

theorem Notified.of_same (notified : Notified transports flow) (stops : after.stops = flow.stops)
    (log : ∀ index, cancellations index after.log = cancellations index flow.log) :
    Notified transports after := by
  intro index
  rw [stops, log]
  exact notified index

theorem Notified.told (notified : Notified transports flow) {index : Nat}
    (stops : after.stops = flow.stops.modify index (Stops.add 1)) {log : List (Entry ε ρ)}
    (note : after.log = .transportCancelled index :: log)
    (before : ∀ index, cancellations index log = cancellations index flow.log) :
    Notified transports after := by
  intro position
  rw [stops, note, List.getElem?_modify, notified position]
  by_cases here : index = position
  · subst here
    rw [cancellations_cancelled, before]
    cases transports[index]? with
    | none => rfl
    | some transport => simp [Stops.add_add]
  · rw [cancellations_other here, before]
    cases transports[position]? with
    | none => rfl
    | some transport => simp [here]

theorem QuietStep.notified (step : QuietStep setup flow after)
    (notified : Notified transports flow) : Notified transports after := by
  cases step with
  | captured response free => exact notified.of_same rfl fun _ => rfl
  | scripted events later next => exact notified.of_same rfl fun _ => rfl
  | resolved result done => exact notified.of_same rfl fun _ => rfl
  | carried transports same kept => exact notified.of_same kept fun _ => rfl
  | halted index transports wanted held same told =>
      exact notified.told told rfl fun _ => cancellations_note (fun _ => rfl) _ _
  | declined index first transports held joins told =>
      exact notified.told told rfl fun _ => rfl
  | attached index loose transports joins kept =>
      exact notified.of_same kept fun _ => cancellations_note (fun _ => rfl) _ _
  | _ => exact notified.of_same rfl fun _ => cancellations_note (fun _ => rfl) _ _

theorem QuietSteps.notified (steps : QuietSteps setup flow after)
    (notified : Notified transports flow) : Notified transports after := by
  induction steps with
  | refl => exact notified
  | tail _ step ih => exact step.notified ih

theorem Step.notified (step : Step setup flow after) (notified : Notified transports flow) :
    Notified transports after := by
  cases step with
  | quiet step => exact step.notified notified
  | endedAlone running final done nobody =>
      exact notified.of_same rfl fun _ => cancellations_note final.cancels_report _ _
  | endedTelling running final done number state holder hook =>
      have telling : Notified transports
          (informed setup final.signal number state { flow with stage := final }) :=
        notified.of_same rfl fun _ => cancellations_note (fun _ => rfl) _ _
      exact (hook.notified telling).of_same rfl fun _ => cancellations_note final.cancels_report _ _
  | _ => exact notified.of_same rfl fun _ => cancellations_note (fun _ => rfl) _ _

theorem Steps.notified (steps : Steps setup flow after) (notified : Notified transports flow) :
    Notified transports after := by
  induction steps with
  | refl => exact notified
  | tail _ step ih => exact step.notified ih

theorem Notified.stops (notified : Notified transports flow) {index : Nat}
    (feeds : Feeds index flow) :
    ∃ before after, transports[index]? = some before ∧ flow.transport? index = some after ∧
      after.outlet.stops = before.outlet.stops.add (cancellations index flow.log) := by
  have known := notified index
  unfold Feeds receivers at feeds
  unfold Flow.stops at known
  unfold transport?
  rw [List.getElem?_map] at feeds known
  cases found : flow.transports[index]? with
  | none =>
      rw [found] at feeds
      cases feeds
  | some after =>
      rw [found] at known
      cases first : transports[index]? with
      | none =>
          rw [first] at known
          cases known
      | some before =>
          rw [first] at known
          exact ⟨before, after, rfl, rfl, Option.some.inj known⟩

end Flow

end FramedEvents
