/-
What the log tells of a stream.

The log is a full account: how much demand is outstanding, whether the subscription
has been cancelled and whether the stream has ended can be read off the entries made
so far, at any moment. In particular it shows that a chunk is only asked for while
events are wanted.
-/

import FramedEvents.Proofs.Flow.Ending

namespace FramedEvents

variable {ε ρ : Type}

/-! ### Accounts -/

def Entry.settle : Entry ε ρ → Demand → Demand
  | .demanded count, demand => demand.add count
  | .looked .event, demand => demand.serve
  | _, demand => demand

/-- The demand that is outstanding after these entries, the latest of which is first. -/
def demandIn (log : List (Entry ε ρ)) : Demand := log.foldr Entry.settle .zero

/-- Every chunk was asked for while demand was outstanding, the subscription was not
cancelled, and nobody had been told of the end. -/
def Warranted (log : List (Entry ε ρ)) : Prop :=
  ∀ earlier, .chunkRequested :: earlier <:+ log →
    0 < (demandIn earlier).outstanding ∧ .stopped ∉ earlier ∧
      ∀ entry ∈ earlier, entry.isFinal = false

theorem Demand.pos_of_unmet {demand : Demand} (unmet : demand.isMet = false) :
    0 < demand.outstanding :=
  Nat.pos_of_ne_zero (beq_eq_false_iff_ne.mp unmet)

namespace Flow

variable {ω σ : Type}

structure Told (flow : Flow ε ρ ω σ) : Prop where
  demand : flow.demand = demandIn flow.log
  cancelled : flow.cancelled = true ↔ .stopped ∈ flow.log
  done : flow.stage.isDone = true ↔ ∃ entry ∈ flow.log, entry.isFinal = true
  warranted : Warranted flow.log

theorem Told.initial (transports : List Transport) (interludes : List (List (Event ρ))) :
    Told ({ transports := transports, interludes := interludes } : Flow ε ρ ω σ) := by
  refine ⟨rfl, ?_, ?_, ?_⟩
  · exact iff_of_false Bool.false_ne_true List.not_mem_nil
  · apply iff_of_false Bool.false_ne_true
    rintro ⟨entry, member, _⟩
    cases member
  · intro earlier suffix
    cases List.suffix_nil.mp suffix

variable {flow after : Flow ε ρ ω σ}

theorem Told.of_same (told : Told flow) (log : after.log = flow.log)
    (demand : after.demand = flow.demand) (cancelled : after.cancelled = flow.cancelled)
    (stage : after.stage = flow.stage) : Told after := by
  refine ⟨?_, ?_, ?_, ?_⟩
  · rw [demand, log]
    exact told.demand
  · rw [cancelled, log]
    exact told.cancelled
  · rw [stage, log]
    exact told.done
  · rw [log]
    exact told.warranted

theorem Told.of_entry (told : Told flow) (entry : Entry ε ρ) (log : after.log = entry :: flow.log)
    (demand : after.demand = entry.settle flow.demand)
    (cancelled : after.cancelled = true ↔ entry = .stopped ∨ flow.cancelled = true)
    (done : after.stage.isDone = true ↔ entry.isFinal = true ∨ flow.stage.isDone = true)
    (warrant : entry = .chunkRequested →
      flow.demand.isMet = false ∧ flow.cancelled = false ∧ flow.stage = .running) :
    Told after := by
  refine ⟨?_, ?_, ?_, ?_⟩
  · rw [demand, log, told.demand]
    rfl
  · rw [cancelled, log, List.mem_cons, told.cancelled]
    exact or_congr_left eq_comm
  · rw [done, log, told.done]
    simp only [List.mem_cons, exists_eq_or_imp]
  · rw [log]
    intro earlier suffix
    rcases List.suffix_cons_iff.mp suffix with same | before
    · obtain ⟨rfl, rfl⟩ := List.cons.inj same
      obtain ⟨unmet, wanted, running⟩ := warrant rfl
      refine ⟨?_, ?_, ?_⟩
      · rw [← told.demand]
        exact Demand.pos_of_unmet unmet
      · intro stopped
        rw [told.cancelled.mpr stopped] at wanted
        cases wanted
      · intro entry member
        apply Bool.eq_false_iff.mpr
        intro final
        have ended := told.done.mpr ⟨entry, member, final⟩
        rw [running] at ended
        cases ended
    · exact told.warranted earlier before

theorem Told.of_note (told : Told flow) (entry : Entry ε ρ) (log : after.log = entry :: flow.log)
    (demand : after.demand = entry.settle flow.demand)
    (cancelled : after.cancelled = flow.cancelled)
    (other : entry ≠ .stopped) (stage : after.stage = flow.stage)
    (ordinary : entry.isFinal = false) (free : entry ≠ .chunkRequested) : Told after := by
  apply told.of_entry entry log demand
  · rw [cancelled]
    exact (or_iff_right other).symm
  · rw [stage, ordinary]
    exact (or_iff_right Bool.false_ne_true).symm
  · exact fun same => absurd same free

theorem Told.stopped (told : Told flow) (log : after.log = .stopped :: flow.log)
    (demand : after.demand = flow.demand) (cancelled : after.cancelled = true)
    (stage : after.stage = flow.stage) : Told after := by
  apply told.of_entry .stopped log demand
  · exact iff_of_true cancelled (.inl rfl)
  · rw [stage]
    exact (or_iff_right Bool.false_ne_true).symm
  · exact nofun

theorem Told.ending (told : Told flow) (entry : Entry ε ρ) (log : after.log = entry :: flow.log)
    (demand : after.demand = entry.settle flow.demand)
    (cancelled : after.cancelled = flow.cancelled)
    (done : after.stage.isDone = true) (last : entry.isFinal = true) : Told after := by
  apply told.of_entry entry log demand
  · rw [cancelled]
    refine (or_iff_right ?_).symm
    rintro rfl
    cases last
  · exact iff_of_true done (.inl last)
  · rintro rfl
    cases last

theorem QuietStep.told {setup : Setup ε ω σ ρ} (step : QuietStep setup flow after)
    (told : Told flow) : Told after := by
  cases step with
  | captured response free => exact told.of_same rfl rfl rfl rfl
  | scripted events later next => exact told.of_same rfl rfl rfl rfl
  | carried transports => exact told.of_same rfl rfl rfl rfl
  | demanded count counts wanted =>
      exact told.of_note (.demanded count) rfl rfl rfl nofun rfl rfl nofun
  | stopped wanted loose => exact told.stopped rfl rfl rfl rfl
  | halted index transports wanted held =>
      have stopped : Told (record .stopped
          { flow with cancelled := true, transports := transports }) :=
        told.stopped rfl rfl rfl rfl
      exact stopped.of_note (.transportCancelled index) rfl rfl rfl nofun rfl rfl nofun
  | declined index first transports held =>
      exact told.of_note (.transportCancelled index) rfl rfl rfl nofun rfl rfl nofun
  | attached index loose => exact told.of_note .streamReady rfl rfl rfl nofun rfl rfl nofun
  | subscribed number free =>
      exact told.of_note (.signalled number .subscribed) rfl rfl rfl nofun rfl rfl nofun
  | refused number taken => exact told.of_note (.refused number _) rfl rfl rfl nofun rfl rfl nofun
  | finished => exact told.of_note .chunkFinished rfl rfl rfl nofun rfl rfl nofun
  | resolved result done => exact told.of_same rfl rfl rfl rfl

theorem QuietSteps.told {setup : Setup ε ω σ ρ} (steps : QuietSteps setup flow after)
    (told : Told flow) : Told after := by
  induction steps with
  | refl => exact told
  | tail _ step ih => exact step.told ih

theorem settle_looked {kind : MessageKind} (other : kind ≠ .event) (demand : Demand) :
    (Entry.looked kind : Entry ε ρ).settle demand = demand := by
  cases kind with
  | event => exact absurd rfl other
  | _ => rfl

theorem Told.reported (told : Told flow) {final : Stage}
    (log : after.log = final.report :: flow.log)
    (demand : after.demand = flow.demand) (cancelled : after.cancelled = flow.cancelled)
    (done : after.stage.isDone = true) : Told after := by
  apply told.ending final.report log ?_ cancelled done
  · cases final <;> rfl
  · rw [demand]
    cases final <;> rfl

theorem Step.told {setup : Setup ε ω σ ρ} (step : Step setup flow after) (told : Told flow) :
    Told after := by
  cases step with
  | quiet step => exact step.told told
  | asked running wanted held free unmet =>
      refine told.of_entry .chunkRequested rfl rfl ?_ ?_ fun _ => ⟨unmet, wanted, running⟩
      · exact (or_iff_right nofun).symm
      · exact (or_iff_right Bool.false_ne_true).symm
  | arrived running index bytes =>
      exact told.of_note (.chunkArrived index bytes) rfl rfl rfl nofun rfl rfl nofun
  | looked running kind other =>
      exact told.of_note (.looked kind) rfl (settle_looked other _).symm rfl nofun rfl rfl nofun
  | served running => exact told.of_note (.looked .event) rfl rfl rfl nofun rfl rfl nofun
  | responded running response held =>
      exact told.of_note (.responded response) rfl rfl rfl nofun rfl rfl nofun
  | handed running event number state holder =>
      exact told.of_note (.signalled number (.next event)) rfl rfl rfl nofun rfl rfl nofun
  | endedAlone running final done nobody => exact told.reported rfl rfl rfl done
  | endedTelling running final done number state holder hook =>
      have last : (Entry.signalled number final.signal : Entry ε ρ).isFinal = true := by
        cases final <;> rfl
      have first : Told (informed setup final.signal number state { flow with stage := final }) :=
        told.ending (.signalled number final.signal) rfl rfl rfl done last
      have settled := (congrArg Stage.isDone hook.stage).trans done
      exact (hook.told first).reported rfl rfl rfl settled

theorem Steps.told {setup : Setup ε ω σ ρ} (steps : Steps setup flow after) (told : Told flow) :
    Told after := by
  induction steps with
  | refl => exact told
  | tail _ step ih => exact step.told ih

end Flow

end FramedEvents
