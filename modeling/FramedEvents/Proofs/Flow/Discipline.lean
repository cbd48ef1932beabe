/-
Chunks are asked for one at a time.

Counted in the log, the requests for chunks are ahead of the chunks that have been
dealt with by one at most, and by exactly one whenever events are wanted and no call
is in progress. This holds of every transport that hands over no more chunks than it
was asked for, whether it does so at once, later, or while another call is on its
way. The law has to compare a whole chunk: chunks that come and go inside a hook are
finished before the one around them.
-/

import FramedEvents.Flow.Plan
import FramedEvents.Proofs.Flow.Ledger

namespace FramedEvents

variable {ε ρ : Type}

/-! ### Counting chunks -/

namespace Entry

def isChunkRequest : Entry ε ρ → Bool
  | .chunkRequested => true
  | _ => false

def isChunkArrival : Entry ε ρ → Bool
  | .chunkArrived _ _ => true
  | _ => false

def isChunkFinish : Entry ε ρ → Bool
  | .chunkFinished => true
  | _ => false

end Entry

def requests (log : List (Entry ε ρ)) : Nat := log.countP Entry.isChunkRequest

def arrivals (log : List (Entry ε ρ)) : Nat := log.countP Entry.isChunkArrival

def finishes (log : List (Entry ε ρ)) : Nat := log.countP Entry.isChunkFinish

/-- No chunk arrived that had not been asked for. -/
def Answered (log : List (Entry ε ρ)) : Prop :=
  ∀ index bytes earlier, .chunkArrived index bytes :: earlier <:+ log →
    arrivals earlier < requests earlier

/-- At most one of the chunks that were asked for has not been dealt with. -/
structure InPace (log : List (Entry ε ρ)) : Prop where
  finished : finishes log ≤ arrivals log
  arrived : arrivals log ≤ requests log
  requested : requests log ≤ finishes log + 1

/-- This is so at every moment. -/
def Paced (log : List (Entry ε ρ)) : Prop := ∀ moment, moment <:+ log → InPace moment

theorem requests_cons (entry : Entry ε ρ) (log : List (Entry ε ρ)) :
    requests (entry :: log) = requests log + if entry.isChunkRequest then 1 else 0 :=
  List.countP_cons

theorem arrivals_cons (entry : Entry ε ρ) (log : List (Entry ε ρ)) :
    arrivals (entry :: log) = arrivals log + if entry.isChunkArrival then 1 else 0 :=
  List.countP_cons

theorem finishes_cons (entry : Entry ε ρ) (log : List (Entry ε ρ)) :
    finishes (entry :: log) = finishes log + if entry.isChunkFinish then 1 else 0 :=
  List.countP_cons

structure SameCounts (first second : List (Entry ε ρ)) : Prop where
  requests : requests second = requests first
  arrivals : arrivals second = arrivals first
  finishes : finishes second = finishes first

theorem SameCounts.note {entry : Entry ε ρ} (other : entry.isIntake = false)
    (log : List (Entry ε ρ)) : SameCounts log (entry :: log) := by
  refine ⟨?_, ?_, ?_⟩
  · rw [requests_cons]
    cases entry <;> first | rfl | cases other
  · rw [arrivals_cons]
    cases entry <;> first | rfl | cases other
  · rw [finishes_cons]
    cases entry <;> first | rfl | cases other

theorem SameCounts.looked (kind : MessageKind) (log : List (Entry ε ρ)) :
    SameCounts log (.looked kind :: log) :=
  ⟨requests_cons (.looked kind) log, arrivals_cons (.looked kind) log,
    finishes_cons (.looked kind) log⟩

theorem SameCounts.notes {notes : List (Entry ε ρ)}
    (others : ∀ note ∈ notes, note.isIntake = false) (log : List (Entry ε ρ)) :
    SameCounts log (notes ++ log) := by
  induction notes with
  | nil => exact ⟨rfl, rfl, rfl⟩
  | cons entry notes ih =>
      obtain ⟨other, rest⟩ := List.forall_mem_cons.mp others
      have first := SameCounts.note other (notes ++ log)
      have later := ih rest
      exact ⟨first.requests.trans later.requests, first.arrivals.trans later.arrivals,
        first.finishes.trans later.finishes⟩

theorem SameCounts.inPace {first second : List (Entry ε ρ)} (same : SameCounts first second)
    (pace : InPace first) : InPace second := by
  refine ⟨?_, ?_, ?_⟩
  · rw [same.finishes, same.arrivals]
    exact pace.finished
  · rw [same.arrivals, same.requests]
    exact pace.arrived
  · rw [same.requests, same.finishes]
    exact pace.requested

theorem level_of_sameCounts {first second : List (Entry ε ρ)} (same : SameCounts first second) :
    arrivals second + finishes first = finishes second + arrivals first := by
  rw [same.finishes, same.arrivals, Nat.add_comm]

theorem Paced.cons {entry : Entry ε ρ} {log : List (Entry ε ρ)} (paced : Paced log)
    (now : InPace (entry :: log)) : Paced (entry :: log) := by
  intro moment suffix
  rcases List.suffix_cons_iff.mp suffix with rfl | before
  · exact now
  · exact paced moment before

theorem Paced.notes {notes log : List (Entry ε ρ)} (paced : Paced log)
    (others : ∀ note ∈ notes, note.isIntake = false) : Paced (notes ++ log) := by
  induction notes with
  | nil => exact paced
  | cons entry notes ih =>
      obtain ⟨other, rest⟩ := List.forall_mem_cons.mp others
      apply (ih rest).cons
      apply (SameCounts.notes others log).inPace
      exact paced log List.suffix_rfl

theorem Answered.of_suffix {earlier log : List (Entry ε ρ)} (answered : Answered log)
    (suffix : earlier <:+ log) : Answered earlier :=
  fun index bytes before here => answered index bytes before (here.trans suffix)

namespace Flow

variable {ω σ : Type} {setup : Setup ε ω σ ρ} {flow after : Flow ε ρ ω σ}
  {asked : List (Option Nat)}

/-! ### Balance -/

/-- The books of a stream whose transports had been asked for so much before. -/
structure Tallied (asked : List (Option Nat)) (flow : Flow ε ρ ω σ) : Prop where
  due : requests flow.log = finishes flow.log + if flow.chunkDue then 1 else 0
  paced : Paced flow.log
  loose : flow.attachment = none → requests flow.log = 0 ∧ flow.asked? = asked
  level : ∀ index, flow.attachment = some index →
    flow.asked? = asked.modify index (Option.map (· + requests flow.log))
  joined : flow.subscriber.isSome = true → flow.attachment.isSome = true

structure Balanced (asked : List (Option Nat)) (flow : Flow ε ρ ω σ) : Prop
    extends Tallied asked flow where
  wanted : flow.stage = .running → flow.cancelled = false → flow.demand.isMet = false →
    flow.chunkDue = true

theorem Balanced.initial (transports : List Transport) (interludes : List (List (Event ρ))) :
    let flow : Flow ε ρ ω σ := { transports := transports, interludes := interludes }
    Balanced flow.asked? flow := by
  intro flow
  refine ⟨⟨rfl, ?_, fun _ => ⟨rfl, rfl⟩, nofun, nofun⟩, nofun⟩
  intro moment suffix
  obtain rfl := List.suffix_nil.mp suffix
  exact ⟨Nat.le_refl _, Nat.le_refl _, Nat.zero_le _⟩

theorem Steps.running (steps : Steps setup flow after) (running : after.stage = .running) :
    flow.stage = .running := by
  rcases running_or_isDone flow with going | done
  · exact going
  · rw [← (steps.quiet_of_isDone done).stage]
    exact running

theorem modify_add_zero (asked : List (Option Nat)) (index : Nat) :
    asked.modify index (Option.map (· + 0)) = asked := by
  have same : Option.map (· + 0) = (id : Option Nat → Option Nat) := by
    funext found
    cases found <;> rfl
  rw [same]
  exact List.modify_id index asked

theorem Tallied.of_log (tallied : Tallied asked flow) (paced : Paced after.log)
    (requested : requests after.log = requests flow.log)
    (due : requests after.log = finishes after.log + if after.chunkDue then 1 else 0)
    (attachment : after.attachment = flow.attachment)
    (bound : after.subscriber = flow.subscriber) (same : after.asked? = flow.asked?) :
    Tallied asked after := by
  refine ⟨due, paced, ?_, ?_, ?_⟩
  · rw [attachment, requested, same]
    exact tallied.loose
  · rw [attachment, requested, same]
    exact tallied.level
  · rw [attachment, bound]
    exact tallied.joined

theorem Calm.tallied (calm : Calm flow after) (tallied : Tallied asked flow) :
    Tallied asked after := by
  obtain ⟨notes, log, others⟩ := calm.log
  have same : SameCounts flow.log after.log := by
    rw [log]
    exact .notes others flow.log
  refine ⟨?_, ?_, ?_, ?_, ?_⟩
  · rw [same.requests, same.finishes, calm.due]
    exact tallied.due
  · rw [log]
    exact tallied.paced.notes others
  · intro loose
    rw [same.requests, calm.asked]
    rcases calm.attachment with before | kept
    · exact tallied.loose before
    · exact tallied.loose (kept.symm.trans loose)
  · intro index held
    rw [same.requests, calm.asked]
    rcases calm.attachment with before | kept
    · obtain ⟨none, level⟩ := tallied.loose before
      rw [none, modify_add_zero]
      exact level
    · exact tallied.level index (kept.symm.trans held)
  · intro bound
    rcases calm.bound bound with before | held
    · have held := tallied.joined before
      rcases calm.attachment with loose | kept
      · rw [loose] at held
        cases held
      · rw [kept]
        exact held
    · exact held

theorem Calm.balanced (calm : Calm flow after) (steps : Steps setup flow after)
    (balanced : Balanced asked flow) : Balanced asked after := by
  refine ⟨calm.tallied balanced.toTallied, ?_⟩
  intro running wanted unmet
  rw [calm.due]
  exact balanced.wanted (steps.running running) (calm.wanted wanted) (calm.unmet unmet)

/-! ### Asking for the next chunk -/

theorem Asks.counts (asks : Asks flow after) :
    flow.log <:+ after.log ∧ arrivals after.log = arrivals flow.log ∧
      finishes after.log = finishes flow.log := by
  cases asks with
  | nothing needless => exact ⟨List.suffix_rfl, rfl, rfl⟩
  | chunk running wanted index held free unmet transports once =>
      refine ⟨List.suffix_cons _ _, ?_, ?_⟩
      · exact arrivals_cons .chunkRequested flow.log
      · exact finishes_cons .chunkRequested flow.log

theorem Asks.balanced (asks : Asks flow after) (tallied : Tallied asked flow)
    (held : flow.attachment.isSome = true) : Balanced asked after := by
  cases asks with
  | nothing needless =>
      refine ⟨tallied, ?_⟩
      intro running wanted unmet
      -- Of the reasons not to ask for a chunk, only that one is due already is left.
      rcases needless with stopped | done | loose | due | met
      · rw [stopped] at wanted
        cases wanted
      · rw [running] at done
        cases done
      · rw [loose] at held
        cases held
      · exact due
      · rw [met] at unmet
        cases unmet
  | chunk running wanted index attached free unmet transports once =>
      have now := tallied.paced flow.log List.suffix_rfl
      have due := tallied.due
      rw [free] at due
      change requests flow.log = finishes flow.log at due
      have more : requests (.chunkRequested :: flow.log) = requests flow.log + 1 :=
        requests_cons .chunkRequested flow.log
      have arrived : arrivals (.chunkRequested :: flow.log) = arrivals flow.log :=
        arrivals_cons .chunkRequested flow.log
      have finished : finishes (.chunkRequested :: flow.log) = finishes flow.log :=
        finishes_cons .chunkRequested flow.log
      refine ⟨⟨?_, ?_, ?_, ?_, ?_⟩, fun _ _ _ => rfl⟩
      · change requests (.chunkRequested :: flow.log) = finishes (.chunkRequested :: flow.log) + 1
        rw [more, finished, due]
      · apply tallied.paced.cons
        refine ⟨?_, ?_, ?_⟩
        · rw [finished, arrived]
          exact now.finished
        · rw [arrived, more]
          exact Nat.le_succ_of_le now.arrived
        · exact Nat.le_of_eq (by rw [more, finished, due])
      · intro loose
        change flow.attachment = none at loose
        rw [attached] at loose
        cases loose
      · intro other same
        change flow.attachment = some other at same
        rw [attached] at same
        cases same
        change _ = asked.modify index (Option.map (· + requests (.chunkRequested :: flow.log)))
        have level : transports.map (fun transport => transport.outlet.asked?) = _ := once.asked
        rw [tallied.level index attached, List.modify_modify_eq, Option.map_comp_map] at level
        rw [more]
        exact level
      · exact tallied.joined

/-! ### The law -/

/-- What is done to a stream keeps its books balanced, if no chunk arrives that had not
been asked for. No more chunks are finished in the meantime than have arrived in it, and no
fewer unless the stream has ended. -/
structure Disciplined (setup : Setup ε ω σ ρ) (asked : List (Option Nat))
    (flow after : Flow ε ρ ω σ) : Prop where
  steps : Steps setup flow after
  grown : flow.log <:+ after.log
  within : finishes after.log + arrivals flow.log ≤ arrivals after.log + finishes flow.log
  level : after.stage = .running →
    arrivals after.log + finishes flow.log = finishes after.log + arrivals flow.log
  balanced : Answered after.log → Balanced asked flow → Balanced asked after

theorem Disciplined.trans {middle : Flow ε ρ ω σ} (first : Disciplined setup asked flow middle)
    (second : Disciplined setup asked middle after) : Disciplined setup asked flow after := by
  refine ⟨first.steps.trans second.steps, first.grown.trans second.grown, ?_, ?_, ?_⟩
  · have earlier := first.within
    have later := second.within
    omega
  · intro running
    have earlier := first.level (second.steps.running running)
    have later := second.level running
    omega
  · intro answered balanced
    exact second.balanced answered
      (first.balanced (answered.of_suffix second.grown) balanced)

theorem Calm.disciplined (calm : Calm flow after) (steps : Steps setup flow after) :
    Disciplined setup asked flow after := by
  obtain ⟨notes, log, others⟩ := calm.log
  have same := SameCounts.notes others flow.log
  rw [← log] at same
  have level := level_of_sameCounts same
  refine ⟨steps, ?_, Nat.le_of_eq level.symm, fun _ => level,
    fun _ balanced => calm.balanced steps balanced⟩
  rw [log]
  exact List.suffix_append notes flow.log

theorem Disciplined.looked {kind : MessageKind} (step : Step setup flow after)
    (log : after.log = .looked kind :: flow.log) (due : after.chunkDue = flow.chunkDue)
    (cancelled : after.cancelled = flow.cancelled)
    (unmet : after.demand.isMet = false → flow.demand.isMet = false)
    (attachment : after.attachment = flow.attachment) (bound : after.subscriber = flow.subscriber)
    (same : after.asked? = flow.asked?) : Disciplined setup asked flow after := by
  have counts : SameCounts flow.log after.log := by
    rw [log]
    exact .looked kind flow.log
  have level := level_of_sameCounts counts
  refine ⟨.single step, ?_, Nat.le_of_eq level.symm, fun _ => level, ?_⟩
  · rw [log]
    exact List.suffix_cons _ _
  · intro _ balanced
    refine ⟨balanced.toTallied.of_log ?_ counts.requests ?_ attachment bound same, ?_⟩
    · have now := counts.inPace (balanced.paced _ List.suffix_rfl)
      rw [log] at now ⊢
      exact balanced.paced.cons now
    · rw [counts.requests, counts.finishes, due]
      exact balanced.due
    · intro running wanted left
      rw [due]
      have steps : Steps setup flow after := .single step
      exact balanced.wanted (steps.running running) (cancelled.symm.trans wanted) (unmet left)

theorem isMet_serve {demand : Demand} (unmet : demand.serve.isMet = false) :
    demand.isMet = false := by
  have left : demand.serve.outstanding ≠ 0 := beq_eq_false_iff_ne.mp unmet
  rw [Demand.outstanding_serve] at left
  apply beq_eq_false_iff_ne.mpr
  omega

theorem Disciplined.requested {count : Nat} (counts : count ≠ 0) (wanted : flow.cancelled = false)
    (bound : flow.subscriber.isSome = true)
    (asks : Asks (record (.demanded count) { flow with demand := flow.demand.add count }) after) :
    Disciplined setup asked flow after := by
  obtain ⟨grown, arrived, finished⟩ := asks.counts
  have note : SameCounts flow.log (.demanded count :: flow.log) := .note rfl flow.log
  have arrivedToo : arrivals after.log = arrivals flow.log := arrived.trans note.arrivals
  have finishedToo : finishes after.log = finishes flow.log := finished.trans note.finishes
  have level : arrivals after.log + finishes flow.log = finishes after.log + arrivals flow.log := by
    rw [arrivedToo, finishedToo, Nat.add_comm]
  refine ⟨demanded_steps counts wanted asks, (List.suffix_cons _ _).trans grown,
    Nat.le_of_eq level.symm, fun _ => level, ?_⟩
  · intro answered balanced
    refine asks.balanced ?_ (balanced.joined bound)
    refine balanced.toTallied.of_log ?_ note.requests ?_ rfl rfl rfl
    · exact balanced.paced.cons (note.inPace (balanced.paced _ List.suffix_rfl))
    · change requests (.demanded count :: flow.log) = finishes (.demanded count :: flow.log) + _
      rw [note.requests, note.finishes]
      exact balanced.due

theorem Balanced.arrived {index : Nat} {bytes : Bytes} (balanced : Balanced asked flow)
    (answered : Answered (.chunkArrived index bytes :: flow.log)) :
    flow.attachment.isSome = true ∧
      Balanced asked (record (.chunkArrived index bytes) flow) := by
  have expected := answered index bytes flow.log List.suffix_rfl
  have now := balanced.paced flow.log List.suffix_rfl
  have same : requests (.chunkArrived index bytes :: flow.log) = requests flow.log :=
    requests_cons (.chunkArrived index bytes) flow.log
  have one : arrivals (.chunkArrived index bytes :: flow.log) = arrivals flow.log + 1 :=
    arrivals_cons (.chunkArrived index bytes) flow.log
  have finished : finishes (.chunkArrived index bytes :: flow.log) = finishes flow.log :=
    finishes_cons (.chunkArrived index bytes) flow.log
  have attached : flow.attachment.isSome = true := by
    cases held : flow.attachment with
    | some index => rfl
    | none =>
        rw [(balanced.loose held).1] at expected
        cases expected
  refine ⟨attached, ?_, balanced.wanted⟩
  refine balanced.toTallied.of_log ?_ same ?_ rfl rfl rfl
  · apply balanced.paced.cons
    refine ⟨?_, ?_, ?_⟩
    · rw [finished, one]
      exact Nat.le_succ_of_le now.finished
    · rw [one, same]
      exact expected
    · rw [same, finished]
      exact now.requested
  · change requests (.chunkArrived index bytes :: flow.log) =
      finishes (.chunkArrived index bytes :: flow.log) + _
    rw [same, finished]
    exact balanced.due

theorem Disciplined.broken (running : flow.stage = .running) (index : Nat) (bytes : Bytes)
    (body : Disciplined setup asked (record (.chunkArrived index bytes) flow) after)
    (done : after.stage.isDone = true) : Disciplined setup asked flow after := by
  have one : arrivals (.chunkArrived index bytes :: flow.log) = arrivals flow.log + 1 :=
    arrivals_cons (.chunkArrived index bytes) flow.log
  have finished : finishes (.chunkArrived index bytes :: flow.log) = finishes flow.log :=
    finishes_cons (.chunkArrived index bytes) flow.log
  have within : finishes after.log + arrivals (.chunkArrived index bytes :: flow.log) ≤
      arrivals after.log + finishes (.chunkArrived index bytes :: flow.log) := body.within
  rw [one, finished] at within
  refine ⟨.head (.arrived running index bytes) body.steps,
    (List.suffix_cons _ _).trans body.grown, by omega, ?_, fun answered balanced => ?_⟩
  · intro still
    rw [still] at done
    cases done
  · exact body.balanced answered (balanced.arrived (answered.of_suffix body.grown)).2

/-- When a chunk has been dealt with it was the one that was due, whatever came and
went in the meantime. -/
theorem Disciplined.handled {decoded : Flow ε ρ ω σ} (running : flow.stage = .running)
    (index : Nat) (bytes : Bytes)
    (body : Disciplined setup asked (record (.chunkArrived index bytes) flow) decoded)
    (asks : Asks (record .chunkFinished { decoded with chunkDue := false }) after) :
    Disciplined setup asked flow after := by
  obtain ⟨grown, arrived, finished⟩ := asks.counts
  have grownToo : decoded.log <:+ after.log := (List.suffix_cons _ _).trans grown
  have one : arrivals (.chunkArrived index bytes :: flow.log) = arrivals flow.log + 1 :=
    arrivals_cons (.chunkArrived index bytes) flow.log
  have before : finishes (.chunkArrived index bytes :: flow.log) = finishes flow.log :=
    finishes_cons (.chunkArrived index bytes) flow.log
  have more : finishes (.chunkFinished :: decoded.log) = finishes decoded.log + 1 :=
    finishes_cons .chunkFinished decoded.log
  have same : arrivals (.chunkFinished :: decoded.log) = arrivals decoded.log :=
    arrivals_cons .chunkFinished decoded.log
  have requested : requests (.chunkFinished :: decoded.log) = requests decoded.log :=
    requests_cons .chunkFinished decoded.log
  have within : finishes decoded.log + (arrivals flow.log + 1) ≤
      arrivals decoded.log + finishes flow.log := by
    rw [← one, ← before]
    exact body.within
  have finishing : Steps setup decoded after :=
    .head (.quiet .finished) asks.steps
  change arrivals after.log = arrivals (.chunkFinished :: decoded.log) at arrived
  change finishes after.log = finishes (.chunkFinished :: decoded.log) at finished
  refine ⟨handled_steps running index bytes body.steps asks, ?_, ?_, ?_, ?_⟩
  · exact ((List.suffix_cons _ _).trans body.grown).trans grownToo
  · rw [arrived, finished, more, same]
    omega
  · intro still
    have level : arrivals decoded.log + finishes (.chunkArrived index bytes :: flow.log) =
        finishes decoded.log + arrivals (.chunkArrived index bytes :: flow.log) :=
      body.level (finishing.running still)
    rw [one, before] at level
    rw [arrived, finished, more, same]
    omega
  · intro answered balanced
    have early : Answered (.chunkArrived index bytes :: flow.log) :=
      answered.of_suffix (body.grown.trans grownToo)
    obtain ⟨attached, taken⟩ := balanced.arrived early
    have inside := body.balanced (answered.of_suffix grownToo) taken
    have now := inside.paced decoded.log List.suffix_rfl
    have settled := (balanced.paced flow.log List.suffix_rfl).finished
    -- A chunk that is being decoded is open: it has arrived and is not finished.
    have opened : finishes decoded.log < arrivals decoded.log := by omega
    have due : requests decoded.log = finishes decoded.log + 1 :=
      Nat.le_antisymm now.requested (Nat.lt_of_lt_of_le opened now.arrived)
    refine asks.balanced ?_ (body.steps.held attached)
    refine inside.toTallied.of_log ?_ requested ?_ rfl rfl rfl
    · apply inside.paced.cons
      refine ⟨?_, ?_, ?_⟩
      · rw [more, same]
        exact opened
      · rw [same, requested]
        exact now.arrived
      · rw [requested, more, due]
        exact Nat.le_succ _
    · change requests (.chunkFinished :: decoded.log) = finishes (.chunkFinished :: decoded.log)
      rw [requested, more, due]

theorem Disciplined.told {final : Stage} (running : flow.stage = .running)
    (done : final.isDone = true) {number : Nat} {state : σ}
    (holder : flow.subscriber = some (number, state))
    (hook : Disciplined setup asked
      (informed setup final.signal number state { flow with stage := final }) after) :
    Disciplined setup asked flow (record final.report after) := by
  have other : (final.report : Entry ε ρ).isIntake = false := by cases final <;> rfl
  have first : SameCounts flow.log (.signalled number final.signal :: flow.log) :=
    .note rfl flow.log
  have last : SameCounts after.log (final.report :: after.log) := .note other after.log
  have calm : Calm flow (informed setup final.signal number state { flow with stage := final }) :=
    .of_note _ rfl rfl rfl rfl rfl rfl (isSome_of_eq holder).symm rfl
  have ended : after.stage = final := (hook.steps.quiet_of_isDone done).stage
  refine ⟨told_steps running final done number state holder hook.steps, ?_, ?_, ?_, ?_⟩
  · exact ((List.suffix_cons _ _).trans hook.grown).trans (List.suffix_cons _ _)
  · have within : finishes after.log + arrivals (.signalled number final.signal :: flow.log) ≤
        arrivals after.log + finishes (.signalled number final.signal :: flow.log) := hook.within
    rw [first.arrivals, first.finishes] at within
    change finishes (final.report :: after.log) + _ ≤ arrivals (final.report :: after.log) + _
    rw [last.finishes, last.arrivals]
    exact within
  · intro still
    have goes : final = .running := ended.symm.trans still
    rw [goes] at done
    cases done
  · intro answered balanced
    have telling : Balanced asked
        (informed setup final.signal number state { flow with stage := final }) := by
      refine ⟨calm.tallied balanced.toTallied, ?_⟩
      intro goes
      change final = .running at goes
      rw [goes] at done
      cases done
    have inside := hook.balanced (answered.of_suffix (List.suffix_cons _ _)) telling
    refine ⟨?_, inside.wanted⟩
    have noted : Calm after (record final.report after) :=
      .of_note final.report rfl other rfl rfl rfl rfl rfl rfl
    exact noted.tallied inside.toTallied

theorem disciplined_law (setup : Setup ε ω σ ρ) (asked : List (Option Nat)) :
    WholeLaw setup (Disciplined setup asked : Flow ε ρ ω σ → _) where
  steps disciplined := disciplined.steps
  refl flow :=
    ⟨.refl, List.suffix_rfl, Nat.le_of_eq (Nat.add_comm _ _), fun _ => Nat.add_comm _ _,
      fun _ => id⟩
  trans := Disciplined.trans
  calm step calm := calm.disciplined (.single (.quiet step))
  requested _ counts wanted bound asks := .requested counts wanted bound asks
  responded running response held :=
    Calm.disciplined (.of_note _ rfl rfl rfl rfl rfl rfl rfl rfl)
      (.single (.responded running response held))
  alone running final done nobody := by
    have other : (final.report : Entry ε ρ).isIntake = false := by cases final <;> rfl
    exact Calm.disciplined (.of_note final.report rfl other rfl rfl rfl rfl rfl rfl)
      (.single (.endedAlone running final done nobody))
  handed running event number state holder :=
    Calm.disciplined (.of_note _ rfl rfl rfl rfl rfl rfl (isSome_of_eq holder).symm rfl)
      (.single (.handed running event number state holder))
  looked running kind other := .looked (.looked running kind other) rfl rfl rfl id rfl rfl rfl
  served running := .looked (.served running) rfl rfl rfl isMet_serve rfl rfl rfl
  broken running index bytes body done := .broken running index bytes body done
  handled running index bytes body asks := .handled running index bytes body asks
  told running _ done _ _ holder hook := .told running done holder hook

/-! ### Runs -/

/-- Chunks are asked for one at a time, whatever is done to a stream and however its
transport serves it, as long as no chunk arrives that had not been asked for. Every
request is for one chunk, and is made while events are wanted and may still come. At
most one request is open at any moment. Between calls, every chunk that has arrived has
been dealt with as long as the stream is running, and one more has been asked for if
events are wanted. -/
theorem acts_request_in_turn (setup : Setup ε ω σ ρ) {forChunk : Flow ε ρ ω σ → Flow ε ρ ω σ}
    (serving : Serving setup forChunk) (transports : List Transport)
    (interludes : List (List (Event ρ))) (history : List (Event ρ))
    (answered : Answered (history.foldl (act setup (asking setup forChunk))
      { transports := transports, interludes := interludes }).log) :
    let flow : Flow ε ρ ω σ := { transports := transports, interludes := interludes }
    let after := history.foldl (act setup (asking setup forChunk)) flow
    Paced after.log ∧ Told after ∧
      (after.attachment = none → requests after.log = 0 ∧ after.asked? = flow.asked?) ∧
      (∀ index, after.attachment = some index →
        after.asked? = flow.asked?.modify index (Option.map (· + requests after.log))) ∧
      (after.stage = .running → finishes after.log = arrivals after.log) ∧
      (after.stage = .running → after.cancelled = false → 0 < after.demand.outstanding →
        requests after.log = finishes after.log + 1) := by
  intro flow after
  have disciplined : Disciplined setup flow.asked? flow after :=
    serving.keeps (disciplined_law setup flow.asked?).chunks history flow
  have balanced : Balanced flow.asked? after :=
    disciplined.balanced answered (Balanced.initial transports interludes)
  have told : Told after := disciplined.steps.told (Told.initial transports interludes)
  refine ⟨balanced.paced, told, balanced.loose, balanced.level,
    fun running => (disciplined.level running).symm, ?_⟩
  intro running wanted unmet
  have due := balanced.due
  rw [balanced.wanted running wanted (beq_eq_false_iff_ne.mpr (Nat.ne_of_gt unmet))] at due
  exact due

private def patient : Setup String Nat Nat where
  readEvent := fun _ _ => .ok "event"
  subscribers := fun _ => Plan.eventSubscriber { onSubscribe := some 2 }
  handler := { onStream := [0], result := fun given => .ok given.length }

/-- What a transport does that answers the first request at once, with an empty chunk. -/
private def prompt (flow : Flow String String Nat Nat) : List (Event String) :=
  if requests flow.log = 1 then [.push 0 []] else []

private def answering (flow : Flow String String Nat Nat) : Flow String String Nat Nat :=
  (prompt flow).foldl (act patient (asking patient bookChunk)) (bookChunk flow)

private def served : Flow String String Nat Nat :=
  [.attach true 0].foldl (act patient (asking patient answering))
    { transports := [⟨.idle, none⟩] }

/-- The empty chunk is dealt with inside the first request, and a second one is made. -/
theorem acts_request_in_turn_prompt :
    requests served.log = finishes served.log + 1 ∧ finishes served.log = arrivals served.log ∧
      served.asked? = [some (requests served.log)] := by
  have log : served.log = [.chunkRequested, .chunkFinished, .chunkArrived 0 [], .chunkRequested,
      .demanded 2, .signalled 0 .subscribed, .streamReady] := by with_unfolding_all rfl
  have answered : Answered served.log := by
    intro index bytes earlier suffix
    rw [log] at suffix
    simp [List.suffix_cons_iff] at suffix
    obtain ⟨_, rfl⟩ := suffix
    decide
  have serving : Serving patient answering := .acts .notes prompt
  obtain ⟨_, _, _, level, finished, left⟩ :=
    acts_request_in_turn patient serving [⟨.idle, none⟩] [] [.attach true 0] answered
  have attached : served.attachment = some 0 := by decide +kernel
  have running : served.stage = .running := by decide +kernel
  refine ⟨left running (by decide +kernel) (by decide +kernel), finished running,
    (level 0 attached).trans ?_⟩
  exact congrArg (fun made => [some made]) (Nat.zero_add (requests served.log))

end Flow

end FramedEvents
