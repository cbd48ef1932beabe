/-
A subscription that is cancelled leaves the rest of its chunk.

Whenever the subscriber cancels while the stream is running, in a hook or between two
deliveries, the transport is told once and asked for nothing any more. If a chunk is
just being decoded, its messages are dealt with to the end or to the first failure, and
then nothing follows: the stream neither goes on nor completes.
-/

import FramedEvents.Proofs.Flow.Withdrawing
import Mathlib.Data.List.Infix

namespace FramedEvents

variable {ε ρ ω σ : Type} {setup : Setup ε ω σ ρ} {number : Nat} {response : ρ}
  {chunks behind taken : List Bytes} {final : Option TransportError} {least : Nat}
  {messages more : List Message} {left bytes : Bytes} {log : List (Entry ε ρ)}

/-- The calls of a stream that is given these bytes, and then nothing more. -/
def callsOf (setup : Setup ε ω σ ρ) (number : Nat) (response : ρ) (bytes : Bytes) :
    List (Entry ε ρ) :=
  let found := Frame.messages setup.limits bytes
  let (heard, verdict) := hearing setup number response found.1
  match Listener.failure? verdict found.2 none with
  | none => heard.calls
  | some cause => heard.calls ++ [.signalled number (.failed cause), .failureReported cause]

def Control.event : Control → Flow.Event ρ
  | .request count => .request count
  | .cancel => .cancel

/-! ### Logs -/

/-- All messages of the chunks that have been fetched have been heard, and accepted. -/
structure Reached (setup : Setup ε ω σ ρ) (number : Nat) (response : ρ)
    (chunks behind : List Bytes) (messages : List Message) (left : Bytes)
    (log : List (Entry ε ρ)) : Prop where
  split : chunks = fetched log ++ behind
  found : Frame.messages setup.limits (fetched log).flatten = (messages, .ok left)
  accepted : (hearing setup number response messages).2 = .ok ()
  heard : Heard setup number response (fetched log) 0 messages false log

/-- The log of a stream that has been cancelled, once the last chunk has been dealt with. -/
structure Relinquished (setup : Setup ε ω σ ρ) (number : Nat) (response : ρ)
    (log : List (Entry ε ρ)) : Prop where
  calls : callsIn log = callsOf setup number response (fetched log).flatten
  place : ∃ later earlier, log = later ++ .stopped :: earlier ∧
    Withdrawn setup number response
      (Frame.messages setup.limits (fetched log).dropLast.flatten).1.length
      (Frame.messages setup.limits (fetched log).flatten).1 later earlier

theorem callsOf_of_accepted
    (found : Frame.messages setup.limits bytes = (messages, .ok left))
    (accepted : (hearing setup number response messages).2 = .ok ()) :
    callsOf setup number response bytes = (hearing setup number response messages).1.calls := by
  unfold callsOf
  rw [found]
  dsimp only
  generalize hearing setup number response messages = answer at accepted ⊢
  obtain ⟨heard, verdict⟩ := answer
  cases accepted
  rfl

theorem callsOf_of_failure {cause : FlowError}
    (failure : Listener.failure? (hearing setup number response
        (Frame.messages setup.limits bytes).1).2 (Frame.messages setup.limits bytes).2 none =
      some cause) :
    callsOf setup number response bytes =
      (hearing setup number response (Frame.messages setup.limits bytes).1).1.calls ++
        [.signalled number (.failed cause), .failureReported cause] := by
  unfold callsOf
  dsimp only
  rw [failure]

theorem Frame.length_messages_mono (limits : Limits) (front back : Bytes) :
    (Frame.messages limits front).1.length ≤ (Frame.messages limits (front ++ back)).1.length := by
  rw [Frame.messages_append]
  generalize Frame.messages limits front = found
  obtain ⟨earlier, stop⟩ := found
  cases stop with
  | error error => exact Nat.le_refl _
  | ok pending =>
      rw [List.length_append]
      exact Nat.le_add_right _ _

theorem Heard.lower (heard : Heard setup number response taken least messages false log)
    {fewer : Nat} (ample : fewer ≤ messages.length) :
    Heard setup number response taken fewer messages false log :=
  ⟨heard.fetched, heard.calls, heard.looked, ample, heard.wanted, nofun⟩

theorem Heard.reached (heard : Heard setup number response taken least messages false log)
    (split : chunks = taken ++ behind)
    (found : Frame.messages setup.limits taken.flatten = (messages, .ok left))
    (accepted : (hearing setup number response messages).2 = .ok ()) :
    Reached setup number response chunks behind messages left log := by
  have counted := heard.lower (Nat.zero_le messages.length)
  obtain rfl := heard.fetched
  exact ⟨split, found, accepted, counted⟩

theorem Reached.arrived
    (reached : Reached setup number response chunks (bytes :: behind) messages left log) :
    Heard setup number response (fetched log ++ [bytes]) messages.length messages false
      (.chunkArrived 0 bytes :: log) := by
  have heard := reached.heard
  have silent : callsIn (.chunkArrived 0 bytes :: log) = callsIn log :=
    (callsIn_append [.chunkArrived 0 bytes] log).trans (List.append_nil _)
  refine ⟨fetched_arrived 0 bytes log, silent.trans heard.calls, heard.looked, Nat.le_refl _, ?_,
    nofun⟩
  intro wanted member
  rcases List.mem_cons.mp member with same | before
  · cases same
  · exact heard.wanted wanted before

theorem Reached.longer
    (reached : Reached setup number response chunks (bytes :: behind) messages left log) :
    Frame.messages setup.limits (fetched log ++ [bytes]).flatten =
      (messages ++ (Frame.messages setup.limits (left ++ bytes)).1,
        (Frame.messages setup.limits (left ++ bytes)).2) := by
  rw [List.flatten_append, List.flatten_singleton, Frame.messages_append, reached.found]

theorem Heard.relinquished {front : List Message}
    (heard : Heard setup number response taken
      (Frame.messages setup.limits taken.dropLast.flatten).1.length front true log)
    (notes : List (Entry ε ρ)) (idle : ∀ note ∈ notes, note.isAdvance = false)
    (none : FramedEvents.fetched notes = [])
    (within : front <+: (Frame.messages setup.limits taken.flatten).1)
    (calls : callsOf setup number response taken.flatten =
      (hearing setup number response front).1.calls ++ callsIn notes) :
    Relinquished setup number response (notes ++ log) := by
  have same : FramedEvents.fetched (notes ++ log) = taken := by
    rw [fetched_append, none, List.append_nil]
    exact heard.fetched
  obtain ⟨later, earlier, split, withdrawn⟩ := heard.withdrawn rfl
  obtain ⟨rest, whole⟩ := within
  refine ⟨?_, notes ++ later, earlier, ?_, ?_⟩
  · rw [same, calls, callsIn_append, heard.calls]
  · rw [split, List.append_assoc]
  · rw [same, ← whole]
    exact (withdrawn.append rest).add idle

namespace Flow

variable {ask : Ask ε ρ ω σ} {origin source held : Source} {pending : Option Bytes}
  {flow after : Flow ε ρ ω σ} {listener : Listener ε ρ σ} {demand : Demand}

/-! ### Streams that have ended -/

/-- The stream has ended, and it was not cancelled before. -/
structure Spent (flow : Flow ε ρ ω σ) : Prop where
  bound : flow.subscriber.isSome = true
  quiet : flow.interludes = []
  ended : ∃ earlier, earlier <:+ flow.log ∧ .stopped ∉ earlier ∧
    ∃ entry ∈ earlier, entry.isFinal = true

theorem Spent.steps (spent : Spent flow) (steps : Steps setup flow after) : Spent after := by
  obtain ⟨earlier, front, unstopped, told⟩ := spent.ended
  exact ⟨steps.bound spent.bound, steps.quietly spent.quiet, earlier, front.trans steps.grows,
    unstopped, told⟩

theorem Spent.of_same (spent : Spent flow) (log : after.log = flow.log)
    (subscriber : after.subscriber = flow.subscriber)
    (interludes : after.interludes = flow.interludes) : Spent after := by
  obtain ⟨bound, quiet, ended⟩ := spent
  rw [← log] at ended
  rw [← subscriber] at bound
  rw [← interludes] at quiet
  exact ⟨bound, quiet, ended⟩

theorem Spent.ended_before (spent : Spent flow) {later earlier : List (Entry ε ρ)}
    (log : flow.log = later ++ .stopped :: earlier) :
    ∃ entry ∈ earlier, entry.isFinal = true := by
  obtain ⟨front, suffix, unstopped, entry, member, final⟩ := spent.ended
  rw [log] at suffix
  refine ⟨entry, ?_, final⟩
  rcases List.suffix_or_suffix_of_suffix suffix (List.suffix_append later _) with inside | outside
  · rcases List.suffix_cons_iff.mp inside with same | before
    · rw [same] at unstopped
      exact absurd List.mem_cons_self unstopped
    · exact before.subset member
  · exact absurd (outside.subset List.mem_cons_self) unstopped

theorem reported_spent (keeps : ask.Keeps (Steps setup)) (stage : Stage)
    (done : stage.isDone = true) (bound : flow.subscriber.isSome = true)
    (quiet : flow.interludes = []) (unstopped : .stopped ∉ flow.log) :
    Spent (ask.others (reported setup ask stage flow)) := by
  have law : WholeLaw setup (Steps setup : Flow ε ρ ω σ → _) := steps_law setup
  obtain ⟨⟨number, state⟩, holder⟩ := Option.isSome_iff_exists.mp bound
  let told := informed setup stage.signal number state { flow with stage := stage }
  have final : (Entry.signalled number stage.signal : Entry ε ρ).isFinal = true := by
    cases stage with
    | running => cases done
    | failed cause => rfl
    | completed => rfl
  have first : Spent told := by
    refine ⟨rfl, quiet, told.log, List.suffix_rfl, ?_, _, List.mem_cons_self, final⟩
    intro member
    rcases List.mem_cons.mp member with same | before
    · cases same
    · exact unstopped before
  have signalled := first.steps
    (signal_keeps law.toLaw keeps stage.signal { flow with stage := stage } holder)
  have reported : Spent (reported setup ask stage flow) := by
    obtain ⟨earlier, front, apart, told⟩ := signalled.ended
    exact ⟨signalled.bound, signalled.quiet, earlier, front.trans (List.suffix_cons _ _), apart,
      told⟩
  exact reported.steps (keeps.others _)

theorem fail_spent (keeps : ask.Keeps (Steps setup)) (cause : FlowError)
    (running : flow.stage = .running) (bound : flow.subscriber.isSome = true)
    (quiet : flow.interludes = []) (unstopped : .stopped ∉ flow.log) :
    Spent (fail setup ask cause flow) := by
  rw [fail_of_running running]
  exact (reported_spent keeps (.failed cause) rfl bound quiet unstopped).of_same rfl rfl rfl

/-! ### Streams that have been cancelled -/

/-- The stream has been cancelled while it was running, and no chunk is being decoded. -/
structure Released (setup : Setup ε ω σ ρ) (number : Nat) (response : ρ) (flow : Flow ε ρ ω σ) :
    Prop where
  stopped : flow.cancelled = true
  bound : flow.subscriber.isSome = true
  quiet : flow.interludes = []
  held : flow.attachment = some 0
  pulls : ∃ delivery held consumer, flow.transports = [⟨.pull delivery held, consumer⟩]
  log : Relinquished setup number response flow.log

theorem Released.updateDelivery (released : Released setup number response flow)
    (change : Delivery → Delivery) :
    Released setup number response (flow.updateOutlet 0 (Outlet.updateDelivery change)) := by
  obtain ⟨stopped, bound, quiet, attached, ⟨delivery, held, consumer, transports⟩, log⟩ := released
  refine ⟨stopped, bound, quiet, attached, ⟨change delivery, held, consumer, ?_⟩, log⟩
  unfold updateOutlet updateTransport
  rw [transports]
  rfl

theorem Released.withSource (released : Released setup number response flow) (source : Source) :
    Released setup number response (flow.updateOutlet 0 (Outlet.withSource source)) ∧
      (flow.updateOutlet 0 (Outlet.withSource source)).firstSource = source := by
  obtain ⟨stopped, bound, quiet, attached, ⟨delivery, held, consumer, transports⟩, log⟩ := released
  have same : (flow.updateOutlet 0 (Outlet.withSource source)).transports =
      [⟨.pull delivery source, consumer⟩] := by
    unfold updateOutlet updateTransport
    rw [transports]
    rfl
  refine ⟨⟨stopped, bound, quiet, attached, ⟨delivery, source, consumer, same⟩, log⟩, ?_⟩
  unfold firstSource transport?
  rw [same]
  rfl

/-! ### Ends -/

theorem stop_resting (resting : Resting flow) : Resting (stop flow) := by
  unfold Flow.stop
  split
  · exact resting
  · dsimp only
    split
    · exact resting
    · exact resting

theorem stop_quiet (quiet : flow.interludes = []) : (stop flow).interludes = [] := by
  unfold Flow.stop
  split
  · exact quiet
  · dsimp only
    split
    · exact quiet
    · exact quiet

theorem controls_idle (resting : Resting flow) (quiet : flow.interludes = [])
    (idle : flow.firstDelivery.isWaiting = false) (controls : List Control) :
    (controls.foldl (obey ask) flow).interludes = [] ∧
      (controls.foldl (obey ask) flow).firstDelivery.isWaiting = false := by
  let Idle (flow : Flow ε ρ ω σ) : Prop :=
    Resting flow ∧ flow.interludes = [] ∧ flow.firstDelivery.isWaiting = false
  have idly : Idle (controls.foldl (obey ask) flow) := by
    refine controls_keep ?_ ?_ ⟨resting, quiet, idle⟩ controls
    · rintro flow count ⟨resting, quiet, idle⟩
      have demands : Demands flow (request ask count flow) := request_demands count resting
      refine ⟨demands.resting resting, demands.quiet quiet, ?_⟩
      obtain ⟨demand, log, same, _⟩ := demands
      rw [same]
      exact idle
    · rintro flow ⟨resting, quiet, idle⟩
      exact ⟨stop_resting resting, stop_quiet quiet, isWaiting_stop idle⟩
  exact idly.2

theorem fail_eq (alone : ask.Alone) (cause : FlowError) (running : flow.stage = .running)
    {state : σ} (holder : flow.subscriber = some (number, state)) {told : Flow ε ρ ω σ}
    (quiet : told.interludes = [])
    (obeyed : ((setup.subscribers number).react (.failed cause) state).controls.foldl (obey ask)
      (informed setup (.failed cause) number state { flow with stage := .failed cause }) = told) :
    fail setup ask cause flow =
      (record (.failureReported cause) told).resolve (.error cause) := by
  have reported : reported setup ask (.failed cause) flow =
      record (.failureReported cause) told := by
    have ended : ({ flow with stage := .failed cause } : Flow ε ρ ω σ).subscriber =
        some (number, state) := holder
    exact congrArg (record _ ∘ Prod.fst) (signal_alone alone ended obeyed quiet)
  rw [fail_of_running running, reported]
  exact congrArg (resolve _) (alone _ quiet)

theorem fail_idle (alone : ask.Alone) (cause : FlowError) (running : flow.stage = .running)
    {state : σ} (holder : flow.subscriber = some (number, state)) (quiet : flow.interludes = [])
    (idle : flow.firstDelivery.isWaiting = false) :
    (fail setup ask cause flow).firstDelivery.isWaiting = false := by
  let told := informed setup (.failed cause) number state { flow with stage := .failed cause }
  let controls := ((setup.subscribers number).react (.failed cause) state).controls
  have resting : Resting told := .inr rfl
  obtain ⟨quietly, still⟩ : (controls.foldl (obey ask) told).interludes = [] ∧
      (controls.foldl (obey ask) told).firstDelivery.isWaiting = false :=
    controls_idle resting quiet idle controls
  rw [fail_eq alone cause running holder quietly rfl]
  exact still

/-! ### One chunk -/

/-- Where a stream is when nothing is going on. -/
inductive Standing (setup : Setup ε ω σ ρ) (number : Nat) (response : ρ) (origin : Source)
    (chunks : List Bytes) (source : Source) (flow : Flow ε ρ ω σ) : Prop where
  | paused (behind : List Bytes) (messages : List Message) (left : Bytes) (held : Source)
      (shape : flow = pausing number held left (hearing setup number response messages).1 flow.log)
      (reached : Reached setup number response chunks behind messages left flow.log)
      (here : source = origin.advance (fetched flow.log).length)
  | released (released : Released setup number response flow)
      (here : source = origin.advance (fetched flow.log).length)
  | spent (spent : Spent flow)

section

variable (attentive : Attentive setup number response taken least messages source pending flow)

include attentive

theorem Attentive.keepPending (kept : Option Bytes) :
    Attentive setup number response taken least messages source kept
      (flow.keepPending 0 true kept) := by
  refine ⟨?_, attentive.heard⟩
  rw [attentive.shape]
  rfl

theorem Attentive.idle : flow.firstDelivery.isWaiting = false := by
  rw [attentive.shape]
  cases flow.cancelled <;> rfl

theorem Attentive.attached : flow.attachment = some 0 := by
  rw [attentive.shape]
  rfl

theorem Attentive.pulls :
    ∃ delivery held consumer, flow.transports = [⟨.pull delivery held, consumer⟩] := by
  rw [attentive.shape]
  exact ⟨_, _, _, rfl⟩

theorem Attentive.follows (wanted : flow.cancelled = false) :
    Follows number drawn source pending flow
      (hearing setup number response messages).1 := by
  refine ⟨?_, attentive.heard.calls⟩
  have shape := attentive.shape
  rw [wanted] at shape
  exact shape

theorem Attentive.decodes (alone : ask.Alone)
    (accepted : (hearing setup number response messages).2 = .ok ()) (buffer : Bytes) :
    let found := Frame.messages setup.limits buffer
    let fed := Fed.decodeAll setup.limits FlowError.decode (deal setup ask) flow buffer
    let whole := hearing setup number response (messages ++ found.1)
    ∃ front, front <+: found.1 ∧
      Attentive setup number response taken least (messages ++ front) source (some fed.pending)
        (fed.state.keepPending 0 true (some fed.pending)) ∧
      whole = hearing setup number response (messages ++ front) ∧
      fed.outcome = (match Listener.failure? whole.2 found.2 none with
        | some cause => .error cause
        | none => .ok ()) ∧
      (fed.outcome = .ok () →
        front = found.1 ∧ found.2 = .ok fed.pending ∧ whole.2 = .ok ()) := by
  intro found fed whole
  obtain ⟨state, outcome⟩ : fed.state = _ ∧ fed.outcome = _ := Fed.decodeAll_eq_walk flow buffer
  obtain ⟨front, within, heard, same, verdict, all⟩ := attentive.walks alone found.1 accepted
  rw [← state] at heard
  have decided : fed.outcome = Fed.stopped FlowError.decode found.2 whole.2 := by
    rw [outcome]
    exact congrArg (Fed.stopped FlowError.decode found.2) verdict.symm
  refine ⟨front, within, heard.keepPending _, same, decided.trans (Listener.stopped_eq _ _), ?_⟩
  intro sound
  have none : Listener.failure? whole.2 found.2 none = none := by
    rw [decided, Listener.stopped_eq] at sound
    cases failure : Listener.failure? whole.2 found.2 none with
    | none => rfl
    | some cause =>
        rw [failure] at sound
        cases sound
  obtain ⟨onward, rest, kept⟩ := Listener.failure?_eq_none none
  refine ⟨all (verdict.symm.trans onward), ?_, onward⟩
  have parts : fed = ⟨fed.state, fed.outcome, fed.pending⟩ := rfl
  rw [sound] at parts
  exact Fed.pending_of_ok parts

end

/-- Where a chunk leads to: the delivery stops, or the next chunk is asked for. -/
inductive Moves (setup : Setup ε ω σ ρ) (number : Nat) (response : ρ) (origin : Source)
    (chunks behind : List Bytes) (held source : Source) (flow : Flow ε ρ ω σ) : Prop where
  | rests (idle : flow.firstDelivery.isWaiting = false)
      (standing : Standing setup number response origin chunks source
        (Delivery.rest (reach setup 0) flow))
  | onward (messages : List Message) (left : Bytes)
      (follows : Follows number drawing held (some left) flow
        (hearing setup number response messages).1)
      (reached : Reached setup number response chunks behind messages left flow.log)
      (here : source = origin.advance (fetched flow.log).length)

theorem finishChunk_of_cancelled (stopped : flow.cancelled = true) :
    finishChunk ask flow = record .chunkFinished { flow with chunkDue := false } := by
  unfold finishChunk askNext
  dsimp only
  split
  · rfl
  · refine if_pos ?_
    change (flow.cancelled || _ || _ || _) = true
    rw [stopped]
    rfl

theorem Attentive.leaves
    (attentive : Attentive setup number response taken
      (Frame.messages setup.limits taken.dropLast.flatten).1.length messages held (some left) flow)
    (found : Frame.messages setup.limits taken.flatten = (messages, .ok left))
    (accepted : (hearing setup number response messages).2 = .ok ())
    (stopped : flow.cancelled = true) :
    Released setup number response (record .chunkFinished { flow with chunkDue := false }) := by
  have heard := attentive.heard
  rw [stopped] at heard
  have relinquished : Relinquished setup number response (.chunkFinished :: flow.log) := by
    refine heard.relinquished [.chunkFinished] (List.forall_mem_singleton.mpr rfl) rfl ?_ ?_
    · rw [found]
    · rw [callsOf_of_accepted found accepted]
      exact (List.append_nil _).symm
  exact ⟨stopped, isSome_of_eq attentive.holder, attentive.quiet, attentive.attached,
    attentive.pulls, relinquished⟩

theorem Attentive.leaves_failed {front : List Message} {cause : FlowError}
    (attentive : Attentive setup number response taken
      (Frame.messages setup.limits taken.dropLast.flatten).1.length front held pending flow)
    (within : front <+: (Frame.messages setup.limits taken.flatten).1)
    (same : hearing setup number response (Frame.messages setup.limits taken.flatten).1 =
      hearing setup number response front)
    (failure : Listener.failure? (hearing setup number response
        (Frame.messages setup.limits taken.flatten).1).2
        (Frame.messages setup.limits taken.flatten).2 none = some cause)
    (stopped : flow.cancelled = true) :
    let failed := fail setup (asking setup bookChunk) cause flow
    Released setup number response failed ∧ fetched failed.log = taken ∧
      failed.outcome = flow.outcome.resolve (.error cause) := by
  intro failed
  have alone : (asking setup bookChunk : Ask ε ρ ω σ).Alone := asking_alone bookChunk
  have heard := attentive.heard
  rw [stopped] at heard
  let told := informed setup (.failed cause) number
    (hearing setup number response front).1.state { flow with stage := .failed cause }
  let reported := (record (.failureReported cause) told).resolve (.error cause)
  have quiet : told.interludes = [] := attentive.quiet
  have unheeded : told.cancelled = true := stopped
  have reports : failed = reported :=
    fail_eq alone cause attentive.running attentive.holder quiet
      (controls_of_cancelled unheeded _)
  have relinquished : Relinquished setup number response reported.log := by
    refine heard.relinquished [.failureReported cause, .signalled number (.failed cause)] ?_
      rfl within ?_
    · exact List.forall_mem_cons.mpr ⟨rfl, List.forall_mem_singleton.mpr rfl⟩
    · rw [callsOf_of_failure failure, same]
      rfl
  have none : fetched ([.failureReported cause, .signalled number (.failed cause)] ++
      flow.log) = fetched flow.log := (fetched_append _ flow.log).trans (List.append_nil _)
  rw [reports]
  exact ⟨⟨stopped, rfl, attentive.quiet, attentive.attached, attentive.pulls, relinquished⟩,
    none.trans heard.fetched, rfl⟩

theorem Attentive.proceeds
    (attentive : Attentive setup number response taken least messages held (some left) flow)
    (split : chunks = taken ++ behind)
    (found : Frame.messages setup.limits taken.flatten = (messages, .ok left))
    (accepted : (hearing setup number response messages).2 = .ok ())
    (wanted : flow.cancelled = false) (unmet : flow.demand.isMet = false) :
    let after := finishChunk (asking setup bookChunk) flow
    Follows number drawing held (some left) after (hearing setup number response messages).1 ∧
      Reached setup number response chunks behind messages left after.log ∧
      fetched after.log = taken := by
  intro after
  have heard := attentive.heard
  rw [wanted] at heard
  have follows := attentive.follows wanted
  have finished : Heard setup number response taken least messages false
      (.chunkFinished :: flow.log) := heard.note rfl rfl rfl
  have asked : Heard setup number response taken least messages false
      (.chunkRequested :: .chunkFinished :: flow.log) := finished.noted nofun rfl rfl rfl
  have same : after = _ := finishChunk_unmet setup follows unmet
  refine ⟨(finishChunk_follows setup follows unmet).1, ?_, ?_⟩
  · rw [same]
    exact asked.reached split found accepted
  · rw [same]
    exact asked.fetched

theorem Attentive.finishes
    (attentive : Attentive setup number response taken
      (Frame.messages setup.limits taken.dropLast.flatten).1.length messages held (some left) flow)
    (split : chunks = taken ++ behind)
    (found : Frame.messages setup.limits taken.flatten = (messages, .ok left))
    (accepted : (hearing setup number response messages).2 = .ok ())
    (here : source = origin.advance taken.length) :
    Moves setup number response origin chunks behind held source
      (finishChunk (asking setup bookChunk) flow) := by
  have heard := attentive.heard
  cases stopped : flow.cancelled with
  | true =>
      have idle : (record .chunkFinished { flow with chunkDue := false }).firstDelivery.isWaiting =
          false := attentive.idle
      have released := attentive.leaves found accepted stopped
      rw [finishChunk_of_cancelled stopped]
      refine .rests idle (.released (released.updateDelivery _) ?_)
      change source = origin.advance (fetched (.chunkFinished :: flow.log)).length
      rw [(Takes.of_note rfl flow.log).fetched, heard.fetched]
      exact here
  | false =>
      rw [stopped] at heard
      have follows := attentive.follows stopped
      have finished : Heard setup number response taken _ messages false
          (.chunkFinished :: flow.log) := heard.note rfl rfl rfl
      by_cases met : flow.demand.isMet = true
      · obtain ⟨idle, _, pauses⟩ := finishChunk_pauses setup follows met
        have log : (finishChunk (asking setup bookChunk) flow).log =
            .chunkFinished :: flow.log := congrArg Flow.log (if_pos met)
        refine .rests idle (.paused behind messages left held pauses ?_ ?_)
        · change Reached setup number response chunks behind messages left
            (finishChunk (asking setup bookChunk) flow).log
          rw [log]
          exact finished.reached split found accepted
        · change source =
            origin.advance (fetched (finishChunk (asking setup bookChunk) flow).log).length
          rw [log, finished.fetched]
          exact here
      · have unmet := Bool.eq_false_iff.mpr met
        obtain ⟨next, reached, got⟩ := attentive.proceeds split found accepted stopped unmet
        refine .onward messages left next reached ?_
        rw [got]
        exact here

theorem Attentive.fails {front : List Message} {cause : FlowError}
    (attentive : Attentive setup number response taken
      (Frame.messages setup.limits taken.dropLast.flatten).1.length front held pending flow)
    (within : front <+: (Frame.messages setup.limits taken.flatten).1)
    (same : hearing setup number response (Frame.messages setup.limits taken.flatten).1 =
      hearing setup number response front)
    (failure : Listener.failure? (hearing setup number response
        (Frame.messages setup.limits taken.flatten).1).2
        (Frame.messages setup.limits taken.flatten).2 none = some cause)
    (here : source = origin.advance taken.length) :
    Moves setup number response origin chunks behind held source
      (Flow.stop (fail setup (asking setup bookChunk) cause flow)) := by
  have alone : (asking setup bookChunk : Ask ε ρ ω σ).Alone := asking_alone bookChunk
  have heard := attentive.heard
  have bound := isSome_of_eq attentive.holder
  have idle : (fail setup (asking setup bookChunk) cause flow).firstDelivery.isWaiting = false :=
    fail_idle alone cause attentive.running attentive.holder attentive.quiet attentive.idle
  refine .rests (isWaiting_stop idle) ?_
  cases stopped : flow.cancelled with
  | true =>
      obtain ⟨released, got, _⟩ := attentive.leaves_failed within same failure stopped
      rw [stop_of_cancelled released.stopped]
      refine .released (released.updateDelivery _) ?_
      change source = origin.advance
        (fetched (fail setup (asking setup bookChunk) cause flow).log).length
      rw [got]
      exact here
  | false =>
      have keeps : (asking setup bookChunk : Ask ε ρ ω σ).Keeps (Steps setup) :=
        booking_keeps (steps_law setup).chunks
      have spent := fail_spent keeps cause attentive.running bound attentive.quiet
        (heard.wanted stopped)
      have ended := spent.steps (stop_steps setup spent.bound)
      exact .spent (ended.of_same rfl rfl rfl)

/-- What has been made of a chunk: all its messages have been accepted, or there is a failure
among them. -/
inductive Dealt (setup : Setup ε ω σ ρ) (number : Nat) (response : ρ) (taken : List Bytes)
    (held : Source) (kept after : Flow ε ρ ω σ) : Prop where
  | accepted (messages : List Message) (left : Bytes)
      (found : Frame.messages setup.limits taken.flatten = (messages, .ok left))
      (accepted : (hearing setup number response messages).2 = .ok ())
      (attentive : Attentive setup number response taken
        (Frame.messages setup.limits taken.dropLast.flatten).1.length messages held (some left)
        kept)
      (finishes : after = finishChunk (asking setup bookChunk) kept)
  | failed (front : List Message) (cause : FlowError) (left : Bytes)
      (within : front <+: (Frame.messages setup.limits taken.flatten).1)
      (same : hearing setup number response (Frame.messages setup.limits taken.flatten).1 =
        hearing setup number response front)
      (failure : Listener.failure? (hearing setup number response
          (Frame.messages setup.limits taken.flatten).1).2
          (Frame.messages setup.limits taken.flatten).2 none = some cause)
      (attentive : Attentive setup number response taken
        (Frame.messages setup.limits taken.dropLast.flatten).1.length front held (some left) kept)
      (ends : after = Flow.stop (fail setup (asking setup bookChunk) cause kept))

theorem consume_deals
    (follows : Follows number drawing held (some left) flow
      (hearing setup number response messages).1)
    (reached : Reached setup number response chunks (bytes :: behind) messages left flow.log) :
    let turned := Delivery.takeTurn (Flow.reach setup 0) flow
    let walked := Fed.walk (deal setup (asking setup bookChunk)) (arriving 0 true bytes turned)
      (Frame.messages setup.limits (left ++ bytes)).1
    ∃ rest, Dealt setup number response (fetched flow.log ++ [bytes]) held
      (walked.1.keepPending 0 true (some rest))
      (consume setup (asking setup bookChunk) 0 true left bytes turned) := by
  intro turned walked
  have next := follows.takeTurn setup
  let taken := fetched flow.log ++ [bytes]
  let arrived := arriving 0 true bytes turned
  have attentive : Attentive setup number response taken
      (Frame.messages setup.limits taken.dropLast.flatten).1.length messages held none arrived := by
    have wanted : arrived.cancelled = false := congrArg Flow.cancelled next.shape
    refine ⟨?_, ?_⟩
    · rw [wanted]
      exact ((next.keepPending none).note rfl).shape
    · rw [wanted, List.dropLast_concat, reached.found]
      exact reached.arrived
  let ask : Ask ε ρ ω σ := asking setup bookChunk
  let fed := Fed.decodeAll setup.limits FlowError.decode (deal setup ask) arrived (left ++ bytes)
  obtain ⟨front, within, heard, same, outcome, sound⟩ :=
    attentive.decodes (asking_alone bookChunk : ask.Alone) reached.accepted (left ++ bytes)
  have longer : Frame.messages setup.limits taken.flatten = _ := reached.longer
  have state : fed.state = walked.1 := (Fed.decodeAll_eq_walk _ _).1
  let kept := fed.state.keepPending 0 true (some fed.pending)
  have finished (fine : fed.outcome = .ok ()) :
      consume setup ask 0 true left bytes turned = finishChunk ask kept := by
    unfold consume
    rw [if_neg next.going]
    dsimp only
    split
    · rfl
    · rename_i other
      cases fine.symm.trans other
  have stopped {cause : FlowError} (fails : fed.outcome = .error cause) :
      consume setup ask 0 true left bytes turned = Flow.stop (fail setup ask cause kept) := by
    unfold consume
    rw [if_neg next.going]
    dsimp only
    split
    · rename_i other
      cases fails.symm.trans other
    · rename_i other
      cases fails.symm.trans other
      rfl
  refine ⟨fed.pending, ?_⟩
  rw [← state]
  change fed.outcome = _ at outcome
  cases failure : Listener.failure? (hearing setup number response
      (messages ++ (Frame.messages setup.limits (left ++ bytes)).1)).2
      (Frame.messages setup.limits (left ++ bytes)).2 none with
  | some cause =>
      rw [failure] at outcome
      rw [stopped outcome]
      refine .failed _ cause fed.pending ?_ ?_ ?_ heard rfl
      · rw [longer]
        exact (List.prefix_append_right_inj _).mpr within
      · rw [longer]
        exact same
      · rw [longer]
        exact failure
  | none =>
      rw [failure] at outcome
      obtain ⟨all, rest, accepted⟩ := sound outcome
      subst all
      rw [finished outcome]
      refine .accepted _ fed.pending ?_ accepted heard rfl
      rw [longer, rest]

theorem chunk_moves
    (follows : Follows number drawing held (some left) flow
      (hearing setup number response messages).1)
    (reached : Reached setup number response chunks (bytes :: behind) messages left flow.log)
    (here : source = origin.advance (fetched flow.log).length) :
    Moves setup number response origin chunks behind held source.next.2
      (consume setup (asking setup bookChunk) 0 true left bytes
        (Delivery.takeTurn (Flow.reach setup 0) flow)) := by
  obtain ⟨rest, dealt⟩ := consume_deals follows reached
  have further : source.next.2 = origin.advance (fetched flow.log ++ [bytes]).length := by
    rw [here, List.length_append]
    exact (Source.advance_succ _ origin).symm
  cases dealt with
  | accepted messages left found accepted attentive finishes =>
      have split : chunks = (fetched flow.log ++ [bytes]) ++ behind := by
        rw [reached.split]
        exact List.append_cons _ _ _
      rw [finishes]
      exact attentive.finishes split found accepted further
  | failed front cause left within same failure attentive ends =>
      rw [ends]
      exact attentive.fails within same failure further

/-! ### Deliveries -/

theorem transportEnded_spent (keeps : ask.Keeps (Steps setup))
    (follows : Follows number delivery source pending flow listener)
    (unstopped : .stopped ∉ flow.log) : Spent (transportEnded setup ask 0 flow) := by
  unfold transportEnded
  rw [follows.consumer]
  dsimp only
  rw [complete_of_running follows.running]
  exact (reported_spent keeps .completed rfl (isSome_of_eq follows.holder) follows.quiet
    unstopped).of_same rfl rfl rfl

theorem transportFailed_spent (keeps : ask.Keeps (Steps setup))
    (follows : Follows number delivery source pending flow listener)
    (unstopped : .stopped ∉ flow.log) (error : TransportError) :
    Spent (transportFailed setup ask 0 error flow) := by
  unfold transportFailed
  rw [follows.consumer]
  exact fail_spent keeps _ follows.running (isSome_of_eq follows.holder) follows.quiet unstopped

theorem conclude_spent (follows : Follows number drawing source pending flow listener)
    (unstopped : .stopped ∉ flow.log) {notify : Flow ε ρ ω σ → Flow ε ρ ω σ}
    (notified : ∀ {delivery concluded}, Follows number delivery source pending concluded listener →
      .stopped ∉ concluded.log → Spent (notify concluded)) :
    Spent (Delivery.conclude (reach setup 0) notify (Delivery.takeTurn (reach setup 0) flow)) := by
  let concluded : Flow ε ρ ω σ :=
    streaming number { concluded := true } source pending listener flow.demand flow.log
  have same : Delivery.conclude (reach setup 0) notify
      (Delivery.takeTurn (reach setup 0) flow) = notify concluded := by
    rw [follows.shape]
    rfl
  have onward : Follows number { concluded := true } source pending concluded listener :=
    ⟨rfl, follows.calls⟩
  rw [same]
  exact notified onward unstopped

theorem handOver_stands (supplies : source.Supplies behind final)
    (follows : Follows number drawing held (some left) flow
      (hearing setup number response messages).1)
    (reached : Reached setup number response chunks behind messages left flow.log)
    (here : source = origin.advance (fetched flow.log).length) :
    Standing setup number response origin chunks
      (Delivery.handOver (Flow.reach setup 0) source flow).1
      (Delivery.handOver (Flow.reach setup 0) source flow).2 := by
  have keeps : (asking setup bookChunk : Ask ε ρ ω σ).Keeps (Steps setup) :=
    booking_keeps (steps_law setup).chunks
  -- The source gets shorter, and all that has come of it so far has been accepted.
  induction supplies generalizing flow messages left with
  | ended step =>
      rw [Delivery.handOver_ended (follows.isWaiting_drawing setup) step]
      exact .spent (conclude_spent follows (reached.heard.wanted rfl) (transportEnded_spent keeps))
  | failed error step =>
      rw [Delivery.handOver_failed (follows.isWaiting_drawing setup) step]
      exact .spent (conclude_spent follows (reached.heard.wanted rfl) fun concluded unstopped =>
        transportFailed_spent keeps concluded unstopped error)
  | chunk bytes step later ih =>
      have consumed : (Flow.reach setup 0).onChunk bytes
          (Delivery.takeTurn (Flow.reach setup 0) flow) =
          consume setup (asking setup bookChunk) 0 true left bytes
            (Delivery.takeTurn (Flow.reach setup 0) flow) :=
        chunk_eq_consume (follows.takeTurn setup) bytes
      rw [Delivery.handOver_chunk (follows.isWaiting_drawing setup) step, consumed]
      cases chunk_moves follows reached here with
      | rests idle standing =>
          rw [Delivery.handOver_idle idle]
          exact standing
      | onward messages left next further there => exact ih next further there

/-! ### Between two deliveries -/

theorem Standing.withSource (standing : Standing setup number response origin chunks source flow) :
    let after := flow.updateOutlet 0 (Outlet.withSource source)
    Standing setup number response origin chunks after.firstSource after := by
  intro after
  cases standing with
  | paused behind messages left held shape reached here =>
      have same : after = pausing number source left
          (hearing setup number response messages).1 flow.log := by
        change flow.updateOutlet 0 (Outlet.withSource source) = _
        rw [shape]
        rfl
      refine .paused behind messages left source same reached ?_
      rw [same]
      exact here
  | released released here =>
      obtain ⟨left, first⟩ := released.withSource source
      refine .released left ?_
      rw [first]
      exact here
  | spent spent => exact .spent (spent.of_same rfl rfl rfl)

theorem Standing.request (supplies : origin.Supplies chunks final)
    (standing : Standing setup number response origin chunks flow.firstSource flow) (count : Nat) :
    let after := request (Flow.ask setup) count flow
    Standing setup number response origin chunks after.firstSource after := by
  intro after
  cases standing with
  | paused behind messages left held shape reached here =>
      by_cases none : count = 0
      · have same : after = flow := by
          change Flow.request (Flow.ask setup) count flow = flow
          rw [none, request_zero]
        rw [same]
        exact .paused behind messages left held shape reached here
      · let asked : Flow ε ρ ω σ := streaming number drawing held (some left)
          (hearing setup number response messages).1 (Demand.zero.add count)
          ([.chunkRequested, .demanded count] ++ flow.log)
        have demanded : Heard setup number response (fetched flow.log) 0 messages false
            (.demanded count :: flow.log) := reached.heard.noted nofun rfl rfl rfl
        have heard : Heard setup number response (fetched flow.log) 0 messages false asked.log :=
          demanded.noted nofun rfl rfl rfl
        have onward := heard.reached reached.split reached.found reached.accepted
        have first : held = origin.advance (fetched flow.log).length := by
          rw [← here, shape]
          rfl
        have rest : held.Supplies behind final := by
          rw [reached.split] at supplies
          rw [first]
          exact supplies.behind
        have delivers : after =
            (Delivery.handOver (Flow.reach setup 0) held asked).2.updateOutlet 0
              (Outlet.withSource (Delivery.handOver (Flow.reach setup 0) held asked).1) := by
          change Flow.request (Flow.ask setup) count flow = _
          rw [shape, request_asks none rfl rfl rfl rfl]
          rfl
        have follows : Follows number drawing held (some left) asked
            (hearing setup number response messages).1 := ⟨rfl, heard.calls⟩
        rw [delivers]
        refine (handOver_stands rest follows onward ?_).withSource
        rw [heard.fetched]
        exact first
  | released released here =>
      have same : after = flow := request_of_cancelled released.stopped _ count
      rw [same]
      exact .released released here
  | spent spent => exact .spent (spent.steps (request_steps setup count spent.bound))

theorem Standing.stop
    (standing : Standing setup number response origin chunks flow.firstSource flow) :
    Standing setup number response origin chunks (stop flow).firstSource (stop flow) := by
  cases standing with
  | paused behind messages left held shape reached here =>
      -- No chunk is being decoded, so that all messages have been heard.
      let log : List (Entry ε ρ) := .transportCancelled 0 :: .stopped :: flow.log
      have same : Flow.stop flow =
          { pausing number held left (hearing setup number response messages).1 log with
            cancelled := true
            transports :=
              [⟨.pull (Delivery.cancel {}) held, some (.stream true (some left))⟩] } := by
        rw [shape]
        rfl
      have ample : (Frame.messages setup.limits (fetched flow.log).dropLast.flatten).1.length ≤
          messages.length := by
        obtain ⟨last, whole⟩ := List.dropLast_prefix (fetched flow.log)
        have more := Frame.length_messages_mono setup.limits
          (fetched flow.log).dropLast.flatten last.flatten
        rw [← List.flatten_append, whole, reached.found] at more
        exact more
      have stopped := (reached.heard.lower ample).stopped
      have relinquished : Relinquished setup number response log := by
        refine stopped.relinquished [] (List.forall_mem_nil _) rfl ?_ ?_
        · rw [reached.found]
        · rw [callsOf_of_accepted reached.found reached.accepted]
          exact (List.append_nil _).symm
      rw [same]
      refine .released ⟨rfl, rfl, rfl, rfl, ⟨_, _, _, rfl⟩, relinquished⟩ ?_
      change held = origin.advance (fetched log).length
      rw [stopped.fetched, ← here, shape]
      rfl
  | released released here =>
      rw [stop_of_cancelled released.stopped]
      exact .released released here
  | spent spent =>
      exact .spent (spent.steps (stop_steps setup spent.bound))

theorem Standing.bound
    (standing : Standing setup number response origin chunks flow.firstSource flow) :
    flow.subscriber.isSome = true ∧ flow.interludes = [] := by
  cases standing with
  | paused behind messages left held shape reached here =>
      rw [shape]
      exact ⟨rfl, rfl⟩
  | released released here => exact ⟨released.bound, released.quiet⟩
  | spent spent => exact ⟨spent.bound, spent.quiet⟩

theorem Standing.controls (supplies : origin.Supplies chunks final) (controls : List Control)
    (standing : Standing setup number response origin chunks flow.firstSource flow) :
    let after := controls.foldl (obey (Flow.ask setup)) flow
    Standing setup number response origin chunks after.firstSource after :=
  @controls_keep _ _ _ _ (Flow.ask setup)
    (fun flow => Standing setup number response origin chunks flow.firstSource flow)
    (fun _ count standing => standing.request supplies count)
    (fun _ standing => standing.stop) flow standing controls

theorem Standing.refused
    (standing : Standing setup number response origin chunks flow.firstSource flow)
    (others : List Nat) :
    let after := others.foldl (handlerSubscribe setup ask) flow
    Standing setup number response origin chunks after.firstSource after := by
  let Stands (flow : Flow ε ρ ω σ) : Prop :=
    Standing setup number response origin chunks flow.firstSource flow
  refine @handlerSubscribes_taken _ _ _ _ setup ask Stands flow standing.bound.1 standing ?_ others
  intro flow other taken standing
  let log : List (Entry ε ρ) := .refused other .alreadySubscribed :: flow.log
  have same : fetched log = fetched flow.log := (Takes.of_note rfl flow.log).fetched
  cases standing with
  | paused behind messages left held shape reached here =>
      have heard : Heard setup number response (fetched flow.log) 0 messages false log :=
        reached.heard.note rfl rfl rfl
      refine .paused behind messages left held ?_
        (heard.reached reached.split reached.found reached.accepted) ?_
      · rw [shape]
        rfl
      · change flow.firstSource = origin.advance (fetched log).length
        rw [same]
        exact here
  | released released here =>
      obtain ⟨calls, later, earlier, split, withdrawn⟩ := released.log
      have relinquished : Relinquished setup number response log := by
        refine ⟨?_, .refused other .alreadySubscribed :: later, earlier, ?_, ?_⟩
        · rw [same, ← calls]
          exact (callsIn_append [.refused other .alreadySubscribed] flow.log).trans
            (List.append_nil _)
        · change Entry.refused other .alreadySubscribed :: flow.log = _
          rw [split]
          rfl
        · rw [same]
          exact withdrawn.add (List.forall_mem_singleton.mpr rfl)
      refine .released ⟨released.stopped, released.bound, released.quiet, released.held,
        released.pulls, relinquished⟩ ?_
      change flow.firstSource = origin.advance (fetched log).length
      rw [same]
      exact here
  | spent spent =>
      have steps : Steps setup flow (record (.refused other .alreadySubscribed) flow) :=
        QuietStep.once (.refused other taken)
      exact .spent (spent.steps steps)

theorem start_stands (response : ρ) {others : List Nat}
    (subscribes : setup.handler.onStream = number :: others)
    (supplies : source.Supplies chunks final) :
    let started := (start setup response { transports := [⟨.pull {} source, none⟩] }).2
    Standing setup number response source chunks started.firstSource started := by
  intro started
  let subscriber := setup.subscribers number
  have alone : (Flow.ask setup : Ask ε ρ ω σ).Alone := asking_alone _
  let ready : Flow ε ρ ω σ := attending setup number response source
  have heard : Heard setup number response [] 0 [] false ready.log := by
    refine ⟨rfl, rfl, rfl, Nat.le_refl _, ?_, nofun⟩
    intro _ member
    rcases List.mem_cons.mp member with same | before
    · cases same
    · cases List.mem_singleton.mp before
  have reached : Reached setup number response chunks chunks [] [] ready.log :=
    heard.reached rfl Frame.messages_nil rfl
  have attended : Standing setup number response source chunks ready.firstSource ready :=
    .paused chunks [] [] source rfl reached rfl
  have obeyed := attended.controls supplies (subscriber.react .subscribed subscriber.start).controls
  have refusing : Standing setup number response source chunks
      (others.foldl (handlerSubscribe setup (Flow.ask setup)) _).firstSource
      (others.foldl (handlerSubscribe setup (Flow.ask setup)) _) := obeyed.refused others
  have same : started = _ := congrArg Prod.snd (start_eq setup response subscribes)
  rw [same]
  dsimp only
  rw [alone _ obeyed.bound.2, alone _ refusing.bound.2]
  exact refusing

theorem run_controls (setup : Setup ε ω σ ρ) (bound : flow.subscriber.isSome = true)
    (controls : List Control) :
    run setup flow (controls.map Control.event) = controls.foldl (obey (Flow.ask setup)) flow := by
  induction controls generalizing flow with
  | nil => rfl
  | cons control later ih =>
      have acted : step setup flow control.event = obey (Flow.ask setup) flow control := by
        cases control with
        | request count => exact if_pos bound
        | cancel => exact if_pos bound
      have still : (step setup flow control.event).subscriber.isSome = true :=
        (run_steps flow [control.event]).bound bound
      change run setup (step setup flow control.event) (later.map Control.event) = _
      rw [ih still, acted]
      rfl

theorem Standing.run (supplies : origin.Supplies chunks final) (controls : List Control)
    (standing : Standing setup number response origin chunks flow.firstSource flow) :
    let after := run setup flow (controls.map Control.event)
    Standing setup number response origin chunks after.firstSource after := by
  rw [run_controls setup standing.bound.1]
  exact standing.controls supplies controls

theorem cancelled_of_stops {outlet : Outlet} (knows : outlet.stops = .noticed true) :
    outlet.delivery.cancelled = true := by
  cases outlet with
  | manual requested cancelled => cases knows
  | pull delivery source => exact Stops.noticed.inj knows

/-- A stream whose subscriber cancels while it is running, wherever it first does, tells
its transport so once, and at once, and the transport knows. From then on no chunk is
asked for or fetched and no request counts, in whatever hook it is made. As many messages
have been heard by then as have been looked at, among them all those of the chunks before.
What is still called comes from the other messages of the last chunk, in order and up to
the first failure, of which the subscriber and the handler are told. Nobody is told of a
completion. -/
theorem cancel_leaves_the_chunk (response : ρ) {others : List Nat}
    (subscribes : setup.handler.onStream = number :: others)
    (supplies : source.Supplies chunks final) (controls : List Control)
    {later earlier : List (Entry ε ρ)}
    (cancelled : (run setup (start setup response { transports := [⟨.pull {} source, none⟩] }).2
      (controls.map Control.event)).log = later ++ .stopped :: earlier)
    (running : ∀ entry ∈ earlier, entry.isFinal = false) :
    let after := run setup (start setup response { transports := [⟨.pull {} source, none⟩] }).2
      (controls.map Control.event)
    let taken := fetched earlier
    let messages := (Frame.messages setup.limits taken.flatten).1
    let seen := inspected earlier
    cancellations 0 after.log = 1 ∧ [.transportCancelled 0] <:+ later ∧
      (∃ stopped, after.transport? 0 = some stopped ∧ stopped.outlet.delivery.cancelled = true) ∧
      (∀ entry ∈ later, entry.isAdvance = false) ∧
      after.firstSource = source.advance taken.length ∧
      (∀ ask count, request ask count after = after) ∧
      (Frame.messages setup.limits taken.dropLast.flatten).1.length ≤ seen ∧
      seen ≤ messages.length ∧
      callsIn earlier = (hearing setup number response (messages.take seen)).1.calls ∧
      after.calls = callsOf setup number response taken.flatten := by
  intro after taken messages seen
  have standing : Standing setup number response source chunks after.firstSource after :=
    (start_stands response subscribes supplies).run supplies controls
  change after.log = later ++ .stopped :: earlier at cancelled
  cases standing with
  | paused behind messages left held shape reached here =>
      refine absurd ?_ (reached.heard.wanted rfl)
      rw [cancelled]
      exact List.mem_append_right _ List.mem_cons_self
  | spent spent =>
      obtain ⟨entry, member, last⟩ := spent.ended_before cancelled
      rw [running entry member] at last
      cases last
  | released released here =>
      obtain ⟨calls, behind, front, split, withdrawn⟩ := released.log
      have apart : .stopped ∉ behind := by
        intro member
        cases withdrawn.after _ member
      obtain ⟨rfl, _, rfl⟩ := (List.append_cons_inj_of_notMem apart withdrawn.before).mp
        (split.symm.trans cancelled)
      have same : fetched after.log = taken := by
        rw [cancelled]
        exact withdrawn.fetched
      rw [same] at calls withdrawn here
      have steps : Steps setup _ after := run_steps { transports := [⟨.pull {} source, none⟩] }
        (.capture response :: .attach true 0 :: controls.map Control.event)
      have wired : Wired after := steps.wired (Wired.initial [] (by simp))
      obtain ⟨feeds, once⟩ := wired.held 0 released.held
      rw [released.stopped] at once
      have notified : Notified [⟨.pull {} source, none⟩] after :=
        steps.notified (Notified.initial _ [])
      obtain ⟨_, stopped, there, found, knows⟩ := notified.stops feeds
      obtain rfl := Option.some.inj there
      rw [once] at knows
      exact ⟨once, withdrawn.told, ⟨stopped, found, cancelled_of_stops knows⟩, withdrawn.after, here,
        fun ask count => request_of_cancelled released.stopped ask count, withdrawn.enough,
        withdrawn.within, withdrawn.calls, calls⟩

private def fickle : Setup String Nat Nat where
  readEvent := fun _ _ => .ok "tick"
  subscribers := fun _ =>
    Plan.eventSubscriber { onNext := some 1, cancelAt := some 1, refuseAt := some 2 }
  handler := { onStream := [0], result := fun given => .ok given.length }

private def twoTicks : Bytes := tickFrame ++ tickFrame

private def spare : Source := .chunks [twoTicks, tickFrame]

private def refusal : FlowError := .client "subscriber rejected event 2"

private def waiting : Flow String String Nat Nat :=
  streaming 0 drawing spare (some []) (Listener.attach fickle 0 "hello") (Demand.zero.add 9)
    [.chunkRequested, .demanded 9, .signalled 0 .subscribed, .streamReady]

private def dealt : Flow String String Nat Nat × Except FlowError Unit :=
  Fed.walk (deal fickle (asking fickle bookChunk))
    (arriving 0 true twoTicks (Delivery.takeTurn (reach fickle 0) waiting)) [tick, tick]

private def failing (left : Bytes) : Flow String String Nat Nat :=
  stop (fail fickle (asking fickle bookChunk) refusal (dealt.1.keepPending 0 true (some left)))

private def abandoned : Flow String String Nat Nat :=
  run fickle (start fickle "hello" { transports := [⟨.pull {} spare, none⟩] }).2
    ([.request 9, .request 3, .cancel].map Control.event)

private theorem log_abandoned : abandoned.log =
    [.failureReported refusal, .signalled 0 (.failed refusal), .signalled 0 (.next "tick"),
      .looked .event, .transportCancelled 0] ++ .stopped ::
    [.demanded 1, .signalled 0 (.next "tick"), .looked .event, .chunkArrived 0 twoTicks,
      .chunkRequested, .demanded 9, .signalled 0 .subscribed, .streamReady] := by
  have found : Frame.messages fickle.limits ([] ++ twoTicks) = ([tick, tick], .ok []) :=
    messages_twoTicks
  have verdict : Fed.stopped FlowError.decode (.ok []) dealt.2 = .error refusal := by decide +kernel
  obtain ⟨state, outcome⟩ := @Fed.decodeAll_eq_walk _ _ fickle.limits FlowError.decode
    (deal fickle (asking fickle bookChunk))
    (arriving 0 true twoTicks (Delivery.takeTurn (reach fickle 0) waiting)) ([] ++ twoTicks)
  rw [found] at state outcome
  obtain ⟨left, consumed⟩ := consume_of_error rfl state (outcome.trans verdict)
  have first : (reach fickle 0).onChunk twoTicks (Delivery.takeTurn (reach fickle 0) waiting) =
      failing left := consumed
  have idle : ((reach fickle 0).delivery (failing left)).isWaiting = false := by
    with_unfolding_all rfl
  have handed : Delivery.handOver (reach fickle 0) spare waiting =
      (.chunks [tickFrame], Delivery.rest (reach fickle 0) (failing left)) := by
    have step : spare.next.1 = ⟨.chunk twoTicks, false⟩ := rfl
    rw [Delivery.handOver_chunk rfl step, first, Delivery.handOver_idle idle]
    rfl
  have requested : abandoned = run fickle
      ((Delivery.handOver (reach fickle 0) spare waiting).2.updateOutlet 0
        (Outlet.withSource (Delivery.handOver (reach fickle 0) spare waiting).1))
      [.request 3, .cancel] := by
    change run fickle (request (Flow.ask fickle) 9
      (pausing 0 spare [] (Listener.attach fickle 0 "hello") _)) _ = _
    rw [request_asks (by decide) rfl rfl rfl rfl]
    rfl
  rw [requested, handed]
  with_unfolding_all rfl

/-- Of two events in a chunk the first is the last one that is wanted. The second is handed
over all the same, and refused. The other chunk is never fetched. -/
theorem cancel_leaves_the_chunk_refused :
    abandoned.calls = [.streamReady, .signalled 0 .subscribed, .signalled 0 (.next "tick"),
        .signalled 0 (.next "tick"), .signalled 0 (.failed refusal), .failureReported refusal] ∧
      abandoned.firstSource = .chunks [tickFrame] ∧ cancellations 0 abandoned.log = 1 ∧
      ∃ stopped, abandoned.transport? 0 = some stopped ∧
        stopped.outlet.delivery.cancelled = true := by
  have running : ∀ entry ∈ [.demanded 1, .signalled 0 (.next "tick"), .looked .event,
      .chunkArrived 0 twoTicks, .chunkRequested, .demanded 9, .signalled 0 .subscribed,
      .streamReady], (entry : Entry String String).isFinal = false := by
    simp [Entry.isFinal]
  obtain ⟨once, _, knows, _, there, _, _, _, _, calls⟩ := cancel_leaves_the_chunk "hello" rfl
    (Source.supplies_chunks [twoTicks, tickFrame]) [.request 9, .request 3, .cancel] log_abandoned
    running
  have expected : callsOf fickle 0 "hello" twoTicks = [.streamReady, .signalled 0 .subscribed,
      .signalled 0 (.next "tick"), .signalled 0 (.next "tick"), .signalled 0 (.failed refusal),
      .failureReported refusal] := by
    have found : Frame.messages fickle.limits twoTicks = ([tick, tick], .ok []) := messages_twoTicks
    unfold callsOf
    rw [found]
    rfl
  refine ⟨calls.trans ?_, there, once, knows⟩
  exact expected

end Flow

end FramedEvents
