/-
What decoding takes in.

As long as nobody interferes, nothing arrives and no message is looked at but by
decoding itself: whatever the parties do in their hooks, they only add demand. So a
chunk is in the log once, and an event is looked at once.
-/

import FramedEvents.Proofs.Flow.Ledger
import FramedEvents.Proofs.Flow.Listening

namespace FramedEvents

variable {ε ρ : Type}

namespace Entry

def chunk? : Entry ε ρ → Option Bytes
  | .chunkArrived _ bytes => some bytes
  | _ => none

def isEventLook : Entry ε ρ → Bool
  | .looked .event => true
  | _ => false

def requested : Entry ε ρ → Nat
  | .demanded count => count
  | _ => 0

def isReceipt : Entry ε ρ → Bool
  | .chunkArrived _ _ => true
  | .looked _ => true
  | _ => false

end Entry

def fetched (log : List (Entry ε ρ)) : List Bytes := log.reverse.filterMap Entry.chunk?

/-- The number of events that have been looked at. -/
def looks (log : List (Entry ε ρ)) : Nat := log.countP Entry.isEventLook

/-- The number of events that have been asked for. -/
def requested (log : List (Entry ε ρ)) : Nat := (log.map Entry.requested).sum

/-- Every chunk was fetched while events were wanted. -/
def Lazy (log : List (Entry ε ρ)) : Prop :=
  ∀ index bytes earlier, .chunkArrived index bytes :: earlier <:+ log →
    0 < (demandIn earlier).outstanding

theorem requested_le (log : List (Entry ε ρ)) :
    min (requested log) mostDemand ≤ (demandIn log).outstanding + looks log := by
  -- Demand that saturates forgets requests, so only their saturated sum can be kept track of.
  induction log with
  | nil => exact Nat.min_le_left _ _
  | cons entry log ih =>
      have total : requested (entry :: log) = entry.requested + requested log := List.sum_cons
      have looked : looks (entry :: log) = looks log + if entry.isEventLook then 1 else 0 :=
        List.countP_cons
      have settled : demandIn (entry :: log) = entry.settle (demandIn log) := rfl
      rw [total, looked, settled]
      cases entry with
      | demanded count =>
          change min (count + requested log) mostDemand ≤
            ((demandIn log).add count).outstanding + (looks log + 0)
          rw [Demand.outstanding_add]
          omega
      | looked kind =>
          by_cases event : kind = .event
          · subst event
            change min (0 + requested log) mostDemand ≤
              (demandIn log).serve.outstanding + (looks log + 1)
            rw [Demand.outstanding_serve]
            omega
          · have same : (Entry.looked kind : Entry ε ρ).settle (demandIn log) = demandIn log :=
              Flow.settle_looked event _
            rw [same]
            change min (0 + requested log) mostDemand ≤ _
            omega
      | _ =>
          change min (0 + requested log) mostDemand ≤ (demandIn log).outstanding + (looks log + 0)
          omega

/-- After an event that was not wanted any more, no chunk is fetched until more events
are asked for. -/
def Confined (log : List (Entry ε ρ)) : Prop :=
  ∀ later index bytes between earlier,
    log = later ++ .chunkArrived index bytes :: (between ++ .looked .event :: earlier) →
      (demandIn earlier).outstanding = 0 → ∃ count, .demanded count ∈ between

theorem outstanding_le_of_undemanded {between : List (Entry ε ρ)}
    (none : ¬∃ count, .demanded count ∈ between) (earlier : List (Entry ε ρ)) :
    (demandIn (between ++ earlier)).outstanding ≤ (demandIn earlier).outstanding := by
  induction between with
  | nil => exact Nat.le_refl _
  | cons entry between ih =>
      have rest := ih fun ⟨count, member⟩ => none ⟨count, List.mem_cons_of_mem _ member⟩
      refine Nat.le_trans ?_ rest
      change (entry.settle (demandIn (between ++ earlier))).outstanding ≤ _
      cases entry with
      | demanded count => exact absurd ⟨count, List.mem_cons_self⟩ none
      | looked kind =>
          by_cases event : kind = .event
          · subst event
            change (demandIn (between ++ earlier)).serve.outstanding ≤ _
            rw [Demand.outstanding_serve]
            exact Nat.sub_le _ _
          · exact Nat.le_of_eq (congrArg Demand.outstanding (Flow.settle_looked event _))
      | _ => exact Nat.le_refl _

theorem Lazy.confined {log : List (Entry ε ρ)} (early : Lazy log) : Confined log := by
  intro later index bytes between earlier split met
  apply Classical.byContradiction
  intro none
  have wanted := early index bytes _ ⟨later, split.symm⟩
  have less := outstanding_le_of_undemanded none (.looked .event :: earlier)
  have served : (demandIn (.looked .event :: earlier)).outstanding =
      (demandIn earlier).outstanding - 1 := Demand.outstanding_serve _
  omega

theorem Message.countP_isEvent (message : Message) :
    [message].countP Message.isEvent = if message.kind = .event then 1 else 0 := by
  rw [List.countP_singleton, Message.isEvent]
  by_cases event : message.kind = .event
  · rw [if_pos event, if_pos (decide_eq_true event)]
  · rw [if_neg event, if_neg (fun same => event (of_decide_eq_true same))]

/-! ### Growth of the log -/

/-- The log has grown, no chunk has arrived, and at most this many events have been
looked at. -/
def Takes (count : Nat) (log grown : List (Entry ε ρ)) : Prop :=
  ∃ notes, grown = notes ++ log ∧ (∀ note ∈ notes, note.chunk? = none) ∧ looks notes ≤ count

theorem Takes.refl (log : List (Entry ε ρ)) : Takes 0 log log :=
  ⟨[], rfl, List.forall_mem_nil _, Nat.le_refl _⟩

theorem Takes.trans {first second : Nat} {log middle grown : List (Entry ε ρ)}
    (earlier : Takes first log middle) (later : Takes second middle grown) :
    Takes (first + second) log grown := by
  obtain ⟨notes, rfl, others, few⟩ := earlier
  obtain ⟨more, rfl, othersToo, fewToo⟩ := later
  refine ⟨more ++ notes, (List.append_assoc _ _ _).symm, ?_, ?_⟩
  · intro note member
    rcases List.mem_append.mp member with late | early
    · exact othersToo note late
    · exact others note early
  · have both : looks (more ++ notes) = looks more + looks notes := List.countP_append
    omega

theorem Takes.mono {first second : Nat} {log grown : List (Entry ε ρ)}
    (takes : Takes first log grown) (less : first ≤ second) : Takes second log grown := by
  obtain ⟨notes, same, others, few⟩ := takes
  exact ⟨notes, same, others, Nat.le_trans few less⟩

theorem Takes.of_notes {notes : List (Entry ε ρ)}
    (others : ∀ note ∈ notes, note.isReceipt = false) (log : List (Entry ε ρ)) :
    Takes 0 log (notes ++ log) := by
  refine ⟨notes, rfl, ?_, ?_⟩
  · intro note member
    have other := others note member
    cases note <;> first | rfl | cases other
  · apply Nat.le_of_eq
    apply List.countP_eq_zero.mpr
    intro note member look
    have other := others note member
    cases note <;> first | cases look | cases other

theorem Takes.of_note {entry : Entry ε ρ} (other : entry.isReceipt = false)
    (log : List (Entry ε ρ)) : Takes 0 log (entry :: log) :=
  .of_notes (List.forall_mem_singleton.mpr other) log

theorem Takes.of_look (kind : MessageKind) (log : List (Entry ε ρ)) :
    Takes (if kind = .event then 1 else 0) log (.looked kind :: log) := by
  refine ⟨[.looked kind], rfl, List.forall_mem_singleton.mpr rfl, ?_⟩
  cases kind <;> exact Nat.le_refl _

theorem Takes.fetched {count : Nat} {log grown : List (Entry ε ρ)} (takes : Takes count log grown) :
    fetched grown = fetched log := by
  obtain ⟨notes, rfl, others, _⟩ := takes
  have none : notes.reverse.filterMap Entry.chunk? = [] := by
    apply List.filterMap_eq_nil_iff.mpr
    intro note member
    exact others note (List.mem_reverse.mp member)
  unfold FramedEvents.fetched
  rw [List.reverse_append, List.filterMap_append, none, List.append_nil]

theorem Takes.looks {count : Nat} {log grown : List (Entry ε ρ)} (takes : Takes count log grown) :
    looks grown ≤ looks log + count := by
  obtain ⟨notes, rfl, _, few⟩ := takes
  have both : FramedEvents.looks (notes ++ log) =
      FramedEvents.looks notes + FramedEvents.looks log := List.countP_append
  omega

theorem Takes.requested {count : Nat} {log grown : List (Entry ε ρ)}
    (takes : Takes count log grown) : requested log ≤ requested grown := by
  obtain ⟨notes, rfl, _, _⟩ := takes
  unfold FramedEvents.requested
  rw [List.map_append, List.sum_append]
  exact Nat.le_add_left _ _

theorem Takes.lazily {count : Nat} {log grown : List (Entry ε ρ)} (takes : Takes count log grown)
    (early : Lazy log) : Lazy grown := by
  obtain ⟨notes, rfl, others, few⟩ := takes
  clear few
  induction notes with
  | nil => exact early
  | cons note notes ih =>
      obtain ⟨other, rest⟩ := List.forall_mem_cons.mp others
      intro index bytes earlier suffix
      rcases List.suffix_cons_iff.mp suffix with same | before
      · obtain ⟨rfl, _⟩ := List.cons.inj same
        cases other
      · exact ih rest index bytes earlier before

theorem fetched_arrived (index : Nat) (bytes : Bytes) (log : List (Entry ε ρ)) :
    fetched (.chunkArrived index bytes :: log) = fetched log ++ [bytes] := by
  unfold fetched
  rw [List.reverse_cons, List.filterMap_append]
  rfl

theorem Lazy.arrived {log : List (Entry ε ρ)} (early : Lazy log)
    (wanted : 0 < (demandIn log).outstanding) (index : Nat) (bytes : Bytes) :
    Lazy (.chunkArrived index bytes :: log) := by
  intro other found earlier suffix
  rcases List.suffix_cons_iff.mp suffix with same | before
  · obtain ⟨_, rfl⟩ := List.cons.inj same
    exact wanted
  · exact early other found earlier before

namespace Flow

variable {ω σ : Type} {setup : Setup ε ω σ ρ} {ask : Ask ε ρ ω σ} {flow after : Flow ε ρ ω σ}

/-! ### A law of what the parties do -/

theorem QuietStep.quietly (step : QuietStep setup flow after) (quiet : flow.interludes = []) :
    after.interludes = [] := by
  cases step with
  | scripted events later next =>
      rw [quiet] at next
      cases next
  | _ => exact quiet

theorem Step.quietly (step : Step setup flow after) (quiet : flow.interludes = []) :
    after.interludes = [] := by
  cases step with
  | quiet step => exact step.quietly quiet
  | @endedTelling told running final done number state holder hook =>
      change told.interludes = []
      induction hook with
      | refl => exact quiet
      | tail _ step ih => exact step.quietly ih
  | _ => exact quiet

theorem Steps.quietly (steps : Steps setup flow after) (quiet : flow.interludes = []) :
    after.interludes = [] := by
  induction steps with
  | refl => exact quiet
  | tail _ step ih => exact step.quietly ih

structure Spared (setup : Setup ε ω σ ρ) (flow after : Flow ε ρ ω σ) : Prop where
  steps : Steps setup flow after
  takes : flow.interludes = [] → Takes 0 flow.log after.log

theorem Asks.takes (asks : Asks flow after) : Takes 0 flow.log after.log := by
  cases asks with
  | nothing needless => exact .refl flow.log
  | chunk running wanted index held free unmet transports once => exact .of_note rfl flow.log

theorem isReceipt_of_isIntake {entry : Entry ε ρ} (other : entry.isIntake = false) :
    entry.isReceipt = false := by
  cases entry <;> first | rfl | cases other

theorem spared_law (setup : Setup ε ω σ ρ) : Law setup (Spared setup : Flow ε ρ ω σ → _) where
  steps spared := spared.steps
  refl flow := ⟨.refl, fun _ => .refl flow.log⟩
  trans first second :=
    ⟨first.steps.trans second.steps,
      fun quiet => (first.takes quiet).trans (second.takes (first.steps.quietly quiet))⟩
  calm step calm := by
    refine ⟨.single (.quiet step), ?_⟩
    intro _
    obtain ⟨notes, log, others⟩ := calm.log
    rw [log]
    exact .of_notes (fun note member => isReceipt_of_isIntake (others note member)) _
  requested _ counts wanted _ asks :=
    ⟨demanded_steps counts wanted asks, fun _ => (Takes.of_note rfl _).trans asks.takes⟩
  responded running response held :=
    ⟨.single (.responded running response held), fun _ => .of_note rfl _⟩
  alone running final done nobody := by
    have other : (final.report : Entry ε ρ).isReceipt = false := by cases final <;> rfl
    exact ⟨.single (.endedAlone running final done nobody), fun _ => .of_note other _⟩
  told running final done number state holder hook := by
    refine ⟨told_steps running final done number state holder hook.steps, ?_⟩
    intro quiet
    have other : (final.report : Entry ε ρ).isReceipt = false := by cases final <;> rfl
    have inside := (Takes.of_note rfl _).trans (hook.takes quiet)
    exact inside.trans (.of_note other _)

theorem spared_handed (running : flow.stage = .running) (event : ε) (number : Nat) (state : σ)
    (holder : flow.subscriber = some (number, state)) :
    Spared setup flow (informed setup (.next event) number state flow) :=
  ⟨.single (.handed running event number state holder), fun _ => .of_note rfl _⟩

theorem booking_spares : (asking setup bookChunk : Ask ε ρ ω σ).Keeps (Spared setup) where
  forChunk := bookChunk_asking (spared_law setup)
  others flow := by
    have law := steps_law (ρ := ρ) setup
    refine ⟨interlude_keeps law.chunks (bookChunk_asking law.toLaw) _ flow, ?_⟩
    intro quiet
    rw [asking_alone bookChunk flow quiet]
    exact .refl flow.log

/-! ### Messages -/

theorem deal_takes (keeps : ask.Keeps (Spared setup)) (quiet : flow.interludes = [])
    (message : Message) :
    (deal setup ask flow message).1.interludes = [] ∧
      Takes ([message].countP Message.isEvent) flow.log (deal setup ask flow message).1.log := by
  have law : Law setup (Spared setup : Flow ε ρ ω σ → _) := spared_law setup
  unfold deal
  split
  · exact ⟨quiet, (Takes.refl flow.log).mono (Nat.zero_le _)⟩
  · rename_i going
    have running := Stage.eq_running (Bool.eq_false_iff.mpr going)
    have looked := Takes.of_look message.kind flow.log
    rw [← message.countP_isEvent] at looked
    -- Each kind of message is noted first, and what follows is never a look at another event.
    have onward (noted : Flow ε ρ ω σ) {after : Flow ε ρ ω σ}
        (log : noted.log = .looked message.kind :: flow.log)
        (still : noted.interludes = []) (spared : Spared setup noted after) :
        after.interludes = [] ∧
          Takes ([message].countP Message.isEvent) flow.log after.log := by
      have more := spared.takes still
      rw [log] at more
      exact ⟨spared.steps.quietly still, looked.trans more⟩
    let noted := record (.looked message.kind) flow
    have going : noted.stage = .running := running
    dsimp only
    split
    · exact onward noted rfl quiet (respond_keeps law keeps going)
    · exact onward { noted with demand := noted.demand.serve } rfl quiet
        (handEvent_keeps law keeps spared_handed message noted going)
    · exact onward noted rfl quiet (law.refl noted)
    · exact onward noted rfl quiet (law.refl noted)
    · exact onward noted rfl quiet (law.refl noted)

theorem walk_takes (keeps : ask.Keeps (Spared setup)) (messages : List Message)
    (quiet : flow.interludes = []) :
    (Fed.walk (deal setup ask) flow messages).1.interludes = [] ∧
      Takes (messages.countP Message.isEvent) flow.log
        (Fed.walk (deal setup ask) flow messages).1.log := by
  induction messages generalizing flow with
  | nil => exact ⟨quiet, .refl flow.log⟩
  | cons message later ih =>
      obtain ⟨still, first⟩ := deal_takes keeps quiet message
      have counted : (message :: later).countP Message.isEvent =
          [message].countP Message.isEvent + later.countP Message.isEvent :=
        @List.countP_append _ Message.isEvent [message] later
      rw [Fed.walk, counted]
      generalize deal setup ask flow message = dealt at still first ⊢
      obtain ⟨after, verdict⟩ := dealt
      cases verdict with
      | error cause => exact ⟨still, first.mono (Nat.le_add_right _ _)⟩
      | ok accepted =>
          obtain ⟨quietly, rest⟩ := ih still
          exact ⟨quietly, first.trans rest⟩

/-! ### Chunks -/

/-- A chunk is in the log once, and its events have been looked at once at most. -/
theorem consume_takes (keeps : ask.Keeps (Spared setup)) (running : flow.stage = .running)
    (quiet : flow.interludes = []) {index : Nat} (feeds : Feeds index flow) (routed : Bool)
    (pending bytes : Bytes) :
    Takes ((Frame.messages setup.limits (pending ++ bytes)).1.countP Message.isEvent)
      (.chunkArrived index bytes :: flow.log)
      (consume setup ask index routed pending bytes flow).log := by
  have law : Law setup (Spared setup : Flow ε ρ ω σ → _) := spared_law setup
  let arrived := record (.chunkArrived index bytes) (flow.keepPending index routed none)
  have calm : arrived.interludes = [] := quiet
  have walked := walk_takes keeps (Frame.messages setup.limits (pending ++ bytes)).1 calm
  let fed := Fed.decodeAll setup.limits FlowError.decode (deal setup ask) arrived (pending ++ bytes)
  let kept := fed.state.keepPending index routed (some fed.pending)
  have state : fed.state = _ := (Fed.decodeAll_eq_walk arrived (pending ++ bytes)).1
  rw [← state] at walked
  obtain ⟨still, decoded⟩ := walked
  unfold consume
  rw [if_neg (by rw [running]; exact Bool.false_ne_true)]
  dsimp only
  split
  · obtain ⟨middle, asks, rest⟩ := finishChunk_asks law keeps kept
    have finished := (decoded.trans (Takes.of_note rfl _)).trans asks.takes
    have steps : Steps setup (record .chunkFinished { kept with chunkDue := false }) middle :=
      asks.steps
    exact finished.trans (rest.takes (steps.quietly still))
  · rename_i cause refused
    have failed := fail_keeps law keeps cause kept
    have decoding : Steps setup arrived fed.state :=
      decodeAll_keeps (steps_law setup) (keeps.mono Spared.steps) arrived (pending ++ bytes)
    have feeding : Feeds index kept := (decoding.feeds (feeds.kept routed none)).kept routed _
    have stopped := stop_keeps law (.inr ⟨index, failed.steps.feeds feeding⟩)
    exact decoded.trans ((law.trans failed stopped).takes still)

end Flow

end FramedEvents
