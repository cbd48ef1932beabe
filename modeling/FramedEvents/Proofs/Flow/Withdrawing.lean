/-
Cancelling in the middle of a chunk.

A subscriber may cancel in any hook, while the messages of a chunk are being dealt
with. The ones behind are dealt with all the same, and the subscriber is given what
they bring. But from then on its requests count no more, and nothing is asked of the
transport. The place where it cancelled can be read off the log: by the messages that
had been looked at, and by the calls that had been made.
-/

import FramedEvents.Proofs.Flow.Fulfilment
import FramedEvents.Proofs.Flow.Handing

namespace FramedEvents

variable {ε ρ ω σ : Type}

namespace Entry

def isLook : Entry ε ρ → Bool
  | .looked _ => true
  | _ => false

/-- Whether the stream is driven on, or comes to its end: events or a chunk are asked
for, a chunk arrives, the subscription is cancelled, or somebody is told of the
completion. -/
def isAdvance : Entry ε ρ → Bool
  | .demanded _ => true
  | .stopped => true
  | .chunkRequested => true
  | .chunkArrived _ _ => true
  | .signalled _ .completed => true
  | .completionReported => true
  | _ => false

end Entry

def inspected (log : List (Entry ε ρ)) : Nat := log.countP Entry.isLook

def callsIn (log : List (Entry ε ρ)) : List (Entry ε ρ) := log.reverse.filter Entry.isCall

/-- The listener of a response after these messages, and whether it has accepted them. -/
def hearing (setup : Setup ε ω σ ρ) (number : Nat) (response : ρ) (messages : List Message) :
    Listener ε ρ σ × Except FlowError Unit :=
  Fed.walk (Listener.hear setup number) (Listener.attach setup number response) messages

theorem callsIn_append (notes log : List (Entry ε ρ)) :
    callsIn (notes ++ log) = callsIn log ++ callsIn notes := by
  unfold callsIn
  rw [List.reverse_append, List.filter_append]

theorem inspected_append (notes log : List (Entry ε ρ)) :
    inspected (notes ++ log) = inspected notes + inspected log := List.countP_append

theorem fetched_append (notes log : List (Entry ε ρ)) :
    fetched (notes ++ log) = fetched log ++ fetched notes := by
  unfold fetched
  rw [List.reverse_append, List.filterMap_append]

/-! ### Where a subscription is cancelled -/

/-- A log, at the place where the subscription is cancelled. The transport is told at
once, and nothing is driven on afterwards. Of the messages, as many had been heard by
then as had been looked at, and not fewer than there were before the chunk. -/
structure Withdrawn (setup : Setup ε ω σ ρ) (number : Nat) (response : ρ) (least : Nat)
    (messages : List Message) (later earlier : List (Entry ε ρ)) : Prop where
  before : .stopped ∉ earlier
  told : [.transportCancelled 0] <:+ later
  after : ∀ entry ∈ later, entry.isAdvance = false
  enough : least ≤ inspected earlier
  within : inspected earlier ≤ messages.length
  calls : callsIn earlier =
    (hearing setup number response (messages.take (inspected earlier))).1.calls

/-- The log of a listener that has been told of these messages, with the chunks that have
been fetched for them. -/
structure Heard (setup : Setup ε ω σ ρ) (number : Nat) (response : ρ) (taken : List Bytes)
    (least : Nat) (messages : List Message) (cancelled : Bool) (log : List (Entry ε ρ)) :
    Prop where
  fetched : fetched log = taken
  calls : callsIn log = (hearing setup number response messages).1.calls
  looked : inspected log = messages.length
  ample : least ≤ messages.length
  wanted : cancelled = false → .stopped ∉ log
  withdrawn : cancelled = true → ∃ later earlier, log = later ++ .stopped :: earlier ∧
    Withdrawn setup number response least messages later earlier

variable {setup : Setup ε ω σ ρ} {number : Nat} {response : ρ} {taken : List Bytes} {least : Nat}
  {messages more : List Message} {later earlier log : List (Entry ε ρ)} {cancelled : Bool}

theorem Withdrawn.append
    (withdrawn : Withdrawn setup number response least messages later earlier)
    (more : List Message) :
    Withdrawn setup number response least (messages ++ more) later earlier := by
  refine ⟨withdrawn.before, withdrawn.told, withdrawn.after, withdrawn.enough, ?_, ?_⟩
  · rw [List.length_append]
    exact Nat.le_trans withdrawn.within (Nat.le_add_right _ _)
  · rw [List.take_append_of_le_length withdrawn.within]
    exact withdrawn.calls

theorem Withdrawn.add (withdrawn : Withdrawn setup number response least messages later earlier)
    {notes : List (Entry ε ρ)} (idle : ∀ note ∈ notes, note.isAdvance = false) :
    Withdrawn setup number response least messages (notes ++ later) earlier :=
  ⟨withdrawn.before, withdrawn.told.trans (List.suffix_append _ _),
    List.forall_mem_append.mpr ⟨idle, withdrawn.after⟩, withdrawn.enough, withdrawn.within,
    withdrawn.calls⟩

theorem Withdrawn.fetched
    (withdrawn : Withdrawn setup number response least messages later earlier) :
    FramedEvents.fetched (later ++ .stopped :: earlier) = FramedEvents.fetched earlier := by
  have none : FramedEvents.fetched later = [] := by
    apply List.filterMap_eq_nil_iff.mpr
    intro entry member
    have idle := withdrawn.after entry (List.mem_reverse.mp member)
    cases entry <;> first | rfl | cases idle
  rw [fetched_append, none, List.append_nil]
  exact (fetched_append [.stopped] earlier).trans (List.append_nil _)

/-- The log goes on with what these messages bring. -/
theorem Heard.goes (heard : Heard setup number response taken least messages cancelled log)
    (notes : List (Entry ε ρ)) (idle : ∀ note ∈ notes, note.isAdvance = false)
    (none : FramedEvents.fetched notes = []) (looked : inspected notes = more.length)
    (calls : (hearing setup number response (messages ++ more)).1.calls =
      (hearing setup number response messages).1.calls ++ callsIn notes) :
    Heard setup number response taken least (messages ++ more) cancelled (notes ++ log) := by
  refine ⟨?_, ?_, ?_, ?_, ?_, ?_⟩
  · rw [fetched_append, none, List.append_nil]
    exact heard.fetched
  · rw [callsIn_append, heard.calls, calls]
  · rw [inspected_append, looked, heard.looked, List.length_append, Nat.add_comm]
  · rw [List.length_append]
    exact Nat.le_trans heard.ample (Nat.le_add_right _ _)
  · intro wanted member
    rcases List.mem_append.mp member with late | early
    · cases idle _ late
    · exact heard.wanted wanted early
  · intro stopped
    obtain ⟨later, earlier, split, withdrawn⟩ := heard.withdrawn stopped
    refine ⟨notes ++ later, earlier, ?_, (withdrawn.append more).add idle⟩
    rw [split, List.append_assoc]

theorem Heard.note (heard : Heard setup number response taken least messages cancelled log)
    {entry : Entry ε ρ} (idle : entry.isAdvance = false) (silent : entry.isCall = false)
    (unlooked : entry.isLook = false) :
    Heard setup number response taken least messages cancelled (entry :: log) := by
  have none : FramedEvents.fetched [entry] = [] := by
    cases entry with
    | chunkArrived index bytes => cases idle
    | _ => rfl
  have quiet : callsIn [entry] = [] := List.filter_cons_of_neg (by rw [silent]; simp)
  have nobody : inspected [entry] = ([] : List Message).length :=
    List.countP_cons_of_neg (by rw [unlooked]; simp)
  have gone := heard.goes [entry] (List.forall_mem_singleton.mpr idle) none nobody (by
    rw [List.append_nil, quiet, List.append_nil])
  rw [List.append_nil] at gone
  exact gone

theorem Heard.noted (heard : Heard setup number response taken least messages false log)
    {entry : Entry ε ρ} (apart : entry ≠ .stopped) (silent : entry.isCall = false)
    (unlooked : entry.isLook = false) (none : entry.chunk? = none) :
    Heard setup number response taken least messages false (entry :: log) := by
  have nothing : FramedEvents.fetched [entry] = [] := List.filterMap_cons_none none
  have quiet : callsIn [entry] = [] := List.filter_cons_of_neg (by rw [silent]; simp)
  refine ⟨?_, ?_, ?_, heard.ample, ?_, nofun⟩
  · refine (fetched_append [entry] log).trans ?_
    rw [nothing, List.append_nil]
    exact heard.fetched
  · refine (callsIn_append [entry] log).trans ?_
    rw [quiet, List.append_nil]
    exact heard.calls
  · refine (List.countP_cons_of_neg ?_).trans heard.looked
    rw [unlooked]
    exact Bool.false_ne_true
  · intro wanted member
    rcases List.mem_cons.mp member with same | before
    · exact apart same.symm
    · exact heard.wanted wanted before

theorem Heard.stopped (heard : Heard setup number response taken least messages false log) :
    Heard setup number response taken least messages true
      (.transportCancelled 0 :: .stopped :: log) := by
  let notes : List (Entry ε ρ) := [.transportCancelled 0, .stopped]
  have none : FramedEvents.fetched (notes ++ log) = FramedEvents.fetched log :=
    (fetched_append notes log).trans (List.append_nil _)
  have silent : callsIn (notes ++ log) = callsIn log :=
    (callsIn_append notes log).trans (List.append_nil _)
  refine ⟨none.trans heard.fetched, silent.trans heard.calls, heard.looked, heard.ample, nofun, ?_⟩
  intro _
  refine ⟨[.transportCancelled 0], log, rfl, heard.wanted rfl, List.suffix_rfl, ?_, ?_, ?_, ?_⟩
  · exact List.forall_mem_singleton.mpr rfl
  · rw [heard.looked]
    exact heard.ample
  · exact Nat.le_of_eq heard.looked
  · rw [heard.looked, List.take_length]
    exact heard.calls

theorem hearing_append (accepted : (hearing setup number response messages).2 = .ok ()) :
    hearing setup number response (messages ++ more) =
      Fed.walk (Listener.hear setup number) (hearing setup number response messages).1 more := by
  unfold hearing at accepted ⊢
  rw [Fed.walk_append]
  generalize Fed.walk (Listener.hear setup number) _ messages = answer at accepted ⊢
  obtain ⟨listener, verdict⟩ := answer
  cases accepted
  rfl

theorem hearing_one (accepted : (hearing setup number response messages).2 = .ok ())
    (message : Message) :
    hearing setup number response (messages ++ [message]) =
      (hearing setup number response messages).1.hear setup number message := by
  rw [hearing_append accepted, Fed.walk]
  generalize Listener.hear setup number _ message = answer
  obtain ⟨listener, verdict⟩ := answer
  cases verdict <;> rfl

theorem hearing_failed {cause : FlowError}
    (failed : (hearing setup number response messages).2 = .error cause) (more : List Message) :
    hearing setup number response (messages ++ more) =
      hearing setup number response messages := by
  unfold hearing at failed ⊢
  rw [Fed.walk_append]
  generalize Fed.walk (Listener.hear setup number) _ messages = answer at failed ⊢
  obtain ⟨listener, verdict⟩ := answer
  cases failed
  rfl

namespace Flow

variable {ask : Ask ε ρ ω σ} {source : Source} {pending : Option Bytes}
  {flow after : Flow ε ρ ω σ}

/-! ### Streams that have been cancelled -/

theorem controls_of_cancelled (stopped : flow.cancelled = true) (controls : List Control) :
    controls.foldl (obey ask) flow = flow := by
  refine @controls_keep _ _ _ _ ask (· = flow) ?_ ?_ flow rfl controls
  · rintro _ count rfl
    exact request_of_cancelled stopped ask count
  · rintro _ rfl
    exact stop_of_cancelled stopped

/-! ### A stream whose chunk is being decoded -/

/-- A stream that is being delivered a chunk, and that may have been cancelled. -/
def attentive (number : Nat) (cancelled : Bool) (source : Source) (pending : Option Bytes)
    (listener : Listener ε ρ σ) (demand : Demand) (log : List (Entry ε ρ)) : Flow ε ρ ω σ :=
  { streaming number (if cancelled then drawn.cancel else drawn) source pending listener demand
      log with
    cancelled := cancelled }

/-- The stream is where its listener is after these messages, and its log as well. -/
structure Attentive (setup : Setup ε ω σ ρ) (number : Nat) (response : ρ) (taken : List Bytes)
    (least : Nat) (messages : List Message) (source : Source) (pending : Option Bytes)
    (flow : Flow ε ρ ω σ) : Prop where
  shape : flow = attentive number flow.cancelled source pending
    (hearing setup number response messages).1 flow.demand flow.log
  heard : Heard setup number response taken least messages flow.cancelled flow.log

section

variable (attentive : Attentive setup number response taken least messages source pending flow)

include attentive

theorem Attentive.resting : Resting flow := by
  rw [attentive.shape]
  exact .inl rfl

theorem Attentive.running : flow.stage = .running := by
  rw [attentive.shape]
  rfl

theorem Attentive.quiet : flow.interludes = [] := by
  rw [attentive.shape]
  rfl

theorem Attentive.holder :
    flow.subscriber = some (number, (hearing setup number response messages).1.state) := by
  rw [attentive.shape]
  rfl

theorem Attentive.unreleased :
    flow.response = (hearing setup number response messages).1.response := by
  rw [attentive.shape]
  rfl

theorem Attentive.note {entry : Entry ε ρ} (idle : entry.isAdvance = false)
    (silent : entry.isCall = false) (unlooked : entry.isLook = false) :
    Attentive setup number response taken least messages source pending (record entry flow) := by
  refine ⟨?_, attentive.heard.note idle silent unlooked⟩
  rw [attentive.shape]
  rfl

theorem Attentive.served :
    Attentive setup number response taken least messages source pending
      { flow with demand := flow.demand.serve } := by
  refine ⟨?_, attentive.heard⟩
  rw [attentive.shape]
  rfl

/-! ### Controls -/

theorem Attentive.request (count : Nat) :
    Attentive setup number response taken least messages source pending
      (request ask count flow) := by
  cases stopped : flow.cancelled with
  | true =>
      rw [request_of_cancelled stopped]
      exact attentive
  | false =>
      by_cases none : count = 0
      · rw [none, request_zero]
        exact attentive
      · rw [request_of_resting none stopped attentive.resting]
        have heard := attentive.heard
        rw [stopped] at heard
        refine ⟨?_, ?_⟩
        · rw [attentive.shape]
          rfl
        · change Heard setup number response taken least messages flow.cancelled _
          rw [stopped]
          exact heard.noted nofun rfl rfl rfl

theorem Attentive.stop :
    Attentive setup number response taken least messages source pending (stop flow) := by
  obtain ⟨shape, heard⟩ := attentive
  cases stopped : flow.cancelled with
  | true =>
      rw [stop_of_cancelled stopped]
      exact ⟨shape, heard⟩
  | false =>
      rw [stopped] at shape heard
      have same : Flow.stop flow = Flow.attentive number true source pending
          (hearing setup number response messages).1 flow.demand
          (.transportCancelled 0 :: .stopped :: flow.log) := by
        rw [shape]
        rfl
      rw [same]
      exact ⟨rfl, heard.stopped⟩

theorem Attentive.controls (controls : List Control) :
    Attentive setup number response taken least messages source pending
      (controls.foldl (obey ask) flow) :=
  controls_keep (fun _ count attentive => attentive.request count)
    (fun _ attentive => attentive.stop) attentive controls

theorem Attentive.subscribing (numbers : List Nat) :
    Attentive setup number response taken least messages source pending
      (numbers.foldl (handlerSubscribe setup ask) flow) :=
  handlerSubscribes_taken (isSome_of_eq attentive.holder) attentive
    (fun _ _ _ attentive => attentive.note rfl rfl rfl) numbers

/-! ### Messages -/

variable (accepted : (hearing setup number response messages).2 = .ok ())

include accepted

theorem Attentive.looks (message : Message)
    (same : ((hearing setup number response messages).1.hear setup number message).1 =
      (hearing setup number response messages).1) :
    Attentive setup number response taken least (messages ++ [message]) source pending
      (record (.looked message.kind) flow) := by
  have next : (hearing setup number response (messages ++ [message])).1 =
      (hearing setup number response messages).1 := by
    rw [hearing_one accepted]
    exact same
  refine ⟨?_, ?_⟩
  · rw [next, attentive.shape]
    rfl
  · apply attentive.heard.goes [.looked message.kind] (List.forall_mem_singleton.mpr rfl) rfl rfl
    rw [next]
    exact (List.append_nil _).symm

theorem Attentive.responds (alone : ask.Alone) {message : Message}
    (kind : message.kind = .initialResponse) :
    Attentive setup number response taken least (messages ++ [message]) source pending
        (respond setup ask (record (.looked message.kind) flow)) ∧
      (hearing setup number response (messages ++ [message])).2 = .ok () := by
  have next := hearing_one accepted message
  unfold Listener.hear at next
  rw [kind] at next
  dsimp only at next
  cases first : (hearing setup number response messages).1.response with
  | none =>
      rw [first] at next
      have nothing : (record (.looked message.kind) flow).response = none :=
        attentive.unreleased.trans first
      rw [respond_of_none nothing]
      refine ⟨attentive.looks accepted message ?_, congrArg Prod.snd next⟩
      rw [← hearing_one accepted, next]
  | some initial =>
      rw [first] at next
      let released := record (.responded initial)
        { record (.looked message.kind) flow with response := none }
      have told : Attentive setup number response taken least (messages ++ [message]) source pending
          released := by
        refine ⟨?_, ?_⟩
        · change record (.responded initial)
            { record (.looked message.kind) flow with response := none } = _
          rw [next, attentive.shape]
          rfl
        · refine attentive.heard.goes [.responded initial, .looked message.kind] ?_ rfl rfl
            (congrArg (Listener.calls ∘ Prod.fst) next)
          exact List.forall_mem_cons.mpr ⟨rfl, List.forall_mem_singleton.mpr rfl⟩
      have waiting : (record (.looked message.kind) flow).response = some initial :=
        attentive.unreleased.trans first
      have attached : released.attachment.isSome = true := by
        rw [told.shape]
        rfl
      have followed : released.subscriber.isSome = true := isSome_of_eq told.holder
      have same : respond setup ask (record (.looked message.kind) flow) = _ :=
        respond_of_some alone waiting attached followed told.quiet
      rw [same]
      exact ⟨told.subscribing _, congrArg Prod.snd next⟩

theorem Attentive.hands (alone : ask.Alone) {message : Message} (kind : message.kind = .event) :
    let dealt := handEvent setup ask message (record (.looked message.kind) flow)
    Attentive setup number response taken least (messages ++ [message]) source pending dealt.1 ∧
      (hearing setup number response (messages ++ [message])).2 = dealt.2 := by
  intro dealt
  have next := hearing_one accepted message
  unfold Listener.hear at next
  rw [kind] at next
  dsimp only at next
  cases read : setup.readEvent (EventMessage.ofMessage message) setup.attributes with
  | error reason =>
      rw [read] at next
      have refused : dealt = ({ record (.looked message.kind) flow with
          demand := flow.demand.serve }, .error (.client reason)) := by
        change handEvent setup ask message (record (.looked message.kind) flow) = _
        unfold handEvent
        rw [read]
        rfl
      rw [refused]
      refine ⟨(attentive.looks accepted message ?_).served, congrArg Prod.snd next⟩
      rw [← hearing_one accepted, next]
  | ok event =>
      rw [read] at next
      let given : Flow ε ρ ω σ :=
        { record (.looked message.kind) flow with demand := flow.demand.serve }
      let told := informed setup (.next event) number
        (hearing setup number response messages).1.state given
      have informed : Attentive setup number response taken least (messages ++ [message]) source
          pending told := by
        refine ⟨?_, ?_⟩
        · change Flow.informed setup (.next event) number _
            { record (.looked message.kind) flow with demand := flow.demand.serve } = _
          rw [next, attentive.shape]
          rfl
        · refine attentive.heard.goes [.signalled number (.next event), .looked message.kind]
            ?_ rfl rfl (congrArg (Listener.calls ∘ Prod.fst) next)
          exact List.forall_mem_cons.mpr ⟨rfl, List.forall_mem_singleton.mpr rfl⟩
      let reaction := (setup.subscribers number).react (.next event)
        (hearing setup number response messages).1.state
      have obeyed : Attentive setup number response taken least (messages ++ [message]) source
          pending (reaction.controls.foldl (obey ask) told) := informed.controls _
      have holder : given.subscriber = _ := attentive.holder
      have signalled : signal setup ask (.next event) given =
          (reaction.controls.foldl (obey ask) told, reaction.refusal) :=
        signal_alone alone holder rfl obeyed.quiet
      have same : dealt = _ := handEvent_of_read read holder
      rw [same]
      dsimp only
      change Attentive _ _ _ _ _ _ _ _ (signal setup ask (.next event) given).1 ∧
        _ = Listener.verdict (signal setup ask (.next event) given).2
      rw [signalled]
      exact ⟨obeyed, congrArg Prod.snd next⟩

theorem Attentive.deals (alone : ask.Alone) (message : Message) :
    Attentive setup number response taken least (messages ++ [message]) source pending
        (deal setup ask flow message).1 ∧
      (hearing setup number response (messages ++ [message])).2 =
        (deal setup ask flow message).2 := by
  rw [deal_of_running attentive.running]
  have next := hearing_one accepted message
  cases kind : message.kind with
  | initialResponse =>
      have responds := attentive.responds accepted alone kind
      rw [kind] at responds
      exact responds
  | event =>
      have hands := attentive.hands accepted alone kind
      rw [kind] at hands
      exact hands
  | _ =>
      unfold Listener.hear at next
      rw [kind] at next
      have looks := attentive.looks accepted message (by
        unfold Listener.hear
        rw [kind])
      rw [kind] at looks
      exact ⟨looks, congrArg Prod.snd next⟩

end

theorem Attentive.walks (alone : ask.Alone) (more : List Message)
    (attentive : Attentive setup number response taken least messages source pending flow)
    (accepted : (hearing setup number response messages).2 = .ok ()) :
    let walked := Fed.walk (deal setup ask) flow more
    ∃ front, front <+: more ∧
      Attentive setup number response taken least (messages ++ front) source pending walked.1 ∧
      hearing setup number response (messages ++ more) =
        hearing setup number response (messages ++ front) ∧
      (hearing setup number response (messages ++ more)).2 = walked.2 ∧
      (walked.2 = .ok () → front = more) := by
  induction more generalizing messages flow with
  | nil =>
      refine ⟨[], List.prefix_rfl, ?_, rfl, ?_, fun _ => rfl⟩
      · rw [List.append_nil]
        exact attentive
      · rw [List.append_nil]
        exact accepted
  | cons message later ih =>
      obtain ⟨dealt, verdict⟩ := attentive.deals accepted alone message
      rw [Fed.walk]
      generalize deal setup ask flow message = answer at dealt verdict ⊢
      obtain ⟨after, answered⟩ := answer
      rw [List.append_cons messages message later]
      cases answered with
      | error cause =>
          have final := hearing_failed verdict later
          refine ⟨[message], ⟨later, rfl⟩, dealt, final, ?_,
            fun sound => by cases sound⟩
          rw [final]
          exact verdict
      | ok onward =>
          obtain ⟨front, within, heard, same, decided, all⟩ := ih dealt verdict
          refine ⟨message :: front, List.cons_prefix_cons.mpr ⟨rfl, within⟩, ?_, ?_, decided, ?_⟩
          · rw [List.append_cons messages message front]
            exact heard
          · rw [List.append_cons messages message front]
            exact same
          · exact fun sound => congrArg (message :: ·) (all sound)

end Flow

end FramedEvents
