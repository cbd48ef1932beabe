/-
What a stream does with the responses that it is given.

Everything that is done to a stream keeps to the course of its response: the first response is
held until a marker is looked at, which is when the handler is given it, and others that are
captured meanwhile are dropped. Then the next response to be captured is held. So the handler
is given one response in each round, and more than one only if a response is captured after a
release, and a marker looked at after that.
-/

import FramedEvents.Proofs.Flow.Rounds
import FramedEvents.Proofs.Flow.Upholding

namespace FramedEvents

open Happening Relation

namespace Flow

variable {ε ρ ω σ : Type} {setup : Setup ε ω σ ρ} {ask : Ask ε ρ ω σ}
  {flow middle after : Flow ε ρ ω σ}

def Event.captured? : Event ρ → Option ρ
  | .capture response => some response
  | _ => none

def Event.Fits (event : Event ρ) (part : List (Happening ε ρ)) : Prop :=
  ∀ response, event = .capture response → part = [.captured response]

def captured (events : List (Event ρ)) : List ρ := events.filterMap Event.captured?

theorem captured_cons (event : Event ρ) (later : List (Event ρ)) :
    captured (event :: later) = event.captured?.toList ++ captured later := by
  unfold captured
  rw [List.filterMap_cons]
  cases event.captured? <;> rfl

def scripted (flow : Flow ε ρ ω σ) : List ρ := captured flow.interludes.flatten

/-- What happens between two moments of a stream: what becomes of its response, and all that
gets into the log. The responses that are captured are the given ones, and those of the
interludes in between. -/
structure Accounts (given : List ρ) (flow : Flow ε ρ ω σ) (happenings : List (Happening ε ρ))
    (after : Flow ε ρ ω σ) : Prop where
  course : Course flow.response flow.stage happenings after.response after.stage
  log : after.log = (entries happenings).reverse ++ flow.log
  captures : (captures happenings ++ after.scripted).Perm (given ++ flow.scripted)

theorem Accounts.nothing (flow : Flow ε ρ ω σ) : Accounts [] flow [] flow :=
  ⟨.nothing _ _, rfl, .refl _⟩

theorem Accounts.append {earlier later : List ρ} {first second : List (Happening ε ρ)}
    (front : Accounts earlier flow first middle) (back : Accounts later middle second after) :
    Accounts (earlier ++ later) flow (first ++ second) after where
  course := front.course.append back.course
  log := by
    rw [back.log, front.log, entries_append, List.reverse_append, List.append_assoc]
  captures := by
    rw [captures_append, List.append_assoc, List.append_assoc]
    have last := back.captures.append_left (Happening.captures first)
    have start := front.captures.append_left later
    exact ((last.trans (List.perm_append_comm_assoc _ _ _)).trans start).trans
      (List.perm_append_comm_assoc _ _ _)

/-! ### What is done without captures -/

def Accounted (flow after : Flow ε ρ ω σ) : Prop :=
  ∃ happenings, Accounts [] flow happenings after

namespace Accounted

theorem refl (flow : Flow ε ρ ω σ) : Accounted flow flow := ⟨[], .nothing flow⟩

theorem trans (first : Accounted flow middle) (second : Accounted middle after) :
    Accounted flow after := by
  obtain ⟨earlier, front⟩ := first
  obtain ⟨later, back⟩ := second
  exact ⟨earlier ++ later, front.append back⟩

theorem of_reflTransGen (steps : ReflTransGen Accounted flow after) : Accounted flow after := by
  induction steps with
  | refl => exact refl flow
  | tail _ last ih => exact ih.trans last

theorem of_course {happenings : List (Happening ε ρ)}
    (course : Course flow.response flow.stage happenings after.response after.stage)
    (uncaptured : captures happenings = []) (interludes : after.interludes = flow.interludes)
    (log : after.log = (entries happenings).reverse ++ flow.log) : Accounted flow after := by
  refine ⟨happenings, course, log, ?_⟩
  unfold scripted
  rw [uncaptured, interludes]

theorem of_same (response : after.response = flow.response) (stage : after.stage = flow.stage)
    (interludes : after.interludes = flow.interludes) (log : after.log = flow.log) :
    Accounted flow after := by
  have course : Course flow.response flow.stage ([] : List (Happening ε ρ)) after.response
      after.stage := by
    rw [response, stage]
    exact .nothing _ _
  exact of_course course rfl interludes log

theorem of_beside {entry : Entry ε ρ} (beside : entry.isBeside = true)
    (response : after.response = flow.response) (stage : after.stage = flow.stage)
    (interludes : after.interludes = flow.interludes) (log : after.log = entry :: flow.log) :
    Accounted flow after := by
  have course : Course flow.response flow.stage [.noted entry] after.response after.stage := by
    rw [response, stage]
    exact .beside entry beside (.nothing _ _)
  exact of_course course rfl interludes log

theorem looked (running : flow.stage = .running) {kind : MessageKind}
    (other : kind ≠ .initialResponse) : Accounted flow (record (.looked kind) flow) := by
  have course : Course flow.response flow.stage
      [(.noted (.looked kind) : Happening ε ρ)] flow.response flow.stage := by
    rw [running]
    exact .looked kind other (.nothing _ _)
  exact of_course course rfl rfl rfl

theorem ended (running : flow.stage = .running) {final : Stage} (done : final.isDone = true) :
    Accounted flow { flow with stage := final } := by
  have course : Course flow.response flow.stage
      [(.ended final : Happening ε ρ)] flow.response final := by
    rw [running]
    exact .ended final done (.nothing _ _)
  exact of_course course rfl rfl rfl

theorem skipped (running : flow.stage = .running) (free : flow.response = none) :
    Accounted flow (record (.looked .initialResponse) flow) := by
  have course : Course flow.response flow.stage
      [(marker : Happening ε ρ)] flow.response flow.stage := by
    rw [running, free]
    exact .skipped (.nothing _ _)
  exact of_course course rfl rfl rfl

theorem released (running : flow.stage = .running) {response : ρ}
    (held : flow.response = some response) :
    Accounted flow
      (record (.responded response)
        { record (.looked .initialResponse) flow with response := none }) := by
  have course : Course flow.response flow.stage
      [(marker : Happening ε ρ), .released response] none flow.stage := by
    rw [running, held]
    exact .released response (.nothing _ _)
  exact of_course course rfl rfl rfl

theorem of_interlude {events : List (Event ρ)} {later : List (List (Event ρ))}
    {happenings : List (Happening ε ρ)} (next : flow.interludes = events :: later)
    (played : Accounts (captured events) { flow with interludes := later } happenings after) :
    Accounted flow after := by
  refine ⟨happenings, played.course, played.log, ?_⟩
  have taken : captured events ++ ({ flow with interludes := later } : Flow ε ρ ω σ).scripted =
      flow.scripted := by
    unfold scripted captured
    rw [next, List.flatten_cons, List.filterMap_append]
  exact taken ▸ played.captures

end Accounted

/-- Whom the stream turns to brings no responses but in interludes. -/
structure Ask.Accountable (ask : Ask ε ρ ω σ) : Prop where
  forChunk : ∀ flow : Flow ε ρ ω σ, flow.Accounted (ask.forChunk flow)
  others : ∀ flow : Flow ε ρ ω σ, flow.Accounted (ask.others flow)

theorem accounted_foldl {α : Type} {act : Flow ε ρ ω σ → α → Flow ε ρ ω σ}
    (acts : ∀ flow item, Accounted flow (act flow item)) (items : List α) (flow : Flow ε ρ ω σ) :
    Accounted flow (items.foldl act flow) :=
  holds_foldl items (fun item _ after held => held.trans (acts after item)) (.refl flow)

/-! ### Demand and signals -/

theorem stop_accounted (flow : Flow ε ρ ω σ) : flow.Accounted (stop flow) := by
  unfold stop
  split
  · exact .refl flow
  · have stopped : Accounted flow (record .stopped { flow with cancelled := true }) :=
      .of_beside rfl rfl rfl rfl rfl
    dsimp only
    split
    · exact stopped
    · exact stopped.trans (.of_beside rfl rfl rfl rfl rfl)

namespace Ask.Accountable

theorem askNext (fair : ask.Accountable) (flow : Flow ε ρ ω σ) :
    flow.Accounted (askNext ask flow) := by
  apply askNext_holds (.refl flow)
  intro _ _ _
  have requested : flow.Accounted (record .chunkRequested { flow with chunkDue := true }) :=
    .of_beside rfl rfl rfl rfl rfl
  exact requested.trans (fair.forChunk _)

theorem request (fair : ask.Accountable) (count : Nat) (flow : Flow ε ρ ω σ) :
    flow.Accounted (request ask count flow) := by
  unfold Flow.request
  split
  · exact .refl flow
  · have demanded : flow.Accounted
        (record (.demanded count) { flow with demand := flow.demand.add count }) :=
      .of_beside rfl rfl rfl rfl rfl
    exact demanded.trans (fair.askNext _)

theorem obey (fair : ask.Accountable) (flow : Flow ε ρ ω σ) (control : Control) :
    flow.Accounted (obey ask flow control) := by
  cases control with
  | request count => exact fair.request count flow
  | cancel => exact stop_accounted flow

theorem signal (fair : ask.Accountable) (setup : Setup ε ω σ ρ) (given : EventSignal ε)
    (flow : Flow ε ρ ω σ) : flow.Accounted (signal setup ask given flow).1 := by
  rcases nobody_or_holder flow with nobody | ⟨number, state, holder⟩
  · rw [signal_of_nobody given flow nobody]
    exact .refl flow
  · have told : flow.Accounted (informed setup given number state flow) :=
      .of_beside rfl rfl rfl rfl rfl
    unfold Flow.signal
    rw [holder]
    exact (told.trans (accounted_foldl fair.obey _ _)).trans (fair.others _)

theorem subscribe (fair : ask.Accountable) (setup : Setup ε ω σ ρ) (number : Nat)
    (flow : Flow ε ρ ω σ) : flow.Accounted (subscribe setup ask number flow).2 := by
  unfold Flow.subscribe
  split
  · exact .refl flow
  · let start := (setup.subscribers number).start
    have attached : flow.Accounted { flow with subscriber := some (number, start) } :=
      .of_same rfl rfl rfl rfl
    exact attached.trans (fair.signal setup _ _)

theorem handlerSubscribe (fair : ask.Accountable) (setup : Setup ε ω σ ρ) (flow : Flow ε ρ ω σ)
    (number : Nat) : flow.Accounted (handlerSubscribe setup ask flow number) := by
  have inside := fair.subscribe setup number flow
  unfold Flow.handlerSubscribe
  split
  · rename_i after answered
    rwa [answered] at inside
  · rename_i reason after answered
    rw [answered] at inside
    exact inside.trans (.of_beside rfl rfl rfl rfl rfl)

/-! ### Messages -/

theorem marked (fair : ask.Accountable) (setup : Setup ε ω σ ρ) (running : flow.stage = .running) :
    flow.Accounted (respond setup ask (record (.looked .initialResponse) flow)) := by
  unfold respond
  split
  · rename_i free
    exact .skipped running free
  · rename_i response held
    have released := Accounted.released running held
    dsimp only
    split
    · have bound := accounted_foldl (fair.handlerSubscribe setup) setup.handler.onResponse
      exact (released.trans (bound _)).trans (fair.others _)
    · exact released.trans (fair.others _)

theorem handEvent (fair : ask.Accountable) (setup : Setup ε ω σ ρ) (message : Message)
    (flow : Flow ε ρ ω σ) : flow.Accounted (handEvent setup ask message flow).1 := by
  let charged := { flow with demand := flow.demand.serve }
  have served : flow.Accounted charged := .of_same rfl rfl rfl rfl
  unfold Flow.handEvent
  dsimp only
  split
  · exact served
  · rename_i event _
    split
    · exact served
    · have told := served.trans (fair.signal setup (.next event) charged)
      split
      · rename_i after answered
        rwa [answered] at told
      · rename_i after reason answered
        rwa [answered] at told

theorem deal (fair : ask.Accountable) (setup : Setup ε ω σ ρ) (flow : Flow ε ρ ω σ)
    (message : Message) : flow.Accounted (deal setup ask flow message).1 := by
  rcases running_or_isDone flow with running | done
  · rw [deal_of_running running]
    cases message.kind with
    | initialResponse => exact fair.marked setup running
    | event =>
        have seen : flow.Accounted (record (.looked .event) flow) := .looked running nofun
        exact seen.trans (fair.handEvent setup message _)
    | missingEventType => exact .looked running nofun
    | error code text => exact .looked running nofun
    | other type => exact .looked running nofun
  · rw [deal_of_isDone done]
    exact .refl flow

theorem decodeAll (fair : ask.Accountable) (setup : Setup ε ω σ ρ) (flow : Flow ε ρ ω σ)
    (buffer : Bytes) :
    flow.Accounted
      (Fed.decodeAll setup.limits FlowError.decode (Flow.deal setup ask) flow buffer).state := by
  fun_induction Fed.decodeAll setup.limits FlowError.decode (Flow.deal setup ask) flow buffer with
  | case1 flow buffer error rest decoded => exact .refl flow
  | case2 flow buffer rest decoded => exact .refl flow
  | case3 flow buffer message rest decoded after error refused =>
      have dealt := fair.deal setup flow message
      rwa [refused] at dealt
  | case4 flow buffer message rest decoded after accepted ih =>
      have dealt := fair.deal setup flow message
      rw [accepted] at dealt
      exact dealt.trans ih

/-! ### The end -/

theorem reported (fair : ask.Accountable) (setup : Setup ε ω σ ρ) {final : Stage}
    (done : final.isDone = true) (running : flow.stage = .running) :
    flow.Accounted (ask.others (reported setup ask final flow)) := by
  have told := (Accounted.ended running done).trans (fair.signal setup final.signal _)
  have beside : (final.report : Entry ε ρ).isBeside = true := by cases final <;> rfl
  have report : flow.Accounted (Flow.reported setup ask final flow) :=
    told.trans (.of_beside beside rfl rfl rfl rfl)
  exact report.trans (fair.others _)

theorem complete (fair : ask.Accountable) (setup : Setup ε ω σ ρ) (flow : Flow ε ρ ω σ) :
    flow.Accounted (complete setup ask flow).2 := by
  rcases running_or_isDone flow with running | done
  · rw [complete_of_running running]
    exact fair.reported setup rfl running
  · rw [complete_of_isDone setup ask done]
    exact .refl flow

theorem fail (fair : ask.Accountable) (setup : Setup ε ω σ ρ) (cause : FlowError)
    (flow : Flow ε ρ ω σ) : flow.Accounted (fail setup ask cause flow) := by
  rcases running_or_isDone flow with running | done
  · rw [fail_of_running running]
    exact (fair.reported setup rfl running).trans (.of_same rfl rfl rfl rfl)
  · rw [fail_of_isDone setup ask cause done]
    exact .refl flow

theorem transportEnded (fair : ask.Accountable) (setup : Setup ε ω σ ρ) (index : Nat)
    (flow : Flow ε ρ ω σ) : flow.Accounted (transportEnded setup ask index flow) := by
  unfold Flow.transportEnded
  split
  · exact (fair.complete setup flow).trans (.of_same rfl rfl rfl rfl)
  · exact .refl flow

theorem transportFailed (fair : ask.Accountable) (setup : Setup ε ω σ ρ) (index : Nat)
    (error : TransportError) (flow : Flow ε ρ ω σ) :
    flow.Accounted (transportFailed setup ask index error flow) :=
  transportFailed_holds (fair.fail setup _ flow) (.refl flow)

/-! ### Chunks -/

theorem finishChunk (fair : ask.Accountable) (flow : Flow ε ρ ω σ) :
    flow.Accounted (finishChunk ask flow) := by
  have finished : flow.Accounted (record .chunkFinished { flow with chunkDue := false }) :=
    .of_beside rfl rfl rfl rfl rfl
  exact finishChunk_holds finished (finished.trans (fair.askNext _))

theorem consume (fair : ask.Accountable) (setup : Setup ε ω σ ρ) (index : Nat) (routed : Bool)
    (pending bytes : Bytes) (flow : Flow ε ρ ω σ) :
    flow.Accounted (consume setup ask index routed pending bytes flow) := by
  unfold Flow.consume
  split
  · exact .refl flow
  · have arrived : flow.Accounted
        (record (.chunkArrived index bytes) (flow.keepPending index routed none)) :=
      .of_beside rfl rfl rfl rfl rfl
    have decoded := arrived.trans (fair.decodeAll setup _ (pending ++ bytes))
    have kept (left : Bytes) (flow : Flow ε ρ ω σ) :
        flow.Accounted (flow.keepPending index routed (some left)) := .of_same rfl rfl rfl rfl
    dsimp only
    split
    · exact (decoded.trans (kept _ _)).trans (fair.finishChunk _)
    · exact ((decoded.trans (kept _ _)).trans (fair.fail setup _ _)).trans (stop_accounted _)

theorem chunk (fair : ask.Accountable) (setup : Setup ε ω σ ρ) (index : Nat) (bytes : Bytes)
    (flow : Flow ε ρ ω σ) : flow.Accounted (chunk setup ask index bytes flow) := by
  unfold Flow.chunk
  split
  · exact fair.consume setup index _ _ bytes flow
  · exact .refl flow

/-! ### Acts -/

theorem join (fair : ask.Accountable) (setup : Setup ε ω σ ρ) (routed : Bool) (index : Nat)
    (flow : Flow ε ρ ω σ) : flow.Accounted (join setup ask routed index flow).2 := by
  unfold Flow.join
  split
  · dsimp only
    split
    · exact .of_beside rfl rfl rfl rfl rfl
    · have attached : flow.Accounted
          (record .streamReady
            { flow.keepPending index routed (some []) with attachment := some index }) :=
        .of_beside rfl rfl rfl rfl rfl
      have bound := accounted_foldl (fair.handlerSubscribe setup) setup.handler.onStream
      exact (attached.trans (bound _)).trans (fair.others _)
  · exact .refl flow

end Ask.Accountable

theorem capture_accounts (response : ρ) (flow : Flow ε ρ ω σ) :
    Accounts [response] flow [.captured response] (capture response flow) := by
  refine ⟨?_, rfl, .refl _⟩
  change Course flow.response flow.stage _ (flow.response.or (some response)) flow.stage
  cases flow.response with
  | none => exact .kept response (.nothing _ _)
  | some held => exact .dropped held response (.nothing _ _)

namespace Ask.Accountable

theorem act (fair : ask.Accountable) (setup : Setup ε ω σ ρ) (flow : Flow ε ρ ω σ)
    (event : Event ρ) :
    ∃ part, event.Fits part ∧
      Accounts event.captured?.toList flow part (act setup ask flow event) := by
  have plain (other : event.captured? = none)
      (accounted : flow.Accounted (Flow.act setup ask flow event)) :
      ∃ part, event.Fits part ∧
        Accounts event.captured?.toList flow part (Flow.act setup ask flow event) := by
    obtain ⟨part, accounts⟩ := accounted
    refine ⟨part, ?_, other ▸ accounts⟩
    rintro response rfl
    cases other
  cases event with
  | capture response =>
      refine ⟨[.captured response], ?_, capture_accounts response flow⟩
      rintro _ ⟨⟩
      rfl
  | attach routed index => exact plain rfl (fair.join setup routed index flow)
  | push index bytes => exact plain rfl (fair.chunk setup index bytes flow)
  | transportEnded index => exact plain rfl (fair.transportEnded setup index flow)
  | transportFailed index error => exact plain rfl (fair.transportFailed setup index error flow)
  | request count =>
      apply plain rfl
      change flow.Accounted (if flow.subscriber.isSome then Flow.request ask count flow else flow)
      split
      · exact fair.request count flow
      · exact .refl flow
  | cancel =>
      apply plain rfl
      change flow.Accounted (if flow.subscriber.isSome then stop flow else flow)
      split
      · exact stop_accounted flow
      · exact .refl flow
  | subscribe number =>
      apply plain rfl
      change flow.Accounted
        (if flow.attachment.isSome then (Flow.subscribe setup ask number flow).2 else flow)
      split
      · exact fair.subscribe setup number flow
      · exact .refl flow
  | fail cause => exact plain rfl (fair.fail setup cause flow)
  | complete => exact plain rfl (fair.complete setup flow)

theorem acts (fair : ask.Accountable) (setup : Setup ε ω σ ρ) (events : List (Event ρ))
    (flow : Flow ε ρ ω σ) :
    ∃ happenings,
      Accounts (captured events) flow happenings (events.foldl (Flow.act setup ask) flow) := by
  induction events generalizing flow with
  | nil => exact ⟨[], .nothing flow⟩
  | cons event later ih =>
      obtain ⟨first, _, front⟩ := fair.act setup flow event
      obtain ⟨second, back⟩ := ih (Flow.act setup ask flow event)
      refine ⟨first ++ second, ?_⟩
      rw [captured_cons]
      exact front.append back

end Ask.Accountable

theorem interlude_accounted (setup : Setup ε ω σ ρ) {forChunk : Flow ε ρ ω σ → Flow ε ρ ω σ}
    (fair : ∀ flow : Flow ε ρ ω σ, flow.Accounted (forChunk flow)) (depth : Nat)
    (flow : Flow ε ρ ω σ) : flow.Accounted (interlude setup forChunk depth flow) := by
  -- Those who act in the hooks of an interlude are one level further down.
  induction depth generalizing flow with
  | zero => exact .refl flow
  | succ depth ih =>
      unfold interlude
      split
      · exact .refl flow
      · rename_i events later next
        have inside : Ask.Accountable ⟨forChunk, interlude setup forChunk depth⟩ := ⟨fair, ih⟩
        obtain ⟨happenings, played⟩ :=
          inside.acts setup events { flow with interludes := later }
        exact .of_interlude next played

theorem asking_accounted (setup : Setup ε ω σ ρ) {forChunk : Flow ε ρ ω σ → Flow ε ρ ω σ}
    (fair : ∀ flow : Flow ε ρ ω σ, flow.Accounted (forChunk flow)) :
    (asking setup forChunk).Accountable :=
  ⟨fair, fun flow => interlude_accounted setup fair flow.interludes.length flow⟩

/-! ### Deliveries and histories -/

theorem bookChunk_accounted (flow : Flow ε ρ ω σ) : flow.Accounted (bookChunk flow) := by
  unfold bookChunk
  split
  · exact .refl flow
  · exact .of_same rfl rfl rfl rfl

theorem delivery_accounted (setup : Setup ε ω σ ρ) (index count : Nat) (source : Source)
    (flow : Flow ε ρ ω σ) :
    flow.Accounted (Delivery.request (reach setup index) count source flow).2 := by
  have fair : (asking setup bookChunk : Ask ε ρ ω σ).Accountable :=
    asking_accounted setup bookChunk_accounted
  apply Accounted.of_reflTransGen
  apply Delivery.request_changes
  · exact fun made _ flow => .single (.of_same rfl rfl rfl rfl)
  · exact fun bytes flow => .single (fair.chunk setup index bytes flow)
  · exact fun error flow => .single (fair.transportFailed setup index error flow)
  · exact fun flow => .single (fair.transportEnded setup index flow)
  · intro flow
    apply ReflTransGen.single
    dsimp only [reach]
    split
    · exact stop_accounted flow
    · exact .refl flow

theorem drawChunk_accounted (setup : Setup ε ω σ ρ) (flow : Flow ε ρ ω σ) :
    flow.Accounted (drawChunk setup flow) := by
  unfold drawChunk
  split
  · exact .refl flow
  · split
    · exact (delivery_accounted setup _ 1 _ flow).trans (.of_same rfl rfl rfl rfl)
    · exact bookChunk_accounted flow

theorem ask_accounted (setup : Setup ε ω σ ρ) : (Flow.ask setup : Ask ε ρ ω σ).Accountable :=
  asking_accounted setup (drawChunk_accounted setup)

theorem run_accounts (setup : Setup ε ω σ ρ) (history : List (Event ρ)) (flow : Flow ε ρ ω σ) :
    ∃ parts : List (List (Happening ε ρ)),
      List.Forall₂ Event.Fits history parts ∧
      ∀ count, Accounts (captured (history.take count)) flow (parts.take count).flatten
        (run setup flow (history.take count)) := by
  induction history generalizing flow with
  | nil =>
      refine ⟨[], .nil, fun count => ?_⟩
      rw [List.take_nil, List.take_nil]
      exact .nothing flow
  | cons event later ih =>
      obtain ⟨part, alone, accounts⟩ := (ask_accounted setup).act setup flow event
      obtain ⟨parts, others, rest⟩ := ih (step setup flow event)
      refine ⟨part :: parts, .cons alone others, fun count => ?_⟩
      cases count with
      | zero => exact .nothing flow
      | succ count =>
          rw [List.take_succ_cons, List.take_succ_cons, captured_cons, List.flatten_cons]
          exact accounts.append (rest count)

/-- Whatever is done to a stream falls into rounds: the handler is given the first response
that is captured in a round, at the first marker that is looked at behind it, while the stream
is running. All other captures are dropped, and all other markers are skipped. So the handler
is given one response at most exactly if no response that is captured after a release has a
marker behind it. -/
theorem run_responds_in_rounds (setup : Setup ε ω σ ρ) (transports : List Transport)
    (interludes : List (List (Event ρ))) (history : List (Event ρ)) :
    let initial : Flow ε ρ ω σ := { transports := transports, interludes := interludes }
    ∃ parts : List (List (Happening ε ρ)),
      List.Forall₂ Event.Fits history parts ∧
      (∀ count, Accounts (captured (history.take count)) initial (parts.take count).flatten
        (run setup initial (history.take count))) ∧
      ∃ (rounds : List (Round ε ρ)) (rest : List (Happening ε ρ)),
        parts.flatten = rounds.flatMap Round.happenings ++ rest ∧
        Unfinished rest (run setup initial history).response ∧
        let responses := (run setup initial history).log.reverse.filterMap Entry.response?
        responses = rounds.map Round.response ∧
        (responses.length ≤ 1 ↔ ¬Repeated parts.flatten) := by
  intro initial
  obtain ⟨parts, alone, accounts⟩ := run_accounts setup history initial
  have whole := accounts history.length
  rw [List.take_length, alone.length_eq, List.take_length] at whole
  obtain ⟨rounds, rest, split, unfinished⟩ := whole.course.inRounds.1 rfl
  have logged : (run setup initial history).log.reverse.filterMap Entry.response? =
      releases parts.flatten := by
    rw [whole.log, releases_eq]
    simp [initial]
  refine ⟨parts, alone, accounts, rounds, rest, split, unfinished, ?_, ?_⟩
  · rw [logged, split, releases_append, Round.releases_flatMap, unfinished.releases]
    exact List.append_nil _
  · rw [logged]
    exact whole.course.length_releases_le_one_iff

def responseMarker : Message :=
  ⟨[⟨Reserved.messageType, .string Reserved.event⟩,
    ⟨Reserved.eventType, .string Reserved.initialResponse⟩], []⟩

def markerFrame : Bytes :=
  [0, 0, 0, 69, 0, 0, 0, 53, 163, 130, 204, 115, 13, 58, 109, 101, 115, 115, 97, 103, 101, 45, 116,
    121, 112, 101, 7, 0, 5, 101, 118, 101, 110, 116, 11, 58, 101, 118, 101, 110, 116, 45, 116, 121,
    112, 101, 7, 0, 16, 105, 110, 105, 116, 105, 97, 108, 45, 114, 101, 115, 112, 111, 110, 115,
    101, 183, 98, 77, 238]

theorem decode_markerFrame : Frame.decode {} markerFrame = (.ok (some responseMarker), []) := by
  have encoded : Frame.encode {} responseMarker = .ok markerFrame := by decide +kernel
  have decoded := Frame.decode_eq_iff.mpr (Frame.Reading.of_encode encoded [])
  rwa [List.append_nil] at decoded

theorem chunk_marker (usual : setup.limits = {}) {index : Nat} {routed : Bool}
    (listening : (flow.transport? index).bind Transport.consumer = some (.stream routed (some [])))
    (running : flow.stage = .running) :
    chunk setup ask index markerFrame flow =
      finishChunk ask
        (keepPending index routed (some [])
          (respond setup ask
            (record (.looked .initialResponse)
              (record (.chunkArrived index markerFrame)
                (flow.keepPending index routed none))))) := by
  let arrived := record (.chunkArrived index markerFrame) (flow.keepPending index routed none)
  have going : arrived.stage = .running := running
  have marks : responseMarker.kind = .initialResponse := by decide
  have decoded : Fed.decodeAll setup.limits FlowError.decode (deal setup ask) arrived
      ([] ++ markerFrame) =
        ⟨respond setup ask (record (.looked .initialResponse) arrived), .ok (), []⟩ := by
    rw [usual, List.nil_append, Fed.decodeAll_message decode_markerFrame,
      deal_of_running going, marks]
    exact Fed.decodeAll_waiting Frame.decode_nil
  unfold chunk
  rw [listening]
  dsimp only
  unfold consume
  rw [if_neg (not_isDone running)]
  dsimp only
  rw [decoded]

def unattended : Setup String Nat Unit where
  readEvent := fun _ _ => .ok "event"
  subscribers := fun _ => { start := (), react := fun _ _ => { state := () } }
  handler := { result := fun given => .ok given.length }

/-- A response that is captured once the first one has been released is released as well. -/
theorem run_responds_twice :
    let history := [Event.capture "first", .attach true 0, .push 0 markerFrame,
      .capture "second", .push 0 markerFrame]
    let flow : Flow String String Nat Unit :=
      run unattended { transports := [⟨.idle, none⟩] } history
    flow.log.reverse.filterMap Entry.response? = ["first", "second"] := by
  intro history flow
  let waiting : Flow String String Nat Unit :=
    run unattended { transports := [⟨.idle, none⟩] } [.capture "first", .attach true 0]
  have first := @chunk_marker _ _ _ _ unattended (Flow.ask unattended) waiting rfl 0 true rfl rfl
  have second := @chunk_marker _ _ _ _ unattended (Flow.ask unattended)
    (capture "second" (chunk unattended (Flow.ask unattended) 0 markerFrame waiting)) rfl 0 true
    (by rw [first]; rfl) (by rw [first]; rfl)
  have reached : flow = chunk unattended (Flow.ask unattended) 0 markerFrame
      (capture "second" (chunk unattended (Flow.ask unattended) 0 markerFrame waiting)) := rfl
  rw [reached, second, first]
  rfl

end Flow

end FramedEvents
