/-
What a stream upholds whatever it does.

Between the chunks that it asks for, a stream does little to its transports: it subscribes
to them, and tells them to stop. What is not upset by that, and not by demand, signals and
responses either, holds through all that a stream does, if only it holds through the
controls of its subscriber and through what others do in the hooks. What is left is the
end of the stream, and whatever a chunk that arrives brings about.
-/

import FramedEvents.Proofs.Flow.Handing
import FramedEvents.Proofs.Flow.Intake
import FramedEvents.Proofs.Wire.Bounding

namespace FramedEvents

variable {ε ρ ω σ : Type}

/-- Whether neither a chunk arrives nor an event is handed over with this entry. -/
def Entry.isAside : Entry ε ρ → Bool
  | .signalled _ (.next _) => false
  | .chunkArrived _ _ => false
  | _ => true

theorem Entry.chunk?_of_isAside {entry : Entry ε ρ} (aside : entry.isAside = true) :
    entry.chunk? = none := by
  cases entry with
  | chunkArrived index bytes => cases aside
  | _ => rfl

namespace Flow

open Relation

variable {setup : Setup ε ω σ ρ} {ask : Ask ε ρ ω σ} {flow middle after : Flow ε ρ ω σ}

/-! ### Alike and steady streams -/

/-- The stage and the outcome are the same, no interlude has been added, and after the
end nothing has been handed over. -/
structure Alike (flow after : Flow ε ρ ω σ) : Prop where
  stage : after.stage = flow.stage
  outcome : after.outcome = flow.outcome
  interludes : ∀ events ∈ after.interludes, events ∈ flow.interludes
  given : flow.stage.isDone = true → after.given = flow.given

theorem Alike.note {entry : Entry ε ρ} (nothing : entry.given? = none) (flow : Flow ε ρ ω σ) :
    Alike flow (record entry flow) :=
  ⟨rfl, rfl, fun _ member => member, fun _ => given_note rfl nothing⟩

theorem Alike.updateTransport (flow : Flow ε ρ ω σ) (index : Nat)
    (change : Transport → Transport) : Alike flow (flow.updateTransport index change) :=
  ⟨rfl, rfl, fun _ member => member, fun _ => rfl⟩

theorem Alike.informed (flow : Flow ε ρ ω σ) (given : EventSignal ε) (number : Nat) (state : σ)
    (late : flow.stage.isDone = true → ∀ event, given ≠ .next event) :
    Alike flow (informed setup given number state flow) := by
  refine ⟨rfl, rfl, fun _ member => member, fun done => given_note rfl ?_⟩
  cases given with
  | next event => exact absurd rfl (late done event)
  | _ => rfl

/-- What may become of a transport that brings nothing: it is told to stop, be it as soon as
the stream has subscribed to it. -/
inductive Turned : Transport → Transport → Prop where
  | same (transport : Transport) : Turned transport transport
  | stopped (transport : Transport) :
      Turned transport { transport with outlet := transport.outlet.cancel }
  | declined (outlet : Outlet) (routed : Bool) :
      Turned ⟨outlet, none⟩ ⟨outlet.cancel, some (.stream routed (some []))⟩

/-- Nothing has changed about the end of the stream and about the chunk that is due, and its
transports have been told to stop at most. There is a subscriber at the end only if there was
one before, or if one has been told that it is subscribed. -/
structure Steady (flow after : Flow ε ρ ω σ) : Prop extends Alike flow after where
  attachment : after.attachment = flow.attachment
  due : after.chunkDue = flow.chunkDue
  transports : ∀ index, Option.Rel Turned (flow.transport? index) (after.transport? index)
  log : ∃ notes, after.log = notes ++ flow.log ∧ ∀ note ∈ notes, note.chunk? = none
  bound : flow.subscriber.isSome = true → after.subscriber.isSome = true
  subscribed : after.subscriber.isSome = true →
    flow.subscriber.isSome = true ∨ ∃ number, .signalled number .subscribed ∈ after.log

theorem transport?_update_self (index : Nat) (change : Transport → Transport)
    (flow : Flow ε ρ ω σ) :
    (flow.updateTransport index change).transport? index = (flow.transport? index).map change := by
  change (flow.transports.modify index change)[index]? = flow.transports[index]?.map change
  rw [List.getElem?_modify]
  simp

theorem transport?_update_other {index other : Nat} (apart : index ≠ other)
    (change : Transport → Transport) (flow : Flow ε ρ ω σ) :
    (flow.updateTransport index change).transport? other = flow.transport? other := by
  change (flow.transports.modify index change)[other]? = flow.transports[other]?
  rw [List.getElem?_modify]
  simp [apart]

theorem consumer_updateOutlet (index other : Nat) (change : Outlet → Outlet)
    (flow : Flow ε ρ ω σ) :
    ((flow.updateOutlet index change).transport? other).bind Transport.consumer =
      (flow.transport? other).bind Transport.consumer := by
  unfold Flow.updateOutlet
  by_cases here : index = other
  · subst here
    rw [transport?_update_self, Option.bind_map]
    rfl
  · rw [transport?_update_other here]

theorem consumer_keepPending {index : Nat} {transport : Transport}
    (found : flow.transport? index = some transport) (routed : Bool) (pending : Option Bytes) :
    ((flow.keepPending index routed pending).transport? index).bind Transport.consumer =
      some (.stream routed pending) := by
  unfold Flow.keepPending
  rw [transport?_update_self, found]
  rfl

theorem turned_same (flow : Flow ε ρ ω σ) (index : Nat) :
    Option.Rel Turned (flow.transport? index) (flow.transport? index) := by
  cases flow.transport? index with
  | none => exact .none
  | some transport => exact .some (.same transport)

theorem turned_update {index : Nat} {change : Transport → Transport}
    (turned : ∀ transport, flow.transport? index = some transport →
      Turned transport (change transport)) (other : Nat) :
    Option.Rel Turned (flow.transport? other)
      ((flow.updateTransport index change).transport? other) := by
  by_cases here : index = other
  · subst here
    rw [transport?_update_self]
    cases found : flow.transport? index with
    | none => exact .none
    | some transport => exact .some (turned transport found)
  · rw [transport?_update_other here]
    exact turned_same flow other

theorem Steady.note {entry : Entry ε ρ} (aside : entry.isAside = true) (response : Option ρ)
    (demand : Demand) (cancelled : Bool) (flow : Flow ε ρ ω σ)
    (late : flow.stage.isDone = true → entry.given? = none) :
    Steady flow
      (record entry
        { flow with response := response, demand := demand, cancelled := cancelled }) where
  stage := rfl
  outcome := rfl
  interludes _ member := member
  given done := given_note rfl (late done)
  attachment := rfl
  due := rfl
  transports := turned_same flow
  log := ⟨[entry], rfl, List.forall_mem_singleton.mpr (Entry.chunk?_of_isAside aside)⟩
  bound := id
  subscribed := .inl

theorem Steady.unnoted (response : Option ρ) (demand : Demand) (later : List (List (Event ρ)))
    (fewer : ∀ events ∈ later, events ∈ flow.interludes) :
    Steady flow { flow with response := response, demand := demand, interludes := later } where
  stage := rfl
  outcome := rfl
  interludes := fewer
  given _ := rfl
  attachment := rfl
  due := rfl
  transports := turned_same flow
  log := ⟨[], rfl, List.forall_mem_nil _⟩
  bound := id
  subscribed := .inl

theorem Steady.informed {given : EventSignal ε} (number : Nat) (state : σ)
    (late : flow.stage.isDone = true → ∀ event, given ≠ .next event)
    (reason : flow.subscriber.isSome = true ∨ given = .subscribed) :
    Steady flow (informed setup given number state flow) where
  toAlike := .informed flow given number state late
  attachment := rfl
  due := rfl
  transports := turned_same flow
  log := ⟨[.signalled number given], rfl, List.forall_mem_singleton.mpr rfl⟩
  bound _ := rfl
  subscribed _ := reason.imp_right fun first => ⟨number, by rw [first]; exact List.mem_cons_self⟩

theorem Steady.cancelTransport (index : Nat) (flow : Flow ε ρ ω σ) :
    Steady flow (cancelTransport index flow) where
  stage := rfl
  outcome := rfl
  interludes _ member := member
  given _ := given_note rfl rfl
  attachment := rfl
  due := rfl
  transports := turned_update fun transport _ => .stopped transport
  log := ⟨[.transportCancelled index], rfl, List.forall_mem_singleton.mpr rfl⟩
  bound := id
  subscribed := .inl

theorem Steady.declined {index : Nat} {outlet : Outlet} (routed : Bool)
    (free : flow.transport? index = some ⟨outlet, none⟩) :
    Steady flow (Flow.cancelTransport index (flow.keepPending index routed (some []))) where
  stage := rfl
  outcome := rfl
  interludes _ member := member
  given _ := given_note rfl rfl
  attachment := rfl
  due := rfl
  transports := by
    let change (transport : Transport) : Transport :=
      ⟨transport.outlet.cancel, some (.stream routed (some []))⟩
    intro other
    have both : (Flow.cancelTransport index (flow.keepPending index routed (some []))).transport?
        other = (flow.updateTransport index change).transport? other := by
      change ((flow.transports.modify index _).modify index _)[other]? =
        (flow.transports.modify index change)[other]?
      rw [List.modify_modify_eq]
      rfl
    rw [both]
    refine turned_update (fun transport found => ?_) other
    obtain rfl : (⟨outlet, none⟩ : Transport) = transport := Option.some.inj (free.symm.trans found)
    exact .declined outlet routed
  log := ⟨[.transportCancelled index], rfl, List.forall_mem_singleton.mpr rfl⟩
  bound := id
  subscribed := .inl

/-! ### Demand, cancellation and signals -/

/-- Something that steady streams have in common, and that holds through all that those do
whom a stream turns to. -/
structure Ask.Upholds (holds : Flow ε ρ ω σ → Prop) (ask : Ask ε ρ ω σ) : Prop where
  steady : ∀ {flow after}, Steady flow after → holds flow → holds after
  joined : ∀ {flow index outlet} (routed : Bool), flow.transport? index = some ⟨outlet, none⟩ →
    flow.attachment = none → holds flow →
    holds (record .streamReady
      { flow.keepPending index routed (some []) with attachment := some index })
  controls : ∀ {flow} (controls : List Control), flow.subscriber.isSome = true → holds flow →
    holds (controls.foldl (obey ask) flow)
  others : ∀ {flow}, holds flow → holds (ask.others flow)

variable {holds : Flow ε ρ ω σ → Prop}

theorem holds_foldl {α : Type} {act : Flow ε ρ ω σ → α → Flow ε ρ ω σ} (items : List α)
    (acts : ∀ item ∈ items, ∀ flow, holds flow → holds (act flow item)) (held : holds flow) :
    holds (items.foldl act flow) := by
  induction items generalizing flow with
  | nil => exact held
  | cons item items ih =>
      obtain ⟨first, later⟩ := List.forall_mem_cons.mp acts
      exact ih later (first flow held)

theorem stop_holds (steady : ∀ {flow after}, Steady flow after → holds flow → holds after)
    (held : holds flow) : holds (stop flow) := by
  unfold stop
  split
  · exact held
  · have stopped : holds (record .stopped { flow with cancelled := true }) :=
      steady (.note rfl _ _ _ flow fun _ => rfl) held
    dsimp only
    split
    · exact stopped
    · exact steady (.cancelTransport _ _) stopped

theorem askNext_holds (held : holds flow)
    (asked : flow.stage = .running → ∀ index, flow.attachment = some index →
      holds (ask.forChunk (record .chunkRequested { flow with chunkDue := true }))) :
    holds (askNext ask flow) := by
  unfold askNext
  split
  · exact held
  · rename_i possible
    simp only [Bool.or_eq_true, not_or, Bool.not_eq_true, Option.isNone_eq_false_iff] at possible
    obtain ⟨⟨⟨_, going⟩, somewhere⟩, _⟩ := possible
    obtain ⟨index, attached⟩ := Option.isSome_iff_exists.mp somewhere
    exact asked (Stage.eq_running going) index attached

theorem finishChunk_holds
    (finished : holds (record .chunkFinished { flow with chunkDue := false }))
    (asked : holds (askNext ask (record .chunkFinished { flow with chunkDue := false }))) :
    holds (finishChunk ask flow) := by
  unfold finishChunk
  dsimp only
  split
  · exact finished
  · exact asked

theorem controls_hold (steady : ∀ {flow after}, Steady flow after → holds flow → holds after)
    (asked : ∀ {flow}, holds flow → holds (askNext ask flow)) (controls : List Control)
    (held : holds flow) : holds (controls.foldl (obey ask) flow) := by
  refine holds_foldl controls (fun control _ flow held => ?_) held
  cases control with
  | request count =>
      change holds (request ask count flow)
      unfold request
      split
      · exact held
      · exact asked (steady (.note rfl _ _ _ flow fun _ => rfl) held)
  | cancel => exact stop_holds steady held

/-- Once a subscriber has been given a signal, the rest is up to those who act in its hook. -/
theorem Ask.Upholds.told (keeps : ask.Upholds holds) {given : EventSignal ε} {number : Nat}
    {state : σ} (holder : flow.subscriber = some (number, state))
    (held : holds (informed setup given number state flow)) :
    holds (signal setup ask given flow).1 := by
  unfold signal
  rw [holder]
  exact keeps.others (keeps.controls _ rfl held)

theorem Ask.Upholds.signal (keeps : ask.Upholds holds) {given : EventSignal ε}
    (late : flow.stage.isDone = true → ∀ event, given ≠ .next event) (held : holds flow) :
    holds (signal setup ask given flow).1 := by
  rcases nobody_or_holder flow with nobody | ⟨number, state, holder⟩
  · rw [signal_of_nobody given flow nobody]
    exact held
  · exact keeps.told holder
      (keeps.steady (.informed number state late (.inl (isSome_of_eq holder))) held)

theorem Ask.Upholds.subscribe (keeps : ask.Upholds holds) (number : Nat) (held : holds flow) :
    holds (subscribe setup ask number flow).2 := by
  unfold Flow.subscribe
  split
  · exact held
  · let attached := { flow with subscriber := some (number, (setup.subscribers number).start) }
    have holder : attached.subscriber = some (number, (setup.subscribers number).start) := rfl
    have first : Steady flow
        (informed setup .subscribed number (setup.subscribers number).start attached) :=
      .informed number _ (fun _ _ => nofun) (.inr rfl)
    exact keeps.told holder (keeps.steady first held)

theorem Ask.Upholds.handlerSubscribe (keeps : ask.Upholds holds) (number : Nat)
    (held : holds flow) : holds (handlerSubscribe setup ask flow number) := by
  have inside : holds (Flow.subscribe setup ask number flow).2 := keeps.subscribe number held
  unfold Flow.handlerSubscribe
  split
  · rename_i after answered
    rw [answered] at inside
    exact inside
  · rename_i reason after answered
    rw [answered] at inside
    exact keeps.steady (.note rfl _ _ _ after fun _ => rfl) inside

theorem Ask.Upholds.handlerSubscribes (keeps : ask.Upholds holds) (numbers : List Nat)
    (held : holds flow) : holds (numbers.foldl (Flow.handlerSubscribe setup ask) flow) :=
  holds_foldl numbers (fun number _ _ => keeps.handlerSubscribe number) held

/-! ### Messages -/

theorem Ask.Upholds.respond (keeps : ask.Upholds holds) (running : flow.stage = .running)
    (held : holds flow) : holds (respond setup ask flow) := by
  unfold Flow.respond
  split
  · exact held
  · rename_i response _
    have released : holds (record (.responded response) { flow with response := none }) :=
      keeps.steady (.note rfl _ _ _ flow fun done => absurd done (not_isDone running)) held
    dsimp only
    split
    · exact keeps.others (keeps.handlerSubscribes _ released)
    · exact keeps.others released

theorem Ask.Upholds.handEvent (keeps : ask.Upholds holds) (message : Message)
    (running : flow.stage = .running) (held : holds flow) :
    holds (handEvent setup ask message flow).1 := by
  have served : holds { flow with demand := flow.demand.serve } :=
    keeps.steady (.unnoted _ _ _ fun _ member => member) held
  unfold Flow.handEvent
  dsimp only
  split
  · exact served
  · rename_i event _
    split
    · exact served
    · have told : holds (Flow.signal setup ask (.next event)
          { flow with demand := flow.demand.serve }).1 :=
        keeps.signal (fun done => absurd done (not_isDone running)) served
      split
      · rename_i after answered
        rw [answered] at told
        exact told
      · rename_i after reason answered
        rw [answered] at told
        exact told

theorem Ask.Upholds.deal (keeps : ask.Upholds holds) (message : Message) (held : holds flow) :
    holds (deal setup ask flow message).1 := by
  rcases running_or_isDone flow with running | done
  · have noted (kind : MessageKind) : holds (record (.looked kind) flow) :=
      keeps.steady (.note rfl _ _ _ flow fun _ => rfl) held
    rw [deal_of_running running]
    cases message.kind with
    | initialResponse => exact keeps.respond running (noted _)
    | event => exact keeps.handEvent message running (noted _)
    | missingEventType => exact noted _
    | error code text => exact noted _
    | other type => exact noted _
  · rw [deal_of_isDone done]
    exact held

theorem Ask.Upholds.decodeAll (setup : Setup ε ω σ ρ) (keeps : ask.Upholds holds) (buffer : Bytes)
    (held : holds flow) :
    holds (Fed.decodeAll setup.limits FlowError.decode (Flow.deal setup ask) flow
      buffer).state := by
  fun_induction Fed.decodeAll setup.limits FlowError.decode (Flow.deal setup ask) flow buffer with
  | case1 flow buffer error rest decoded => exact held
  | case2 flow buffer rest decoded => exact held
  | case3 flow buffer message rest decoded after error refused =>
      have dealt : holds (Flow.deal setup ask flow message).1 := keeps.deal message held
      rw [refused] at dealt
      exact dealt
  | case4 flow buffer message rest decoded after accepted ih =>
      have dealt : holds (Flow.deal setup ask flow message).1 := keeps.deal message held
      rw [accepted] at dealt
      exact ih dealt

/-! ### The end -/

theorem Ask.Upholds.reported (keeps : ask.Upholds holds) (final : Stage)
    (ended : holds { flow with stage := final }) : holds (reported setup ask final flow) := by
  have told : holds (Flow.signal setup ask final.signal { flow with stage := final }).1 :=
    keeps.signal (fun _ event same => by cases final <;> cases same) ended
  refine keeps.steady (.note ?_ _ _ _ _ fun _ => ?_) told
  · cases final <;> rfl
  · cases final <;> rfl

theorem Ask.Upholds.complete (keeps : ask.Upholds holds)
    (ended : flow.stage = .running → holds { flow with stage := .completed })
    (late : flow.stage.isDone = true → holds flow) : holds (complete setup ask flow).2 := by
  rcases running_or_isDone flow with running | done
  · rw [complete_of_running running]
    exact keeps.others (keeps.reported _ (ended running))
  · rw [complete_of_isDone setup ask done]
    exact late done

theorem Ask.Upholds.fail (keeps : ask.Upholds holds)
    (resolved : ∀ {flow} result, holds flow → holds (flow.resolve result)) (cause : FlowError)
    (ended : flow.stage = .running → holds { flow with stage := .failed cause })
    (late : flow.stage.isDone = true → holds flow) : holds (fail setup ask cause flow) := by
  rcases running_or_isDone flow with running | done
  · rw [fail_of_running running]
    exact resolved _ (keeps.others (keeps.reported _ (ended running)))
  · rw [fail_of_isDone setup ask cause done]
    exact late done

theorem Ask.Upholds.transportEnded (keeps : ask.Upholds holds)
    (resolved : ∀ {flow} result, holds flow → holds (flow.resolve result)) (index : Nat)
    (ended : flow.stage = .running → holds { flow with stage := .completed })
    (held : holds flow) : holds (transportEnded setup ask index flow) := by
  unfold Flow.transportEnded
  split
  · exact resolved _ (keeps.complete ended fun _ => held)
  · exact held

theorem transportFailed_holds {index : Nat} {error : TransportError}
    (failed : holds (fail setup ask (.transport error) flow)) (held : holds flow) :
    holds (transportFailed setup ask index error flow) := by
  unfold transportFailed
  split
  · exact failed
  · exact held

/-! ### Chunks -/

theorem Ask.Upholds.chunk (keeps : ask.Upholds holds) (index : Nat) (bytes : Bytes)
    (arrived : ∀ routed, holds flow →
      holds (record (.chunkArrived index bytes) (flow.keepPending index routed none)))
    (finished : ∀ {decoded : Flow ε ρ ω σ} routed left,
      Frame.decode setup.limits left = (.ok none, left) → holds decoded →
      holds (finishChunk ask (decoded.keepPending index routed (some left))))
    (failed : ∀ {decoded : Flow ε ρ ω σ} routed left cause, holds decoded →
      holds (Flow.fail setup ask cause (decoded.keepPending index routed (some left))))
    (held : holds flow) : holds (chunk setup ask index bytes flow) := by
  unfold Flow.chunk
  split
  · rename_i routed pending _
    unfold consume
    split
    · exact held
    · have decoded := keeps.decodeAll setup (pending ++ bytes) (arrived routed held)
      dsimp only
      split
      · rename_i accepted
        exact finished routed _ (Fed.decode_waits accepted) decoded
      · exact stop_holds keeps.steady (failed routed _ _ decoded)
  · exact held

/-! ### Acts -/

theorem Ask.Upholds.join (keeps : ask.Upholds holds) (routed : Bool) (index : Nat)
    (held : holds flow) : holds (join setup ask routed index flow).2 := by
  unfold Flow.join
  split
  · rename_i outlet free
    dsimp only
    split
    · exact keeps.steady (.declined routed free) held
    · rename_i loose
      exact keeps.others (keeps.handlerSubscribes _ (keeps.joined routed free loose held))
  · exact held

def Event.isMild : Event ρ → Bool
  | .capture _ => true
  | .attach _ _ => true
  | .request _ => true
  | .cancel => true
  | .subscribe _ => true
  | _ => false

theorem Ask.Upholds.act (keeps : ask.Upholds holds) {event : Event ρ} (mild : event.isMild = true)
    (held : holds flow) : holds (act setup ask flow event) := by
  cases event with
  | capture response => exact keeps.steady (.unnoted _ _ _ fun _ member => member) held
  | attach routed index => exact keeps.join routed index held
  | request count =>
      change holds (if flow.subscriber.isSome then Flow.request ask count flow else flow)
      split
      · rename_i bound
        exact keeps.controls [.request count] bound held
      · exact held
  | cancel =>
      change holds (if flow.subscriber.isSome then Flow.stop flow else flow)
      split
      · exact stop_holds keeps.steady held
      · exact held
  | subscribe number =>
      change holds
        (if flow.attachment.isSome then (Flow.subscribe setup ask number flow).2 else flow)
      split
      · exact keeps.subscribe number held
      · exact held
  | _ => cases mild

theorem interlude_holds {forChunk : Flow ε ρ ω σ → Flow ε ρ ω σ}
    {allowed : Event ρ → Prop}
    (steady : ∀ {flow after : Flow ε ρ ω σ}, Steady flow after → holds flow → holds after)
    (modest : ∀ {flow}, holds flow → ∀ events ∈ flow.interludes, ∀ event ∈ events, allowed event)
    (acts : ∀ depth, (∀ {flow}, holds flow → holds (interlude setup forChunk depth flow)) →
      ∀ {event}, allowed event → ∀ {flow}, holds flow →
        holds (Flow.act setup ⟨forChunk, interlude setup forChunk depth⟩ flow event))
    (depth : Nat) (held : holds flow) : holds (interlude setup forChunk depth flow) := by
  -- Those who act in the hooks of an interlude are one level further down.
  induction depth generalizing flow with
  | zero => exact held
  | succ depth ih =>
      unfold interlude
      split
      · exact held
      · rename_i events later next
        have fewer : ∀ others ∈ later, others ∈ flow.interludes := by
          intro others member
          rw [next]
          exact List.mem_cons_of_mem _ member
        have fair := modest held events (next ▸ List.mem_cons_self)
        refine holds_foldl events (fun event member other => ?_)
          (steady (.unnoted _ _ later fewer) held)
        exact acts depth ih (fair event member)

/-! ### Deliveries -/

/-- A delivery is made of changes to what its transport notes, of chunks and of one final
signal at most, and its source may have it stopped. -/
theorem request_holds {index : Nat}
    (steady : ∀ {flow after : Flow ε ρ ω σ}, Steady flow after → holds flow → holds after)
    (updated : ∀ made (flow : Flow ε ρ ω σ), holds flow →
      holds (flow.updateOutlet index (Outlet.updateDelivery made)))
    (chunks : ∀ bytes flow, holds flow →
      holds (chunk setup (asking setup bookChunk) index bytes flow))
    (failures : ∀ error flow, holds flow →
      holds (transportFailed setup (asking setup bookChunk) index error flow))
    (ends : ∀ flow, holds flow → holds (transportEnded setup (asking setup bookChunk) index flow))
    (count : Nat) (source : Source) (held : holds flow) :
    holds (Delivery.request (reach setup index) count source flow).2 := by
  have passed {flow after : Flow ε ρ ω σ}
      (changes : ReflTransGen (fun flow after => holds flow → holds after) flow after)
      (held : holds flow) : holds after := by
    induction changes with
    | refl => exact held
    | tail _ last ih => exact last ih
  refine passed (Delivery.request_changes ?_ ?_ ?_ ?_ ?_ count source flow) held
  · exact fun made _ flow => .single (updated made flow)
  · exact fun bytes flow => .single (chunks bytes flow)
  · exact fun error flow => .single (failures error flow)
  · exact fun flow => .single (ends flow)
  · intro flow
    refine .single fun held => ?_
    dsimp only [reach]
    split
    · exact stop_holds steady held
    · exact held

end Flow

end FramedEvents
