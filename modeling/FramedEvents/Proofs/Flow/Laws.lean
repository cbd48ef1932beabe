/-
Laws of a stream.

A law tells how two moments of a stream are related, whatever has been done to it
in between. It may depend on what a step belongs to, which no single step shows: a
request for events comes with the request for a chunk that it leads to, a chunk with
all that is done while it is decoded, and the end with what the subscriber does in its
last hook. A law that covers these, and the steps that have nothing to do with them,
covers everything that is ever done to a stream. So does one that does not hold of single
messages, but of every chunk as a whole.
-/

import FramedEvents.Proofs.Chunk.Supply
import FramedEvents.Proofs.Flow.Steps

namespace FramedEvents

open Relation

def Entry.isIntake {ε ρ : Type} : Entry ε ρ → Bool
  | .chunkRequested => true
  | .chunkArrived _ _ => true
  | .chunkFinished => true
  | .looked _ => true
  | _ => false

/-- How many chunks a transport that is used from outside has been asked for. -/
def Outlet.asked? : Outlet → Option Nat
  | .manual requested _ => some requested
  | .pull _ _ => none

namespace Flow

variable {ε ρ ω σ : Type}

def asked? (flow : Flow ε ρ ω σ) : List (Option Nat) :=
  flow.transports.map fun transport => transport.outlet.asked?

/-- These transports are the ones of the stream after one of them has been asked for a
chunk. -/
structure AskedOnce (index : Nat) (flow : Flow ε ρ ω σ) (transports : List Transport) : Prop where
  asked : transports.map (fun transport => transport.outlet.asked?) =
    flow.asked?.modify index (Option.map (· + 1))
  same : ({ flow with transports := transports } : Flow ε ρ ω σ).receivers = flow.receivers
  kept : ({ flow with transports := transports } : Flow ε ρ ω σ).stops = flow.stops

/-- One chunk is asked for, if events are wanted and no chunk is due. -/
inductive Asks : Flow ε ρ ω σ → Flow ε ρ ω σ → Prop where
  | nothing {flow} (needless : flow.cancelled = true ∨ flow.stage.isDone = true ∨
      flow.attachment = none ∨ flow.chunkDue = true ∨ flow.demand.isMet = true) : Asks flow flow
  | chunk {flow} (running : flow.stage = .running) (wanted : flow.cancelled = false)
      (index : Nat) (held : flow.attachment = some index) (free : flow.chunkDue = false)
      (unmet : flow.demand.isMet = false) (transports : List Transport)
      (once : AskedOnce index flow transports) :
      Asks flow
        (record .chunkRequested { flow with chunkDue := true, transports := transports })

/-- Nothing is taken in, and nothing makes it necessary. -/
structure Calm (flow after : Flow ε ρ ω σ) : Prop where
  log : ∃ notes, after.log = notes ++ flow.log ∧ ∀ note ∈ notes, note.isIntake = false
  due : after.chunkDue = flow.chunkDue
  wanted : after.cancelled = false → flow.cancelled = false
  unmet : after.demand.isMet = false → flow.demand.isMet = false
  attachment : flow.attachment = none ∨ after.attachment = flow.attachment
  bound : after.subscriber.isSome = true →
    flow.subscriber.isSome = true ∨ after.attachment.isSome = true
  asked : after.asked? = flow.asked?

/-- A law of what is done between two messages, and at the end. -/
structure Law (setup : Setup ε ω σ ρ) (R : Flow ε ρ ω σ → Flow ε ρ ω σ → Prop) : Prop where
  steps : ∀ {flow after}, R flow after → Steps setup flow after
  refl : ∀ flow, R flow flow
  trans : ∀ {flow middle after}, R flow middle → R middle after → R flow after
  calm : ∀ {flow after}, QuietStep setup flow after → Calm flow after → R flow after
  requested : ∀ {flow after} (count : Nat), count ≠ 0 → flow.cancelled = false →
    flow.subscriber.isSome = true →
    Asks (record (.demanded count) { flow with demand := flow.demand.add count }) after →
    R flow after
  responded : ∀ {flow}, flow.stage = .running → ∀ response, flow.response = some response →
    R flow (record (.responded response) { flow with response := none })
  alone : ∀ {flow}, flow.stage = .running → ∀ final : Stage, final.isDone = true →
    flow.subscriber = none → R flow (record final.report { flow with stage := final })
  told : ∀ {flow after}, flow.stage = .running → ∀ final : Stage, final.isDone = true →
    ∀ number state, flow.subscriber = some (number, state) →
    R (informed setup final.signal number state { flow with stage := final }) after →
    R flow (record final.report after)

/-- A law of everything that is done to a stream, one message after the other. -/
structure WholeLaw (setup : Setup ε ω σ ρ) (R : Flow ε ρ ω σ → Flow ε ρ ω σ → Prop) : Prop
    extends Law setup R where
  handed : ∀ {flow}, flow.stage = .running → ∀ event number state,
    flow.subscriber = some (number, state) → R flow (informed setup (.next event) number state flow)
  looked : ∀ {flow}, flow.stage = .running → ∀ kind, kind ≠ .event →
    R flow (record (.looked kind) flow)
  served : ∀ {flow}, flow.stage = .running →
    R flow (record (.looked .event) { flow with demand := flow.demand.serve })
  broken : ∀ {flow after}, flow.stage = .running → ∀ index bytes,
    R (record (.chunkArrived index bytes) flow) after → after.stage.isDone = true → R flow after
  handled : ∀ {flow decoded after}, flow.stage = .running → ∀ index bytes,
    R (record (.chunkArrived index bytes) flow) decoded →
    Asks (record .chunkFinished { decoded with chunkDue := false }) after → R flow after

/-- Those whom the stream turns to keep to a law. Asking for a chunk is taken as the
effect on the transport, and what follows. -/
structure Ask.Keeps (R : Flow ε ρ ω σ → Flow ε ρ ω σ → Prop) (ask : Ask ε ρ ω σ) : Prop where
  forChunk : ∀ flow index, flow.attachment = some index →
    ∃ transports, AskedOnce index flow transports ∧
      R { flow with transports := transports } (ask.forChunk flow)
  others : ∀ flow, R flow (ask.others flow)

/-- A law of everything that is done to a stream, one chunk after the other. -/
structure ChunkLaw (setup : Setup ε ω σ ρ) (R : Flow ε ρ ω σ → Flow ε ρ ω σ → Prop) : Prop
    extends Law setup R where
  chunk : ∀ {ask : Ask ε ρ ω σ}, ask.Keeps R → ∀ index bytes flow,
    R flow (chunk setup ask index bytes flow)

theorem Ask.Keeps.mono {R S : Flow ε ρ ω σ → Flow ε ρ ω σ → Prop} {ask : Ask ε ρ ω σ}
    (keeps : ask.Keeps R) (weaker : ∀ {flow after}, R flow after → S flow after) :
    ask.Keeps S where
  forChunk flow index held := by
    obtain ⟨transports, once, rest⟩ := keeps.forChunk flow index held
    exact ⟨transports, once, weaker rest⟩
  others flow := weaker (keeps.others flow)

theorem map_updateOutlet {α : Type} {read : Outlet → α} {change : Outlet → Outlet} {effect : α → α}
    (same : ∀ outlet, read (change outlet) = effect (read outlet)) (index : Nat)
    (flow : Flow ε ρ ω σ) :
    (flow.updateOutlet index change).transports.map (fun transport => read transport.outlet) =
      (flow.transports.map fun transport => read transport.outlet).modify index effect := by
  apply List.ext_getElem?
  intro position
  change (List.map _ (List.modify _ _ _))[position]? = (List.modify (List.map _ _) _ _)[position]?
  rw [List.getElem?_map, List.getElem?_modify, List.getElem?_modify, List.getElem?_map]
  cases flow.transports[position]? with
  | none => rfl
  | some transport =>
      by_cases here : index = position
      · simp [here, same]
      · simp [here]

theorem asked?_updateOutlet {change : Outlet → Outlet}
    (same : ∀ outlet, (change outlet).asked? = outlet.asked?) (index : Nat)
    (flow : Flow ε ρ ω σ) : (flow.updateOutlet index change).asked? = flow.asked? :=
  (map_updateOutlet same index flow).trans (List.modify_id index flow.asked?)

theorem stops_updateOutlet {change : Outlet → Outlet}
    (same : ∀ outlet, (change outlet).stops = outlet.stops) (index : Nat)
    (flow : Flow ε ρ ω σ) : (flow.updateOutlet index change).stops = flow.stops :=
  (map_updateOutlet same index flow).trans (List.modify_id index flow.stops)

theorem receivers_updateOutlet (change : Outlet → Outlet) (index : Nat) (flow : Flow ε ρ ω σ) :
    (flow.updateOutlet index change).receivers = flow.receivers := by
  apply List.ext_getElem?
  intro position
  change (List.map _ (List.modify _ _ _))[position]? = (List.map _ _)[position]?
  rw [List.getElem?_map, List.getElem?_map, List.getElem?_modify]
  cases flow.transports[position]? with
  | none => rfl
  | some transport =>
      by_cases here : index = position
      · simp [here]
      · simp [here]

theorem receivers_keepPending (index : Nat) (routed : Bool) (pending : Option Bytes)
    (flow : Flow ε ρ ω σ) :
    (flow.keepPending index routed pending).receivers = flow.receivers.set index (some true) := by
  apply List.ext_getElem?
  intro position
  change (List.map _ (List.modify _ _ _))[position]? =
    (List.set (List.map _ flow.transports) _ _)[position]?
  rw [List.getElem?_map, List.getElem?_modify, List.getElem?_set, List.getElem?_map,
    List.length_map]
  by_cases here : index = position
  · subst here
    by_cases within : index < flow.transports.length
    · simp [within, Consumer.isStream]
    · simp [within]
  · simp [here]

theorem Feeds.keepPending {index : Nat} {flow : Flow ε ρ ω σ} (feeds : Feeds index flow)
    (routed : Bool) (pending : Option Bytes) :
    (flow.keepPending index routed pending).receivers = flow.receivers := by
  obtain ⟨within, found⟩ := List.getElem?_eq_some_iff.mp feeds
  rw [receivers_keepPending, ← found, List.set_getElem_self]

theorem Feeds.kept {index : Nat} {flow : Flow ε ρ ω σ} (feeds : Feeds index flow)
    (routed : Bool) (pending : Option Bytes) : Feeds index (flow.keepPending index routed pending) :=
  (congrArg (·[index]?) (feeds.keepPending routed pending)).trans feeds

theorem map_keepPending {α : Type} (read : Outlet → α) (index : Nat) (routed : Bool)
    (pending : Option Bytes) (flow : Flow ε ρ ω σ) :
    (flow.keepPending index routed pending).transports.map (fun transport => read transport.outlet) =
      flow.transports.map fun transport => read transport.outlet := by
  apply List.ext_getElem?
  intro position
  change (List.map _ (List.modify _ _ _))[position]? = (List.map _ _)[position]?
  rw [List.getElem?_map, List.getElem?_map, List.getElem?_modify]
  cases flow.transports[position]? with
  | none => rfl
  | some transport =>
      by_cases here : index = position
      · simp [here]
      · simp [here]

theorem asked?_keepPending (index : Nat) (routed : Bool) (pending : Option Bytes)
    (flow : Flow ε ρ ω σ) : (flow.keepPending index routed pending).asked? = flow.asked? :=
  map_keepPending Outlet.asked? index routed pending flow

theorem stops_keepPending (index : Nat) (routed : Bool) (pending : Option Bytes)
    (flow : Flow ε ρ ω σ) : (flow.keepPending index routed pending).stops = flow.stops :=
  map_keepPending Outlet.stops index routed pending flow

variable {setup : Setup ε ω σ ρ} {R : Flow ε ρ ω σ → Flow ε ρ ω σ → Prop} {ask : Ask ε ρ ω σ}

/-! ### Demand, cancellation and signals -/

theorem Calm.of_entry {flow after : Flow ε ρ ω σ} (entry : Option (Entry ε ρ))
    (log : after.log = entry.toList ++ flow.log)
    (other : ∀ note ∈ entry.toList, note.isIntake = false)
    (due : after.chunkDue = flow.chunkDue) (cancelled : after.cancelled = flow.cancelled)
    (demand : after.demand = flow.demand) (attachment : after.attachment = flow.attachment)
    (bound : after.subscriber.isSome = flow.subscriber.isSome)
    (asked : after.asked? = flow.asked?) : Calm flow after := by
  refine ⟨⟨entry.toList, log, other⟩, due, ?_, ?_, .inr attachment, ?_, asked⟩
  · rw [cancelled]
    exact id
  · rw [demand]
    exact id
  · rw [bound]
    exact .inl

theorem Calm.of_note {flow after : Flow ε ρ ω σ} (entry : Entry ε ρ)
    (log : after.log = entry :: flow.log) (other : entry.isIntake = false)
    (due : after.chunkDue = flow.chunkDue) (cancelled : after.cancelled = flow.cancelled)
    (demand : after.demand = flow.demand) (attachment : after.attachment = flow.attachment)
    (bound : after.subscriber.isSome = flow.subscriber.isSome)
    (asked : after.asked? = flow.asked?) : Calm flow after :=
  .of_entry (some entry) log (List.forall_mem_singleton.mpr other) due cancelled demand attachment
    bound asked

theorem Law.carried (law : Law setup R) {flow : Flow ε ρ ω σ} (transports : List Transport)
    (same : { flow with transports := transports }.receivers = flow.receivers)
    (kept : { flow with transports := transports }.stops = flow.stops)
    (asked : { flow with transports := transports }.asked? = flow.asked?) :
    R flow { flow with transports := transports } :=
  law.calm (.carried transports same kept)
    (.of_entry none rfl (List.forall_mem_nil _) rfl rfl rfl rfl rfl asked)

theorem updateOutlet_keeps (law : Law setup R) {change : Outlet → Outlet}
    (same : ∀ outlet, (change outlet).asked? = outlet.asked?)
    (kept : ∀ outlet, (change outlet).stops = outlet.stops) (index : Nat)
    (flow : Flow ε ρ ω σ) : R flow (flow.updateOutlet index change) :=
  law.carried _ (receivers_updateOutlet change index flow) (stops_updateOutlet kept index flow)
    (asked?_updateOutlet same index flow)

theorem keepPending_keeps (law : Law setup R) {index : Nat} (routed : Bool)
    (pending : Option Bytes) {flow : Flow ε ρ ω σ} (feeds : Feeds index flow) :
    R flow (flow.keepPending index routed pending) :=
  law.carried _ (feeds.keepPending routed pending) (stops_keepPending index routed pending flow)
    (asked?_keepPending index routed pending flow)

theorem askNext_asks (law : Law setup R) (keeps : ask.Keeps R) {flow : Flow ε ρ ω σ}
    (unmet : flow.demand.isMet = false) :
    ∃ middle, Asks flow middle ∧ R middle (askNext ask flow) := by
  unfold askNext
  split
  · rename_i needless
    rw [Bool.or_eq_true, Bool.or_eq_true, Bool.or_eq_true, Option.isNone_iff_eq_none] at needless
    refine ⟨flow, .nothing ?_, law.refl flow⟩
    rcases needless with ((stopped | done) | loose) | due
    · exact .inl stopped
    · exact .inr (.inl done)
    · exact .inr (.inr (.inl loose))
    · exact .inr (.inr (.inr (.inl due)))
  · rename_i possible
    simp only [Bool.or_eq_true, not_or, Bool.not_eq_true] at possible
    obtain ⟨⟨⟨wanted, going⟩, attached⟩, free⟩ := possible
    rw [Option.isNone_eq_false_iff] at attached
    obtain ⟨index, held⟩ := Option.isSome_iff_exists.mp attached
    obtain ⟨transports, once, rest⟩ :=
      keeps.forChunk (record .chunkRequested { flow with chunkDue := true }) index held
    have asks := Asks.chunk (Stage.eq_running going) wanted index held free unmet transports
      ⟨once.asked, once.same, once.kept⟩
    exact ⟨_, asks, rest⟩

theorem request_keeps (law : Law setup R) (keeps : ask.Keeps R) (count : Nat)
    {flow : Flow ε ρ ω σ} (bound : flow.subscriber.isSome = true) :
    R flow (request ask count flow) := by
  unfold request
  split
  · exact law.refl flow
  · rename_i counted
    simp only [Bool.or_eq_true, decide_eq_true_eq, not_or, Bool.not_eq_true] at counted
    obtain ⟨counts, wanted⟩ := counted
    have unmet : (record (.demanded count)
        { flow with demand := flow.demand.add count } : Flow ε ρ ω σ).demand.isMet = false :=
      Demand.isMet_add counts
    obtain ⟨middle, asks, rest⟩ := askNext_asks law keeps unmet
    exact law.trans (law.requested count counts wanted bound asks) rest

theorem asked?_cancel (outlet : Outlet) : outlet.cancel.asked? = outlet.asked? := by
  cases outlet <;> rfl

theorem stops_cancel (outlet : Outlet) : outlet.cancel.stops = outlet.stops.add 1 := by
  cases outlet with
  | manual requested cancelled => rfl
  | pull delivery source => exact congrArg Stops.noticed (Bool.or_true delivery.cancelled).symm

theorem stop_keeps (law : Law setup R) {flow : Flow ε ρ ω σ}
    (reason : flow.subscriber.isSome = true ∨ ∃ index, Feeds index flow) : R flow (stop flow) := by
  unfold stop
  split
  · exact law.refl flow
  · rename_i uncancelled
    have wanted : flow.cancelled = false := Bool.eq_false_iff.mpr uncancelled
    dsimp only
    split
    · rename_i loose
      exact law.calm (.stopped wanted loose reason)
        ⟨⟨[.stopped], rfl, List.forall_mem_singleton.mpr rfl⟩, rfl, fun _ => wanted, id, .inr rfl,
          .inl, rfl⟩
    · rename_i index held
      refine law.calm (.halted index _ wanted held
        (receivers_updateOutlet Outlet.cancel index flow)
        (map_updateOutlet stops_cancel index flow)) ?_
      refine ⟨⟨[.transportCancelled index, .stopped], rfl, ?_⟩, rfl, fun _ => wanted, id, .inr rfl,
        .inl, asked?_updateOutlet asked?_cancel index flow⟩
      intro note member
      rcases List.mem_cons.mp member with rfl | last
      · rfl
      · rw [List.mem_singleton.mp last]
        rfl

theorem obey_keeps (law : Law setup R) (keeps : ask.Keeps R) {flow : Flow ε ρ ω σ}
    (bound : flow.subscriber.isSome = true) (control : Control) :
    R flow (obey ask flow control) := by
  cases control with
  | request count => exact request_keeps law keeps count bound
  | cancel => exact stop_keeps law (.inl bound)

/-- A law covers a fold if it covers each of its acts where a property holds that stays. -/
theorem Law.foldl {α : Type} (law : Law setup R) {act : Flow ε ρ ω σ → α → Flow ε ρ ω σ}
    {holds : Flow ε ρ ω σ → Prop}
    (stays : ∀ {flow after}, Steps setup flow after → holds flow → holds after)
    (acts : ∀ flow item, holds flow → R flow (act flow item)) (items : List α)
    {flow : Flow ε ρ ω σ} (held : holds flow) : R flow (items.foldl act flow) := by
  induction items generalizing flow with
  | nil => exact law.refl flow
  | cons item items ih =>
      have first := acts flow item held
      exact law.trans first (ih (stays (law.steps first) held))

/-- Once a subscriber has been given a signal, the rest is up to those who act in
its hook. -/
theorem signal_keeps (law : Law setup R) (keeps : ask.Keeps R) (given : EventSignal ε)
    (flow : Flow ε ρ ω σ) {number : Nat} {state : σ}
    (holder : flow.subscriber = some (number, state)) :
    R (informed setup given number state flow) (signal setup ask given flow).1 := by
  unfold signal
  rw [holder]
  refine law.trans (law.foldl Steps.bound ?_ _ rfl) (keeps.others _)
  intro flow control bound
  exact obey_keeps law keeps bound control

theorem isSome_of_eq {α : Type} {found : Option α} {value : α} (same : found = some value) :
    found.isSome = true := by
  rw [same]
  rfl

theorem subscribe_keeps (law : Law setup R) (keeps : ask.Keeps R) (number : Nat)
    {flow : Flow ε ρ ω σ} (held : flow.attachment.isSome = true) :
    R flow (subscribe setup ask number flow).2 := by
  unfold subscribe
  cases taken : flow.subscriber with
  | some holder => exact law.refl flow
  | none =>
      refine law.trans (law.calm (.subscribed number taken held) ?_) ?_
      · exact ⟨⟨[.signalled number .subscribed], rfl, List.forall_mem_singleton.mpr rfl⟩, rfl, id,
          id, .inr rfl, fun _ => .inr held, rfl⟩
      · exact signal_keeps law keeps .subscribed
          { flow with subscriber := some (number, (setup.subscribers number).start) } rfl

theorem handlerSubscribe_keeps (law : Law setup R) (keeps : ask.Keeps R) {flow : Flow ε ρ ω σ}
    (number : Nat) (held : flow.attachment.isSome = true) :
    R flow (handlerSubscribe setup ask flow number) := by
  have inside := subscribe_keeps law keeps number held
  unfold handlerSubscribe
  split
  · rename_i after answered
    rw [answered] at inside
    exact inside
  · rename_i reason after answered
    cases taken : flow.subscriber with
    | none => simp [subscribe, taken] at answered
    | some holder =>
        simp only [subscribe, taken, Prod.mk.injEq, Except.error.injEq] at answered
        obtain ⟨rfl, rfl⟩ := answered
        exact law.calm (.refused number (isSome_of_eq taken))
          (.of_note _ rfl rfl rfl rfl rfl rfl rfl rfl)

theorem Steps.held {flow after : Flow ε ρ ω σ} (steps : Steps setup flow after)
    (held : flow.attachment.isSome = true) : after.attachment.isSome = true := by
  obtain ⟨index, found⟩ := Option.isSome_iff_exists.mp held
  exact isSome_of_eq (steps.attachment found)

theorem handlerSubscribes_keeps (law : Law setup R) (keeps : ask.Keeps R) (numbers : List Nat)
    {flow : Flow ε ρ ω σ} (held : flow.attachment.isSome = true) :
    R flow (numbers.foldl (handlerSubscribe setup ask) flow) :=
  law.foldl Steps.held (fun _ number some => handlerSubscribe_keeps law keeps number some) numbers
    held

/-! ### Messages -/

theorem respond_keeps (law : Law setup R) (keeps : ask.Keeps R) {flow : Flow ε ρ ω σ}
    (running : flow.stage = .running) : R flow (respond setup ask flow) := by
  unfold respond
  split
  · exact law.refl flow
  · rename_i response held
    have released : R flow (record (.responded response) { flow with response := none }) :=
      law.responded running response held
    refine law.trans released ?_
    dsimp only
    split
    · rename_i attached
      exact law.trans (handlerSubscribes_keeps law keeps _ attached) (keeps.others _)
    · exact keeps.others _

theorem handEvent_keeps (law : Law setup R) (keeps : ask.Keeps R)
    (handed : ∀ {flow}, flow.stage = .running → ∀ event number state,
      flow.subscriber = some (number, state) →
      R flow (informed setup (.next event) number state flow))
    (message : Message) (flow : Flow ε ρ ω σ) (running : flow.stage = .running) :
    R { flow with demand := flow.demand.serve } (handEvent setup ask message flow).1 := by
  unfold handEvent
  dsimp only
  split
  · exact law.refl _
  · rename_i event read
    split
    · exact law.refl _
    · rename_i holder held
      have given : R { flow with demand := flow.demand.serve }
          (informed setup (.next event) holder.1 holder.2
            { flow with demand := flow.demand.serve }) := by
        refine handed ?_ event holder.1 holder.2 held
        exact running
      have told := law.trans given (signal_keeps law keeps (.next event) _ held)
      split
      · rename_i after answered
        rw [answered] at told
        exact told
      · rename_i after reason answered
        rw [answered] at told
        exact told

theorem deal_keeps (law : WholeLaw setup R) (keeps : ask.Keeps R) (flow : Flow ε ρ ω σ)
    (message : Message) : R flow (deal setup ask flow message).1 := by
  unfold deal
  split
  · exact law.refl flow
  · rename_i going
    have running := Stage.eq_running (Bool.eq_false_iff.mpr going)
    dsimp only
    split
    · rename_i kind
      rw [kind]
      exact law.trans (law.looked running .initialResponse (by simp))
        (respond_keeps law.toLaw keeps running)
    · rename_i kind
      rw [kind]
      exact law.trans (law.served running)
        (handEvent_keeps law.toLaw keeps law.handed message (record (.looked .event) flow) running)
    · rename_i kind
      rw [kind]
      exact law.looked running .missingEventType (by simp)
    · rename_i code text kind
      rw [kind]
      exact law.looked running (.error code text) (by simp)
    · rename_i type kind
      rw [kind]
      exact law.looked running (.other type) (by simp)

theorem decodeAll_keeps (law : WholeLaw setup R) (keeps : ask.Keeps R) (flow : Flow ε ρ ω σ)
    (buffer : Bytes) :
    R flow (Fed.decodeAll setup.limits FlowError.decode (deal setup ask) flow buffer).state := by
  fun_induction Fed.decodeAll setup.limits FlowError.decode (deal setup ask) flow buffer with
  | case1 flow buffer error rest decoded => exact law.refl flow
  | case2 flow buffer rest decoded => exact law.refl flow
  | case3 flow buffer message rest decoded after error refused =>
      have dealt := deal_keeps law keeps flow message
      rw [refused] at dealt
      exact dealt
  | case4 flow buffer message rest decoded after accepted ih =>
      have dealt := deal_keeps law keeps flow message
      rw [accepted] at dealt
      exact law.trans dealt ih

/-! ### The end -/

theorem reported_keeps (law : Law setup R) (keeps : ask.Keeps R) {flow : Flow ε ρ ω σ}
    (final : Stage) (running : flow.stage = .running) (done : final.isDone = true) :
    R flow (reported setup ask final flow) ∧
      (reported setup ask final flow).stage.isDone = true := by
  unfold reported
  rcases nobody_or_holder flow with nobody | ⟨number, state, holder⟩
  · rw [signal_of_nobody final.signal { flow with stage := final } nobody]
    exact ⟨law.alone running final done nobody, done⟩
  · have told := signal_keeps law keeps final.signal { flow with stage := final } holder
    refine ⟨law.told running final done number state holder told, ?_⟩
    have stage := ((law.steps told).quiet_of_isDone done).stage
    exact (congrArg Stage.isDone stage).trans done

theorem Law.isDone (law : Law setup R) {flow after : Flow ε ρ ω σ} (related : R flow after)
    (done : flow.stage.isDone = true) : after.stage.isDone = true :=
  (congrArg Stage.isDone ((law.steps related).quiet_of_isDone done).stage).trans done

theorem resolve_keeps (law : Law setup R) {flow : Flow ε ρ ω σ} (result : Except FlowError ω)
    (done : flow.stage.isDone = true) : R flow (flow.resolve result) :=
  law.calm (.resolved result done)
    (.of_entry none rfl (List.forall_mem_nil _) rfl rfl rfl rfl rfl rfl)

theorem fail_keeps (law : Law setup R) (keeps : ask.Keeps R) (cause : FlowError)
    (flow : Flow ε ρ ω σ) : R flow (fail setup ask cause flow) := by
  rcases running_or_isDone flow with running | done
  · rw [fail_of_running running]
    obtain ⟨ended, settled⟩ := reported_keeps law keeps (.failed cause) running rfl
    have afterwards := keeps.others (reported setup ask (.failed cause) flow)
    exact law.trans (law.trans ended afterwards)
      (resolve_keeps law _ (law.isDone afterwards settled))
  · rw [fail_of_isDone setup ask cause done]
    exact law.refl flow

theorem fail_isDone (law : Law setup R) (keeps : ask.Keeps R) (cause : FlowError)
    (flow : Flow ε ρ ω σ) : (fail setup ask cause flow).stage.isDone = true := by
  rcases running_or_isDone flow with running | done
  · rw [fail_of_running running]
    obtain ⟨_, settled⟩ := reported_keeps law keeps (.failed cause) running rfl
    have afterwards := keeps.others (reported setup ask (.failed cause) flow)
    exact law.isDone (law.trans afterwards (resolve_keeps law _ (law.isDone afterwards settled)))
      settled
  · rw [fail_of_isDone setup ask cause done]
    exact done

theorem complete_keeps (law : Law setup R) (keeps : ask.Keeps R) (flow : Flow ε ρ ω σ) :
    R flow (complete setup ask flow).2 ∧ (complete setup ask flow).2.stage.isDone = true := by
  rcases running_or_isDone flow with running | done
  · rw [complete_of_running running]
    obtain ⟨ended, settled⟩ := reported_keeps law keeps .completed running rfl
    have afterwards := keeps.others (reported setup ask .completed flow)
    exact ⟨law.trans ended afterwards, law.isDone afterwards settled⟩
  · rw [complete_of_isDone setup ask done]
    exact ⟨law.refl flow, done⟩

/-! ### Chunks -/

theorem finishChunk_asks (law : Law setup R) (keeps : ask.Keeps R) (flow : Flow ε ρ ω σ) :
    ∃ middle, Asks (record .chunkFinished { flow with chunkDue := false }) middle ∧
      R middle (finishChunk ask flow) := by
  unfold finishChunk
  dsimp only
  split
  · rename_i met
    exact ⟨_, .nothing (.inr (.inr (.inr (.inr met)))), law.refl _⟩
  · rename_i unmet
    exact askNext_asks law keeps (Bool.eq_false_iff.mpr unmet)

theorem consume_keeps (law : WholeLaw setup R) (keeps : ask.Keeps R) {index : Nat} (routed : Bool)
    (pending bytes : Bytes) {flow : Flow ε ρ ω σ} (feeds : Feeds index flow) :
    R flow (consume setup ask index routed pending bytes flow) := by
  unfold consume
  split
  · exact law.refl flow
  · rename_i unended
    have going : (flow.keepPending index routed none).stage = .running :=
      Stage.eq_running (Bool.eq_false_iff.mpr unended)
    have taken : R flow (flow.keepPending index routed none) :=
      keepPending_keeps law.toLaw routed none feeds
    have decoded := decodeAll_keeps law keeps
      (record (.chunkArrived index bytes) (flow.keepPending index routed none)) (pending ++ bytes)
    have feeding := (law.steps decoded).feeds ((law.steps taken).feeds feeds)
    have kept := fun left =>
      law.trans decoded (keepPending_keeps law.toLaw routed (some left) feeding)
    refine law.trans taken ?_
    dsimp only
    split
    · obtain ⟨middle, asks, rest⟩ := finishChunk_asks law.toLaw keeps _
      exact law.trans (law.handled going index bytes (kept _) asks) rest
    · rename_i cause refused
      have ended := fun left => law.trans (kept left) (fail_keeps law.toLaw keeps cause _)
      have failed := fun left => law.broken going index bytes (ended left)
        (fail_isDone law.toLaw keeps cause _)
      have fed := fun left => (law.steps (failed left)).feeds ((law.steps taken).feeds feeds)
      exact law.trans (failed _) (stop_keeps law.toLaw (.inr ⟨index, fed _⟩))

theorem Feeds.of_consumer {index : Nat} {flow : Flow ε ρ ω σ} {routed : Bool}
    {pending : Option Bytes}
    (consumer : (flow.transport? index).bind Transport.consumer = some (.stream routed pending)) :
    Feeds index flow := by
  obtain ⟨transport, found, consumed⟩ := Option.bind_eq_some_iff.mp consumer
  unfold transport? at found
  rw [Feeds, receivers, List.getElem?_map, found]
  exact congrArg (fun receiver => some (receiver.map Consumer.isStream)) consumed

theorem chunk_keeps (law : WholeLaw setup R) (keeps : ask.Keeps R) (index : Nat) (bytes : Bytes)
    (flow : Flow ε ρ ω σ) : R flow (chunk setup ask index bytes flow) := by
  unfold chunk
  split
  · rename_i routed pending consumer
    exact consume_keeps law keeps routed pending bytes (.of_consumer consumer)
  · exact law.refl flow

theorem WholeLaw.chunks (law : WholeLaw setup R) : ChunkLaw setup R where
  toLaw := law.toLaw
  chunk keeps index bytes flow := chunk_keeps law keeps index bytes flow

theorem transportEnded_keeps (law : Law setup R) (keeps : ask.Keeps R) (index : Nat)
    (flow : Flow ε ρ ω σ) : R flow (transportEnded setup ask index flow) := by
  unfold transportEnded
  split
  · obtain ⟨ended, done⟩ := complete_keeps law keeps flow
    exact law.trans ended (resolve_keeps law _ done)
  · exact law.refl flow

theorem transportFailed_keeps (law : Law setup R) (keeps : ask.Keeps R) (index : Nat)
    (error : TransportError) (flow : Flow ε ρ ω σ) :
    R flow (transportFailed setup ask index error flow) := by
  unfold transportFailed
  split
  · exact fail_keeps law keeps _ flow
  · exact law.refl flow

/-! ### Acts and interludes -/

theorem capture_keeps (law : Law setup R) (response : ρ) (flow : Flow ε ρ ω σ) :
    R flow (capture response flow) := by
  unfold capture
  cases held : flow.response with
  | none =>
      exact law.calm (.captured response held)
        (.of_entry none rfl (List.forall_mem_nil _) rfl rfl rfl rfl rfl rfl)
  | some first =>
      have same : { flow with response := some first } = flow := by rw [← held]
      rw [Option.some_or, same]
      exact law.refl flow

theorem Joins.of_free {index : Nat} {flow taken : Flow ε ρ ω σ} {outlet : Outlet}
    (free : flow.transport? index = some ⟨outlet, none⟩)
    (same : taken.receivers = flow.receivers.set index (some true)) :
    Joins index taken.transports flow := by
  unfold transport? at free
  refine ⟨?_, same⟩
  rw [receivers, List.getElem?_map, free]
  rfl

theorem join_keeps (law : Law setup R) (keeps : ask.Keeps R) (routed : Bool) (index : Nat)
    (flow : Flow ε ρ ω σ) : R flow (join setup ask routed index flow).2 := by
  unfold join
  split
  · rename_i outlet free
    have asked := asked?_keepPending index routed (some []) flow
    have taken := receivers_keepPending index routed (some []) flow
    dsimp only
    split
    · rename_i first held
      have joins := Joins.of_free free ((receivers_updateOutlet Outlet.cancel index _).trans taken)
      have told := map_updateOutlet stops_cancel index (flow.keepPending index routed (some []))
      have kept := stops_keepPending index routed (some []) flow
      refine law.calm (.declined index first _ held joins (told.trans ?_)) ?_
      · exact congrArg (List.modify · index (Stops.add 1)) kept
      exact .of_note _ rfl rfl rfl rfl rfl rfl rfl
        ((asked?_updateOutlet asked?_cancel index _).trans asked)
    · rename_i loose
      have joins := Joins.of_free free taken
      have free : flow.attachment = none := loose
      have kept := stops_keepPending index routed (some []) flow
      refine law.trans (law.calm (.attached index free _ joins kept) ?_) ?_
      · exact ⟨⟨[.streamReady], rfl, List.forall_mem_singleton.mpr rfl⟩, rfl, id, id, .inl free,
          .inl, asked⟩
      · exact law.trans (handlerSubscribes_keeps law keeps _ rfl) (keeps.others _)
  · exact law.refl flow

theorem act_keeps (law : ChunkLaw setup R) (keeps : ask.Keeps R) (flow : Flow ε ρ ω σ)
    (event : Event ρ) : R flow (act setup ask flow event) := by
  cases event with
  | capture response => exact capture_keeps law.toLaw response flow
  | attach routed index => exact join_keeps law.toLaw keeps routed index flow
  | push index bytes => exact law.chunk keeps index bytes flow
  | transportEnded index => exact transportEnded_keeps law.toLaw keeps index flow
  | transportFailed index error => exact transportFailed_keeps law.toLaw keeps index error flow
  | request count =>
      change R flow (if flow.subscriber.isSome then request ask count flow else flow)
      split
      · rename_i bound
        exact request_keeps law.toLaw keeps count bound
      · exact law.refl flow
  | cancel =>
      change R flow (if flow.subscriber.isSome then stop flow else flow)
      split
      · rename_i bound
        exact stop_keeps law.toLaw (.inl bound)
      · exact law.refl flow
  | subscribe number =>
      change R flow (if flow.attachment.isSome then (subscribe setup ask number flow).2 else flow)
      split
      · rename_i held
        exact subscribe_keeps law.toLaw keeps number held
      · exact law.refl flow
  | fail cause => exact fail_keeps law.toLaw keeps cause flow
  | complete => exact (complete_keeps law.toLaw keeps flow).1

theorem acts_keep (law : ChunkLaw setup R) (keeps : ask.Keeps R) (events : List (Event ρ))
    (flow : Flow ε ρ ω σ) : R flow (events.foldl (act setup ask) flow) :=
  law.foldl (fun _ _ => trivial) (fun flow event _ => act_keeps law keeps flow event) events
    trivial

def Asking (R : Flow ε ρ ω σ → Flow ε ρ ω σ → Prop) (forChunk : Flow ε ρ ω σ → Flow ε ρ ω σ) :
    Prop :=
  ∀ flow index, flow.attachment = some index →
    ∃ transports, AskedOnce index flow transports ∧
      R { flow with transports := transports } (forChunk flow)

theorem interlude_keeps (law : ChunkLaw setup R) {forChunk : Flow ε ρ ω σ → Flow ε ρ ω σ}
    (asked : Asking R forChunk) (depth : Nat) (flow : Flow ε ρ ω σ) :
    R flow (interlude setup forChunk depth flow) := by
  -- Those who act in the hooks of an interlude are one level further down.
  induction depth generalizing flow with
  | zero => exact law.refl flow
  | succ depth ih =>
      unfold interlude
      split
      · exact law.refl flow
      · rename_i events later rest
        have keeps : Ask.Keeps R ⟨forChunk, interlude setup forChunk depth⟩ := ⟨asked, ih⟩
        refine law.trans (law.calm (.scripted events later rest) ?_)
          (acts_keep law keeps events _)
        exact .of_entry none rfl (List.forall_mem_nil _) rfl rfl rfl rfl rfl rfl

theorem asking_keeps (law : ChunkLaw setup R) {forChunk : Flow ε ρ ω σ → Flow ε ρ ω σ}
    (asked : Asking R forChunk) : (asking setup forChunk).Keeps R :=
  ⟨asked, fun flow => interlude_keeps law asked _ flow⟩

/-! ### Transports -/

/-- How a transport may serve a request for a chunk. It may take note of it, to push
a chunk some other time; it may pull from a source; or it may act before the request
returns, and then be asked again in the meantime. -/
inductive Serving (setup : Setup ε ω σ ρ) : (Flow ε ρ ω σ → Flow ε ρ ω σ) → Prop where
  | notes : Serving setup bookChunk
  | pulls : Serving setup (drawChunk setup)
  | acts {forChunk} (meanwhile : Serving setup forChunk)
      (reply : Flow ε ρ ω σ → List (Event ρ)) :
      Serving setup fun flow =>
        (reply flow).foldl (act setup (asking setup forChunk)) (bookChunk flow)

theorem bookChunk_once {flow : Flow ε ρ ω σ} {index : Nat} (held : flow.attachment = some index) :
    ∃ transports, AskedOnce index flow transports ∧
      bookChunk flow = { flow with transports := transports } := by
  have booked : bookChunk flow = flow.updateOutlet index Outlet.book := by
    unfold bookChunk
    rw [held]
  refine ⟨(flow.updateOutlet index Outlet.book).transports, ⟨?_, ?_, ?_⟩, booked⟩
  · apply map_updateOutlet
    intro outlet
    cases outlet <;> rfl
  · exact receivers_updateOutlet Outlet.book index flow
  · apply stops_updateOutlet
    intro outlet
    cases outlet with
    | manual requested cancelled => rfl
    | pull delivery source => exact congrArg Stops.noticed (delivery.cancelled_book 1)

theorem bookChunk_asking (law : Law setup R) : Asking R bookChunk := by
  intro flow index held
  obtain ⟨transports, once, booked⟩ := bookChunk_once held
  refine ⟨transports, once, ?_⟩
  rw [booked]
  exact law.refl _

theorem booking_keeps (law : ChunkLaw setup R) : (asking setup bookChunk).Keeps R :=
  asking_keeps law (bookChunk_asking law.toLaw)

theorem askedOnce_of_pull {flow : Flow ε ρ ω σ} {index : Nat} {delivery : Delivery}
    {source : Source}
    (pulled : (flow.transport? index).map Transport.outlet = some (.pull delivery source)) :
    AskedOnce index flow flow.transports := by
  refine ⟨?_, rfl, rfl⟩
  apply List.ext_getElem?
  intro position
  change (List.map _ flow.transports)[position]? =
    (List.modify (List.map _ flow.transports) _ _)[position]?
  rw [List.getElem?_modify, List.getElem?_map]
  by_cases here : index = position
  · subst here
    unfold transport? at pulled
    cases found : flow.transports[index]? with
    | none => rfl
    | some transport =>
        rw [found] at pulled
        have outlet : transport.outlet = .pull delivery source := Option.some.inj pulled
        simp [outlet, Outlet.asked?]
  · simp [here]

theorem reach_keeps (law : Law setup R) (index : Nat) (made : Delivery → Delivery)
    (kept : ∀ delivery, (made delivery).cancelled = delivery.cancelled)
    (flow : Flow ε ρ ω σ) : R flow ((reach setup index).update made flow) := by
  apply updateOutlet_keeps law
  · intro outlet
    cases outlet <;> rfl
  · intro outlet
    cases outlet with
    | manual requested cancelled => rfl
    | pull delivery source => exact congrArg Stops.noticed (kept delivery)

theorem takeTurn_keeps (law : Law setup R) (index : Nat) (flow : Flow ε ρ ω σ) :
    R flow (Delivery.takeTurn (reach setup index) flow) :=
  reach_keeps law index (fun delivery => { delivery with demand := delivery.demand.serve })
    (fun _ => rfl) flow

theorem conclude_keeps (law : Law setup R) (index : Nat) {notify : Flow ε ρ ω σ → Flow ε ρ ω σ}
    (notified : ∀ flow, R flow (notify flow)) (flow : Flow ε ρ ω σ) :
    R flow (Delivery.conclude (reach setup index) notify flow) := by
  have idle := reach_keeps law index (fun delivery => { delivery with busy := false })
    (fun _ => rfl) flow
  have closing := reach_keeps law index (fun delivery => { delivery with concluded := true })
    fun _ => rfl
  unfold Delivery.conclude
  dsimp only
  split
  · exact idle
  · exact law.trans (law.trans idle (closing _)) (notified _)

theorem delivery_keeps (law : ChunkLaw setup R) (index count : Nat) (source : Source)
    (flow : Flow ε ρ ω σ) : R flow (Delivery.request (reach setup index) count source flow).2 := by
  have keeps : (asking setup bookChunk : Ask ε ρ ω σ).Keeps R := booking_keeps law
  have all {after : Flow ε ρ ω σ} (related : ReflTransGen R flow after) : R flow after := by
    induction related with
    | refl => exact law.refl flow
    | tail _ last ih => exact law.trans ih last
  apply all
  apply Delivery.request_changes
  · exact fun made kept world => .single (reach_keeps law.toLaw index made kept world)
  · exact fun bytes world => .single (law.chunk keeps index bytes world)
  · exact fun error world => .single (transportFailed_keeps law.toLaw keeps index error world)
  · exact fun world => .single (transportEnded_keeps law.toLaw keeps index world)
  · intro world
    dsimp only [reach]
    split
    · rename_i state holder
      exact .single (stop_keeps law.toLaw (.inl (isSome_of_eq holder)))
    · exact .refl

theorem withSource_keeps (law : Law setup R) (index : Nat) (source : Source)
    (flow : Flow ε ρ ω σ) : R flow (flow.updateOutlet index (Outlet.withSource source)) := by
  apply updateOutlet_keeps law
  · intro outlet
    cases outlet <;> rfl
  · intro outlet
    cases outlet <;> rfl

theorem drawChunk_asking (law : ChunkLaw setup R) : Asking R (drawChunk setup) := by
  intro flow index held
  unfold drawChunk
  split
  · rename_i loose
    rw [held] at loose
    cases loose
  rename_i other same
  obtain rfl : index = other := Option.some.inj (held.symm.trans same)
  split
  · rename_i delivery source pulled
    refine ⟨flow.transports, askedOnce_of_pull pulled, ?_⟩
    exact law.trans (delivery_keeps law index 1 source flow)
      (withSource_keeps law.toLaw index _ _)
  · exact bookChunk_asking law.toLaw flow index held

theorem pulling_keeps (law : ChunkLaw setup R) : (Flow.ask setup).Keeps R :=
  asking_keeps law (drawChunk_asking law)

theorem Serving.asking (law : ChunkLaw setup R) {forChunk : Flow ε ρ ω σ → Flow ε ρ ω σ}
    (serving : Serving setup forChunk) : Asking R forChunk := by
  induction serving with
  | notes => exact bookChunk_asking law.toLaw
  | pulls => exact drawChunk_asking law
  | acts meanwhile reply ih =>
      intro flow index held
      obtain ⟨transports, once, booked⟩ := bookChunk_once held
      refine ⟨transports, once, ?_⟩
      rw [← booked]
      exact acts_keep law (asking_keeps law ih) (reply flow) (bookChunk flow)

theorem Serving.keeps (law : ChunkLaw setup R) {forChunk : Flow ε ρ ω σ → Flow ε ρ ω σ}
    (serving : Serving setup forChunk) (history : List (Event ρ)) (flow : Flow ε ρ ω σ) :
    R flow (history.foldl (act setup (Flow.asking setup forChunk)) flow) :=
  acts_keep law (asking_keeps law (serving.asking law)) history flow

/-! ### Steps -/

theorem Asks.steps {flow after : Flow ε ρ ω σ} (asks : Asks flow after) :
    Steps setup flow after := by
  cases asks with
  | nothing needless => exact .refl
  | chunk running wanted index held free unmet transports once =>
      exact .head (.asked running wanted (isSome_of_eq held) free unmet)
        (QuietStep.once (.carried transports once.same once.kept))

theorem demanded_steps {flow after : Flow ε ρ ω σ} {count : Nat} (counts : count ≠ 0)
    (wanted : flow.cancelled = false)
    (asks : Asks (record (.demanded count) { flow with demand := flow.demand.add count }) after) :
    Steps setup flow after :=
  .head (.quiet (.demanded count counts wanted)) asks.steps

theorem handled_steps {flow decoded after : Flow ε ρ ω σ} (running : flow.stage = .running)
    (index : Nat) (bytes : Bytes)
    (body : Steps setup (record (.chunkArrived index bytes) flow) decoded)
    (asks : Asks (record .chunkFinished { decoded with chunkDue := false }) after) :
    Steps setup flow after :=
  ((ReflTransGen.head (.arrived running index bytes) body).tail (.quiet .finished)).trans
    asks.steps

theorem told_steps {flow after : Flow ε ρ ω σ} (running : flow.stage = .running) (final : Stage)
    (done : final.isDone = true) (number : Nat) (state : σ)
    (holder : flow.subscriber = some (number, state))
    (hook : Steps setup (informed setup final.signal number state { flow with stage := final })
      after) :
    Steps setup flow (record final.report after) :=
  .single (.endedTelling running final done number state holder (hook.quiet_of_isDone done))

theorem steps_law (setup : Setup ε ω σ ρ) : WholeLaw setup (Steps setup : Flow ε ρ ω σ → _) where
  steps := id
  refl _ := .refl
  trans := ReflTransGen.trans
  calm step _ := .single (.quiet step)
  requested _ counts wanted _ asks := demanded_steps counts wanted asks
  responded running response held := .single (.responded running response held)
  alone running final done nobody := .single (.endedAlone running final done nobody)
  handed running event number state holder := .single (.handed running event number state holder)
  looked running kind other := .single (.looked running kind other)
  served running := .single (.served running)
  broken running index bytes body _ := .head (.arrived running index bytes) body
  handled running index bytes body asks := handled_steps running index bytes body asks
  told running final done number state holder hook :=
    told_steps running final done number state holder hook

/-- A whole history is a sequence of steps, with every chunk that is delivered and
everything that is done in a hook on the way. -/
theorem run_steps (flow : Flow ε ρ ω σ) (history : List (Event ρ)) :
    Steps setup flow (run setup flow history) :=
  Serving.pulls.keeps (steps_law setup).chunks history flow

theorem request_steps (setup : Setup ε ω σ ρ) (count : Nat) {flow : Flow ε ρ ω σ}
    (bound : flow.subscriber.isSome = true) :
    Steps setup flow (request (Flow.ask setup) count flow) :=
  request_keeps (steps_law setup).toLaw (pulling_keeps (steps_law setup).chunks) count bound

theorem stop_steps (setup : Setup ε ω σ ρ) {flow : Flow ε ρ ω σ}
    (bound : flow.subscriber.isSome = true) : Steps setup flow (stop flow) :=
  stop_keeps (steps_law setup).toLaw (.inl bound)

end Flow

end FramedEvents
