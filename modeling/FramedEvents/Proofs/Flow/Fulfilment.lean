/-
Bounded demand is served, and no more than that is fetched.

A subscriber that asks for some events is handed over the front of the reference,
until it has what it asked for or the stream has ended. Between two deliveries no
demand is left over. A chunk may bring more events than are wanted, but no further
chunk is fetched before more of them are asked for. So at any time the stream is
where its listener is after the chunks that have been fetched.
-/

import FramedEvents.Proofs.Flow.Requesting

namespace FramedEvents

namespace Flow

variable {ε ρ ω σ : Type} {setup : Setup ε ω σ ρ} {number made : Nat} {origin source held : Source}
  {chunks behind : List Bytes} {final : Option TransportError} {left bytes : Bytes}
  {told : List (Entry ε ρ) × Except FlowError ω} {flow after : Flow ε ρ ω σ}
  {listener heard : Listener ε ρ σ}

/-- The stream between two deliveries, when no chunk is due and no event wanted. -/
def pausing (number : Nat) (source : Source) (left : Bytes) (listener : Listener ε ρ σ)
    (log : List (Entry ε ρ)) : Flow ε ρ ω σ :=
  { response := listener.response
    subscriber := some (number, listener.state)
    attachment := some 0
    transports := [⟨.pull {} source, some (.stream true (some left))⟩]
    log := log }

/-- What has been fetched for a stream, and the chunks that are still to come. -/
structure Intake (chunks behind : List Bytes) (flow : Flow ε ρ ω σ) : Prop where
  split : chunks = fetched flow.log ++ behind
  books : Told flow
  lazily : Lazy flow.log

/-- What has been heard of a stream, and what is still to be told. -/
structure Underway (setup : Setup ε ω σ ρ) (number made : Nat) (chunks behind : List Bytes)
    (final : Option TransportError) (told : List (Entry ε ρ) × Except FlowError ω)
    (flow : Flow ε ρ ω σ) (listener : Listener ε ρ σ) (left : Bytes) : Prop where
  intake : Intake chunks behind flow
  waits : Frame.decode setup.limits left = (.ok none, left)
  heeded : Heeded setup number made flow.log listener
  looked : looks flow.log ≤ (events listener.calls).length
  rest : listener.hearAll setup number (left ++ behind.flatten) final = told

/-- Where a stream is when nothing is going on: it waits for demand, or has ended. -/
inductive Served (setup : Setup ε ω σ ρ) (number made : Nat) (origin : Source) (chunks : List Bytes)
    (final : Option TransportError) (told : List (Entry ε ρ) × Except FlowError ω)
    (source : Source) (flow : Flow ε ρ ω σ) : Prop where
  | paused (behind : List Bytes) (left : Bytes) (listener : Listener ε ρ σ) (held : Source)
      (shape : flow = pausing number held left listener flow.log)
      (calls : flow.calls = listener.calls)
      (here : source = origin.advance (fetched flow.log).length)
      (underway : Underway setup number made chunks behind final told flow listener left)
  | ended (behind : List Bytes) (ended : Ended told flow) (intake : Intake chunks behind flow)
      (here : source = origin.advance (fetched flow.log).length ∨
        behind = [] ∧ source = origin.advance (chunks.length + 1))

theorem Intake.updateTransport (intake : Intake chunks behind flow) (index : Nat)
    (change : Transport → Transport) : Intake chunks behind (flow.updateTransport index change) :=
  ⟨intake.split, intake.books.of_same rfl rfl rfl rfl, intake.lazily⟩

theorem Underway.updateTransport
    (underway : Underway setup number made chunks behind final told flow listener left)
    (index : Nat) (change : Transport → Transport) :
    Underway setup number made chunks behind final told (flow.updateTransport index change)
      listener left :=
  ⟨underway.intake.updateTransport index change, underway.waits, underway.heeded,
    underway.looked, underway.rest⟩

/-! ### One chunk -/

theorem consume_heeds (willing : (setup.subscribers number).NeverCancels)
    (follows : Follows number drawn source (some left) flow listener)
    (heeded : Heeded setup number made flow.log listener) (bytes : Bytes) :
    Heeded setup number made (Fed.walk (deal setup (asking setup bookChunk))
        (record (.chunkArrived 0 bytes) (flow.keepPending 0 true none))
        (Frame.messages setup.limits (left ++ bytes)).1).1.log
      (Fed.walk (Listener.hear setup number) listener
        (Frame.messages setup.limits (left ++ bytes)).1).1 := by
  apply walk_heeds willing
  · exact (follows.keepPending none).note rfl
  · refine heeded.grown ?_
    exact Nat.le_of_eq (Nat.zero_add _).symm

theorem finishChunk_requested (setup : Setup ε ω σ ρ)
    (follows : Follows number drawn source (some left) flow listener) :
    requested flow.log ≤ requested (finishChunk (asking setup bookChunk) flow).log := by
  have law : Law setup (Spared setup : Flow ε ρ ω σ → _) := spared_law setup
  obtain ⟨middle, asks, spared⟩ := finishChunk_asks law booking_spares flow
  have steps : Steps setup (record .chunkFinished { flow with chunkDue := false }) middle :=
    asks.steps
  have finished : Takes 0 flow.log (.chunkFinished :: flow.log) := .of_note rfl flow.log
  have takes := (finished.trans asks.takes).trans (spared.takes (steps.quietly follows.quiet))
  exact takes.requested

theorem finishChunk_pauses (setup : Setup ε ω σ ρ)
    (follows : Follows number drawn source (some left) flow listener)
    (met : flow.demand.isMet = true) :
    let after := finishChunk (asking setup bookChunk) flow
    ((reach setup 0).delivery after).isWaiting = false ∧ after.calls = listener.calls ∧
      Delivery.rest (reach setup 0) after = pausing number source left listener after.log := by
  intro after
  have finished : after = record .chunkFinished { flow with chunkDue := false } := if_pos met
  have none := Demand.eq_of_isMet met
  rw [finished]
  refine ⟨?_, (calls_record_other rfl _).trans follows.calls, ?_⟩
  · rw [follows.shape]
    rfl
  · rw [follows.shape, none]
    rfl

theorem Intake.next (intake : Intake chunks (bytes :: behind) flow)
    (unmet : flow.demand.isMet = false) (steps : Steps setup flow after) {count : Nat}
    (takes : Takes count (.chunkArrived 0 bytes :: flow.log) after.log) :
    Intake chunks behind after := by
  refine ⟨?_, steps.told intake.books, ?_⟩
  · rw [takes.fetched, fetched_arrived, List.append_assoc]
    exact intake.split
  · apply takes.lazily
    apply intake.lazily.arrived
    rw [← intake.books.demand]
    exact Demand.pos_of_unmet unmet

theorem Underway.next (underway : Underway setup number made chunks (bytes :: behind) final told
      flow listener left)
    (intake : Intake chunks behind after)
    (walked : Fed.walk (Listener.hear setup number) listener
      (Frame.messages setup.limits (left ++ bytes)).1 = (heard, .ok ()))
    {kept : Bytes} (rest : (Frame.messages setup.limits (left ++ bytes)).2 = .ok kept)
    (takes : Takes ((Frame.messages setup.limits (left ++ bytes)).1.countP Message.isEvent)
      (.chunkArrived 0 bytes :: flow.log) after.log)
    (heeded : Heeded setup number made after.log heard) :
    Underway setup number made chunks behind final told after heard kept := by
  refine ⟨intake, Frame.decode_pending rest, heeded, ?_, ?_⟩
  · obtain ⟨more, added, _, counted⟩ :=
      Listener.walk_adds setup number listener (Frame.messages setup.limits (left ++ bytes)).1
    rw [walked] at added counted
    have looked := takes.looks
    have before := underway.looked
    change looks after.log ≤ looks flow.log + 0 + _ at looked
    change heard.calls = _ at added
    rw [added, Listener.events_append, List.length_append, counted rfl]
    omega
  · rw [← underway.rest, List.flatten_cons, ← List.append_assoc,
      Listener.hearAll_append walked rest]

/-! ### Deliveries -/

theorem conclude_serves (follows : Follows number drawing held (some left) flow listener)
    (intake : Intake chunks [] flow)
    (here : source = origin.advance (fetched flow.log).length)
    {notify : Flow ε ρ ω σ → Flow ε ρ ω σ} (spares : ∀ flow, Spared setup flow (notify flow))
    (ended : Ended told
      (Delivery.conclude (reach setup 0) notify (Delivery.takeTurn (reach setup 0) flow))) :
    Served setup number made origin chunks final told source.next.2
      (Delivery.conclude (reach setup 0) notify (Delivery.takeTurn (reach setup 0) flow)) := by
  have law : Law setup (Spared setup : Flow ε ρ ω σ → _) := spared_law setup
  have turn : Spared setup flow (Delivery.takeTurn (reach setup 0) flow) :=
    takeTurn_keeps law 0 flow
  have spared := law.trans turn (conclude_keeps law 0 spares _)
  have takes := spared.takes follows.quiet
  have all : chunks = fetched flow.log := by
    have split := intake.split
    rw [List.append_nil] at split
    exact split
  refine .ended [] ended ⟨?_, spared.steps.told intake.books, takes.lazily intake.lazily⟩
    (.inr ⟨rfl, ?_⟩)
  · rw [takes.fetched, List.append_nil]
    exact all
  · rw [here, all, Source.advance_succ]

theorem turn_takes (setup : Setup ε ω σ ρ)
    (follows : Follows number drawing held (some left) flow listener)
    (bytes : Bytes) :
    let after := consume setup (asking setup bookChunk) 0 true left bytes
      (Delivery.takeTurn (reach setup 0) flow)
    Steps setup flow after ∧
      Takes ((Frame.messages setup.limits (left ++ bytes)).1.countP Message.isEvent)
        (.chunkArrived 0 bytes :: flow.log) after.log := by
  have law : WholeLaw setup (Steps setup : Flow ε ρ ω σ → _) := steps_law setup
  have turned := follows.takeTurn setup
  have turn : Steps setup flow (Delivery.takeTurn (reach setup 0) flow) :=
    takeTurn_keeps law.toLaw 0 flow
  have keeps := booking_keeps law.chunks
  have feeds : Feeds 0 (Delivery.takeTurn (reach setup 0) flow) := by
    rw [turned.shape]
    rfl
  exact ⟨turn.trans (consume_keeps law keeps true left bytes feeds),
    consume_takes booking_spares turned.running turned.quiet feeds true left bytes⟩

/-- A chunk ends the stream or leaves no demand, and the delivery stops. Or else it goes on. -/
theorem chunk_serves (willing : (setup.subscribers number).NeverCancels)
    (follows : Follows number drawing held (some left) flow listener)
    (unmet : flow.demand.isMet = false)
    (here : source = origin.advance (fetched flow.log).length)
    (underway : Underway setup number made chunks (bytes :: behind) final told flow listener
      left) :
    let after := consume setup (asking setup bookChunk) 0 true left bytes
      (Delivery.takeTurn (reach setup 0) flow)
    source.next.2 = origin.advance (fetched after.log).length ∧
      (((reach setup 0).delivery after).isWaiting = false ∧
          Served setup number made origin chunks final told source.next.2
            (Delivery.rest (reach setup 0) after) ∨
        ∃ kept heard, Follows number drawing held (some kept) after heard ∧
          after.demand.isMet = false ∧
          Underway setup number made chunks behind final told after heard kept) := by
  intro after
  have turned := follows.takeTurn setup
  obtain ⟨steps, takes⟩ := turn_takes setup follows bytes
  have intake : Intake chunks behind after := underway.intake.next unmet steps takes
  have further : source.next.2 = origin.advance (fetched after.log).length := by
    rw [takes.fetched, fetched_arrived, List.length_append, here]
    exact (Source.advance_succ _ origin).symm
  refine ⟨further, ?_⟩
  rcases walked : Fed.walk (Listener.hear setup number) listener
    (Frame.messages setup.limits (left ++ bytes)).1 with ⟨heard, verdict⟩
  cases failure : Listener.failure? verdict
      (Frame.messages setup.limits (left ++ bytes)).2 none with
  | some cause =>
      obtain ⟨ended, idle⟩ := consume_fails willing turned walked failure
      -- What is heard ends with a failure, so nothing of the chunks behind is in `told`.
      have rest := underway.rest
      rw [List.flatten_cons, ← List.append_assoc,
        Listener.hearAll_of_failure walked failure] at rest
      subst rest
      exact .inl ⟨idle, .ended behind (ended.updateTransport _ _) (intake.updateTransport _ _)
        (.inl further)⟩
  | none =>
      obtain ⟨rfl, kept, rest⟩ := Listener.failure?_eq_none failure
      obtain ⟨decoded, following, _, dealt, finished⟩ :=
        consume_finishes willing turned walked rest
      have heeded : Heeded setup number made decoded.log heard := by
        have told := consume_heeds willing turned underway.heeded bytes
        rw [walked] at told
        rw [dealt]
        exact told
      have same : after = finishChunk (asking setup bookChunk) decoded := finished
      have onward : Heeded setup number made after.log heard := by
        rw [same]
        exact heeded.grown (finishChunk_requested setup following)
      have next := underway.next intake walked rest takes onward
      by_cases met : decoded.demand.isMet = true
      · obtain ⟨idle, calls, pauses⟩ := finishChunk_pauses setup following met
        rw [← same] at idle calls pauses
        exact .inl ⟨idle,
          .paused behind kept heard held pauses calls further (next.updateTransport _ _)⟩
      · obtain ⟨followed, demand⟩ :=
          finishChunk_follows setup following (Bool.eq_false_iff.mpr met)
        rw [← same] at followed demand
        refine .inr ⟨kept, heard, followed, ?_, next⟩
        rw [demand]
        exact Bool.eq_false_iff.mpr met

theorem handOver_serves (willing : (setup.subscribers number).NeverCancels)
    (supplies : source.Supplies behind final)
    (follows : Follows number drawing held (some left) flow listener)
    (unmet : flow.demand.isMet = false)
    (here : source = origin.advance (fetched flow.log).length)
    (underway : Underway setup number made chunks behind final told flow listener left) :
    Served setup number made origin chunks final told
      (Delivery.handOver (reach setup 0) source flow).1
      (Delivery.handOver (reach setup 0) source flow).2 := by
  have alone : (asking setup bookChunk : Ask ε ρ ω σ).Alone := asking_alone bookChunk
  have law : Law setup (Spared setup : Flow ε ρ ω σ → _) := spared_law setup
  have keeps : (asking setup bookChunk : Ask ε ρ ω σ).Keeps (Spared setup) := booking_spares
  -- What the source supplies gets shorter, while the listener is carried along.
  induction supplies generalizing flow listener left with
  | ended step =>
      have waiting := follows.isWaiting_drawing setup
      have rest := underway.rest
      rw [List.flatten_nil, List.append_nil, Listener.hearAll_waiting underway.waits] at rest
      subst rest
      rw [Delivery.handOver_ended waiting step]
      apply conclude_serves follows underway.intake here (transportEnded_keeps law keeps 0)
      exact conclude_ends (follows.takeTurn setup) fun concluded =>
        transportEnded_ends alone willing concluded
  | failed error step =>
      have waiting := follows.isWaiting_drawing setup
      have rest := underway.rest
      rw [List.flatten_nil, List.append_nil, Listener.hearAll_waiting underway.waits] at rest
      subst rest
      rw [Delivery.handOver_failed waiting step]
      apply conclude_serves follows underway.intake here (transportFailed_keeps law keeps 0 error)
      exact conclude_ends (follows.takeTurn setup) fun concluded =>
        transportFailed_ends alone willing concluded error
  | chunk bytes step later ih =>
      have waiting := follows.isWaiting_drawing setup
      have consumed : (reach setup 0).onChunk bytes (Delivery.takeTurn (reach setup 0) flow) =
          consume setup (asking setup bookChunk) 0 true left bytes
            (Delivery.takeTurn (reach setup 0) flow) :=
        chunk_eq_consume (follows.takeTurn setup) bytes
      obtain ⟨further, arrived⟩ := chunk_serves willing follows unmet here underway
      rw [Delivery.handOver_chunk waiting step, consumed]
      rcases arrived with ⟨idle, served⟩ | ⟨kept, heard, next, wanted, onward⟩
      · rw [Delivery.handOver_idle idle]
        exact served
      · exact ih next wanted further onward

/-! ### The source between two deliveries -/

def firstSource (flow : Flow ε ρ ω σ) : Source :=
  ((flow.transport? 0).map fun at_ : Transport => at_.outlet.source).getD .empty

/-- A first transport that pulls is never changed for one of another kind. -/
structure Pulling (setup : Setup ε ω σ ρ) (flow after : Flow ε ρ ω σ) : Prop where
  steps : Steps setup flow after
  pulls : flow.asked?[0]? = some none → after.asked?[0]? = some none

theorem Asks.pulls (asks : Asks flow after) (pulls : flow.asked?[0]? = some none) :
    after.asked?[0]? = some none := by
  cases asks with
  | nothing needless => exact pulls
  | chunk running wanted index held free unmet transports once =>
      have same : (record .chunkRequested
          { flow with chunkDue := true, transports := transports }).asked? =
          flow.asked?.modify index (Option.map (· + 1)) := once.asked
      rw [same, List.getElem?_modify, pulls]
      by_cases here : index = 0 <;> simp [here]

theorem pulling_law (setup : Setup ε ω σ ρ) : WholeLaw setup (Pulling setup : Flow ε ρ ω σ → _) where
  steps pulling := pulling.steps
  refl _ := ⟨.refl, id⟩
  trans first second :=
    ⟨first.steps.trans second.steps, fun pulls => second.pulls (first.pulls pulls)⟩
  calm step calm := by
    refine ⟨.single (.quiet step), ?_⟩
    rw [calm.asked]
    exact id
  requested _ counts wanted _ asks := ⟨demanded_steps counts wanted asks, asks.pulls⟩
  responded running response held := ⟨.single (.responded running response held), id⟩
  alone running final done nobody := ⟨.single (.endedAlone running final done nobody), id⟩
  handed running event number state holder :=
    ⟨.single (.handed running event number state holder), id⟩
  told running final done number state holder hook :=
    ⟨told_steps running final done number state holder hook.steps, hook.pulls⟩
  looked running kind other := ⟨.single (.looked running kind other), id⟩
  served running := ⟨.single (.served running), id⟩
  broken running index bytes body _ :=
    ⟨.head (.arrived running index bytes) body.steps, body.pulls⟩
  handled running index bytes body asks :=
    ⟨handled_steps running index bytes body.steps asks,
      fun pulls => asks.pulls (body.pulls pulls)⟩

theorem firstSource_withSource (pulls : flow.asked?[0]? = some none) (source : Source) :
    (flow.updateOutlet 0 (Outlet.withSource source)).firstSource = source := by
  unfold asked? at pulls
  unfold firstSource transport? updateOutlet updateTransport
  dsimp only
  rw [List.getElem?_map] at pulls
  rw [List.getElem?_modify]
  cases first : flow.transports[0]? with
  | none =>
      rw [first] at pulls
      cases pulls
  | some transport =>
      rw [first] at pulls
      obtain ⟨outlet, consumer⟩ := transport
      cases outlet with
      | manual requested cancelled => cases pulls
      | pull delivery past => rfl

/-! ### Between two deliveries -/

/-- The stream is at rest, and its source is where the chunks are that it has fetched. -/
structure Attended (setup : Setup ε ω σ ρ) (number made : Nat) (origin : Source)
    (chunks : List Bytes) (final : Option TransportError)
    (told : List (Entry ε ρ) × Except FlowError ω) (flow : Flow ε ρ ω σ) : Prop where
  served : Served setup number made origin chunks final told flow.firstSource flow
  pulls : flow.asked?[0]? = some none

theorem Intake.grows (intake : Intake chunks behind flow) (steps : Steps setup flow after)
    (takes : Takes 0 flow.log after.log) : Intake chunks behind after := by
  refine ⟨?_, steps.told intake.books, takes.lazily intake.lazily⟩
  rw [takes.fetched]
  exact intake.split

theorem Intake.supplies (intake : Intake chunks behind flow)
    (supplies : origin.Supplies chunks final) :
    (origin.advance (fetched flow.log).length).Supplies behind final := by
  rw [intake.split] at supplies
  exact supplies.behind

theorem Underway.grows
    (underway : Underway setup number made chunks behind final told flow listener left)
    (steps : Steps setup flow after) (takes : Takes 0 flow.log after.log) {total : Nat}
    (heeded : Heeded setup number total after.log listener) :
    Underway setup number total chunks behind final told after listener left :=
  ⟨underway.intake.grows steps takes, underway.waits, heeded,
    Nat.le_trans takes.looks underway.looked, underway.rest⟩

theorem Served.withSource
    (served : Served setup number made origin chunks final told source flow)
    (pulls : flow.asked?[0]? = some none) :
    Attended setup number made origin chunks final told
      (flow.updateOutlet 0 (Outlet.withSource source)) := by
  refine ⟨?_, ?_⟩
  · rw [firstSource_withSource pulls]
    cases served with
    | paused behind left listener held shape calls here underway =>
        refine .paused behind left listener source ?_ calls here (underway.updateTransport _ _)
        rw [shape]
        rfl
    | ended behind ended intake here =>
        exact .ended behind (ended.updateTransport _ _) (intake.updateTransport _ _) here
  · rw [asked?_updateOutlet]
    · exact pulls
    · intro outlet
      cases outlet <;> rfl

theorem request_serves (willing : (setup.subscribers number).NeverCancels)
    (supplies : origin.Supplies chunks final) {count : Nat} (counts : count ≠ 0)
    {log : List (Entry ε ρ)}
    (calls : (pausing number held left listener log : Flow ε ρ ω σ).calls = listener.calls)
    (here : held = origin.advance (fetched log).length)
    (underway : Underway setup number made chunks behind final told
      (pausing number held left listener log) listener left) :
    ∃ source reached, Served setup number (made + count) origin chunks final told source reached ∧
      request (Flow.ask setup) count (pausing number held left listener log) =
        reached.updateOutlet 0 (Outlet.withSource source) := by
  -- The request is booked, then a chunk is asked for, and only then the delivery begins.
  let paused : Flow ε ρ ω σ := pausing number held left listener log
  let asked : Flow ε ρ ω σ := streaming number drawing held (some left) listener
    (Demand.zero.add count) ([.chunkRequested, .demanded count] ++ log)
  let demanded := record (.demanded count) { paused with demand := paused.demand.add count }
  have unmet : demanded.demand.isMet = false := Demand.isMet_add counts
  have asks : Asks demanded asked := .chunk rfl rfl 0 rfl rfl unmet asked.transports ⟨rfl, rfl, rfl⟩
  have steps : Steps setup paused asked := demanded_steps counts rfl asks
  have takes : Takes 0 log asked.log := by
    have first : Takes 0 log (.demanded count :: log) := .of_note rfl log
    exact first.trans (.of_note rfl _)
  have follows : Follows number drawing held (some left) asked listener := by
    refine ⟨rfl, ?_⟩
    change (record .chunkRequested (record (.demanded count) paused)).calls = _
    rw [calls_record_other rfl, calls_record_other rfl]
    exact calls
  have heeded : Heeded setup number (made + count) asked.log listener := by
    refine ⟨underway.heeded.state, ?_⟩
    have before : made + _ ≤ requested log := underway.heeded.asked
    change _ ≤ 0 + (count + requested log)
    omega
  have rest : held.Supplies behind final := here ▸ underway.intake.supplies supplies
  have same : held = origin.advance (fetched asked.log).length := by
    rw [takes.fetched]
    exact here
  have further := underway.grows steps takes heeded
  refine ⟨_, _, handOver_serves willing rest follows unmet same further, ?_⟩
  rw [request_asks counts rfl rfl rfl rfl]
  rfl

theorem Attended.request (willing : (setup.subscribers number).NeverCancels)
    (supplies : origin.Supplies chunks final)
    (attended : Attended setup number made origin chunks final told flow) (count : Nat) :
    Attended setup number (made + count) origin chunks final told
      (Flow.request (Flow.ask setup) count flow) := by
  obtain ⟨served, pulls⟩ := attended
  by_cases none : count = 0
  · rw [none, request_zero]
    exact ⟨served, pulls⟩
  cases served with
  | paused behind left listener held shape calls here underway =>
      obtain ⟨log, rfl⟩ : ∃ log, flow = pausing number held left listener log := ⟨_, shape⟩
      obtain ⟨source, reached, serves, same⟩ :=
        request_serves willing supplies none calls here underway
      have law : WholeLaw setup (Pulling setup : Flow ε ρ ω σ → _) := pulling_law setup
      have pulling : Pulling setup _ (Flow.request (Flow.ask setup) count
          (pausing number held left listener log)) :=
        request_keeps law.toLaw (pulling_keeps law.chunks) count rfl
      have pulled := pulling.pulls pulls
      rw [same] at pulled ⊢
      rw [asked?_updateOutlet] at pulled
      · exact serves.withSource pulled
      · intro outlet
        cases outlet <;> rfl
  | ended behind ended intake here =>
      -- After the end a request is still booked, unless the subscriber has cancelled.
      by_cases wanted : flow.cancelled = false
      · have demands : Demands flow (Flow.request (Flow.ask setup) count flow) :=
          request_demands count ended.resting
        have takes : Takes 0 flow.log (.demanded count :: flow.log) := .of_note rfl flow.log
        rw [request_of_resting none wanted ended.resting] at demands ⊢
        have steps : Steps setup flow _ := QuietStep.once (.demanded count none wanted)
        refine ⟨.ended behind (ended.demands demands) (intake.grows steps takes) ?_, pulls⟩
        change _ = origin.advance (fetched (.demanded count :: flow.log)).length ∨ _
        rw [takes.fetched]
        exact here
      · rw [Bool.not_eq_false] at wanted
        rw [request_of_cancelled wanted]
        exact ⟨.ended behind ended intake here, pulls⟩

theorem Attended.controls (willing : (setup.subscribers number).NeverCancels)
    (supplies : origin.Supplies chunks final) {controls : List Control}
    (harmless : .cancel ∉ controls)
    (attended : Attended setup number made origin chunks final told flow) :
    Attended setup number (made + (controls.map Control.units).sum) origin chunks final told
      (controls.foldl (obey (Flow.ask setup)) flow) := by
  induction controls generalizing made flow with
  | nil => exact attended
  | cons control later ih =>
      cases control with
      | cancel => exact absurd List.mem_cons_self harmless
      | request count =>
          rw [List.map_cons, List.sum_cons, ← Nat.add_assoc]
          apply ih fun member => harmless (List.mem_cons_of_mem _ member)
          exact attended.request willing supplies count

theorem Attended.taken (attended : Attended setup number made origin chunks final told flow) :
    flow.subscriber.isSome = true := by
  cases attended.served with
  | paused behind left listener held shape calls here underway =>
      rw [shape]
      rfl
  | ended behind ended intake here => exact ended.taken

theorem Attended.quiet (attended : Attended setup number made origin chunks final told flow) :
    flow.interludes = [] := by
  cases attended.served with
  | paused behind left listener held shape calls here underway =>
      rw [shape]
      rfl
  | ended behind ended intake here => exact ended.quiet

theorem Attended.refused (attended : Attended setup number made origin chunks final told flow)
    (others : List Nat) :
    Attended setup number made origin chunks final told
      (others.foldl (handlerSubscribe setup (Flow.ask setup)) flow) := by
  refine handlerSubscribes_taken attended.taken attended ?_ others
  intro flow other taken attended
  refine ⟨?_, attended.pulls⟩
  let entry : Entry ε ρ := .refused other .alreadySubscribed
  have steps : Steps setup flow (record entry flow) :=
    QuietStep.once (.refused other taken)
  have takes : Takes 0 flow.log (entry :: flow.log) := .of_note rfl flow.log
  have same : fetched (entry :: flow.log) = fetched flow.log := takes.fetched
  cases attended.served with
  | paused behind left listener held shape calls here underway =>
      refine .paused behind left listener held ?_ ?_ ?_ ?_
      · rw [shape]
        rfl
      · exact (calls_record_other rfl flow).trans calls
      · change _ = origin.advance (fetched (entry :: flow.log)).length
        rw [same]
        exact here
      · exact underway.grows steps takes (underway.heeded.grown takes.requested)
  | ended behind ended intake here =>
      refine .ended behind (ended.demands (.note rfl flow)) (intake.grows steps takes) ?_
      change _ = origin.advance (fetched (entry :: flow.log)).length ∨ _
      rw [same]
      exact here

theorem attending_attended (setup : Setup ε ω σ ρ) (number : Nat) (response : ρ) (source : Source)
    (chunks : List Bytes) (final : Option TransportError) :
    Attended setup number 0 source chunks final
      (reference setup number response chunks.flatten final)
      (attending setup number response source) := by
  let ready : List (Entry ε ρ) := [.signalled number .subscribed, .streamReady]
  have takes : Takes 0 [] ready := by
    have first : Takes 0 [] [(.streamReady : Entry ε ρ)] := .of_note rfl []
    exact first.trans (.of_note rfl _)
  have books : Told (attending setup number response source) := by
    have initial : Told ({ response := some response } : Flow ε ρ ω σ) :=
      (Told.initial [] []).of_same rfl rfl rfl rfl
    have attached : Told (record .streamReady
        { response := some response
          subscriber := some (number, (setup.subscribers number).start)
          attachment := some 0
          transports := [⟨.pull {} source, some (.stream true (some []))⟩] } : Flow ε ρ ω σ) :=
      initial.of_note .streamReady rfl rfl rfl nofun rfl rfl nofun
    exact attached.of_note (.signalled number .subscribed) rfl rfl rfl nofun rfl rfl nofun
  have lazily : Lazy ready := takes.lazily fun _ _ _ suffix => by cases List.suffix_nil.mp suffix
  refine ⟨.paused chunks [] (Listener.attach setup number response) source rfl rfl rfl ?_, rfl⟩
  exact ⟨⟨rfl, books, lazily⟩, Frame.decode_nil, ⟨rfl, Nat.zero_le _⟩, Nat.zero_le _, rfl⟩

theorem start_attended (response : ρ) {others : List Nat}
    (subscribes : setup.handler.onStream = number :: others)
    (willing : (setup.subscribers number).NeverCancels) (supplies : source.Supplies chunks final) :
    let started := start setup response { transports := [⟨.pull {} source, none⟩] }
    let subscriber := setup.subscribers number
    started.1 = .ok () ∧
      Attended setup number (subscriber.units .subscribed subscriber.start) source chunks final
        (reference setup number response chunks.flatten final) started.2 := by
  intro started subscriber
  have alone : (Flow.ask setup : Ask ε ρ ω σ).Alone := asking_alone _
  have attended := (attending_attended setup number response source chunks final).controls
    willing supplies (willing .subscribed subscriber.start)
  have refusing := attended.refused others
  rw [Nat.zero_add] at attended refusing
  have same : started = _ := start_eq setup response subscribes
  rw [same, alone _ attended.quiet, alone _ refusing.quiet]
  exact ⟨rfl, refusing⟩

theorem Attended.run (willing : (setup.subscribers number).NeverCancels)
    (supplies : origin.Supplies chunks final) (counts : List Nat)
    (attended : Attended setup number made origin chunks final told flow) :
    Attended setup number (made + counts.sum) origin chunks final told
      (run setup flow (counts.map .request)) := by
  induction counts generalizing made flow with
  | nil => exact attended
  | cons count later ih =>
      have acted : step setup flow (.request count) = Flow.request (Flow.ask setup) count flow :=
        if_pos attended.taken
      rw [List.sum_cons, ← Nat.add_assoc]
      apply ih
      rw [acted]
      exact attended.request willing supplies count

/-- A stream at rest has handed over all there is, or else the front of it, and as much
as was asked for. -/
theorem Attended.front (attended : Attended setup number made origin chunks final told flow) :
    let subscriber := setup.subscribers number
    let asked := made + subscriber.asked subscriber.attached flow.delivered
    Ended told flow ∧ flow.delivered = events told.1 ∨
      ¬flow.stage.isDone = true ∧ flow.delivered <+: events told.1 ∧
        flow.demand.outstanding = 0 ∧ min asked mostDemand ≤ flow.delivered.length := by
  intro subscriber asked
  cases attended.served with
  | paused behind left listener held shape calls here underway =>
      have handed : flow.delivered = events listener.calls := by
        rw [delivered_eq_events, calls]
      have met : flow.demand.outstanding = 0 := by
        rw [shape]
        rfl
      refine .inr ⟨?_, ?_, met, ?_⟩
      · rw [shape]
        exact Bool.false_ne_true
      · rw [handed, ← underway.rest]
        exact (listener.hearAll_adds setup number _ final).filterMap _
      · have counted : asked ≤ requested flow.log := by
          change made + subscriber.asked subscriber.attached flow.delivered ≤ _
          rw [handed]
          exact underway.heeded.asked
        have looked := underway.looked
        have settled := requested_le flow.log
        rw [← underway.intake.books.demand, met, Nat.zero_add] at settled
        rw [handed]
        omega
  | ended behind ended intake here =>
      refine .inl ⟨ended, ?_⟩
      rw [delivered_eq_events, ended.calls]

theorem Attended.ends (attended : Attended setup number made origin chunks final told flow)
    (eager : mostDemand ≤ made) (few : (events told.1).length < mostDemand) : Ended told flow := by
  rcases attended.front with ⟨ended, _⟩ | ⟨_, front, _, enough⟩
  · exact ended
  · have short := front.length_le
    omega

theorem Attended.intake (attended : Attended setup number made origin chunks final told flow) :
    Lazy flow.log ∧ fetched flow.log <+: chunks ∧
      (flow.firstSource = origin.advance (fetched flow.log).length ∨
        flow.stage.isDone = true ∧ fetched flow.log = chunks ∧
          flow.firstSource = origin.advance (chunks.length + 1)) := by
  cases attended.served with
  | paused behind left listener held shape calls here underway =>
      refine ⟨underway.intake.lazily, ?_, .inl here⟩
      exact ⟨behind, underway.intake.split.symm⟩
  | ended behind ended intake here =>
      refine ⟨intake.lazily, ⟨behind, intake.split.symm⟩, ?_⟩
      rcases here with same | ⟨rfl, past⟩
      · exact .inl same
      · have all := intake.split
        rw [List.append_nil] at all
        exact .inr ⟨ended.done, all.symm, past⟩

/-- A subscriber that never cancels is served all that it asks for, wherever it asks,
unless the stream ends before. No chunk is fetched but for demand that is left, so that
a stream can only get ahead of its subscriber by the last chunk that it has fetched. -/
theorem demand_is_served (response : ρ) {others : List Nat}
    (subscribes : setup.handler.onStream = number :: others)
    (willing : (setup.subscribers number).NeverCancels) (supplies : source.Supplies chunks final)
    (counts : List Nat) :
    let started := start setup response { transports := [⟨.pull {} source, none⟩] }
    let after := run setup started.2 (counts.map .request)
    let subscriber := setup.subscribers number
    let asked := subscriber.units .subscribed subscriber.start + counts.sum +
      subscriber.asked subscriber.attached after.delivered
    let expected := events (reference setup number response chunks.flatten final).1
    started.1 = .ok () ∧
      after.delivered <+: expected ∧
      (after.stage.isDone = true → after.delivered = expected) ∧
      (after.stage.isDone = true ∨ after.demand.outstanding = 0) ∧
      min (min asked mostDemand) expected.length ≤ after.delivered.length ∧
      Lazy after.log ∧ Confined after.log ∧
      fetched after.log <+: chunks ∧
      (after.firstSource = source.advance (fetched after.log).length ∨
        after.stage.isDone = true ∧ fetched after.log = chunks ∧
          after.firstSource = source.advance (chunks.length + 1)) := by
  intro started after subscriber asked expected
  obtain ⟨accepted, attended⟩ := start_attended response subscribes willing supplies
  have served := attended.run willing supplies counts
  obtain ⟨lazily, drawn⟩ := served.intake
  rcases served.front with ⟨ended, whole⟩ | ⟨going, front, met, enough⟩
  · have short : expected.length ≤ after.delivered.length :=
      Nat.le_of_eq (congrArg List.length whole.symm)
    exact ⟨accepted, whole ▸ List.prefix_rfl, fun _ => whole, .inl ended.done,
      Nat.le_trans (Nat.min_le_right _ _) short, lazily, lazily.confined, drawn⟩
  · exact ⟨accepted, front, fun done => absurd done going, .inr met,
      Nat.le_trans (Nat.min_le_left _ _) enough, lazily, lazily.confined, drawn⟩

private def frugal : Setup String Nat Unit where
  readEvent := fun _ _ => .ok "tick"
  subscribers := fun _ =>
    { start := ()
      react := fun
        | .subscribed, _ => { state := (), controls := [.request 1] }
        | _, _ => { state := () } }
  handler := { onStream := [0], result := fun given => .ok given.length }

/-- Two events, one of which is asked for later on. -/
theorem demand_is_served_frugal :
    let source := Source.chunks [tickFrame.take 9, tickFrame.drop 9, tickFrame]
    let started := start frugal "hello" { transports := [⟨.pull {} source, none⟩] }
    let after := run frugal started.2 [.request 1]
    after.delivered = ["tick", "tick"] ∧ Lazy after.log := by
  intro source started after
  have found : Frame.messages frugal.limits (tickFrame ++ tickFrame) = ([tick, tick], .ok []) :=
    messages_twoTicks
  have willing : (frugal.subscribers 0).NeverCancels := by
    intro signal state member
    cases signal with
    | subscribed => exact Control.noConfusion (List.mem_singleton.mp member)
    | next event => cases member
    | failed cause => cases member
    | completed => cases member
  have expected : events (reference frugal 0 "hello" (tickFrame ++ tickFrame) none).1 =
      ["tick", "tick"] := by
    unfold reference Listener.hearAll
    rw [found]
    rfl
  obtain ⟨_, front, _, _, enough, lazily, _⟩ := demand_is_served "hello" rfl willing
    (Source.supplies_chunks [tickFrame.take 9, tickFrame.drop 9, tickFrame]) [1]
  change after.delivered <+: events (reference frugal 0 "hello" (tickFrame ++ tickFrame) none).1
    at front
  change min (min (1 + 1 + _) mostDemand)
    (events (reference frugal 0 "hello" (tickFrame ++ tickFrame) none).1).length ≤
      after.delivered.length at enough
  rw [expected] at front enough
  have most : 2 ≤ mostDemand := by decide
  change min (min (2 + _) mostDemand) 2 ≤ _ at enough
  refine ⟨front.eq_of_length_le ?_, lazily⟩
  change 2 ≤ after.delivered.length
  omega

end Flow

end FramedEvents
