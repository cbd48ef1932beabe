/-
A pulled source waits for a subscriber.

A chunk is taken from a source for a request only, and only a subscriber makes requests. So
over sources that are pulled there is a subscriber for whatever a chunk brings, in whatever
order a stream is attached, subscribed to and asked for events. And a source is asked once a
request: the chunks that it has given are the ones that have arrived, up to the chunk that is
just being asked for, while the stream was running.
-/

import FramedEvents.Proofs.Flow.Upholding

namespace FramedEvents

variable {ε ρ : Type}

/-- A source that has been asked a number of times: the chunks that it has given, whether its
final signal has followed them, and what is left. -/
inductive Source.Gives (source : Source) : List Bytes → Bool → Source → Prop where
  | nothing : Gives source [] false source
  | chunk {chunks left bytes} (gives : Gives source chunks false left)
      (pulled : left.next.1.pulled = .chunk bytes) :
      Gives source (chunks ++ [bytes]) false left.next.2
  | final {chunks left answer} (gives : Gives source chunks false left)
      (pulled : left.next.1.pulled = answer) (last : ∀ bytes, answer ≠ .chunk bytes) :
      Gives source chunks true left.next.2

/-- The chunk that arrived from a transport with this entry. -/
def Entry.chunkFrom? (index : Nat) : Entry ε ρ → Option Bytes
  | .chunkArrived other bytes => if other = index then some bytes else none
  | _ => none

/-- The chunks that have arrived from a transport, in order. -/
def arrivedFrom (index : Nat) (log : List (Entry ε ρ)) : List Bytes :=
  log.reverse.filterMap (Entry.chunkFrom? index)

/-- A chunk has been asked for since the last one arrived, and before that a subscriber was
told that it is subscribed. -/
def Sought (log : List (Entry ε ρ)) : Prop :=
  ∃ since asked, log = since ++ .chunkRequested :: asked ∧
    (∀ note ∈ since, note.chunk? = none) ∧ ∃ number, .signalled number .subscribed ∈ asked

/-- Whenever a chunk arrived, it had been asked for, on behalf of a subscriber. -/
def Awaited (log : List (Entry ε ρ)) : Prop :=
  ∀ index bytes earlier, .chunkArrived index bytes :: earlier <:+ log → Sought earlier

/-! ### Chunks in the log -/

theorem arrivedFrom_notes {notes : List (Entry ε ρ)} (others : ∀ note ∈ notes, note.chunk? = none)
    (index : Nat) (log : List (Entry ε ρ)) :
    arrivedFrom index (notes ++ log) = arrivedFrom index log := by
  have none : notes.reverse.filterMap (Entry.chunkFrom? index) = [] := by
    apply List.filterMap_eq_nil_iff.mpr
    intro note member
    have other := others note (List.mem_reverse.mp member)
    cases note with
    | chunkArrived origin bytes => cases other
    | _ => rfl
  unfold arrivedFrom
  rw [List.reverse_append, List.filterMap_append, none, List.append_nil]

theorem arrivedFrom_self (index : Nat) (bytes : Bytes) (log : List (Entry ε ρ)) :
    arrivedFrom index (.chunkArrived index bytes :: log) = arrivedFrom index log ++ [bytes] := by
  unfold arrivedFrom
  rw [List.reverse_cons, List.filterMap_append]
  simp [Entry.chunkFrom?]

theorem arrivedFrom_other {index other : Nat} (apart : index ≠ other) (bytes : Bytes)
    (log : List (Entry ε ρ)) :
    arrivedFrom other (.chunkArrived index bytes :: log) = arrivedFrom other log := by
  unfold arrivedFrom
  rw [List.reverse_cons, List.filterMap_append]
  simp [Entry.chunkFrom?, apart]

theorem Awaited.notes {notes log : List (Entry ε ρ)} (awaited : Awaited log)
    (others : ∀ note ∈ notes, note.chunk? = none) : Awaited (notes ++ log) := by
  induction notes with
  | nil => exact awaited
  | cons note notes ih =>
      obtain ⟨other, rest⟩ := List.forall_mem_cons.mp others
      intro index bytes earlier suffix
      rcases List.suffix_cons_iff.mp suffix with same | before
      · obtain ⟨rfl, _⟩ := List.cons.inj same
        cases other
      · exact ih rest index bytes earlier before

theorem Awaited.arrived {log : List (Entry ε ρ)} (awaited : Awaited log) (sought : Sought log)
    (index : Nat) (bytes : Bytes) : Awaited (.chunkArrived index bytes :: log) := by
  intro other found earlier suffix
  rcases List.suffix_cons_iff.mp suffix with same | before
  · obtain ⟨_, rfl⟩ := List.cons.inj same
    exact sought
  · exact awaited other found earlier before

theorem Sought.notes {notes log : List (Entry ε ρ)} (sought : Sought log)
    (others : ∀ note ∈ notes, note.chunk? = none) : Sought (notes ++ log) := by
  obtain ⟨since, asked, rfl, quiet, subscribed⟩ := sought
  refine ⟨notes ++ since, asked, (List.append_assoc _ _ _).symm, ?_, subscribed⟩
  exact List.forall_mem_append.mpr ⟨others, quiet⟩

namespace Flow

variable {ω σ : Type} {setup : Setup ε ω σ ρ} {ask : Ask ε ρ ω σ} {flow after : Flow ε ρ ω σ}
  {holds : Flow ε ρ ω σ → Prop} {blamed : Prop}

/-! ### What others may do -/

/-- Nobody pushes chunks, and that there is no subscriber is told by whoever is to blame for
it alone. -/
def Event.Fair (blamed : Prop) : Event ρ → Prop
  | .push _ _ => False
  | .fail cause => cause = .noSubscriber → blamed
  | _ => True

/-- Something that is upset by no change between chunks, and by no end that is fair. -/
structure Robust (blamed : Prop) (holds : Flow ε ρ ω σ → Prop) : Prop where
  steady : ∀ {flow after}, Steady flow after → holds flow → holds after
  joined : ∀ {flow index outlet} (routed : Bool), flow.transport? index = some ⟨outlet, none⟩ →
    flow.attachment = none → holds flow →
    holds (record .streamReady
      { flow.keepPending index routed (some []) with attachment := some index })
  ended : ∀ {flow} (final : Stage), (final = .failed .noSubscriber → blamed) → holds flow →
    holds { flow with stage := final }
  resolved : ∀ {flow} result, holds flow → holds (flow.resolve result)
  modest : ∀ {flow}, holds flow → ∀ events ∈ flow.interludes, ∀ event ∈ events, event.Fair blamed

theorem Robust.fail (robust : Robust blamed holds) (keeps : ask.Upholds holds) {cause : FlowError}
    (fair : cause = .noSubscriber → blamed) (held : holds flow) :
    holds (fail setup ask cause flow) := by
  refine keeps.fail robust.resolved cause (fun _ => robust.ended _ ?_ held) fun _ => held
  intro same
  exact fair (Stage.failed.inj same)

theorem Robust.act (robust : Robust blamed holds) (keeps : ask.Upholds holds) (event : Event ρ)
    (fair : event.Fair blamed) (held : holds flow) : holds (act setup ask flow event) := by
  have completed := robust.ended .completed (fun impossible => by cases impossible) held
  cases event with
  | push index bytes => cases fair
  | transportEnded index =>
      exact keeps.transportEnded robust.resolved index (fun _ => completed) held
  | transportFailed index error =>
      exact transportFailed_holds (robust.fail keeps (fun impossible => by cases impossible) held)
        held
  | fail cause => exact robust.fail keeps fair held
  | complete => exact keeps.complete (fun _ => completed) fun _ => held
  | _ => exact keeps.act rfl held

/-- What holds through the controls of a subscriber, however the stream asks for chunks,
holds through interludes. -/
theorem Robust.asking (robust : Robust blamed holds) {forChunk : Flow ε ρ ω σ → Flow ε ρ ω σ}
    (controls : ∀ others {flow} (controls : List Control), flow.subscriber.isSome = true →
      holds flow → holds (controls.foldl (obey ⟨forChunk, others⟩) flow)) :
    (asking setup forChunk).Upholds holds where
  steady := robust.steady
  joined := robust.joined
  controls := controls _
  others {flow} held := by
    refine interlude_holds robust.steady robust.modest (fun depth deeper event fair flow held => ?_)
      flow.interludes.length held
    exact robust.act ⟨robust.steady, robust.joined, controls _, deeper⟩ event fair held

/-! ### Pulled transports -/

def Pulls (index : Nat) (delivery : Delivery) (source : Source) (flow : Flow ε ρ ω σ) : Prop :=
  (flow.transport? index).map Transport.outlet = some (.pull delivery source)

variable {index other : Nat} {delivery : Delivery} {source : Source}

theorem Pulls.updateOutlet (pulls : Pulls index delivery source flow) (change : Outlet → Outlet) :
    ((flow.updateOutlet index change).transport? index).map Transport.outlet =
      some (change (.pull delivery source)) := by
  obtain ⟨transport, found, outlet⟩ := Option.map_eq_some_iff.mp pulls
  unfold Flow.updateOutlet
  rw [transport?_update_self, found, ← outlet]
  rfl

theorem Pulls.updateOther (apart : other ≠ index) (pulls : Pulls index delivery source flow)
    (change : Transport → Transport) :
    Pulls index delivery source (flow.updateTransport other change) := by
  unfold Pulls
  rw [transport?_update_other apart]
  exact pulls

theorem Pulls.keepPending (pulls : Pulls index delivery source flow) (other : Nat) (routed : Bool)
    (pending : Option Bytes) :
    Pulls index delivery source (flow.keepPending other routed pending) := by
  unfold Pulls Flow.keepPending
  by_cases here : other = index
  · subst here
    rw [transport?_update_self, Option.map_map]
    exact pulls
  · exact pulls.updateOther here _

theorem Steady.pulls (steady : Steady flow after) (pulls : Pulls index delivery source flow) :
    ∃ now, Pulls index now source after ∧ (now = delivery ∨ now = delivery.cancel) := by
  obtain ⟨transport, found, outlet⟩ := Option.map_eq_some_iff.mp pulls
  have turned := steady.transports index
  rw [found] at turned
  unfold Pulls
  generalize after.transport? index = last at turned ⊢
  cases turned with
  | some turned =>
      cases turned with
      | same => exact ⟨delivery, congrArg some outlet, .inl rfl⟩
      | stopped => exact ⟨delivery.cancel, congrArg (some ∘ Outlet.cancel) outlet, .inr rfl⟩
      | declined => exact ⟨delivery.cancel, congrArg (some ∘ Outlet.cancel) outlet, .inr rfl⟩

theorem Steady.consumer (steady : Steady flow after) {consumer : Consumer}
    (consumed : (flow.transport? index).bind Transport.consumer = some consumer) :
    (after.transport? index).bind Transport.consumer = some consumer := by
  have turned := steady.transports index
  generalize flow.transport? index = first at turned consumed
  generalize after.transport? index = last at turned ⊢
  cases turned with
  | none => cases consumed
  | some turned =>
      cases turned with
      | same => exact consumed
      | stopped => exact consumed
      | declined outlet routed => cases consumed

theorem isWaiting_cancelled (delivery : Delivery) : delivery.cancel.isWaiting = false := by
  unfold Delivery.isWaiting Delivery.isOver Delivery.cancel
  simp

/-! ### Streams over pulled transports -/

/-- No delivery of this transport is under way. What its source has given has arrived, and if
the final signal has been given too, nothing follows. -/
def AtRest (source : Source) (index : Nat) (flow : Flow ε ρ ω σ) : Prop :=
  ∃ delivery left ended, Pulls index delivery left flow ∧
    source.Gives (arrivedFrom index flow.log) ended left ∧ delivery.busy = false ∧
    delivery.isWaiting = false ∧ (ended = true → delivery.isOver = true)

theorem isWaiting_turned {delivery now : Delivery} (idle : delivery.isWaiting = false)
    (turned : now = delivery ∨ now = delivery.cancel) : now.isWaiting = false := by
  rcases turned with rfl | rfl
  · exact idle
  · exact isWaiting_cancelled delivery

theorem isOver_turned {delivery now : Delivery} (nothing : delivery.isOver = true)
    (turned : now = delivery ∨ now = delivery.cancel) : now.isOver = true := by
  rcases turned with rfl | rfl
  · exact nothing
  · exact Bool.or_true _

theorem busy_turned {delivery now : Delivery} (turned : now = delivery ∨ now = delivery.cancel) :
    now.busy = delivery.busy := by
  rcases turned with rfl | rfl <;> rfl

theorem AtRest.steady (steady : Steady flow after) (settled : AtRest source index flow) :
    AtRest source index after := by
  obtain ⟨delivery, left, ended, pulls, gives, free, idle, last⟩ := settled
  obtain ⟨now, pullsNow, turned⟩ := steady.pulls pulls
  obtain ⟨notes, log, others⟩ := steady.log
  refine ⟨now, left, ended, pullsNow, ?_, (busy_turned turned).trans free,
    isWaiting_turned idle turned, fun final => isOver_turned (last final) turned⟩
  rw [log, arrivedFrom_notes others]
  exact gives

/-- A stream whose transports were these in the beginning. There has been a subscriber for
every chunk, and no delivery is under way but the one of the transport that is `busy`. -/
structure Observant (origin : List Transport) (blamed : Prop) (busy : Option Nat)
    (flow : Flow ε ρ ω σ) : Prop where
  awaited : Awaited flow.log
  subscribed : flow.subscriber.isSome = true → ∃ number, .signalled number .subscribed ∈ flow.log
  blameless : flow.stage = .failed .noSubscriber → blamed
  modest : ∀ events ∈ flow.interludes, ∀ event ∈ events, event.Fair blamed
  known : ∀ index transport, flow.transport? index = some transport →
    ∃ first, origin[index]? = some first
  settled : ∀ index first, origin[index]? = some first → busy ≠ some index →
    AtRest first.outlet.source index flow

variable {origin : List Transport} {busy : Option Nat}

theorem Observant.steady (steady : Steady flow after)
    (observant : Observant origin blamed busy flow) :
    Observant origin blamed busy after := by
  obtain ⟨notes, log, others⟩ := steady.log
  constructor
  · rw [log]
    exact observant.awaited.notes others
  · intro bound
    rcases steady.subscribed bound with before | ⟨number, first⟩
    · obtain ⟨number, member⟩ := observant.subscribed before
      rw [log]
      exact ⟨number, List.mem_append_right notes member⟩
    · exact ⟨number, first⟩
  · rw [steady.stage]
    exact observant.blameless
  · intro events member
    exact observant.modest events (steady.interludes events member)
  · intro index transport found
    have turned := steady.transports index
    rw [found] at turned
    cases before : flow.transport? index with
    | none =>
        rw [before] at turned
        cases turned
    | some first => exact observant.known index first before
  · intro index first held apart
    exact (observant.settled index first held apart).steady steady

theorem Observant.same (observant : Observant origin blamed busy flow) (stage : Stage)
    (fair : stage = .failed .noSubscriber → blamed) (outcome : Outcome ω) (due : Bool)
    (attachment : Option Nat) :
    Observant origin blamed busy
      { flow with
        stage := stage, outcome := outcome, chunkDue := due, attachment := attachment } :=
  ⟨observant.awaited, observant.subscribed, fair, observant.modest, observant.known,
    observant.settled⟩

theorem known_update {change : Transport → Transport}
    (known : ∀ other transport, flow.transport? other = some transport →
      ∃ first, origin[other]? = some first) (other : Nat) (transport : Transport)
    (found : (flow.updateTransport index change).transport? other = some transport) :
    ∃ first, origin[other]? = some first := by
  by_cases here : index = other
  · subst here
    rw [transport?_update_self] at found
    obtain ⟨first, before, _⟩ := Option.map_eq_some_iff.mp found
    exact known index first before
  · rw [transport?_update_other here] at found
    exact known other transport found

theorem Observant.keepPending (observant : Observant origin blamed busy flow) (index : Nat)
    (routed : Bool) (pending : Option Bytes) :
    Observant origin blamed busy (flow.keepPending index routed pending) := by
  refine ⟨observant.awaited, observant.subscribed, observant.blameless, observant.modest,
    known_update observant.known, fun other first held apart => ?_⟩
  obtain ⟨delivery, left, ended, pulls, rest⟩ := observant.settled other first held apart
  exact ⟨delivery, left, ended, pulls.keepPending index routed pending, rest⟩

theorem Observant.updateOutlet (observant : Observant origin blamed (some index) flow)
    (change : Outlet → Outlet) :
    Observant origin blamed (some index) (flow.updateOutlet index change) := by
  refine ⟨observant.awaited, observant.subscribed, observant.blameless, observant.modest,
    known_update observant.known, fun other first held apart => ?_⟩
  obtain ⟨delivery, left, ended, pulls, rest⟩ := observant.settled other first held apart
  have elsewhere : index ≠ other := fun same => apart (congrArg some same)
  exact ⟨delivery, left, ended, pulls.updateOther elsewhere _, rest⟩

theorem Observant.arrived (observant : Observant origin blamed (some index) flow)
    (sought : Sought flow.log) (bytes : Bytes) :
    Observant origin blamed (some index) (record (.chunkArrived index bytes) flow) := by
  refine ⟨observant.awaited.arrived sought index bytes, ?_, observant.blameless,
    observant.modest, observant.known, ?_⟩
  · intro bound
    obtain ⟨number, member⟩ := observant.subscribed bound
    exact ⟨number, List.mem_cons_of_mem _ member⟩
  · intro other first held apart
    have elsewhere : index ≠ other := fun same => apart (congrArg some same)
    obtain ⟨delivery, left, ended, pulls, gives, rest⟩ := observant.settled other first held apart
    refine ⟨delivery, left, ended, pulls, ?_, rest⟩
    change first.outlet.source.Gives (arrivedFrom other (.chunkArrived index bytes :: flow.log)) _ _
    rw [arrivedFrom_other elsewhere]
    exact gives

theorem Observant.released (observant : Observant origin blamed (some index) flow)
    (settled : ∀ first, origin[index]? = some first → AtRest first.outlet.source index flow) :
    Observant origin blamed none flow := by
  refine ⟨observant.awaited, observant.subscribed, observant.blameless, observant.modest,
    observant.known, ?_⟩
  intro other first held _
  by_cases here : index = other
  · subst here
    exact settled first held
  · exact observant.settled other first held fun same => here (Option.some.inj same)

theorem Observant.engaged (observant : Observant origin blamed none flow) (index : Nat) :
    Observant origin blamed (some index) flow :=
  ⟨observant.awaited, observant.subscribed, observant.blameless, observant.modest,
    observant.known, fun other first held _ => observant.settled other first held nofun⟩

/-! ### While a chunk is dealt with -/

/-- A delivery of this transport is under way, and these chunks have been taken for it. -/
structure Engaged (origin : List Transport) (blamed : Prop) (index : Nat) (taken : List Bytes)
    (routed : Bool) (pending : Option Bytes) (flow : Flow ε ρ ω σ) : Prop
    extends Observant origin blamed (some index) flow where
  attached : flow.attachment = some index
  bound : flow.subscriber.isSome = true
  arrived : arrivedFrom index flow.log = taken
  consumer : (flow.transport? index).bind Transport.consumer = some (.stream routed pending)

/-- What has been asked for is just being dealt with, so no more is asked for. If `closed`, the
delivery has come to its end. -/
structure Dealing (origin : List Transport) (blamed : Prop) (index : Nat) (taken : List Bytes)
    (routed : Bool) (pending : Option Bytes) (closed : Bool) (flow : Flow ε ρ ω σ) : Prop
    extends Engaged origin blamed index taken routed pending flow where
  due : flow.chunkDue = true
  delivery : ∃ delivery source, Pulls index delivery source flow ∧ delivery.isWaiting = false ∧
    (closed = true → delivery.isOver = true ∧ delivery.busy = false)

variable {taken : List Bytes} {routed closed : Bool} {pending : Option Bytes} {bytes : Bytes}

theorem Dealing.steady (steady : Steady flow after)
    (dealing : Dealing origin blamed index taken routed pending closed flow) :
    Dealing origin blamed index taken routed pending closed after := by
  obtain ⟨delivery, source, pulls, idle, ends⟩ := dealing.delivery
  obtain ⟨now, pullsNow, turned⟩ := steady.pulls pulls
  obtain ⟨notes, log, others⟩ := steady.log
  refine ⟨⟨dealing.toObservant.steady steady, steady.attachment.trans dealing.attached,
    steady.bound dealing.bound, ?_, steady.consumer dealing.consumer⟩,
    steady.due.trans dealing.due, now, source, pullsNow, isWaiting_turned idle turned, ?_⟩
  · rw [log, arrivedFrom_notes others]
    exact dealing.arrived
  · intro last
    exact ⟨isOver_turned (ends last).1 turned, (busy_turned turned).trans (ends last).2⟩

theorem dealing_robust :
    Robust blamed
      (Dealing origin blamed index taken routed pending closed : Flow ε ρ ω σ → Prop) where
  steady := Dealing.steady
  joined _ _ loose dealing := by cases loose.symm.trans dealing.attached
  ended final fair dealing :=
    ⟨⟨dealing.toObservant.same final fair _ _ _, dealing.attached, dealing.bound, dealing.arrived,
      dealing.consumer⟩, dealing.due, dealing.delivery⟩
  resolved result dealing :=
    ⟨⟨dealing.toObservant.same _ dealing.blameless _ _ _, dealing.attached, dealing.bound,
      dealing.arrived, dealing.consumer⟩, dealing.due, dealing.delivery⟩
  modest dealing := dealing.modest

theorem booking_dealing :
    (asking setup bookChunk).Upholds
      (Dealing origin blamed index taken routed pending closed : Flow ε ρ ω σ → Prop) := by
  refine dealing_robust.asking fun others _ controls _ dealing => ?_
  refine controls_hold Dealing.steady (fun dealing => ?_) controls dealing
  rw [askNext_of_resting (.inl dealing.due)]
  exact dealing

theorem deal_ne_noSubscriber (bound : flow.subscriber.isSome = true) (message : Message) :
    (deal setup ask flow message).2 ≠ .error .noSubscriber := by
  rcases running_or_isDone flow with running | done
  · rw [deal_of_running running]
    cases message.kind with
    | event =>
        obtain ⟨holder, held⟩ := Option.isSome_iff_exists.mp bound
        unfold handEvent
        dsimp only [record]
        rw [held]
        split
        · nofun
        · dsimp only
          split
          · nofun
          · nofun
    | _ => nofun
  · rw [deal_of_isDone done]
    nofun

theorem decodeAll_ne_noSubscriber (setup : Setup ε ω σ ρ) (keeps : ask.Upholds holds)
    (attended : ∀ {flow}, holds flow → flow.subscriber.isSome = true) (buffer : Bytes)
    (held : holds flow) :
    (Fed.decodeAll setup.limits FlowError.decode (deal setup ask) flow buffer).outcome ≠
      .error .noSubscriber := by
  fun_induction Fed.decodeAll setup.limits FlowError.decode (deal setup ask) flow buffer with
  | case1 flow buffer error rest decoded =>
      intro same
      cases same
  | case2 flow buffer rest decoded =>
      intro same
      cases same
  | case3 flow buffer message rest decoded after error refused =>
      have given : (deal setup ask flow message).2 ≠ .error .noSubscriber :=
        deal_ne_noSubscriber (attended held) message
      rw [refused] at given
      exact given
  | case4 flow buffer message rest decoded after accepted ih =>
      have dealt : holds (deal setup ask flow message).1 := keeps.deal message held
      rw [accepted] at dealt
      exact ih dealt

/-! ### One chunk after the other -/

/-- Between two turns of a delivery: at most one chunk has been asked for, by a stream that is
running. -/
structure Turning (origin : List Transport) (blamed : Prop) (index : Nat) (taken : List Bytes)
    (flow : Flow ε ρ ω σ) : Prop where
  engaged : ∃ routed pending, Engaged origin blamed index taken routed (some pending) flow
  delivery : ∃ delivery source, Pulls index delivery source flow ∧
    (delivery.isWaiting = true →
      delivery.demand.serve.isMet = true ∧ flow.stage = .running ∧ flow.chunkDue = true ∧
        Sought flow.log)

theorem Dealing.turning {left : Bytes}
    (dealing : Dealing origin blamed index taken routed (some left) closed flow) :
    Turning origin blamed index taken flow := by
  obtain ⟨delivery, source, pulls, idle, _⟩ := dealing.delivery
  refine ⟨⟨routed, left, dealing.toEngaged⟩, delivery, source, pulls, fun waits => ?_⟩
  cases idle.symm.trans waits

theorem Dealing.keepPending (dealing : Dealing origin blamed index taken routed pending closed flow)
    (kept : Option Bytes) :
    Dealing origin blamed index taken routed kept closed (flow.keepPending index routed kept) := by
  obtain ⟨delivery, source, pulls, rest⟩ := dealing.delivery
  refine ⟨⟨dealing.toObservant.keepPending index routed kept, dealing.attached, dealing.bound,
    dealing.arrived, ?_⟩, dealing.due, delivery, source, pulls.keepPending index routed kept, rest⟩
  obtain ⟨transport, found, _⟩ := Option.bind_eq_some_iff.mp dealing.consumer
  exact consumer_keepPending found routed kept

theorem isMet_book {delivery : Delivery} (idle : delivery.isWaiting = false)
    (waits : (delivery.book 1).isWaiting = true) : (delivery.book 1).demand.serve.isMet = true := by
  unfold Delivery.book at waits ⊢
  split at waits
  · cases idle.symm.trans waits
  · rename_i opened
    rw [if_neg opened]
    have met : delivery.demand.isMet = true := by
      unfold Delivery.isWaiting at idle
      rw [Bool.not_eq_false', Bool.or_eq_true] at idle
      exact idle.resolve_left opened
    rw [Demand.eq_of_isMet met]
    rfl

theorem Engaged.updateOutlet (engaged : Engaged origin blamed index taken routed pending flow)
    (change : Outlet → Outlet) :
    Engaged origin blamed index taken routed pending (flow.updateOutlet index change) :=
  ⟨engaged.toObservant.updateOutlet change, engaged.attached, engaged.bound, engaged.arrived,
    (consumer_updateOutlet index index change flow).trans engaged.consumer⟩

theorem Engaged.note (engaged : Engaged origin blamed index taken routed pending flow)
    {entry : Entry ε ρ} (aside : entry.isAside = true) (nothing : entry.given? = none)
    (due : Bool) :
    Engaged origin blamed index taken routed pending
      (record entry { flow with chunkDue := due }) := by
  refine ⟨(engaged.toObservant.same _ engaged.blameless _ due _).steady
      (.note aside _ _ _ _ fun _ => nothing),
    engaged.attached, engaged.bound, ?_, engaged.consumer⟩
  have silent : ∀ note ∈ [entry], note.chunk? = none :=
    List.forall_mem_singleton.mpr (Entry.chunk?_of_isAside aside)
  exact (arrivedFrom_notes silent index flow.log).trans engaged.arrived

theorem Engaged.sought (engaged : Engaged origin blamed index taken routed pending flow) :
    Sought (.chunkRequested :: flow.log) :=
  ⟨[], flow.log, rfl, List.forall_mem_nil _, engaged.subscribed engaged.bound⟩

theorem Dealing.finishChunk {left : Bytes}
    (dealing : Dealing origin blamed index taken routed (some left) closed flow) :
    Turning origin blamed index taken (finishChunk (asking setup bookChunk) flow) := by
  obtain ⟨delivery, source, pulls, idle, _⟩ := dealing.delivery
  let finished := record .chunkFinished { flow with chunkDue := false }
  have engaged : Engaged origin blamed index taken routed (some left) finished :=
    dealing.toEngaged.note rfl rfl false
  have ready : Turning origin blamed index taken finished :=
    ⟨⟨routed, left, engaged⟩, delivery, source, pulls, fun waits => by cases idle.symm.trans waits⟩
  refine finishChunk_holds ready (askNext_holds ready fun running _ _ => ?_)
  let asked := record .chunkRequested { finished with chunkDue := true }
  have pullsAsked : Pulls index delivery source asked := pulls
  have booked : bookChunk asked = asked.updateOutlet index Outlet.book := by
    unfold bookChunk
    rw [show asked.attachment = some index from dealing.attached]
  change Turning origin blamed index taken (bookChunk asked)
  rw [booked]
  exact ⟨⟨routed, left, (engaged.note rfl rfl true).updateOutlet _⟩, delivery.book 1, source,
    pullsAsked.updateOutlet Outlet.book,
    fun waits => ⟨isMet_book idle waits, running, rfl, engaged.sought⟩⟩

theorem Dealing.chunk {left : Bytes}
    (dealing : Dealing origin blamed index taken routed (some left) false flow)
    (running : flow.stage = .running) (sought : Sought flow.log) (bytes : Bytes) :
    Turning origin blamed index (taken ++ [bytes])
      (chunk setup (asking setup bookChunk) index bytes flow) := by
  have keeps : (asking setup bookChunk).Upholds
      (Dealing origin blamed index (taken ++ [bytes]) routed none false : Flow ε ρ ω σ → Prop) :=
    booking_dealing
  -- While a chunk is being decoded nothing is kept, so that another one would get lost.
  have laid := dealing.keepPending none
  have arrived : Dealing origin blamed index (taken ++ [bytes]) routed none false
      (record (.chunkArrived index bytes) (flow.keepPending index routed none)) := by
    refine ⟨⟨laid.toObservant.arrived sought bytes, laid.attached, laid.bound, ?_,
      laid.consumer⟩, laid.due, laid.delivery⟩
    exact (arrivedFrom_self index bytes _).trans (congrArg (· ++ [bytes]) laid.arrived)
  have decoded := keeps.decodeAll setup (left ++ bytes) arrived
  have served := decodeAll_ne_noSubscriber setup keeps (fun dealing => dealing.bound)
    (left ++ bytes) arrived
  unfold Flow.chunk
  rw [dealing.consumer]
  dsimp only
  unfold consume
  rw [if_neg (not_isDone running)]
  dsimp only
  split
  · exact (decoded.keepPending _).finishChunk
  · rename_i cause refused
    have fair : cause = .noSubscriber → blamed := by
      rintro rfl
      exact absurd refused served
    exact (stop_holds Dealing.steady
      (dealing_robust.fail booking_dealing fair (decoded.keepPending (some _)))).turning

/-! ### Deliveries -/

/-- Between deliveries: none is under way, and a chunk from the transport that the stream is
attached to would be decoded. -/
structure Patient (origin : List Transport) (blamed : Prop) (flow : Flow ε ρ ω σ) : Prop
    extends Observant origin blamed none flow where
  ready : ∀ index, flow.attachment = some index → ∃ routed pending,
    (flow.transport? index).bind Transport.consumer = some (.stream routed (some pending))

variable {first : Transport} {left : Bytes} {behind : Source} {ended : Bool}

theorem Pulls.reached (pulls : Pulls index delivery source flow) :
    (reach setup index).delivery flow = delivery := by
  obtain ⟨transport, found, outlet⟩ := Option.map_eq_some_iff.mp pulls
  change ((flow.transport? index).map _).getD {} = delivery
  rw [found, Option.map_some, Option.getD_some, outlet]
  rfl

theorem Pulls.updated (pulls : Pulls index delivery source flow) (made : Delivery → Delivery) :
    Pulls index (made delivery) source ((reach setup index).update made flow) :=
  pulls.updateOutlet (Outlet.updateDelivery made)

/-- A delivery is over, and what is left of the source is given back to its transport. -/
theorem Engaged.returned (engaged : Engaged origin blamed index taken routed (some left) flow)
    (held : origin[index]? = some first) (gives : first.outlet.source.Gives taken ended behind)
    (pulls : Pulls index delivery source flow) (free : delivery.busy = false)
    (idle : delivery.isWaiting = false) (last : ended = true → delivery.isOver = true) :
    Patient origin blamed (flow.updateOutlet index (Outlet.withSource behind)) ∧
      flow.subscriber.isSome = true := by
  have returned := engaged.updateOutlet (Outlet.withSource behind)
  refine ⟨⟨returned.toObservant.released fun other found => ?_, fun other attached => ?_⟩,
    engaged.bound⟩
  · obtain rfl : first = other := Option.some.inj (held.symm.trans found)
    refine ⟨delivery, behind, ended, pulls.updateOutlet (Outlet.withSource behind), ?_, free, idle,
      last⟩
    rw [returned.arrived]
    exact gives
  · obtain rfl : index = other := Option.some.inj (returned.attached.symm.trans attached)
    exact ⟨routed, left, returned.consumer⟩

theorem Dealing.conclude {notify : Flow ε ρ ω σ → Flow ε ρ ω σ}
    (dealing : Dealing origin blamed index taken routed (some left) false flow)
    (held : origin[index]? = some first) (gives : first.outlet.source.Gives taken true behind)
    (notified : ∀ {flow}, Dealing origin blamed index taken routed (some left) true flow →
      Dealing origin blamed index taken routed (some left) true (notify flow)) :
    let concluded := Delivery.conclude (reach setup index) notify flow
    Patient origin blamed (concluded.updateOutlet index (Outlet.withSource behind)) ∧
      concluded.subscriber.isSome = true := by
  obtain ⟨delivery, source, pulls, idle, _⟩ := dealing.delivery
  let resting := (reach setup index).update (fun delivery => { delivery with busy := false }) flow
  have engaged : Engaged origin blamed index taken routed (some left) resting :=
    dealing.toEngaged.updateOutlet _
  have pullsResting : Pulls index { delivery with busy := false } source resting := pulls.updated _
  intro concluded
  unfold concluded Delivery.conclude
  dsimp only
  rw [show (reach setup index).delivery _ = _ from pullsResting.reached]
  split
  · rename_i nothing
    exact engaged.returned held gives pullsResting rfl idle fun _ => nothing
  · have ending : Dealing origin blamed index taken routed (some left) true
        ((reach setup index).update (fun delivery => { delivery with concluded := true })
          resting) :=
      ⟨engaged.updateOutlet _, dealing.due, _, source, pullsResting.updated _, rfl,
        fun _ => ⟨rfl, rfl⟩⟩
    have told := notified ending
    obtain ⟨now, stale, pullsNow, idleNow, closed⟩ := told.delivery
    obtain ⟨nothing, free⟩ := closed rfl
    exact told.toEngaged.returned held gives pullsNow free idleNow fun _ => nothing

theorem Turning.asked (turning : Turning origin blamed index taken flow)
    (waits : ((reach setup index).delivery flow).isWaiting = true) (cancels : Bool) :
    let begun := Delivery.takeTurn (reach setup index) flow
    let asked := if cancels then (reach setup index).onSourceCancel begun else begun
    asked.stage = .running ∧ Sought asked.log ∧
      ∃ routed left, Dealing origin blamed index taken routed (some left) false asked := by
  obtain ⟨routed, left, engaged⟩ := turning.engaged
  obtain ⟨delivery, source, pulls, asks⟩ := turning.delivery
  rw [pulls.reached] at waits
  obtain ⟨met, running, due, sought⟩ := asks waits
  intro begun asked
  have idle : ({ delivery with demand := delivery.demand.serve } : Delivery).isWaiting = false := by
    unfold Delivery.isWaiting
    rw [met, Bool.or_true]
    rfl
  have dealing : Dealing origin blamed index taken routed (some left) false begun :=
    ⟨engaged.updateOutlet _, due, _, source, pulls.updated _, idle, nofun⟩
  let turned (flow : Flow ε ρ ω σ) : Prop :=
    flow.stage = .running ∧ Sought flow.log ∧
      Dealing origin blamed index taken routed (some left) false flow
  have first : turned begun := ⟨running, sought, dealing⟩
  suffices last : turned asked from ⟨last.1, last.2.1, routed, left, last.2.2⟩
  unfold asked
  split
  · dsimp only [reach]
    split
    · have steady {flow after : Flow ε ρ ω σ} (steady : Steady flow after) (held : turned flow) :
          turned after := by
        obtain ⟨notes, log, others⟩ := steady.log
        refine ⟨steady.stage.trans held.1, ?_, held.2.2.steady steady⟩
        rw [log]
        exact held.2.1.notes others
      exact stop_holds steady first
    · exact first
  · exact first

theorem Turning.handOver {taken : List Bytes} {source : Source} {flow : Flow ε ρ ω σ}
    (held : origin[index]? = some first)
    (gives : first.outlet.source.Gives taken false source)
    (turning : Turning origin blamed index taken flow) :
    let handed := Delivery.handOver (reach setup index) source flow
    Patient origin blamed (handed.2.updateOutlet index (Outlet.withSource handed.1)) ∧
      handed.2.subscriber.isSome = true := by
  by_cases waits : ((reach setup index).delivery flow).isWaiting = true
  · rw [Delivery.handOver_turn waits]
    obtain ⟨running, sought, routed, left, dealing⟩ :=
      turning.asked waits source.next.1.cancels
    dsimp only at running sought dealing ⊢
    split
    · rename_i bytes pulled
      -- What is left of the source gets less with every chunk.
      have shrinks := Source.weight_next_lt pulled
      exact (dealing.chunk running sought bytes).handOver held (gives.chunk pulled)
    · rename_i pulled
      exact dealing.conclude held (gives.final pulled nofun)
        (dealing_robust.act booking_dealing (.transportEnded index) trivial)
    · rename_i error pulled
      exact dealing.conclude held (gives.final pulled nofun)
        (dealing_robust.act booking_dealing (.transportFailed index error) trivial)
  · rw [Bool.not_eq_true] at waits
    rw [Delivery.handOver_idle waits]
    obtain ⟨routed, left, engaged⟩ := turning.engaged
    obtain ⟨delivery, stale, pulls, _⟩ := turning.delivery
    rw [pulls.reached] at waits
    have pullsResting : Pulls index { delivery with busy := false } stale
        (Delivery.rest (reach setup index) flow) := pulls.updated _
    exact (engaged.updateOutlet _).returned held gives pullsResting rfl waits nofun
termination_by source.weight

/-! ### Asking for chunks -/

theorem Patient.steady (steady : Steady flow after) (patient : Patient origin blamed flow) :
    Patient origin blamed after := by
  refine ⟨patient.toObservant.steady steady, fun index attached => ?_⟩
  obtain ⟨routed, left, consumer⟩ := patient.ready index (steady.attachment.symm.trans attached)
  exact ⟨routed, left, steady.consumer consumer⟩

/-- What the subscriber asks for is drawn from the source, if it has not come to its end. -/
theorem Patient.draws (patient : Patient origin blamed flow)
    (bound : flow.subscriber.isSome = true) (going : flow.stage = .running)
    (attached : flow.attachment = some index) :
    let asked := record .chunkRequested { flow with chunkDue := true }
    Patient origin blamed (drawChunk setup asked) ∧
      (drawChunk setup asked).subscriber.isSome = true := by
  obtain ⟨routed, left, consumer⟩ := patient.ready index attached
  obtain ⟨transport, found, _⟩ := Option.bind_eq_some_iff.mp consumer
  obtain ⟨first, held⟩ := patient.known index transport found
  obtain ⟨delivery, behind, ended, pulls, gives, free, idle, last⟩ :=
    patient.settled index first held nofun
  intro asked
  have engages : Engaged origin blamed index (arrivedFrom index flow.log) routed (some left)
      flow := ⟨patient.toObservant.engaged index, attached, bound, rfl, consumer⟩
  have engaged : Engaged origin blamed index (arrivedFrom index flow.log) routed (some left)
      asked := engages.note rfl rfl true
  have sought : Sought asked.log := engages.sought
  have pullsAsked : Pulls index delivery behind asked := pulls
  have drawn : drawChunk setup asked =
      let made := Delivery.request (reach setup index) 1 behind asked
      made.2.updateOutlet index (Outlet.withSource made.1) := by
    unfold drawChunk
    rw [show asked.attachment = some index from attached]
    dsimp only
    rw [show (asked.transport? index).map Transport.outlet = _ from pullsAsked]
  rw [drawn]
  cases closed : delivery.isOver with
  | true =>
      rw [Delivery.request_ignored (.inr (by rw [pullsAsked.reached]; exact closed))]
      exact engaged.returned held gives pullsAsked free idle last
  | false =>
      -- The final signal would have put an end to the delivery.
      have fresh : ended = false := Bool.eq_false_iff.mpr fun final => by
        cases closed.symm.trans (last final)
      subst fresh
      have pullsBooked : Pulls index (delivery.book 1) behind
          ((reach setup index).update (fun delivery => delivery.book 1) asked) :=
        pullsAsked.updated _
      have unused : (delivery.book 1).busy = false := by
        unfold Delivery.book
        rw [closed]
        exact free
      rw [Delivery.request_counts Nat.one_ne_zero (by rw [pullsAsked.reached]; exact closed)]
      dsimp only
      rw [pullsBooked.reached, unused]
      refine Turning.handOver held gives ⟨⟨routed, left, ?_⟩, _, behind, pullsBooked.updated _,
        fun waits => ⟨isMet_book idle waits, going, rfl, sought⟩⟩
      exact (engaged.updateOutlet _).updateOutlet _

/-! ### Everywhere -/

theorem patient_robust : Robust blamed (Patient origin blamed : Flow ε ρ ω σ → Prop) where
  steady := Patient.steady
  joined {flow index outlet} routed free _ patient := by
    have kept := patient.toObservant.keepPending index routed (some [])
    refine ⟨(kept.same _ kept.blameless _ _ (some index)).steady
      (.note rfl _ _ _ _ fun _ => rfl), ?_⟩
    intro other attached
    obtain rfl : index = other := Option.some.inj attached
    exact ⟨routed, [], consumer_keepPending free routed (some [])⟩
  ended final fair patient := ⟨patient.toObservant.same final fair _ _ _, patient.ready⟩
  resolved _ patient := ⟨patient.toObservant.same _ patient.blameless _ _ _, patient.ready⟩
  modest patient := patient.modest

theorem pulling_patient :
    (Flow.ask setup).Upholds (Patient origin blamed : Flow ε ρ ω σ → Prop) := by
  refine patient_robust.asking fun others flow controls bound patient => ?_
  let attended (flow : Flow ε ρ ω σ) : Prop :=
    Patient origin blamed flow ∧ flow.subscriber.isSome = true
  suffices held : attended (controls.foldl (obey ⟨drawChunk setup, others⟩) flow) from held.1
  refine controls_hold (fun steady held => ⟨held.1.steady steady, steady.bound held.2⟩)
    (fun held => ?_) controls ⟨patient, bound⟩
  exact askNext_holds held fun running _ => held.1.draws held.2 running

theorem Patient.initial {interludes : List (List (Event ρ))}
    (pulled : ∀ transport ∈ origin, ∃ source, transport.outlet = .pull {} source)
    (fair : ∀ events ∈ interludes, ∀ event ∈ events, event.Fair blamed) :
    Patient origin blamed
      ({ transports := origin, interludes := interludes } : Flow ε ρ ω σ) where
  awaited index bytes earlier suffix := by cases List.suffix_nil.mp suffix
  subscribed := nofun
  blameless := nofun
  modest := fair
  known _ transport found := ⟨transport, found⟩
  settled index first held _ := by
    obtain ⟨source, outlet⟩ := pulled first (List.mem_of_getElem? held)
    refine ⟨{}, source, false, ?_, ?_, rfl, rfl, nofun⟩
    · exact Option.map_eq_some_iff.mpr ⟨first, held, outlet⟩
    · rw [outlet]
      exact .nothing
  ready := nofun

/-- Over sources that are pulled, in whatever order streams are attached, subscribed to, asked
for events and cancelled, from outside or in hooks: no event ever comes without a subscriber,
so that the stream fails for want of one only if somebody says that it does. For every chunk
that arrives there has been a request since the one before, and by then there was a
subscriber. And a source has given those chunks only that have arrived, so that none has been
taken before. A response is run by two of these acts: it is captured, and the first transport
is attached. -/
theorem run_awaits_subscriber (setup : Setup ε ω σ ρ) (transports : List Transport)
    (interludes : List (List (Event ρ))) (history : List (Event ρ))
    (pulled : ∀ transport ∈ transports, ∃ source, transport.outlet = .pull {} source)
    (unpushed : ∀ events ∈ history :: interludes, ∀ index bytes, .push index bytes ∉ events) :
    let after := run setup { transports := transports, interludes := interludes } history
    (after.stage = .failed .noSubscriber →
      ∃ events ∈ history :: interludes, .fail .noSubscriber ∈ events) ∧
    (∀ index bytes earlier, .chunkArrived index bytes :: earlier <:+ after.log →
      ∃ since asked, earlier = since ++ .chunkRequested :: asked ∧
        (∀ note ∈ since, note.chunk? = none) ∧ ∃ number, .signalled number .subscribed ∈ asked) ∧
    ∀ index transport, transports[index]? = some transport → ∃ delivery left ended,
      (after.transport? index).map Transport.outlet = some (.pull delivery left) ∧
        transport.outlet.source.Gives (arrivedFrom index after.log) ended left := by
  let blamed : Prop := ∃ events ∈ history :: interludes, .fail .noSubscriber ∈ events
  have fair : ∀ events ∈ history :: interludes, ∀ event ∈ events, event.Fair blamed := by
    intro events among event member
    cases event with
    | push index bytes => exact unpushed events among index bytes member
    | fail cause =>
        rintro rfl
        exact ⟨events, among, member⟩
    | _ => trivial
  obtain ⟨outside, inside⟩ := List.forall_mem_cons.mp fair
  have patient : Patient transports blamed
      (run setup { transports := transports, interludes := interludes } history) :=
    holds_foldl history
      (fun event member _ => patient_robust.act pulling_patient event (outside event member))
      (.initial pulled inside)
  refine ⟨patient.blameless, patient.awaited, fun index transport held => ?_⟩
  obtain ⟨delivery, left, ended, pulls, gives, _⟩ := patient.settled index transport held nofun
  exact ⟨delivery, left, ended, pulls, gives⟩

/-- A subscriber that asks for one event once it is attached, which is left to others. -/
private def lax : Setup Unit Unit Unit Unit where
  readEvent := fun _ _ => .ok ()
  subscribers := fun _ =>
    { start := ()
      react := fun
        | .subscribed, _ => { state := (), controls := [.request 1] }
        | _, _ => { state := () } }
  handler := { result := fun _ => .ok () }

private def unheard : Flow Unit Unit Unit Unit :=
  run lax { transports := [⟨.pull {} (.chunks [[0]]), none⟩] } [.attach true 0, .request 3]

private def heard : Flow Unit Unit Unit Unit :=
  run lax { transports := [⟨.pull {} (.chunks [[0]]), none⟩] }
    [.attach true 0, .request 3, .subscribe 0]

/-- The source is not asked before the subscriber has come. -/
theorem run_awaits_subscriber_late :
    (unheard.transport? 0).map Transport.outlet = some (.pull {} (.chunks [[0]])) ∧
      heard.stage = .completed ∧ heard.stage ≠ .failed .noSubscriber ∧
      (∃ left ended, (Source.chunks [[0]]).Gives [[0]] ended left) ∧
      ∃ since asked : List (Entry Unit Unit),
        [.chunkRequested, .demanded 1, .signalled 0 .subscribed, .streamReady] =
          since ++ .chunkRequested :: asked ∧
        (∀ note ∈ since, note.chunk? = none) ∧ ∃ number, .signalled number .subscribed ∈ asked := by
  have log : heard.log = [.completionReported, .signalled 0 .completed, .chunkRequested,
      .chunkFinished, .chunkArrived 0 [0], .chunkRequested, .demanded 1,
      .signalled 0 .subscribed, .streamReady] := by with_unfolding_all rfl
  obtain ⟨blameless, awaited, given⟩ := run_awaits_subscriber lax
    [⟨.pull {} (.chunks [[0]]), none⟩] [] [.attach true 0, .request 3, .subscribe 0]
    (by simp) (by simp)
  change heard.stage = _ → _ at blameless
  change ∀ index bytes earlier, _ :: earlier <:+ heard.log → _ at awaited
  refine ⟨by decide +kernel, by decide +kernel, fun failed => ?_, ?_, ?_⟩
  · obtain ⟨events, among, member⟩ := blameless failed
    obtain rfl := List.mem_singleton.mp among
    simp at member
  · obtain ⟨_, left, ended, _, gives⟩ := given 0 _ rfl
    change Source.Gives (.chunks [[0]]) (arrivedFrom 0 heard.log) ended left at gives
    rw [log] at gives
    exact ⟨left, ended, gives⟩
  · apply awaited 0 [0]
    rw [log]
    exact ⟨[.completionReported, .signalled 0 .completed, .chunkRequested, .chunkFinished], rfl⟩

end Flow

end FramedEvents
