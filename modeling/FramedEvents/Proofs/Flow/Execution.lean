/-
A whole response comes to its reference.

A subscriber that asks for everything at once is handed over everything while it
is being attached: the delivery goes on as long as the source has chunks, and it
ends with the stream. What has been called by then, and the outcome, are what the
reference says of the bytes of all chunks put together.
-/

import FramedEvents.Proofs.Chunk.Supply
import FramedEvents.Proofs.Flow.Listening

namespace FramedEvents.Flow

variable {ε ρ ω σ : Type} {setup : Setup ε ω σ ρ} {ask : Ask ε ρ ω σ}
  {number : Nat} {delivery : Delivery} {source : Source} {pending : Option Bytes}
  {flow after : Flow ε ρ ω σ} {listener : Listener ε ρ σ}
  {told : List (Entry ε ρ) × Except FlowError ω}

/-! ### Chunks -/

def drawing : Delivery := { demand := Demand.zero.add 1, busy := true }

def drawn : Delivery := { busy := true }

variable {left : Bytes}

theorem Follows.keepPending (follows : Follows number delivery source pending flow listener)
    (kept : Option Bytes) :
    Follows number delivery source kept (flow.keepPending 0 true kept) listener := by
  refine ⟨?_, follows.calls⟩
  rw [follows.shape]
  rfl

theorem Follows.takeTurn (setup : Setup ε ω σ ρ)
    (follows : Follows number drawing source pending flow listener) :
    Follows number drawn source pending (Delivery.takeTurn (reach setup 0) flow) listener := by
  refine ⟨?_, follows.calls⟩
  rw [follows.shape]
  rfl

theorem Follows.delivering (follows : Follows number delivery source pending flow listener) :
    (reach setup 0).delivery flow = delivery := by
  rw [follows.shape]
  rfl

theorem Follows.isWaiting_drawing (setup : Setup ε ω σ ρ)
    (follows : Follows number drawing source pending flow listener) :
    ((reach setup 0).delivery flow).isWaiting = true := by
  rw [follows.delivering]
  rfl

theorem Follows.consumer (follows : Follows number delivery source pending flow listener) :
    (flow.transport? 0).bind Transport.consumer = some (.stream true pending) := by
  rw [follows.shape]
  rfl

theorem finishChunk_unmet (setup : Setup ε ω σ ρ)
    (follows : Follows number drawn source pending flow listener)
    (unmet : flow.demand.isMet = false) :
    finishChunk (asking setup bookChunk) flow =
      streaming number drawing source pending listener flow.demand
        (.chunkRequested :: .chunkFinished :: flow.log) := by
  unfold finishChunk
  dsimp only
  rw [if_neg]
  · rw [follows.shape]
    rfl
  · change ¬flow.demand.isMet = true
    rw [unmet]
    exact Bool.false_ne_true

theorem finishChunk_follows (setup : Setup ε ω σ ρ)
    (follows : Follows number drawn source pending flow listener)
    (unmet : flow.demand.isMet = false) :
    Follows number drawing source pending (finishChunk (asking setup bookChunk) flow) listener ∧
      (finishChunk (asking setup bookChunk) flow).demand = flow.demand := by
  rw [finishChunk_unmet setup follows unmet]
  refine ⟨⟨rfl, ?_⟩, rfl⟩
  change (record .chunkRequested (record .chunkFinished flow)).calls = listener.calls
  rw [calls_record_other rfl, calls_record_other rfl]
  exact follows.calls

theorem decodeAll_hears (alone : ask.Alone) (willing : (setup.subscribers number).NeverCancels)
    (follows : Follows number delivery source pending flow listener) (buffer : Bytes) :
    let found := Frame.messages setup.limits buffer
    let fed := Fed.decodeAll setup.limits FlowError.decode (deal setup ask) flow buffer
    ∃ heard verdict, Fed.walk (Listener.hear setup number) listener found.1 = (heard, verdict) ∧
      fed.outcome = Fed.stopped FlowError.decode found.2 verdict ∧
      Follows number delivery source pending fed.state heard ∧
      flow.demand.outstanding ≤
        fed.state.demand.outstanding + found.1.countP Message.isEvent := by
  intro found fed
  obtain ⟨state, outcome⟩ : fed.state = _ ∧ fed.outcome = _ := Fed.decodeAll_eq_walk flow buffer
  obtain ⟨heard, walked, followed, more⟩ := walk_hears alone willing found.1 follows
  rw [state, outcome]
  exact ⟨heard, _, walked, rfl, followed, more⟩

def firstDelivery (flow : Flow ε ρ ω σ) : Delivery :=
  ((flow.transport? 0).map fun at_ : Transport => at_.outlet.delivery).getD {}

theorem isWaiting_cancel (outlet : Outlet) : outlet.cancel.delivery.isWaiting = false := by
  cases outlet with
  | manual requested cancelled => rfl
  | pull delivery source =>
      change (!(delivery.concluded || true || _)) = false
      rw [Bool.or_true, Bool.true_or]
      rfl

theorem isWaiting_cancelTransport (index : Nat) (idle : flow.firstDelivery.isWaiting = false) :
    (cancelTransport index flow).firstDelivery.isWaiting = false := by
  unfold firstDelivery transport? at idle ⊢
  unfold cancelTransport record updateOutlet updateTransport
  dsimp only
  rw [List.getElem?_modify]
  cases first : flow.transports[0]? with
  | none => rfl
  | some transport =>
      rw [first] at idle
      change (if index = 0 then _ else transport : Transport).outlet.delivery.isWaiting = false
      by_cases same : index = 0
      · rw [if_pos same]
        exact isWaiting_cancel transport.outlet
      · rw [if_neg same]
        exact idle

theorem isWaiting_stop (idle : flow.firstDelivery.isWaiting = false) :
    (stop flow).firstDelivery.isWaiting = false := by
  unfold Flow.stop
  split
  · exact idle
  · dsimp only
    split
    · exact idle
    · refine isWaiting_cancelTransport _ ?_
      exact idle

theorem Follows.isWaiting_drawn (follows : Follows number drawn source pending flow listener)
    (transports : after.transports = flow.transports) : after.firstDelivery.isWaiting = false := by
  unfold firstDelivery transport?
  rw [transports, follows.shape]
  rfl

variable {bytes : Bytes} {heard : Listener ε ρ σ} {verdict : Except FlowError Unit}

theorem decoding_hears (willing : (setup.subscribers number).NeverCancels)
    (follows : Follows number drawn source (some left) flow listener)
    (walked : Fed.walk (Listener.hear setup number) listener
      (Frame.messages setup.limits (left ++ bytes)).1 = (heard, verdict)) :
    let fed := Fed.decodeAll setup.limits FlowError.decode (deal setup (asking setup bookChunk))
      (record (.chunkArrived 0 bytes) (flow.keepPending 0 true none)) (left ++ bytes)
    fed.outcome =
        Fed.stopped FlowError.decode (Frame.messages setup.limits (left ++ bytes)).2 verdict ∧
      Follows number drawn source (some fed.pending)
        (fed.state.keepPending 0 true (some fed.pending)) heard ∧
      flow.demand.outstanding ≤ fed.state.demand.outstanding +
        (Frame.messages setup.limits (left ++ bytes)).1.countP Message.isEvent := by
  have arrived : Follows number drawn source none
      (record (.chunkArrived 0 bytes) (flow.keepPending 0 true none)) listener :=
    (follows.keepPending none).note rfl
  obtain ⟨_, _, same, outcome, followed, more⟩ :=
    decodeAll_hears (asking_alone bookChunk) willing arrived (left ++ bytes)
  rw [walked] at same
  cases same
  exact ⟨outcome, followed.keepPending _, more⟩

theorem consume_fails (willing : (setup.subscribers number).NeverCancels)
    (follows : Follows number drawn source (some left) flow listener)
    (walked : Fed.walk (Listener.hear setup number) listener
      (Frame.messages setup.limits (left ++ bytes)).1 = (heard, verdict))
    {cause : FlowError}
    (failure : Listener.failure? verdict (Frame.messages setup.limits (left ++ bytes)).2 none =
      some cause) :
    let after := consume setup (asking setup bookChunk) 0 true left bytes flow
    Ended (heard.finish setup number (some cause)) after ∧
      after.firstDelivery.isWaiting = false := by
  obtain ⟨outcome, kept, _⟩ := decoding_hears willing follows walked
  rw [Listener.stopped_eq, failure] at outcome
  obtain ⟨ended, transports⟩ := fail_ends (asking_alone bookChunk) willing kept cause
  have idle := kept.isWaiting_drawn transports
  unfold consume
  rw [if_neg follows.going]
  dsimp only
  rw [outcome]
  exact ⟨ended.stop, isWaiting_stop idle⟩

theorem consume_finishes (willing : (setup.subscribers number).NeverCancels)
    (follows : Follows number drawn source (some left) flow listener)
    (walked : Fed.walk (Listener.hear setup number) listener
      (Frame.messages setup.limits (left ++ bytes)).1 = (heard, .ok ()))
    {behind : Bytes} (rest : (Frame.messages setup.limits (left ++ bytes)).2 = .ok behind) :
    ∃ decoded : Flow ε ρ ω σ, Follows number drawn source (some behind) decoded heard ∧
      flow.demand.outstanding ≤ decoded.demand.outstanding +
        (Frame.messages setup.limits (left ++ bytes)).1.countP Message.isEvent ∧
      decoded = (Fed.walk (deal setup (asking setup bookChunk))
        (record (.chunkArrived 0 bytes) (flow.keepPending 0 true none))
        (Frame.messages setup.limits (left ++ bytes)).1).1.keepPending 0 true (some behind) ∧
      consume setup (asking setup bookChunk) 0 true left bytes flow =
        finishChunk (asking setup bookChunk) decoded := by
  obtain ⟨outcome, kept, more⟩ := decoding_hears willing follows walked
  let arrived := record (.chunkArrived 0 bytes) (flow.keepPending 0 true none)
  have state : (Fed.decodeAll setup.limits FlowError.decode (deal setup (asking setup bookChunk))
      arrived (left ++ bytes)).state = _ := (Fed.decodeAll_eq_walk arrived (left ++ bytes)).1
  unfold consume
  rw [if_neg follows.going, ← state]
  dsimp only
  generalize decoded : Fed.decodeAll setup.limits FlowError.decode
    (deal setup (asking setup bookChunk))
    (record (.chunkArrived 0 bytes) (flow.keepPending 0 true none)) (left ++ bytes) = fed
    at outcome kept more ⊢
  obtain ⟨after, verdict, pending⟩ := fed
  change verdict = _ at outcome
  rw [rest] at outcome
  subst outcome
  have same := Fed.pending_of_ok decoded
  rw [rest] at same
  cases same
  exact ⟨_, kept, more, rfl, rfl⟩

/-- A chunk without a failure is followed by a request for the next one, as long as
demand is left. -/
theorem consume_follows (willing : (setup.subscribers number).NeverCancels)
    (follows : Follows number drawn source (some left) flow listener)
    (walked : Fed.walk (Listener.hear setup number) listener
      (Frame.messages setup.limits (left ++ bytes)).1 = (heard, .ok ()))
    {behind : Bytes} (rest : (Frame.messages setup.limits (left ++ bytes)).2 = .ok behind)
    (enough : (Frame.messages setup.limits (left ++ bytes)).1.countP Message.isEvent <
      flow.demand.outstanding) :
    let after := consume setup (asking setup bookChunk) 0 true left bytes flow
    Follows number drawing source (some behind) after heard ∧
      flow.demand.outstanding ≤ after.demand.outstanding +
        (Frame.messages setup.limits (left ++ bytes)).1.countP Message.isEvent := by
  obtain ⟨decoded, kept, more, _, finished⟩ := consume_finishes willing follows walked rest
  have unmet : decoded.demand.isMet = false := by
    have positive : decoded.demand.outstanding ≠ 0 := by omega
    exact beq_eq_false_iff_ne.mpr positive
  obtain ⟨next, demand⟩ := finishChunk_follows setup kept unmet
  rw [finished]
  refine ⟨next, ?_⟩
  rw [demand]
  exact more

/-! ### Deliveries -/

theorem chunk_eq_consume (follows : Follows number delivery source (some left) flow listener)
    (bytes : Bytes) : chunk setup ask 0 bytes flow = consume setup ask 0 true left bytes flow := by
  unfold chunk
  rw [follows.consumer]

theorem transportEnded_ends (alone : ask.Alone) (willing : (setup.subscribers number).NeverCancels)
    (follows : Follows number delivery source pending flow listener) :
    Ended (listener.finish setup number none) (transportEnded setup ask 0 flow) := by
  unfold transportEnded
  rw [follows.consumer]
  exact complete_ends alone willing follows

theorem transportFailed_ends (alone : ask.Alone)
    (willing : (setup.subscribers number).NeverCancels)
    (follows : Follows number delivery source pending flow listener) (error : TransportError) :
    Ended (listener.finish setup number (some (.transport error)))
      (transportFailed setup ask 0 error flow) := by
  unfold transportFailed
  rw [follows.consumer]
  exact (fail_ends alone willing follows (.transport error)).1

theorem conclude_notifies (follows : Follows number drawn source pending flow listener)
    (notify : Flow ε ρ ω σ → Flow ε ρ ω σ) :
    ∃ delivery, ∃ concluded : Flow ε ρ ω σ,
      Follows number delivery source pending concluded listener ∧ concluded.log = flow.log ∧
      Delivery.conclude (reach setup 0) notify flow = notify concluded := by
  let ready := { drawn with busy := false }
  have idle : Follows number ready source pending
      ((reach setup 0).update (fun delivery => { delivery with busy := false }) flow) listener := by
    refine ⟨?_, follows.calls⟩
    rw [follows.shape]
    rfl
  have concluded : Follows number { ready with concluded := true } source pending
      ((reach setup 0).update (fun delivery => { delivery with concluded := true })
        ((reach setup 0).update (fun delivery => { delivery with busy := false }) flow))
      listener := by
    refine ⟨?_, idle.calls⟩
    rw [idle.shape]
    rfl
  refine ⟨_, _, concluded, rfl, ?_⟩
  unfold Delivery.conclude
  dsimp only
  rw [idle.delivering, if_neg]
  exact Bool.false_ne_true

theorem conclude_ends (follows : Follows number drawn source pending flow listener)
    {notify : Flow ε ρ ω σ → Flow ε ρ ω σ}
    (notified : ∀ {delivery flow}, Follows number delivery source pending flow listener →
      Ended told (notify flow)) :
    Ended told (Delivery.conclude (reach setup 0) notify flow) := by
  obtain ⟨delivery, concluded, reached, _, same⟩ := conclude_notifies follows notify
  rw [same]
  exact notified reached

theorem handOver_ends (willing : (setup.subscribers number).NeverCancels) {held : Source}
    {chunks : List Bytes} {final : Option TransportError}
    (supplies : source.Supplies chunks final)
    (follows : Follows number drawing held (some left) flow listener)
    (waits : Frame.decode setup.limits left = (.ok none, left))
    (enough : (Frame.messages setup.limits (left ++ chunks.flatten)).1.countP Message.isEvent <
      flow.demand.outstanding) :
    Ended (listener.hearAll setup number (left ++ chunks.flatten) final)
      (Delivery.handOver (reach setup 0) source flow).2 := by
  have alone : (asking setup bookChunk : Ask ε ρ ω σ).Alone := asking_alone bookChunk
  -- Every chunk leaves demand for all events that are still to come.
  induction supplies generalizing flow listener left with
  | ended step =>
      have waiting := follows.isWaiting_drawing setup
      rw [Delivery.handOver_ended waiting step, List.flatten_nil, List.append_nil,
        Listener.hearAll_waiting waits]
      exact conclude_ends (follows.takeTurn setup) fun concluded =>
        transportEnded_ends alone willing concluded
  | failed error step =>
      have waiting := follows.isWaiting_drawing setup
      rw [Delivery.handOver_failed waiting step, List.flatten_nil, List.append_nil,
        Listener.hearAll_waiting waits]
      exact conclude_ends (follows.takeTurn setup) fun concluded =>
        transportFailed_ends alone willing concluded error
  | @chunk source chunks final bytes step later ih =>
      have waiting := follows.isWaiting_drawing setup
      have turned := follows.takeTurn setup
      have consumed : (reach setup 0).onChunk bytes (Delivery.takeTurn (reach setup 0) flow) =
          consume setup (asking setup bookChunk) 0 true left bytes
            (Delivery.takeTurn (reach setup 0) flow) := chunk_eq_consume turned bytes
      rw [Delivery.handOver_chunk waiting step, consumed]
      rw [List.flatten_cons, ← List.append_assoc] at enough ⊢
      rcases walked : Fed.walk (Listener.hear setup number) listener
        (Frame.messages setup.limits (left ++ bytes)).1 with ⟨heard, verdict⟩
      cases failure : Listener.failure? verdict
          (Frame.messages setup.limits (left ++ bytes)).2 none with
      | some cause =>
          obtain ⟨ended, idle⟩ := consume_fails willing turned walked failure
          rw [Delivery.handOver_idle idle, Listener.hearAll_of_failure walked failure]
          exact ended.updateTransport _ _
      | none =>
          obtain ⟨rfl, behind, rest⟩ := Listener.failure?_eq_none failure
          have counted : (Frame.messages setup.limits (left ++ bytes ++ chunks.flatten)).1 =
              (Frame.messages setup.limits (left ++ bytes)).1 ++
                (Frame.messages setup.limits (behind ++ chunks.flatten)).1 := by
            rw [Frame.messages_append, ← Prod.eta (Frame.messages setup.limits (left ++ bytes)),
              rest]
          rw [counted, List.countP_append] at enough
          have front : (Frame.messages setup.limits (left ++ bytes)).1.countP Message.isEvent <
              (Delivery.takeTurn (reach setup 0) flow).demand.outstanding :=
            Nat.lt_of_le_of_lt (Nat.le_add_right _ _) enough
          obtain ⟨next, more⟩ := consume_follows willing turned walked rest front
          rw [Listener.hearAll_append walked rest]
          refine ih next (Frame.decode_pending rest) ?_
          change flow.demand.outstanding ≤ _ at more
          omega

/-! ### Executions -/

/-- The stream as its subscriber has just been told of it, and asks for everything. -/
def attending (setup : Setup ε ω σ ρ) (number : Nat) (response : ρ) (source : Source) :
    Flow ε ρ ω σ :=
  informed setup .subscribed number (setup.subscribers number).start
    (record .streamReady
      { response := some response
        subscriber := some (number, (setup.subscribers number).start)
        attachment := some 0
        transports := [⟨.pull {} source, some (.stream true (some []))⟩] })

theorem request_asks {count : Nat} (counts : count ≠ 0) (wanted : flow.cancelled = false)
    (running : flow.stage = .running) (held : flow.attachment = some 0)
    (free : flow.chunkDue = false) :
    request ask count flow = ask.forChunk (record .chunkRequested
      (record (.demanded count)
        { flow with demand := flow.demand.add count, chunkDue := true })) := by
  have counted : ¬(count = 0 || flow.cancelled) = true := by
    rw [wanted, Bool.or_false, decide_eq_true_eq]
    exact counts
  have possible : ¬(flow.cancelled || flow.stage.isDone || flow.attachment.isNone ||
      flow.chunkDue) = true := by
    rw [wanted, running, held, free]
    exact Bool.false_ne_true
  unfold request askNext
  rw [if_neg counted]
  exact if_neg possible

theorem request_ends (response : ρ) (willing : (setup.subscribers number).NeverCancels)
    {chunks : List Bytes} {final : Option TransportError} (supplies : source.Supplies chunks final)
    (few : (Frame.messages setup.limits chunks.flatten).1.countP Message.isEvent < mostDemand) :
    Ended (reference setup number response chunks.flatten final)
      (request (Flow.ask setup) mostDemand (attending setup number response source)) := by
  let log : List (Entry ε ρ) := [.chunkRequested, .demanded mostDemand,
    .signalled number .subscribed, .streamReady]
  let asked : Flow ε ρ ω σ := streaming number drawing source (some [])
    (Listener.attach setup number response) (Demand.zero.add mostDemand) log
  have delivers : request (Flow.ask setup) mostDemand (attending setup number response source) =
      (Delivery.handOver (reach setup 0) source asked).2.updateOutlet 0
        (Outlet.withSource (Delivery.handOver (reach setup 0) source asked).1) := by
    rw [request_asks (by decide) rfl rfl rfl rfl]
    rfl
  have follows : Follows number drawing source (some []) asked
      (Listener.attach setup number response) := ⟨rfl, rfl⟩
  have everything : (Demand.zero.add mostDemand).outstanding = mostDemand := by
    rw [Demand.outstanding_add]
    exact (congrArg (min · mostDemand) (Nat.zero_add _)).trans (Nat.min_self _)
  have enough : (Frame.messages setup.limits ([] ++ chunks.flatten)).1.countP Message.isEvent <
      asked.demand.outstanding := by
    change _ < (Demand.zero.add mostDemand).outstanding
    rw [everything]
    exact few
  rw [delivers]
  exact (handOver_ends willing supplies follows Frame.decode_nil enough).updateTransport 0 _

theorem start_eq (setup : Setup ε ω σ ρ) (response : ρ) {others : List Nat}
    (subscribes : setup.handler.onStream = number :: others) :
    start setup response { transports := [⟨.pull {} source, none⟩] } =
      (.ok (), (Flow.ask setup).others
        (others.foldl (handlerSubscribe setup (Flow.ask setup))
          ((Flow.ask setup).others (((setup.subscribers number).react .subscribed
            (setup.subscribers number).start).controls.foldl (obey (Flow.ask setup))
              (attending setup number response source))))) := by
  have subscribed : handlerSubscribe setup (Flow.ask setup)
      (record .streamReady
        { response := some response, attachment := some 0
          transports := [⟨.pull {} source, some (.stream true (some []))⟩] }) number =
      (Flow.ask setup).others (((setup.subscribers number).react .subscribed
        (setup.subscribers number).start).controls.foldl (obey (Flow.ask setup))
          (attending setup number response source)) := rfl
  change (_, (Flow.ask setup).others (setup.handler.onStream.foldl
    (handlerSubscribe setup (Flow.ask setup)) _)) = _
  rw [subscribes, List.foldl_cons]
  exact congrArg (fun flow => (_, (Flow.ask setup).others
    (others.foldl (handlerSubscribe setup (Flow.ask setup)) flow))) subscribed

/-- A subscriber that asks for everything is handed over everything, and the handler
told of the end, before the response has been started. -/
theorem start_eq_reference (setup : Setup ε ω σ ρ) (response : ρ) {number : Nat} {others : List Nat}
    {more : List Control} (subscribes : setup.handler.onStream = number :: others)
    (eager : ((setup.subscribers number).react .subscribed
      (setup.subscribers number).start).controls = .request mostDemand :: more)
    (willing : (setup.subscribers number).NeverCancels) {source : Source} {chunks : List Bytes}
    {final : Option TransportError} (supplies : source.Supplies chunks final)
    (few : (Frame.messages setup.limits chunks.flatten).1.countP Message.isEvent < mostDemand) :
    let after := start setup response { transports := [⟨.pull {} source, none⟩] }
    let expected := reference setup number response chunks.flatten final
    after.1 = .ok () ∧ after.2.calls = expected.1 ∧ after.2.outcome = .ready expected.2 := by
  intro after expected
  have alone : (Flow.ask setup : Ask ε ρ ω σ).Alone := asking_alone _
  have requested : Ended expected
      (request (Flow.ask setup) mostDemand (attending setup number response source)) :=
    request_ends response willing supplies few
  have laterWilling : .cancel ∉ more := by
    intro member
    refine willing .subscribed (setup.subscribers number).start ?_
    rw [eager]
    exact List.mem_cons_of_mem _ member
  have obeyed : Ended expected (more.foldl (obey (Flow.ask setup)) _) :=
    requested.demands (controls_demands more laterWilling requested.resting)
  have refusing : Ended expected (others.foldl (handlerSubscribe setup (Flow.ask setup)) _) :=
    obeyed.demands (handlerSubscribes_demands others obeyed.taken)
  have started : after = _ := start_eq setup response subscribes
  rw [eager, List.foldl_cons] at started
  change after = (_, (Flow.ask setup).others (others.foldl _
    ((Flow.ask setup).others (more.foldl _ (request (Flow.ask setup) mostDemand _))))) at started
  rw [started, alone _ obeyed.quiet, alone _ refusing.quiet]
  exact ⟨rfl, refusing.calls, refusing.outcome⟩

def tick : Message :=
  ⟨[⟨":message-type", .string "event"⟩, ⟨":event-type", .string "tick"⟩], [7]⟩

def tickFrame : Bytes :=
  [0, 0, 0, 58, 0, 0, 0, 41, 204, 1, 231, 34, 13, 58, 109, 101, 115, 115, 97, 103, 101, 45, 116,
    121, 112, 101, 7, 0, 5, 101, 118, 101, 110, 116, 11, 58, 101, 118, 101, 110, 116, 45, 116, 121,
    112, 101, 7, 0, 4, 116, 105, 99, 107, 7, 79, 7, 99, 9]

theorem decode_tickFrame (rest : Bytes) :
    Frame.decode {} (tickFrame ++ rest) = (.ok (some tick), rest) := by
  have encoded : Frame.encode {} tick = .ok tickFrame := by decide +kernel
  exact Frame.decode_eq_iff.mpr (Frame.Reading.of_encode encoded rest)

def zeros : Bytes := [0, 0, 0, 0, 0, 0, 0, 0, 0, 0, 0, 0]

theorem decode_zeros :
    Frame.decode {} zeros = (.error (.preludeChecksum 0 1696784233), zeros) := by
  have computed : Checksum.crc32 [0, 0, 0, 0, 0, 0, 0, 0] = 1696784233 := by decide +kernel
  have wrong : [0, 0, 0, 0] ≠ Frame.checksum [0, 0, 0, 0, 0, 0, 0, 0] := by decide +kernel
  rw [← computed]
  exact Frame.decode_unchecked rfl rfl wrong []

theorem messages_tickFrame (rest : Bytes) :
    Frame.messages {} (tickFrame ++ rest) =
      (tick :: (Frame.messages {} rest).1, (Frame.messages {} rest).2) :=
  Frame.messages_message (decode_tickFrame rest)

theorem messages_oneTick : Frame.messages {} tickFrame = ([tick], .ok []) := by
  have found := messages_tickFrame []
  rw [List.append_nil, Frame.messages_nil] at found
  exact found

theorem messages_twoTicks : Frame.messages {} (tickFrame ++ tickFrame) = ([tick, tick], .ok []) := by
  rw [messages_tickFrame, messages_oneTick]

def greedy : Setup String Nat Unit where
  readEvent := fun _ _ => .ok "tick"
  subscribers := fun _ =>
    { start := ()
      react := fun
        | .subscribed, _ => { state := (), controls := [.request mostDemand] }
        | _, _ => { state := () } }
  handler := { onStream := [0], result := fun given => .ok given.length }

theorem greedy_willing : (greedy.subscribers 0).NeverCancels := by
  intro signal state member
  cases signal with
  | subscribed => exact Control.noConfusion (List.mem_singleton.mp member)
  | next event => cases member
  | failed cause => cases member
  | completed => cases member

/-- One event, its frame cut in two, and an empty chunk. -/
theorem start_eq_reference_tick :
    let after := start greedy "hello"
      { transports := [⟨.pull {} (.chunks [tickFrame.take 9, [], tickFrame.drop 9]), none⟩] }
    after.2.calls = [.streamReady, .signalled 0 .subscribed, .signalled 0 (.next "tick"),
        .signalled 0 .completed, .completionReported] ∧
      after.2.outcome = .ready (.ok 1) := by
  have found : Frame.messages greedy.limits tickFrame = ([tick], .ok []) := messages_oneTick
  have few : (Frame.messages greedy.limits tickFrame).1.countP Message.isEvent < mostDemand := by
    rw [found]
    decide
  have expected : reference greedy 0 "hello" tickFrame none =
      ([.streamReady, .signalled 0 .subscribed, .signalled 0 (.next "tick"),
        .signalled 0 .completed, .completionReported], .ok 1) := by
    unfold reference Listener.hearAll
    rw [found]
    rfl
  obtain ⟨_, calls, outcome⟩ := start_eq_reference greedy "hello" rfl rfl greedy_willing
    (Source.supplies_chunks [tickFrame.take 9, [], tickFrame.drop 9]) few
  exact ⟨calls.trans (congrArg Prod.fst expected),
    outcome.trans (congrArg (Outcome.ready ∘ Prod.snd) expected)⟩

end FramedEvents.Flow
