/-
How many bytes a stream keeps between chunks.

A chunk is decoded as far as it goes. Either its messages have all been accepted, and what is
left waits for the rest of a frame, or the stream ends. So as long as a stream is running it
keeps few bytes for each of its transports, whoever feeds it, and whatever is done in its
hooks.
-/

import FramedEvents.Proofs.Flow.Upholding

namespace FramedEvents.Flow

variable {ε ρ ω σ : Type} {setup : Setup ε ω σ ρ} {ask : Ask ε ρ ω σ}
  {flow after : Flow ε ρ ω σ} {limits : Limits}

/-! ### What is kept for the transports -/

/-- While the stream is running, few bytes are pending for any of its transports. -/
def Slim (limits : Limits) (flow : Flow ε ρ ω σ) : Prop :=
  flow.stage = .running → ∀ index routed pending,
    (flow.transport? index).bind Transport.consumer = some (.stream routed (some pending)) →
      pending.length ≤ limits.mostPending

theorem Slim.of_isDone (done : flow.stage.isDone = true) : Slim limits flow := by
  intro running
  exact absurd done (not_isDone running)

theorem Slim.of_same (slim : Slim limits flow) (stage : after.stage = flow.stage)
    (transports : after.transports = flow.transports) : Slim limits after := by
  unfold Slim transport?
  rw [stage, transports]
  exact slim

theorem Slim.steady (steady : Steady flow after) (slim : Slim limits flow) : Slim limits after := by
  intro running index routed pending kept
  have turned := steady.transports index
  have before := slim (steady.stage.symm.trans running) index
  generalize flow.transport? index = first at turned before
  generalize after.transport? index = last at turned kept
  cases turned with
  | none => cases kept
  | some turned =>
      cases turned with
      | same transport => exact before routed pending kept
      | stopped transport => exact before routed pending kept
      | declined outlet declinedRouted =>
          cases kept
          exact Nat.zero_le _

theorem Slim.updateOutlet (slim : Slim limits flow) (index : Nat) (change : Outlet → Outlet) :
    Slim limits (flow.updateOutlet index change) := by
  intro running other routed pending kept
  rw [consumer_updateOutlet] at kept
  exact slim running other routed pending kept

theorem Slim.keepPending (slim : Slim limits flow) (index : Nat) (routed : Bool)
    {pending : Option Bytes}
    (few : flow.stage = .running → ∀ left, pending = some left →
      left.length ≤ limits.mostPending) :
    Slim limits (flow.keepPending index routed pending) := by
  intro running other otherRouted left kept
  by_cases here : index = other
  · subst here
    cases found : flow.transport? index with
    | none =>
        unfold Flow.keepPending at kept
        rw [transport?_update_self, found] at kept
        cases kept
    | some transport =>
        rw [consumer_keepPending found] at kept
        cases kept
        exact few running left rfl
  · unfold Flow.keepPending at kept
    rw [transport?_update_other here] at kept
    exact slim running other otherRouted left kept

/-! ### What a stream does -/

theorem Slim.askNext (draws : ∀ {flow}, Slim limits flow → Slim limits (ask.forChunk flow))
    (slim : Slim limits flow) : Slim limits (askNext ask flow) :=
  askNext_holds slim fun _ _ _ => draws (slim.of_same rfl rfl)

theorem Slim.resolve (result : Except FlowError ω) (slim : Slim limits flow) :
    Slim limits (flow.resolve result) :=
  slim.of_same rfl rfl

/-! ### The end and the chunks -/

/-- Those whom a stream turns to keep it slim. -/
structure Ask.Spares (limits : Limits) (ask : Ask ε ρ ω σ) : Prop where
  draws : ∀ {flow}, Slim limits flow → Slim limits (ask.forChunk flow)
  others : ∀ {flow}, Slim limits flow → Slim limits (ask.others flow)

theorem Ask.Spares.upholds (spares : ask.Spares limits) : ask.Upholds (Slim limits) where
  steady := Slim.steady
  joined {_ index _} routed _ _ slim := by
    have kept : Slim limits (Flow.keepPending index routed (some []) _) :=
      slim.keepPending index routed fun _ left same => by
        cases same
        exact Nat.zero_le _
    exact kept.of_same rfl rfl
  controls controls _ := controls_hold Slim.steady (Slim.askNext spares.draws) controls
  others := spares.others

theorem Ask.Spares.fail (spares : ask.Spares limits) (cause : FlowError) (flow : Flow ε ρ ω σ) :
    Slim limits (fail setup ask cause flow) :=
  spares.upholds.fail Slim.resolve cause (fun _ => .of_isDone rfl) .of_isDone

theorem Ask.Spares.chunk (spares : ask.Spares setup.limits) (index : Nat) (bytes : Bytes)
    (slim : Slim setup.limits flow) : Slim setup.limits (chunk setup ask index bytes flow) := by
  refine spares.upholds.chunk index bytes ?_ ?_ ?_ slim
  · intro routed slim
    have taken : Slim setup.limits (flow.keepPending index routed none) :=
      slim.keepPending index routed fun _ left impossible => by cases impossible
    exact taken.of_same rfl rfl
  · intro decoded routed left waits slim
    have kept : Slim setup.limits (decoded.keepPending index routed (some left)) :=
      slim.keepPending index routed fun _ other same => by
        cases same
        exact Frame.length_le_of_waiting waits
    exact finishChunk_holds (kept.of_same rfl rfl)
      (Slim.askNext spares.draws (kept.of_same rfl rfl))
  · intro decoded routed left cause _
    exact spares.fail cause _

theorem Ask.Spares.act (spares : ask.Spares setup.limits) (event : Event ρ)
    (slim : Slim setup.limits flow) : Slim setup.limits (act setup ask flow event) := by
  cases event with
  | push index bytes => exact spares.chunk index bytes slim
  | transportEnded index =>
      exact spares.upholds.transportEnded Slim.resolve index (fun _ => .of_isDone rfl) slim
  | transportFailed index error => exact transportFailed_holds (spares.fail _ flow) slim
  | fail cause => exact spares.fail cause flow
  | complete => exact spares.upholds.complete (fun _ => .of_isDone rfl) .of_isDone
  | _ => exact spares.upholds.act rfl slim

/-! ### Whoever serves a stream -/

theorem asking_spares {forChunk : Flow ε ρ ω σ → Flow ε ρ ω σ}
    (draws : ∀ {flow}, Slim setup.limits flow → Slim setup.limits (forChunk flow)) :
    (asking setup forChunk).Spares setup.limits where
  draws := draws
  others {flow} := by
    have anything {flow : Flow ε ρ ω σ} (_ : Slim setup.limits flow) :
        ∀ events ∈ flow.interludes, ∀ event ∈ events, (fun _ : Event ρ => True) event :=
      fun _ _ _ _ => trivial
    refine interlude_holds Slim.steady anything ?_ flow.interludes.length
    exact fun depth deeper event _ flow slim => Ask.Spares.act ⟨draws, deeper⟩ event slim

theorem bookChunk_slim (slim : Slim limits flow) : Slim limits (bookChunk flow) := by
  unfold bookChunk
  split
  · exact slim
  · exact slim.updateOutlet _ _

theorem drawChunk_slim (slim : Slim setup.limits flow) :
    Slim setup.limits (drawChunk setup flow) := by
  have booking : (asking setup bookChunk : Ask ε ρ ω σ).Spares setup.limits :=
    asking_spares bookChunk_slim
  unfold drawChunk
  split
  · exact slim
  · rename_i index _
    split
    · rename_i delivery source _
      suffices delivered : Slim setup.limits
          (Delivery.request (reach setup index) 1 source flow).2 from
        delivered.updateOutlet index _
      refine request_holds Slim.steady ?_ ?_ ?_ ?_ 1 source slim
      · exact fun made _ slim => slim.updateOutlet index _
      · exact fun bytes _ slim => booking.chunk index bytes slim
      · exact fun error flow slim => transportFailed_holds (booking.fail _ flow) slim
      · exact fun _ slim => booking.act (.transportEnded index) slim
    · exact bookChunk_slim slim

theorem Serving.slim {forChunk : Flow ε ρ ω σ → Flow ε ρ ω σ} (serving : Serving setup forChunk)
    (slim : Slim setup.limits flow) : Slim setup.limits (forChunk flow) := by
  induction serving generalizing flow with
  | notes => exact bookChunk_slim slim
  | pulls => exact drawChunk_slim slim
  | acts meanwhile reply ih =>
      exact holds_foldl (reply flow) (fun event _ _ => (asking_spares ih).act event)
        (bookChunk_slim slim)

theorem Slim.initial {transports : List Transport} (interludes : List (List (Event ρ)))
    (unused : ∀ transport ∈ transports, transport.consumer.map Consumer.isStream ≠ some true) :
    Slim limits ({ transports := transports, interludes := interludes } : Flow ε ρ ω σ) := by
  intro _ index routed pending kept
  obtain ⟨transport, found, consumed⟩ := Option.bind_eq_some_iff.mp kept
  exact absurd (congrArg (Option.map Consumer.isStream) consumed)
    (unused transport (List.mem_of_getElem? found))

/-! ### Everywhere -/

/-- No more bytes are pending than the limits allow. A decoder keeps no more after a feed that
has not failed, whatever it had kept before. A reader has no more whenever it calls its
stream, whatever it is asked for. A running stream keeps no more once a chunk has been
decoded, and at any time between two things that are done to it, for none of its transports,
whoever serves it and whatever is done in its hooks. -/
theorem pending_le_mostPending (limits : Limits) :
    (∀ {σ ε : Type} (pending bytes : Bytes) (lift : FrameError → ε)
        (consume : σ → Message → σ × Except ε Unit) (state : σ),
      let decoder : Decoder := { limits := limits, pending := pending }
      let fed := decoder.feed bytes lift consume state
      fed.1.outcome = .ok () → fed.2.pending.length ≤ max 11 (limits.message - 1)) ∧
    (∀ (script : ReadScript) (pending : Bytes) (calls : List Reader.Call),
      let start : Reader.Recorded :=
        { reader := { script := script, pending := pending, limits := limits } }
      start.reader.run calls = ((start.run calls).1, (start.run calls).2.reader) ∧
        ∀ fetch ∈ (start.run calls).2.fetches,
          fetch.pending.length ≤ max 11 (limits.message - 1)) ∧
    (∀ {ε ρ ω σ : Type} (setup : Setup ε ω σ ρ), setup.limits = limits →
      ∀ (ask : Ask ε ρ ω σ) (index : Nat) (routed : Bool) (pending bytes : Bytes)
        (flow : Flow ε ρ ω σ), flow.stage = .running →
        let arrived := record (.chunkArrived index bytes) (flow.keepPending index routed none)
        let fed := Fed.decodeAll limits .decode (deal setup ask) arrived (pending ++ bytes)
        let kept := fed.state.keepPending index routed (some fed.pending)
        fed.outcome = .ok () →
          fed.pending.length ≤ max 11 (limits.message - 1) ∧
            consume setup ask index routed pending bytes flow = finishChunk ask kept) ∧
    ∀ {ε ρ ω σ : Type} (setup : Setup ε ω σ ρ), setup.limits = limits →
      ∀ {forChunk : Flow ε ρ ω σ → Flow ε ρ ω σ}, Serving setup forChunk →
        ∀ (transports : List Transport) (interludes : List (List (Event ρ)))
          (history : List (Event ρ)),
          (∀ transport ∈ transports,
            transport.consumer.map Consumer.isStream ≠ some true) →
          let after := history.foldl (act setup (asking setup forChunk))
            { transports := transports, interludes := interludes }
          after.stage = .running → ∀ index routed pending,
            (after.transport? index).bind Transport.consumer =
              some (.stream routed (some pending)) →
            pending.length ≤ max 11 (limits.message - 1) := by
  refine ⟨?_, ?_, ?_, ?_⟩
  · intro σ ε pending bytes lift consume state
    let decoder : Decoder := { limits := limits, pending := pending }
    exact decoder.length_pending_le bytes lift consume state
  · intro script pending calls start
    exact ⟨start.run_eq calls, fun fetch made => start.reader.length_pending_le calls made⟩
  · rintro ε ρ ω σ setup rfl ask index routed pending bytes flow running arrived fed kept
    intro accepted
    refine ⟨Frame.length_le_of_waiting (Fed.decode_waits accepted), ?_⟩
    unfold consume
    rw [if_neg (not_isDone running)]
    dsimp only
    rw [show (Fed.decodeAll _ _ _ _ _).outcome = _ from accepted]
  · rintro ε ρ ω σ setup rfl forChunk serving transports interludes history unused after
    have initial : Slim setup.limits
        ({ transports := transports, interludes := interludes } : Flow ε ρ ω σ) :=
      .initial interludes unused
    exact holds_foldl history (fun event _ _ => (asking_spares serving.slim).act event) initial

/-- Fifteen bytes of a frame of sixteen, where no longer one is admitted: a decoder keeps all
of them, and so does a stream, which runs on. -/
theorem pending_le_mostPending_reached :
    let limits : Limits := { message := 16 }
    let front : Bytes := Frame.opening 16 0 ++ [0, 0, 0]
    let setup : Setup Unit Unit Unit Unit :=
      { limits := limits
        readEvent := fun _ _ => .ok ()
        subscribers := fun _ => { start := (), react := fun _ _ => { state := () } }
        handler := { result := fun _ => .ok () } }
    let fed := Decoder.feed { limits := limits } front id
      (fun seen message => (seen ++ [message], (.ok () : Except FrameError Unit))) []
    let after : Flow Unit Unit Unit Unit :=
      [Event.attach true 0, .push 0 front].foldl (act setup (asking setup bookChunk))
        { transports := [{ outlet := .idle }] }
    (fed.1.outcome = .ok () ∧ fed.2.pending = front ∧ fed.2.pending.length ≤ 15) ∧
      after.stage = .running ∧
      (after.transport? 0).bind Transport.consumer = some (.stream true (some front)) ∧
      front.length = 15 ∧ front.length ≤ 15 := by
  intro limits front setup fed after
  have waits : Frame.decode limits front = (.ok none, front) := by
    refine Frame.decode_waits_iff.mpr ⟨rfl, .inr ⟨16, 0, ⟨?_, ?_, ?_, ?_⟩, ?_, ?_⟩⟩
    · decide
    · decide
    · decide
    · decide
    · rfl
    · decide
  have decoded {τ δ : Type} (lift : FrameError → δ) (consume : τ → Message → τ × Except δ Unit)
      (state : τ) : Fed.decodeAll limits lift consume state ([] ++ front) =
        ⟨state, .ok (), front⟩ := Fed.decodeAll_waiting waits
  have kept : fed = (⟨[], .ok (), front⟩, { limits := limits, pending := front }) := by
    change Decoder.feed _ _ _ _ _ = _
    unfold Decoder.feed
    rw [decoded]
  let ready : Flow Unit Unit Unit Unit :=
    { attachment := some 0
      transports := [{ outlet := .idle, consumer := some (.stream true (some [])) }]
      log := [.streamReady] }
  have pushed : after =
      { attachment := some 0
        transports := [{ outlet := .idle, consumer := some (.stream true (some front)) }]
        log := [.chunkFinished, .chunkArrived 0 front, .streamReady] } := by
    have consumed : after = consume setup (asking setup bookChunk) 0 true [] front ready := rfl
    rw [consumed, consume, if_neg (by decide)]
    dsimp only
    rw [show setup.limits = limits from rfl, decoded]
    rfl
  obtain ⟨feeding, _, _, running⟩ := pending_le_mostPending limits
  have few : fed.1.outcome = .ok () → fed.2.pending.length ≤ 15 := feeding [] front id _ []
  have short : after.stage = .running → ∀ index routed pending,
      (after.transport? index).bind Transport.consumer = some (.stream routed (some pending)) →
        pending.length ≤ 15 :=
    running setup rfl .notes [{ outlet := .idle }] [] [.attach true 0, .push 0 front] (by decide)
  rw [kept] at few ⊢
  rw [pushed] at short ⊢
  exact ⟨⟨rfl, rfl, few rfl⟩, rfl, rfl, by decide, short rfl 0 true front rfl⟩

end FramedEvents.Flow
