/-
What holds of a stream however it reacts.

Most of what a stream does touches neither its stage nor its outcome. So something that
depends on these, and on the events that have been handed over before the end, holds
through all of it, if only it holds through what others do in the hooks, and through the
asking for a chunk. What is left is the end itself: how a failure, or the end of a
transport, or a chunk that brings one, comes out.
-/

import FramedEvents.Proofs.Flow.Upholding

namespace FramedEvents.Flow

variable {ε ρ ω σ : Type} {setup : Setup ε ω σ ρ} {ask : Ask ε ρ ω σ}
  {flow middle after : Flow ε ρ ω σ}

/-- Something that does not tell apart streams that are alike, and that holds through
what those do whom a stream turns to. -/
structure Ask.Holds (holds : Flow ε ρ ω σ → Prop) (ask : Ask ε ρ ω σ) : Prop where
  alike : ∀ {flow after}, Alike flow after → holds flow → holds after
  forChunk : ∀ {flow}, flow.stage = .running → holds flow → holds (ask.forChunk flow)
  others : ∀ {flow}, holds flow → holds (ask.others flow)

variable {holds : Flow ε ρ ω σ → Prop}

/-! ### Demand, cancellation and signals -/

theorem Ask.Holds.askNext (keeps : ask.Holds holds) (held : holds flow) :
    holds (askNext ask flow) := by
  refine askNext_holds held fun running _ _ => keeps.forChunk running (keeps.alike ?_ held)
  exact ⟨rfl, rfl, fun _ member => member, fun _ => given_note rfl rfl⟩

theorem Ask.Holds.upholds (keeps : ask.Holds holds) : ask.Upholds holds where
  steady steady := keeps.alike steady.toAlike
  joined routed _ _ held := by
    refine keeps.alike ?_ held
    exact ⟨rfl, rfl, fun _ member => member, fun _ => given_note rfl rfl⟩
  controls controls _ :=
    controls_hold (fun steady => keeps.alike steady.toAlike) keeps.askNext controls
  others := keeps.others

theorem Ask.Holds.signal (keeps : ask.Holds holds) {given : EventSignal ε}
    (late : flow.stage.isDone = true → ∀ event, given ≠ .next event) (held : holds flow) :
    holds (signal setup ask given flow).1 :=
  keeps.upholds.signal late held

/-! ### Chunks -/

theorem Ask.Holds.finishChunk (keeps : ask.Holds holds) (held : holds flow) :
    holds (finishChunk ask flow) := by
  have finished : holds (record .chunkFinished { flow with chunkDue := false }) := by
    refine keeps.alike ?_ held
    exact ⟨rfl, rfl, fun _ member => member, fun _ => given_note rfl rfl⟩
  exact finishChunk_holds finished (keeps.askNext finished)

theorem Ask.Holds.chunk (keeps : ask.Holds holds)
    (fails : ∀ cause {flow}, holds flow → holds (fail setup ask cause flow)) (index : Nat)
    (bytes : Bytes) (held : holds flow) : holds (chunk setup ask index bytes flow) := by
  have kept {flow : Flow ε ρ ω σ} (routed : Bool) (pending : Option Bytes) (held : holds flow) :
      holds (flow.keepPending index routed pending) :=
    keeps.alike (.updateTransport flow index _) held
  refine keeps.upholds.chunk index bytes ?_ ?_ ?_ held
  · intro routed held
    exact keeps.alike (.note rfl _) (kept routed none held)
  · intro decoded routed left _ held
    exact keeps.finishChunk (kept routed _ held)
  · intro decoded routed left cause held
    exact fails cause (kept routed _ held)

/-! ### Acts -/

theorem Ask.Holds.join (keeps : ask.Holds holds) (routed : Bool) (index : Nat)
    (held : holds flow) : holds (join setup ask routed index flow).2 :=
  keeps.upholds.join routed index held

/-- What holds through failures, and through an end of a transport where there may be
one, holds through everything but a completion from outside. -/
theorem Ask.Holds.act (keeps : ask.Holds holds)
    (fails : ∀ cause {flow}, holds flow → holds (fail setup ask cause flow)) {event : Event ρ}
    (ends : ∀ index, event = .transportEnded index → ∀ {flow}, holds flow →
      holds (transportEnded setup ask index flow))
    (plain : event ≠ .complete) (held : holds flow) : holds (act setup ask flow event) := by
  cases event with
  | push index bytes => exact keeps.chunk fails index bytes held
  | transportEnded index => exact ends index rfl held
  | transportFailed index error => exact transportFailed_holds (fails _ held) held
  | fail cause => exact fails cause held
  | complete => exact absurd rfl plain
  | _ => exact keeps.upholds.act rfl held

/-! ### Deliveries -/

theorem delivery_holds (keeps : (asking setup bookChunk).Holds holds)
    (fails : ∀ cause {flow}, holds flow → holds (fail setup (asking setup bookChunk) cause flow))
    (ends : ∀ index {flow}, holds flow →
      holds (transportEnded setup (asking setup bookChunk) index flow))
    (index count : Nat) (source : Source) (held : holds flow) :
    holds (Delivery.request (reach setup index) count source flow).2 := by
  refine request_holds keeps.upholds.steady ?_ ?_ ?_ ?_ count source held
  · exact fun made _ held => keeps.alike (.updateTransport _ index _) held
  · exact fun bytes _ held => keeps.chunk fails index bytes held
  · exact fun error _ held => transportFailed_holds (fails _ held) held
  · exact fun _ held => ends index held

end FramedEvents.Flow
