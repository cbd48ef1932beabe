/-
What is received after a cancellation.

A subscriber cancels between its requests or inside a hook, and a source while it is
being asked. A note is taken of what had been received when a cancellation returned for
the first time. The loop looks at the cancellation before it asks the source, and before
it gives the final signal, but not before it hands over a chunk. So one chunk can still
follow: the one that the source brings in the very call in which it cancels.
-/

import FramedEvents.Proofs.Chunk.Watching
import Mathlib.Logic.Basic

namespace FramedEvents

/-! ### Worlds that are seen through others -/

namespace Delivery

variable {ω ω' : Type}

/-- What a delivery does to a world is seen in the same way in another. -/
structure Shows (project : ω → ω') (reach : Reach ω) (shown : Reach ω') : Prop where
  delivery : ∀ world, shown.delivery (project world) = reach.delivery world
  update : ∀ change world, project (reach.update change world) = shown.update change (project world)
  onChunk : ∀ bytes world, project (reach.onChunk bytes world) = shown.onChunk bytes (project world)
  onFailure : ∀ error world,
    project (reach.onFailure error world) = shown.onFailure error (project world)
  onEnd : ∀ world, project (reach.onEnd world) = shown.onEnd (project world)
  onSourceCancel : ∀ world, project (reach.onSourceCancel world) = shown.onSourceCancel (project world)

variable {project : ω → ω'} {reach : Reach ω} {shown : Reach ω'}

theorem Shows.conclude (shows : Shows project reach shown) {notify : ω → ω} {shownNotify : ω' → ω'}
    (notified : ∀ world, project (notify world) = shownNotify (project world)) (world : ω) :
    project (Delivery.conclude reach notify world) =
      Delivery.conclude shown shownNotify (project world) := by
  unfold Delivery.conclude
  dsimp only
  rw [← shows.update, shows.delivery]
  split
  · rfl
  · rw [notified, shows.update]

theorem Shows.handOver (shows : Shows project reach shown) (source : Source) (world : ω) :
    Delivery.handOver shown source (project world) =
      ((Delivery.handOver reach source world).1, project (Delivery.handOver reach source world).2) := by
  have asking (cancels : Bool) (world : ω) :
      (if cancels then shown.onSourceCancel (takeTurn shown (project world))
        else takeTurn shown (project world)) =
      project (if cancels then reach.onSourceCancel (takeTurn reach world)
        else takeTurn reach world) := by
    have turned : takeTurn shown (project world) = project (takeTurn reach world) :=
      (shows.update _ world).symm
    rw [turned]
    cases cancels with
    | true => exact (shows.onSourceCancel _).symm
    | false => rfl
  fun_induction Delivery.handOver reach source world with
  | case1 source world delivery idle =>
      have rests : (shown.delivery (project world)).isWaiting = false := by
        rw [shows.delivery, Delivery.isWaiting, idle]
        rfl
      rw [handOver_idle rests]
      exact congrArg (source, ·) (shows.update _ world).symm
  | case2 source world delivery going taken step asked bytes pulled ih =>
      have waits : (shown.delivery (project world)).isWaiting = true := by
        rw [shows.delivery]
        exact isWaiting_iff.mpr going
      rw [handOver_turn waits, pulled, asking]
      dsimp only
      rw [← shows.onChunk]
      exact ih
  | case3 source world delivery going taken step asked pulled =>
      have waits : (shown.delivery (project world)).isWaiting = true := by
        rw [shows.delivery]
        exact isWaiting_iff.mpr going
      rw [handOver_turn waits, pulled, asking]
      exact congrArg (source.next.2, ·) (shows.conclude shows.onEnd _).symm
  | case4 source world delivery going taken step asked error pulled =>
      have waits : (shown.delivery (project world)).isWaiting = true := by
        rw [shows.delivery]
        exact isWaiting_iff.mpr going
      rw [handOver_turn waits, pulled, asking]
      exact congrArg (source.next.2, ·) (shows.conclude (shows.onFailure error) _).symm

theorem Shows.request (shows : Shows project reach shown) (count : Nat) (source : Source)
    (world : ω) :
    Delivery.request shown count source (project world) =
      ((Delivery.request reach count source world).1,
        project (Delivery.request reach count source world).2) := by
  unfold Delivery.request
  rw [shows.delivery]
  split
  · rfl
  · dsimp only
    rw [← shows.update, shows.delivery]
    split
    · rfl
    · rw [← shows.update]
      exact shows.handOver source _

end Delivery

namespace Publisher

variable {σ : Type} {subscriber : ChunkSubscriber σ}

/-! ### Taking the note -/

/-- A publisher, and what had been received when it was first cancelled. -/
structure Noted (σ : Type) where
  publisher : Publisher σ
  heard : Option (List ChunkSignal) := none

namespace Noted

def cancel (noted : Noted σ) : Noted σ :=
  { publisher := noted.publisher.cancel
    heard := noted.heard <|> some noted.publisher.received }

def update (change : Delivery → Delivery) (noted : Noted σ) : Noted σ :=
  { noted with
    publisher := { noted.publisher with delivery := change noted.publisher.delivery } }

def obey (noted : Noted σ) : Control → Noted σ
  | .request count => noted.update fun delivery => delivery.book count
  | .cancel => noted.cancel

def tell (subscriber : ChunkSubscriber σ) (given : ChunkSignal) (noted : Noted σ) : Noted σ :=
  let (informed, controls) := noted.publisher.signal subscriber given
  controls.foldl obey { noted with publisher := informed }

def reach (subscriber : ChunkSubscriber σ) : Delivery.Reach (Noted σ) where
  delivery := fun noted => noted.publisher.delivery
  update := update
  onChunk := fun bytes => tell subscriber (.next bytes)
  onFailure := fun error => tell subscriber (.failed error)
  onEnd := tell subscriber .completed
  onSourceCancel := cancel

def request (subscriber : ChunkSubscriber σ) (count : Nat) (noted : Noted σ) : Noted σ :=
  let (source, after) :=
    Delivery.request (reach subscriber) count noted.publisher.source noted
  { after with publisher := { after.publisher with source := source } }

def control (subscriber : ChunkSubscriber σ) (noted : Noted σ) : Control → Noted σ
  | .request count => noted.request subscriber count
  | .cancel => noted.cancel

/-- A publisher that has just told its subscriber of itself, with what that answers. -/
def introduced (subscriber : ChunkSubscriber σ) (source : Source) : Noted σ × List Control :=
  let attached : Publisher σ := { source := source, attached := some subscriber.start }
  let (informed, controls) := attached.signal subscriber .subscribed
  (⟨informed, none⟩, controls)

def run (subscriber : ChunkSubscriber σ) (source : Source) (controls : List Control) : Noted σ :=
  ((introduced subscriber source).2 ++ controls).foldl (control subscriber)
    (introduced subscriber source).1

def Silent (noted : Noted σ) : Prop :=
  ∀ earlier, noted.heard = some earlier → noted.publisher.received = earlier

/-! ### The note makes no difference -/

theorem publisher_tell (given : ChunkSignal) (noted : Noted σ) :
    (noted.tell subscriber given).publisher = signalInside subscriber given noted.publisher := by
  have obeyed (controls : List Control) (noted : Noted σ) :
      (controls.foldl obey noted).publisher =
        { noted.publisher with
          delivery := controls.foldl Delivery.obey noted.publisher.delivery } := by
    induction controls generalizing noted with
    | nil => rfl
    | cons used later ih =>
        rw [List.foldl_cons, ih]
        cases used with
        | request count => rfl
        | cancel => rfl
  exact obeyed _ _

theorem shows (subscriber : ChunkSubscriber σ) :
    Delivery.Shows Noted.publisher (reach subscriber) (Publisher.reach subscriber) where
  delivery := fun _ => rfl
  update := fun _ _ => rfl
  onChunk := fun bytes noted => publisher_tell (.next bytes) noted
  onFailure := fun error noted => publisher_tell (.failed error) noted
  onEnd := fun noted => publisher_tell .completed noted
  onSourceCancel := fun _ => rfl

theorem publisher_control (used : Control) (noted : Noted σ) :
    (noted.control subscriber used).publisher = noted.publisher.control subscriber used := by
  cases used with
  | cancel => rfl
  | request count =>
      have same := (shows subscriber).request count noted.publisher.source noted
      exact congrArg (fun left : Source × Publisher σ => { left.2 with source := left.1 }) same.symm

theorem publisher_run (source : Source) (controls : List Control) :
    (run subscriber source controls).publisher =
      controls.foldl (Publisher.control subscriber)
        (subscribe subscriber { source := source }).2 := by
  have projected (controls : List Control) (noted : Noted σ) :
      (controls.foldl (control subscriber) noted).publisher =
        controls.foldl (Publisher.control subscriber) noted.publisher :=
    (List.foldl_hom Noted.publisher (fun noted used => (publisher_control used noted).symm)).symm
  rw [run, projected, List.foldl_append]
  rfl

/-! ### What may still follow -/

/-- The chunk of the latest of so many calls, if the source has cancelled in it. -/
def late (source : Source) : Nat → List ChunkSignal
  | 0 => []
  | calls + 1 =>
      match (source.advance calls).next.1 with
      | ⟨.chunk bytes, true⟩ => [.next bytes]
      | _ => []

theorem late_ne_nil_iff {source : Source} {calls : Nat} :
    late source calls ≠ [] ↔ ∃ earlier bytes, calls = earlier + 1 ∧
      (source.advance earlier).next.1 = ⟨.chunk bytes, true⟩ := by
  constructor
  · intro some
    cases calls with
    | zero => exact absurd rfl some
    | succ earlier =>
        rw [late] at some
        generalize brought : (source.advance earlier).next.1 = step at some
        rcases step with ⟨bytes | error | -, cancelled | -⟩
        all_goals first
          | exact absurd rfl some
          | exact ⟨earlier, _, rfl, brought⟩
  · rintro ⟨earlier, bytes, rfl, step⟩
    rw [late, step]
    exact List.cons_ne_nil _ _

/-- After so many calls of the source, nothing but the late chunk has followed a
cancellation. -/
structure Kept (source : Source) (calls : Nat) (noted : Noted σ) : Prop where
  note : noted.heard.isSome = noted.publisher.delivery.cancelled
  holder : noted.publisher.attached.isSome
  before : noted.heard = none → late source calls = []
  after : ∀ earlier, noted.heard = some earlier →
    noted.publisher.received = late source calls ++ earlier

namespace Kept

variable {source : Source} {calls : Nat} {noted : Noted σ}

theorem unheard (kept : Kept source calls noted) (opened : noted.publisher.delivery.isOver = false) :
    noted.heard = none := by
  have free : noted.publisher.delivery.cancelled = false :=
    (Bool.or_eq_false_iff.mp opened).2
  rw [← kept.note] at free
  exact Option.not_isSome_iff_eq_none.mp (Bool.eq_false_iff.mp free)

theorem update (kept : Kept source calls noted) (change : Delivery → Delivery)
    (same : (change noted.publisher.delivery).cancelled = noted.publisher.delivery.cancelled) :
    Kept source calls (noted.update change) where
  note := kept.note.trans same.symm
  holder := kept.holder
  before := kept.before
  after := kept.after

theorem cancel (kept : Kept source calls noted) : Kept source calls noted.cancel := by
  cases heard : noted.heard with
  | none =>
      constructor
      · rw [Noted.cancel, heard]
        rfl
      · exact kept.holder
      · intro none
        rw [Noted.cancel, heard] at none
        cases none
      · intro earlier first
        rw [Noted.cancel, heard] at first
        cases first
        rw [kept.before heard]
        rfl
  | some earlier =>
      have same : noted.cancel.heard = noted.heard := by
        rw [Noted.cancel, heard]
        rfl
      constructor
      · rw [same, heard]
        rfl
      · exact kept.holder
      · intro none
        exact kept.before (same.symm.trans none)
      · intro first found
        exact kept.after first (same.symm.trans found)

theorem obey (kept : Kept source calls noted) (used : Control) :
    Kept source calls (noted.obey used) := by
  cases used with
  | cancel => exact kept.cancel
  | request count =>
      apply kept.update fun delivery => delivery.book count
      dsimp only [Delivery.book]
      split
      · rfl
      · rfl

theorem foldl_obey (kept : Kept source calls noted) (controls : List Control) :
    Kept source calls (controls.foldl Noted.obey noted) := by
  induction controls generalizing noted with
  | nil => exact kept
  | cons used later ih => exact ih (kept.obey used)

theorem tell (kept : Kept source calls noted) (unheard : noted.heard = none) (given : ChunkSignal) :
    Kept source calls (noted.tell subscriber given) := by
  obtain ⟨state, holder⟩ := Option.isSome_iff_exists.mp kept.holder
  unfold Noted.tell Publisher.signal
  rw [holder]
  apply foldl_obey
  constructor
  · exact kept.note
  · rfl
  · exact kept.before
  · intro earlier first
    rw [unheard] at first
    cases first

theorem call (kept : Kept source calls noted) (unheard : noted.heard = none)
    (nothing : late source (calls + 1) = []) : Kept source (calls + 1) noted where
  note := kept.note
  holder := kept.holder
  before := fun _ => nothing
  after := by
    intro earlier first
    rw [unheard] at first
    cases first

theorem chunk (kept : Kept source calls noted) (unheard : noted.heard = none) {bytes : Bytes}
    {cancels : Bool} (step : (source.advance calls).next.1 = ⟨.chunk bytes, cancels⟩) :
    Kept source (calls + 1)
      (Noted.tell subscriber (.next bytes) (if cancels then noted.cancel else noted)) := by
  cases cancels with
  | false =>
      apply tell _ unheard
      apply kept.call unheard
      rw [late, step]
  | true =>
      obtain ⟨state, holder⟩ := Option.isSome_iff_exists.mp kept.holder
      have cancelled : noted.cancel.heard = some noted.publisher.received := by
        rw [Noted.cancel, unheard]
        rfl
      have still : noted.cancel.publisher.attached = some state := holder
      unfold Noted.tell Publisher.signal
      rw [if_pos rfl, still]
      apply foldl_obey
      constructor
      · rw [cancelled]
        rfl
      · rfl
      · intro none
        rw [cancelled] at none
        cases none
      · intro earlier first
        rw [cancelled] at first
        cases first
        rw [late, step]
        rfl

theorem conclude (kept : Kept source calls noted) (given : ChunkSignal) :
    Kept source calls
      (Delivery.conclude (reach subscriber) (Noted.tell subscriber given) noted) := by
  have idle := kept.update (fun delivery => { delivery with busy := false }) rfl
  unfold Delivery.conclude
  dsimp only
  split
  · exact idle
  · rename_i past
    have ended := idle.update (fun delivery => { delivery with concluded := true }) rfl
    apply ended.tell
    exact idle.unheard (Bool.eq_false_iff.mpr past)

theorem last (kept : Kept source calls noted) (unheard : noted.heard = none)
    (none : ∀ bytes, (source.advance calls).next.1.pulled ≠ .chunk bytes) (cancels : Bool)
    (given : ChunkSignal) :
    Kept source (calls + 1)
      (Delivery.conclude (reach subscriber) (Noted.tell subscriber given)
        (if cancels then noted.cancel else noted)) := by
  have nothing : late source (calls + 1) = [] := by
    apply Classical.byContradiction
    intro some
    obtain ⟨earlier, bytes, same, step⟩ := late_ne_nil_iff.mp some
    cases same
    exact none bytes (congrArg SourceStep.pulled step)
  apply conclude
  split
  · exact (kept.call unheard nothing).cancel
  · exact kept.call unheard nothing

theorem turn (kept : Kept source calls noted)
    (going : ¬(noted.publisher.delivery.isOver || noted.publisher.delivery.demand.isMet) = true) :
    noted.heard = none ∧ Kept source calls (Delivery.takeTurn (reach subscriber) noted) := by
  rw [Bool.or_eq_true, not_or] at going
  refine ⟨kept.unheard (Bool.eq_false_iff.mpr going.1), ?_⟩
  exact kept.update (fun delivery => { delivery with demand := delivery.demand.serve }) rfl

theorem handOver (left : Source) (noted : Noted σ) :
    ∀ calls, source.advance calls = left → Kept source calls noted →
      ∃ more, source.advance more = (Delivery.handOver (reach subscriber) left noted).1 ∧
        Kept source more (Delivery.handOver (reach subscriber) left noted).2 := by
  fun_induction Delivery.handOver (reach subscriber) left noted with
  | case1 left noted delivery idle =>
      intro calls now kept
      exact ⟨calls, now, kept.update (fun delivery => { delivery with busy := false }) rfl⟩
  | case2 left noted delivery going taken step asked bytes pulled ih =>
      rintro calls rfl kept
      obtain ⟨unheard, taking⟩ := kept.turn going
      apply ih (calls + 1) (Source.advance_succ calls source)
      exact taking.chunk unheard (congrArg (SourceStep.mk · _) pulled)
  | case3 left noted delivery going taken step asked pulled =>
      rintro calls rfl kept
      obtain ⟨unheard, taking⟩ := kept.turn going
      refine ⟨calls + 1, Source.advance_succ calls source, ?_⟩
      exact taking.last unheard (by simp [step, pulled]) _ _
  | case4 left noted delivery going taken step asked error pulled =>
      rintro calls rfl kept
      obtain ⟨unheard, taking⟩ := kept.turn going
      refine ⟨calls + 1, Source.advance_succ calls source, ?_⟩
      exact taking.last unheard (by simp [step, pulled]) _ _

theorem request (kept : Kept source calls noted) (subscriber : ChunkSubscriber σ) (left : Source)
    (now : source.advance calls = left) (count : Nat) :
    ∃ more, source.advance more = (Delivery.request (reach subscriber) count left noted).1 ∧
      Kept source more (Delivery.request (reach subscriber) count left noted).2 := by
  have booked : Kept source calls (noted.update fun delivery => delivery.book count) :=
    kept.obey (.request count)
  unfold Delivery.request
  split
  · exact ⟨calls, now, kept⟩
  · dsimp only
    split
    · exact ⟨calls, now, booked⟩
    · exact handOver left _ calls now
        (booked.update (fun delivery => { delivery with busy := true }) rfl)

end Kept

/-- Wherever the source has come to, nothing but the late chunk has followed a
cancellation. -/
def Steady (source : Source) (noted : Noted σ) : Prop :=
  ∃ calls, source.advance calls = noted.publisher.source ∧ Kept source calls noted

theorem Steady.control {source : Source} {noted : Noted σ} (steady : Steady source noted)
    (used : Control) : Steady source (noted.control subscriber used) := by
  obtain ⟨calls, now, kept⟩ := steady
  cases used with
  | cancel => exact ⟨calls, now, kept.cancel⟩
  | request count =>
      obtain ⟨more, left, served⟩ := kept.request subscriber _ now count
      exact ⟨more, left, served.note, served.holder, served.before, served.after⟩

theorem run_steady (subscriber : ChunkSubscriber σ) (source : Source) (controls : List Control) :
    Steady source (run subscriber source controls) := by
  have informed : Steady source (introduced subscriber source).1 :=
    ⟨0, rfl, rfl, rfl, fun _ => rfl, fun _ first => by cases first⟩
  unfold run
  generalize (introduced subscriber source).2 ++ controls = used
  generalize (introduced subscriber source).1 = noted at informed
  induction used generalizing noted with
  | nil => exact informed
  | cons control later ih =>
      apply ih
      exact informed.control control

/-- What has been received after a cancellation, wherever it came from, is exactly the
chunk that the source has brought in the very call in which it cancelled. Unless there
has been such a call, nothing has. -/
theorem run_after_cancel (subscriber : ChunkSubscriber σ) (source : Source)
    (controls : List Control) :
    let noted := run subscriber source controls
    noted.publisher = controls.foldl (Publisher.control subscriber)
        (subscribe subscriber { source := source }).2 ∧
      noted.heard.isSome = noted.publisher.delivery.cancelled ∧
      ∃ calls, source.advance calls = noted.publisher.source ∧
        (∀ earlier, noted.heard = some earlier →
          noted.publisher.received = late source calls ++ earlier) ∧
        (noted.Silent ↔ ¬∃ earlier bytes, calls = earlier + 1 ∧
          (source.advance earlier).next.1 = ⟨.chunk bytes, true⟩) := by
  intro noted
  obtain ⟨calls, now, kept⟩ := run_steady subscriber source controls
  refine ⟨publisher_run source controls, kept.note, calls, now, kept.after, ?_⟩
  rw [← late_ne_nil_iff, not_not]
  constructor
  · intro silent
    cases heard : noted.heard with
    | none => exact kept.before heard
    | some earlier =>
        have followed := kept.after earlier heard
        rw [silent earlier heard] at followed
        exact List.self_eq_append_left.mp followed
  · intro nothing earlier heard
    have followed := kept.after earlier heard
    rw [nothing] at followed
    exact followed

/-- A source that cancels while it prepares its only chunk, and a subscriber that does
nothing: the chunk is received after the cancellation has returned. -/
theorem not_silent_of_late_chunk :
    let subscriber : ChunkSubscriber Unit := ⟨(), fun _ state => (state, [])⟩
    let noted := run subscriber (.scripted [⟨.chunk [1], true⟩]) [.request 1]
    noted.heard = some [.subscribed] ∧ noted.publisher.received = [.next [1], .subscribed] ∧
      ¬noted.Silent := by
  intro subscriber noted
  have heard : noted.heard = some [.subscribed] := by decide +kernel
  have received : noted.publisher.received = [.next [1], .subscribed] := by decide +kernel
  refine ⟨heard, received, ?_⟩
  intro silent
  have same := silent _ heard
  rw [received] at same
  cases same

end Noted

end Publisher

end FramedEvents
