/-
What becomes of the responses that are captured.

A stream holds one response at most. One that is captured while another is held is dropped, and
the one held is released at the next marker that is looked at. After that nothing is held, and
the same begins once more. So whatever happens to a stream falls into rounds, with one release
at the end of each, and there is a second round exactly if a marker follows a capture that
follows a release.
-/

import FramedEvents.Flow.State
import Mathlib.Data.List.Basic

namespace FramedEvents

variable {ε ρ : Type}

namespace Entry

def isBeside : Entry ε ρ → Bool
  | .looked _ => false
  | .responded _ => false
  | _ => true

/-- The response that was handed over with this entry. -/
@[simp]
def response? : Entry ε ρ → Option ρ
  | .responded response => some response
  | _ => none

end Entry

/-- One of the things that happen to a stream, as far as its response is concerned. -/
inductive Happening (ε ρ : Type) where
  /-- A response was captured, be it to be kept or to be dropped. -/
  | captured (response : ρ)
  | ended (final : Stage)
  | noted (entry : Entry ε ρ)

namespace Happening

abbrev marker : Happening ε ρ := .noted (.looked .initialResponse)

abbrev released (response : ρ) : Happening ε ρ := .noted (.responded response)

@[simp]
def captured? : Happening ε ρ → Option ρ
  | .captured response => some response
  | _ => none

@[simp]
def entry? : Happening ε ρ → Option (Entry ε ρ)
  | .noted entry => some entry
  | _ => none

@[simp]
def released? (happening : Happening ε ρ) : Option ρ := happening.entry?.bind Entry.response?

def captures (happenings : List (Happening ε ρ)) : List ρ := happenings.filterMap captured?

def entries (happenings : List (Happening ε ρ)) : List (Entry ε ρ) := happenings.filterMap entry?

def releases (happenings : List (Happening ε ρ)) : List ρ := happenings.filterMap released?

@[simp]
theorem captures_append (earlier later : List (Happening ε ρ)) :
    captures (earlier ++ later) = captures earlier ++ captures later :=
  List.filterMap_append

@[simp]
theorem entries_append (earlier later : List (Happening ε ρ)) :
    entries (earlier ++ later) = entries earlier ++ entries later :=
  List.filterMap_append

@[simp]
theorem releases_append (earlier later : List (Happening ε ρ)) :
    releases (earlier ++ later) = releases earlier ++ releases later :=
  List.filterMap_append

theorem releases_eq (happenings : List (Happening ε ρ)) :
    releases happenings = (entries happenings).filterMap Entry.response? := by
  unfold releases entries released?
  rw [List.filterMap_filterMap]

@[simp]
theorem releases_nil : releases ([] : List (Happening ε ρ)) = [] := rfl

theorem releases_cons (happening : Happening ε ρ) (later : List (Happening ε ρ)) :
    releases (happening :: later) = happening.released?.toList ++ releases later := by
  unfold releases
  rw [List.filterMap_cons]
  cases happening.released? <;> rfl

theorem released?_of_isBeside {entry : Entry ε ρ} (beside : entry.isBeside = true) :
    (noted entry).released? = none := by
  cases entry with
  | responded response => cases beside
  | _ => rfl

theorem noted_ne_marker {entry : Entry ε ρ} (beside : entry.isBeside = true) :
    noted entry ≠ marker := by
  rintro ⟨⟩
  cases beside

def Answered (happenings : List (Happening ε ρ)) : Prop :=
  ∃ response, [.captured response, marker].Sublist happenings

theorem not_answered_nil : ¬Answered ([] : List (Happening ε ρ)) := by simp [Answered]

theorem Answered.marked {happenings : List (Happening ε ρ)} (answered : Answered happenings) :
    marker ∈ happenings := by
  obtain ⟨response, within⟩ := answered
  exact within.subset (by simp)

theorem marked_or_answered_iff (happenings : List (Happening ε ρ)) :
    marker ∈ happenings ∨ Answered happenings ↔ marker ∈ happenings :=
  or_iff_left_of_imp Answered.marked

theorem answered_captured (response : ρ) (later : List (Happening ε ρ)) :
    Answered (.captured response :: later) ↔ marker ∈ later := by
  constructor
  · rintro ⟨other, within⟩
    rcases List.cons_sublist_cons'.mp within with later | ⟨_, marked⟩
    · exact later.subset (by simp)
    · exact List.singleton_sublist.mp marked
  · exact fun marked => ⟨response, (List.singleton_sublist.mpr marked).cons_cons _⟩

theorem answered_cons {happening : Happening ε ρ} (other : happening.captured? = none)
    (later : List (Happening ε ρ)) : Answered (happening :: later) ↔ Answered later := by
  constructor
  · rintro ⟨response, within⟩
    rcases List.cons_sublist_cons'.mp within with behind | ⟨rfl, _⟩
    · exact ⟨response, behind⟩
    · cases other
  · exact fun ⟨response, within⟩ => ⟨response, within.cons _⟩

/-- A response is released, and later another one is captured, and a marker looked at. -/
def Repeated (happenings : List (Happening ε ρ)) : Prop :=
  ∃ first second, [released first, .captured second, marker].Sublist happenings

theorem not_repeated_nil : ¬Repeated ([] : List (Happening ε ρ)) := by simp [Repeated]

theorem Repeated.answered {happenings : List (Happening ε ρ)} (repeated : Repeated happenings) :
    Answered happenings := by
  obtain ⟨first, second, within⟩ := repeated
  exact ⟨second, (List.sublist_cons_self _ _).trans within⟩

theorem repeated_released (response : ρ) (later : List (Happening ε ρ)) :
    Repeated (released response :: later) ↔ Answered later := by
  constructor
  · rintro ⟨first, second, within⟩
    rcases List.cons_sublist_cons'.mp within with behind | ⟨_, answered⟩
    · exact Repeated.answered ⟨first, second, behind⟩
    · exact ⟨second, answered⟩
  · exact fun ⟨second, within⟩ => ⟨response, second, within.cons_cons _⟩

theorem repeated_cons {happening : Happening ε ρ} (other : happening.released? = none)
    (later : List (Happening ε ρ)) : Repeated (happening :: later) ↔ Repeated later := by
  constructor
  · rintro ⟨first, second, within⟩
    rcases List.cons_sublist_cons'.mp within with behind | ⟨rfl, _⟩
    · exact ⟨first, second, behind⟩
    · cases other
  · exact fun ⟨first, second, within⟩ => ⟨first, second, within.cons _⟩

def Vacant (happenings : List (Happening ε ρ)) : Prop :=
  ∀ happening ∈ happenings, happening.captured? = none ∧ happening.released? = none

/-- No marker is looked at and nothing is released, so that all captures are dropped. -/
def Unmarked (happenings : List (Happening ε ρ)) : Prop :=
  ∀ happening ∈ happenings, happening ≠ marker ∧ happening.released? = none

theorem Vacant.releases {happenings : List (Happening ε ρ)} (vacant : Vacant happenings) :
    releases happenings = [] :=
  List.filterMap_eq_nil_iff.mpr fun happening member => (vacant happening member).2

theorem Unmarked.releases {happenings : List (Happening ε ρ)} (unmarked : Unmarked happenings) :
    Happening.releases happenings = [] :=
  List.filterMap_eq_nil_iff.mpr fun happening member => (unmarked happening member).2

theorem Vacant.cons {happening : Happening ε ρ} {later : List (Happening ε ρ)}
    (uncaptured : happening.captured? = none) (unreleased : happening.released? = none)
    (vacant : Vacant later) : Vacant (happening :: later) :=
  List.forall_mem_cons.mpr ⟨⟨uncaptured, unreleased⟩, vacant⟩

theorem Unmarked.cons {happening : Happening ε ρ} {later : List (Happening ε ρ)}
    (other : happening ≠ marker) (unreleased : happening.released? = none)
    (unmarked : Unmarked later) : Unmarked (happening :: later) :=
  List.forall_mem_cons.mpr ⟨⟨other, unreleased⟩, unmarked⟩

end Happening

open Happening

/-! ### The course of things -/

/-- How what is held, and the stage of the stream, change with all that happens. -/
inductive Course :
    Option ρ → Stage → List (Happening ε ρ) → Option ρ → Stage → Prop where
  | nothing (held : Option ρ) (stage : Stage) : Course held stage [] held stage
  | kept {stage later last final} (response : ρ)
      (rest : Course (some response) stage later last final) :
      Course none stage (.captured response :: later) last final
  | dropped {stage later last final} (held response : ρ)
      (rest : Course (some held) stage later last final) :
      Course (some held) stage (.captured response :: later) last final
  | released {later last final} (response : ρ) (rest : Course none .running later last final) :
      Course (some response) .running (marker :: released response :: later) last final
  | skipped {later last final} (rest : Course none .running later last final) :
      Course none .running (marker :: later) last final
  | looked {held later last final} (kind : MessageKind) (other : kind ≠ .initialResponse)
      (rest : Course held .running later last final) :
      Course held .running (.noted (.looked kind) :: later) last final
  | ended {held later last final} (reached : Stage) (done : reached.isDone = true)
      (rest : Course held reached later last final) :
      Course held .running (.ended reached :: later) last final
  | beside {held stage later last final} (entry : Entry ε ρ) (beside : entry.isBeside = true)
      (rest : Course held stage later last final) :
      Course held stage (.noted entry :: later) last final

namespace Course

variable {held middle last : Option ρ} {stage between final : Stage}
  {earlier later happenings : List (Happening ε ρ)}

theorem append (first : Course held stage earlier middle between)
    (second : Course middle between later last final) :
    Course held stage (earlier ++ later) last final := by
  induction first with
  | nothing => exact second
  | kept response _ ih => exact .kept response (ih second)
  | dropped held response _ ih => exact .dropped held response (ih second)
  | released response _ ih => exact .released response (ih second)
  | skipped _ ih => exact .skipped (ih second)
  | looked kind other _ ih => exact .looked kind other (ih second)
  | ended reached done _ ih => exact .ended reached done (ih second)
  | beside entry beside _ ih => exact .beside entry beside (ih second)

/-- Something is released exactly if a marker is looked at while a response is held, be it held
from the start or captured on the way. -/
theorem releases_eq_nil_iff (course : Course held stage happenings last final) :
    releases happenings = [] ↔
      ¬(held.isSome = true ∧ marker ∈ happenings ∨ Answered happenings) := by
  induction course with
  | nothing => simp [releases, not_answered_nil]
  | kept response _ ih => simpa [releases_cons, answered_captured, marked_or_answered_iff] using ih
  | dropped held response _ ih =>
      simpa [releases_cons, answered_captured, marked_or_answered_iff] using ih
  | released response _ _ => simp [releases_cons]
  | skipped _ ih =>
      rw [answered_cons rfl]
      simpa [releases_cons] using ih
  | looked kind other _ ih =>
      rw [answered_cons rfl]
      simpa [releases_cons, other.symm] using ih
  | ended reached _ _ ih =>
      rw [answered_cons rfl]
      simpa [releases_cons] using ih
  | beside entry beside _ ih =>
      rw [releases_cons, answered_cons rfl, released?_of_isBeside beside]
      simpa [(noted_ne_marker beside).symm] using ih

/-- Something is released more than once exactly if a marker follows a capture that follows a
release. -/
theorem length_releases_le_one_iff (course : Course held stage happenings last final) :
    (releases happenings).length ≤ 1 ↔ ¬Repeated happenings := by
  have passed {happening : Happening ε ρ} {later : List (Happening ε ρ)}
      (other : happening.released? = none)
      (ih : (releases later).length ≤ 1 ↔ ¬Repeated later) :
      (releases (happening :: later)).length ≤ 1 ↔ ¬Repeated (happening :: later) := by
    rw [releases_cons, repeated_cons other, other]
    exact ih
  induction course with
  | nothing => simp [releases, not_repeated_nil]
  | kept response _ ih => exact passed rfl ih
  | dropped held response _ ih => exact passed rfl ih
  | released response rest _ =>
      have behind := rest.releases_eq_nil_iff
      rw [repeated_cons rfl, repeated_released]
      simpa [releases_cons] using behind
  | skipped _ ih => exact passed rfl ih
  | looked kind other _ ih => exact passed rfl ih
  | ended reached _ _ ih => exact passed rfl ih
  | beside entry beside _ ih => exact passed (released?_of_isBeside beside) ih

end Course

/-! ### Rounds -/

structure Round (ε ρ : Type) where
  waiting : List (Happening ε ρ)
  response : ρ
  holding : List (Happening ε ρ)
  vacant : Vacant waiting
  unmarked : Unmarked holding

namespace Round

/-- A round ends with the first marker that is looked at while the response is held. -/
def happenings (round : Round ε ρ) : List (Happening ε ρ) :=
  round.waiting ++ .captured round.response :: round.holding ++ [marker, released round.response]

theorem releases_happenings (round : Round ε ρ) :
    releases round.happenings = [round.response] := by
  simp [happenings, releases_cons, round.vacant.releases, round.unmarked.releases]

theorem releases_flatMap (rounds : List (Round ε ρ)) :
    releases (rounds.flatMap happenings) = rounds.map response := by
  induction rounds with
  | nil => rfl
  | cons round later ih =>
      rw [List.flatMap_cons, releases_append, round.releases_happenings, ih]
      rfl

end Round

/-- What happens after the last release, and what is held then. -/
inductive Unfinished : List (Happening ε ρ) → Option ρ → Prop where
  | waiting {waiting} (vacant : Vacant waiting) : Unfinished waiting none
  | holding {waiting holding} (response : ρ) (vacant : Vacant waiting)
      (unmarked : Unmarked holding) :
      Unfinished (waiting ++ .captured response :: holding) (some response)

theorem Unfinished.releases {rest : List (Happening ε ρ)} {held : Option ρ}
    (unfinished : Unfinished rest held) : Happening.releases rest = [] := by
  cases unfinished with
  | waiting vacant => exact vacant.releases
  | holding response vacant unmarked =>
      simp [releases_cons, vacant.releases, unmarked.releases]

def InRounds (happenings : List (Happening ε ρ)) (last : Option ρ) : Prop :=
  ∃ (rounds : List (Round ε ρ)) (rest : List (Happening ε ρ)),
    happenings = rounds.flatMap Round.happenings ++ rest ∧ Unfinished rest last

def InRoundsHolding (response : ρ) (happenings : List (Happening ε ρ)) (last : Option ρ) : Prop :=
  Unmarked happenings ∧ last = some response ∨
    ∃ holding later, happenings = holding ++ marker :: released response :: later ∧
      Unmarked holding ∧ InRounds later last

section

variable {happening : Happening ε ρ} {later : List (Happening ε ρ)} {last : Option ρ}
  {response : ρ}

theorem InRounds.cons (uncaptured : happening.captured? = none)
    (unreleased : happening.released? = none) (others : InRounds later last) :
    InRounds (happening :: later) last := by
  obtain ⟨rounds, rest, rfl, unfinished⟩ := others
  cases rounds with
  | cons round rounds =>
      let longer : Round ε ρ :=
        { round with
          waiting := happening :: round.waiting
          vacant := round.vacant.cons uncaptured unreleased }
      exact ⟨longer :: rounds, rest, rfl, unfinished⟩
  | nil =>
      refine ⟨[], happening :: rest, rfl, ?_⟩
      cases unfinished with
      | waiting vacant => exact .waiting (vacant.cons uncaptured unreleased)
      | holding response vacant unmarked =>
          exact .holding response (vacant.cons uncaptured unreleased) unmarked

theorem InRoundsHolding.cons (other : happening ≠ marker) (unreleased : happening.released? = none)
    (others : InRoundsHolding response later last) :
    InRoundsHolding response (happening :: later) last := by
  rcases others with ⟨unmarked, held⟩ | ⟨holding, behind, rfl, unmarked, others⟩
  · exact .inl ⟨unmarked.cons other unreleased, held⟩
  · exact .inr ⟨happening :: holding, behind, rfl, unmarked.cons other unreleased, others⟩

theorem InRoundsHolding.kept (others : InRoundsHolding response later last) :
    InRounds (.captured response :: later) last := by
  rcases others with ⟨unmarked, rfl⟩ | ⟨holding, behind, rfl, unmarked, rounds, rest, rfl, others⟩
  · have vacant : Vacant ([] : List (Happening ε ρ)) := List.forall_mem_nil _
    exact ⟨[], _, rfl, .holding response vacant unmarked⟩
  · let round : Round ε ρ := ⟨[], response, holding, List.forall_mem_nil _, unmarked⟩
    refine ⟨round :: rounds, rest, ?_, others⟩
    simp [round, Round.happenings]

end

theorem Course.inRounds {stage final : Stage} {happenings : List (Happening ε ρ)}
    {held last : Option ρ} (course : Course held stage happenings last final) :
    (held = none → InRounds happenings last) ∧
      ∀ response, held = some response → InRoundsHolding response happenings last := by
  -- While a response is held, what happens is the rest of its round.
  induction course with
  | nothing held =>
      constructor
      · rintro rfl
        exact ⟨[], [], rfl, .waiting (List.forall_mem_nil _)⟩
      · rintro response rfl
        exact .inl ⟨List.forall_mem_nil _, rfl⟩
  | kept response _ ih =>
      constructor
      · exact fun _ => (ih.2 response rfl).kept
      · nofun
  | dropped held response _ ih =>
      constructor
      · nofun
      · exact fun first same => (ih.2 first same).cons nofun rfl
  | released response _ ih =>
      constructor
      · nofun
      · rintro _ ⟨⟩
        exact .inr ⟨[], _, rfl, List.forall_mem_nil _, ih.1 rfl⟩
  | skipped _ ih =>
      constructor
      · exact fun free => (ih.1 free).cons rfl rfl
      · nofun
  | looked kind other _ ih =>
      have unmarked : (noted (.looked kind) : Happening ε ρ) ≠ marker := by simpa using other
      constructor
      · exact fun free => (ih.1 free).cons rfl rfl
      · exact fun response held => (ih.2 response held).cons unmarked rfl
  | ended reached _ _ ih =>
      constructor
      · exact fun free => (ih.1 free).cons rfl rfl
      · exact fun response held => (ih.2 response held).cons nofun rfl
  | beside entry beside _ ih =>
      have unreleased := released?_of_isBeside beside
      constructor
      · exact fun free => (ih.1 free).cons rfl unreleased
      · exact fun response held =>
          (ih.2 response held).cons (noted_ne_marker beside) unreleased

end FramedEvents
