/-
What a subscriber asks for while it listens.

A subscriber is asked nothing but to react, and its requests can be told from the
events that it has been given. None of them is lost: while chunks are delivered, every
unit that the subscriber asks for in a hook goes to the log. Together with the events
that have been looked at, the log tells how much of that is still wanted.
-/

import FramedEvents.Proofs.Chunk.Publishing
import FramedEvents.Proofs.Flow.Execution
import FramedEvents.Proofs.Flow.Intake

namespace FramedEvents

namespace EventSubscriber

variable {ε σ : Type} (subscriber : EventSubscriber ε σ)

def told (state : σ) (given : List ε) : σ :=
  given.foldl (fun state event => (subscriber.react (.next event) state).state) state

def units (signal : EventSignal ε) (state : σ) : Nat :=
  ((subscriber.react signal state).controls.map Control.units).sum

def asked : σ → List ε → Nat
  | _, [] => 0
  | state, event :: later =>
      subscriber.units (.next event) state +
        asked (subscriber.react (.next event) state).state later

def attached : σ := (subscriber.react .subscribed subscriber.start).state

theorem told_append (state : σ) (earlier later : List ε) :
    subscriber.told state (earlier ++ later) =
      subscriber.told (subscriber.told state earlier) later :=
  List.foldl_append

theorem asked_append (state : σ) (earlier later : List ε) :
    subscriber.asked state (earlier ++ later) =
      subscriber.asked state earlier + subscriber.asked (subscriber.told state earlier) later := by
  induction earlier generalizing state with
  | nil => exact (Nat.zero_add _).symm
  | cons event earlier ih =>
      change _ + subscriber.asked _ (earlier ++ later) = _ + subscriber.asked _ earlier + _
      rw [ih, Nat.add_assoc]
      rfl

end EventSubscriber

/-! ### Listening to the front of a stream -/

namespace Listener

variable {ε ρ ω σ : Type}

theorem events_append (calls more : List (Entry ε ρ)) :
    events (calls ++ more) = events calls ++ events more :=
  List.filterMap_append

theorem hear_cases (setup : Setup ε ω σ ρ) (number : Nat) (listener : Listener ε ρ σ)
    (message : Message) :
    (∃ event, message.kind = .event ∧
        setup.readEvent (EventMessage.ofMessage message) setup.attributes = .ok event ∧
        (listener.hear setup number message).1 = { listener with
          state := ((setup.subscribers number).react (.next event) listener.state).state
          calls := listener.calls ++ [.signalled number (.next event)] }) ∨
      (∃ more, (listener.hear setup number message).1.calls = listener.calls ++ more ∧
        events more = []) ∧
        (listener.hear setup number message).1.state = listener.state ∧
        ((listener.hear setup number message).2 = .ok () → message.kind ≠ .event) := by
  have silent {calls : List (Entry ε ρ)} (same : calls = listener.calls) :
      ∃ more, calls = listener.calls ++ more ∧ events more = [] :=
    ⟨[], same.trans (List.append_nil _).symm, rfl⟩
  unfold hear
  cases kind : message.kind with
  | initialResponse =>
      right
      dsimp only
      cases listener.response with
      | none => exact ⟨silent rfl, rfl, nofun⟩
      | some response => exact ⟨⟨[.responded response], rfl, rfl⟩, rfl, nofun⟩
  | event =>
      dsimp only
      cases read : setup.readEvent (EventMessage.ofMessage message) setup.attributes with
      | error reason => exact .inr ⟨silent rfl, rfl, nofun⟩
      | ok event => exact .inl ⟨event, rfl, rfl, rfl⟩
  | missingEventType => exact .inr ⟨silent rfl, rfl, nofun⟩
  | error code text => exact .inr ⟨silent rfl, rfl, nofun⟩
  | other type => exact .inr ⟨silent rfl, rfl, nofun⟩

theorem hear_adds (setup : Setup ε ω σ ρ) (number : Nat) (listener : Listener ε ρ σ)
    (message : Message) :
    ∃ more, (listener.hear setup number message).1.calls = listener.calls ++ more ∧
      (events more).length ≤ [message].countP Message.isEvent ∧
      ((listener.hear setup number message).2 = .ok () →
        (events more).length = [message].countP Message.isEvent) := by
  rw [message.countP_isEvent]
  rcases listener.hear_cases setup number message with
    ⟨event, kind, _, heard⟩ | ⟨⟨more, added, none⟩, _, other⟩
  · refine ⟨[.signalled number (.next event)], congrArg Listener.calls heard, ?_⟩
    rw [if_pos kind]
    exact ⟨Nat.le_refl 1, fun _ => rfl⟩
  · refine ⟨more, added, ?_, ?_⟩
    · rw [none]
      exact Nat.zero_le _
    · intro sound
      rw [if_neg (other sound), none]
      rfl

theorem walk_adds (setup : Setup ε ω σ ρ) (number : Nat) (listener : Listener ε ρ σ)
    (messages : List Message) :
    ∃ more, (Fed.walk (hear setup number) listener messages).1.calls = listener.calls ++ more ∧
      (events more).length ≤ messages.countP Message.isEvent ∧
      ((Fed.walk (hear setup number) listener messages).2 = .ok () →
        (events more).length = messages.countP Message.isEvent) := by
  induction messages generalizing listener with
  | nil => exact ⟨[], (List.append_nil _).symm, Nat.le_refl _, fun _ => rfl⟩
  | cons message later ih =>
      obtain ⟨first, added, few, counted⟩ := hear_adds setup number listener message
      have both : (message :: later).countP Message.isEvent =
          [message].countP Message.isEvent + later.countP Message.isEvent := by
        rw [← List.countP_append]
        rfl
      rw [Fed.walk, both]
      generalize listener.hear setup number message = answer at added counted ⊢
      obtain ⟨heard, verdict⟩ := answer
      cases verdict with
      | error cause =>
          exact ⟨first, added, Nat.le_add_right_of_le few, fun impossible => by cases impossible⟩
      | ok accepted =>
          obtain ⟨rest, addedToo, fewToo, countedToo⟩ := ih heard
          refine ⟨first ++ rest, ?_, ?_, ?_⟩
          · change (Fed.walk (hear setup number) heard later).1.calls = _
            rw [addedToo, ← List.append_assoc]
            exact congrArg (· ++ rest) added
          · rw [events_append, List.length_append]
            exact Nat.add_le_add few fewToo
          · intro sound
            rw [events_append, List.length_append, counted rfl, countedToo sound]

theorem hearAll_adds (setup : Setup ε ω σ ρ) (number : Nat) (listener : Listener ε ρ σ)
    (bytes : Bytes) (final : Option TransportError) :
    listener.calls <+: (listener.hearAll setup number bytes final).1 := by
  obtain ⟨more, added, _⟩ :=
    walk_adds setup number listener (Frame.messages setup.limits bytes).1
  have heard : listener.calls <+: (Fed.walk (hear setup number) listener
      (Frame.messages setup.limits bytes).1).1.calls := by
    rw [added]
    exact List.prefix_append _ _
  unfold hearAll finish
  dsimp only
  split
  · exact heard.trans (List.prefix_append _ _)
  · exact heard.trans (List.prefix_append _ _)

end Listener

/-! ### Requests in the hooks -/

/-- The listener's requests are in the log, with as many that were made elsewhere. -/
structure Heeded {ε ρ ω σ : Type} (setup : Setup ε ω σ ρ) (number made : Nat)
    (log : List (Entry ε ρ)) (listener : Listener ε ρ σ) : Prop where
  state : listener.state =
    (setup.subscribers number).told (setup.subscribers number).attached (events listener.calls)
  asked : made + (setup.subscribers number).asked (setup.subscribers number).attached
    (events listener.calls) ≤ requested log

theorem Heeded.grown {ε ρ ω σ : Type} {setup : Setup ε ω σ ρ} {number made : Nat}
    {log later : List (Entry ε ρ)} {listener : Listener ε ρ σ}
    (heeded : Heeded setup number made log listener) (more : requested log ≤ requested later) :
    Heeded setup number made later listener :=
  ⟨heeded.state, Nat.le_trans heeded.asked more⟩

namespace Flow

variable {ε ρ ω σ : Type} {setup : Setup ε ω σ ρ} {ask : Ask ε ρ ω σ} {number made : Nat}
  {delivery : Delivery} {source : Source} {pending : Option Bytes}
  {flow : Flow ε ρ ω σ} {listener : Listener ε ρ σ}

/-- As long as a chunk is due, a request goes to the log and asks for nothing else. -/
theorem request_of_resting {count : Nat} (counts : count ≠ 0) (wanted : flow.cancelled = false)
    (resting : Resting flow) :
    request ask count flow =
      record (.demanded count) { flow with demand := flow.demand.add count } := by
  have counted : ¬(count = 0 || flow.cancelled) = true := by
    rw [wanted, Bool.or_false, decide_eq_true_eq]
    exact counts
  unfold request
  rw [if_neg counted]
  exact askNext_of_resting resting

theorem controls_requested (controls : List Control) (willing : .cancel ∉ controls)
    (wanted : flow.cancelled = false) (resting : Resting flow) :
    requested (controls.foldl (obey ask) flow).log =
      requested flow.log + (controls.map Control.units).sum := by
  induction controls generalizing flow with
  | nil => rfl
  | cons control later ih =>
      have laterWilling : .cancel ∉ later := fun member => willing (List.mem_cons_of_mem _ member)
      cases control with
      | cancel => exact absurd List.mem_cons_self willing
      | request count =>
          rw [List.foldl_cons, List.map_cons, List.sum_cons]
          change requested (later.foldl (obey ask) (request ask count flow)).log =
            _ + (count + _)
          by_cases none : count = 0
          · rw [none, request_zero, ih laterWilling wanted resting, Nat.zero_add]
          · rw [request_of_resting none wanted resting, ih laterWilling]
            · change count + requested flow.log + _ = _
              omega
            · exact wanted
            · exact resting

theorem signal_requested (alone : ask.Alone) (willing : (setup.subscribers number).NeverCancels)
    (follows : Follows number delivery source pending flow listener) (given : EventSignal ε) :
    requested (signal setup ask given flow).1.log =
      requested flow.log + (setup.subscribers number).units given listener.state := by
  let reaction := (setup.subscribers number).react given listener.state
  let told := reaction.controls.foldl (obey ask) (informed setup given number listener.state flow)
  have informed := follows.informed setup given
  have obeyed : Follows number delivery source pending told _ :=
    (informed.demands (controls_demands _ (willing given _) informed.resting)).1
  have signalled : (signal setup ask given flow).1 = told :=
    congrArg Prod.fst (signal_alone alone follows.holder rfl obeyed.quiet)
  have wanted : flow.cancelled = false := by
    rw [follows.shape]
    rfl
  rw [signalled]
  refine (controls_requested _ (willing given _) ?_ informed.resting).trans ?_
  · exact wanted
  · change 0 + requested flow.log + _ = _
    rw [Nat.zero_add]
    rfl

theorem deal_heeds (willing : (setup.subscribers number).NeverCancels)
    (follows : Follows number delivery source pending flow listener)
    (heeded : Heeded setup number made flow.log listener) (message : Message) :
    Heeded setup number made (deal setup (asking setup bookChunk) flow message).1.log
      (listener.hear setup number message).1 := by
  let ask : Ask ε ρ ω σ := asking setup bookChunk
  have alone : ask.Alone := asking_alone bookChunk
  rcases listener.hear_cases setup number message with
    ⟨event, kind, read, heard⟩ | ⟨⟨more, added, none⟩, state, _⟩
  · have noted : Follows number delivery source pending (record (.looked .event) flow) listener :=
      follows.note rfl
    let served : Flow ε ρ ω σ :=
      { record (.looked .event) flow with demand := flow.demand.serve }
    have dealt : (deal setup ask flow message).1 = (signal setup ask (.next event) served).1 := by
      unfold deal
      rw [if_neg follows.going, kind]
      exact congrArg Prod.fst (handEvent_of_read read noted.holder)
    have requests : requested (signal setup ask (.next event) served).1.log =
        0 + requested flow.log + (setup.subscribers number).units (.next event) listener.state :=
      signal_requested alone willing noted.served (.next event)
    have given : events (listener.calls ++ [.signalled number (.next event)]) =
        events listener.calls ++ [event] := Listener.events_append _ _
    change Heeded setup number made (deal setup ask flow message).1.log _
    rw [dealt, heard]
    refine ⟨?_, ?_⟩
    · rw [given, EventSubscriber.told_append, ← heeded.state]
      rfl
    · have asked := heeded.asked
      rw [given, EventSubscriber.asked_append, ← heeded.state]
      change _ + (_ + ((setup.subscribers number).units (.next event) listener.state + 0)) ≤ _
      omega
  · have keeps : ask.Keeps (Spared setup) := booking_spares
    have takes := (deal_takes keeps follows.quiet message).2
    have same : events (listener.hear setup number message).1.calls = events listener.calls := by
      rw [added, Listener.events_append, none, List.append_nil]
    refine ⟨?_, ?_⟩
    · rw [state, same]
      exact heeded.state
    · rw [same]
      exact Nat.le_trans heeded.asked takes.requested

theorem walk_heeds (willing : (setup.subscribers number).NeverCancels) (messages : List Message)
    (follows : Follows number delivery source pending flow listener)
    (heeded : Heeded setup number made flow.log listener) :
    Heeded setup number made
      (Fed.walk (deal setup (asking setup bookChunk)) flow messages).1.log
      (Fed.walk (Listener.hear setup number) listener messages).1 := by
  induction messages generalizing flow listener with
  | nil => exact heeded
  | cons message later ih =>
      obtain ⟨next, same, followed, _⟩ :=
        deal_hears (asking_alone bookChunk) willing follows message
      have first := deal_heeds willing follows heeded message
      rw [Fed.walk, Fed.walk, same]
      rw [same] at first
      generalize deal setup (asking setup bookChunk) flow message = dealt at followed first ⊢
      obtain ⟨after, verdict⟩ := dealt
      cases verdict with
      | error cause => exact first
      | ok accepted => exact ih followed first

end Flow

end FramedEvents
