/-
What becomes of a stream that ends inside a message.

The end of a transport completes the stream. The bytes that are kept for an incomplete
message are not looked at, so they make no difference: the handler is asked for its
result as soon as all messages in front of them have been accepted. To tell from its
outcome whether a stream was cut short is possible only if something else has failed.
-/

import FramedEvents.Proofs.Flow.Fulfilment
import FramedEvents.Wire.Reader

namespace FramedEvents

namespace Frame

variable {limits : Limits}

/-- These bytes are the frames of messages, one after the other. -/
def Composed (limits : Limits) (bytes : Bytes) : Prop :=
  ∃ frames : List Bytes, frames.flatten = bytes ∧
    ∀ frame ∈ frames, ∃ message, encode limits message = .ok frame

theorem composed_iff {bytes : Bytes} :
    Composed limits bytes ↔ (messages limits bytes).2 = .ok [] := by
  constructor
  · rintro ⟨frames, rfl, whole⟩
    induction frames with
    | nil =>
        rw [List.flatten_nil, messages_nil]
    | cons frame later ih =>
        obtain ⟨⟨message, encoded⟩, rest⟩ := List.forall_mem_cons.mp whole
        have read : decode limits (frame ++ later.flatten) = (.ok (some message), later.flatten) :=
          decode_eq_iff.mpr (.of_encode encoded later.flatten)
        rw [List.flatten_cons, messages_message read]
        exact ih rest
  · intro clean
    fun_induction messages limits bytes with
    | case1 bytes error rest decoded => cases clean
    | case2 bytes rest decoded =>
        cases clean
        obtain rfl := decode_waiting decoded
        exact ⟨[], rfl, List.forall_mem_nil _⟩
    | case3 bytes message rest decoded behind ih =>
        obtain ⟨frames, same, whole⟩ := ih clean
        obtain ⟨frame, encoded, parts⟩ := (decode_eq_iff.mp decoded).encode_of_message
        refine ⟨frame :: frames, ?_, List.forall_mem_cons.mpr ⟨⟨message, encoded⟩, whole⟩⟩
        rw [List.flatten_cons, same, parts]

end Frame

/-- A reader of messages takes the end of its input between two messages for the end,
and inside of one for a failure. -/
theorem Reader.read?_at_end {limits : Limits} {pending : Bytes}
    (waits : Frame.decode limits pending = (.ok none, pending)) :
    (Reader.read? { script := [], pending := pending, limits := limits }).1 =
      if pending = [] then .ok none else .error .connectionClosed := by
  have closed : Reader.read { script := [], pending := pending, limits := limits } =
      (.error .connectionClosed, { script := [], pending := pending, limits := limits }) := by
    rw [Reader.read]
    dsimp only
    rw [waits]
    rfl
  unfold Reader.read?
  rw [closed]
  by_cases none : pending = []
  · rw [if_pos none]
    exact congrArg Prod.fst (if_pos ⟨rfl, none⟩)
  · rw [if_neg none]
    exact congrArg Prod.fst (if_neg fun both => none both.2)

namespace Flow

variable {ε ρ ω σ : Type} {setup : Setup ε ω σ ρ} {number : Nat} {source : Source}
  {chunks : List Bytes} {final : Option TransportError}

/-- The subscriber and then the handler have been told of a failure, and nothing else
after it. -/
def EndsInFailure (number : Nat) (flow : Flow ε ρ ω σ) : Prop :=
  ∃ earlier cause, flow.outcome = .ready (.error cause) ∧
    flow.calls = earlier ++ [.signalled number (.failed cause), .failureReported cause]

/-- The messages of a stream have been accepted, and these bytes are left. -/
def LeavesBehind (setup : Setup ε ω σ ρ) (number : Nat) (response : ρ)
    (bytes left : Bytes) : Prop :=
  (Frame.messages setup.limits bytes).2 = .ok left ∧
    (Fed.walk (Listener.hear setup number) (Listener.attach setup number response)
      (Frame.messages setup.limits bytes).1).2 = .ok ()

/-- A stream that has been cut short does not pass for a success. -/
structure TellsTruncation (setup : Setup ε ω σ ρ) (number : Nat) (response : ρ) (bytes : Bytes)
    (flow : Flow ε ρ ω σ) : Prop where
  success : ∀ value, flow.outcome = .ready (.ok value) → Frame.Composed setup.limits bytes
  failure : ∀ left, LeavesBehind setup number response bytes left → left ≠ [] →
    EndsInFailure number flow

/-- A subscriber that asks for everything at once sees the end of the stream before it
has been started. -/
theorem start_ends (response : ρ) {others : List Nat}
    (subscribes : setup.handler.onStream = number :: others)
    (eager : mostDemand ≤ (setup.subscribers number).units .subscribed
      (setup.subscribers number).start)
    (willing : (setup.subscribers number).NeverCancels) (supplies : source.Supplies chunks final)
    (few : (events (reference setup number response chunks.flatten final).1).length < mostDemand) :
    Ended (reference setup number response chunks.flatten final)
      (start setup response { transports := [⟨.pull {} source, none⟩] }).2 :=
  (start_attended response subscribes willing supplies).2.ends eager few

theorem reference_of_left {response : ρ} {bytes left : Bytes}
    (leaves : LeavesBehind setup number response bytes left) :
    ∃ earlier, reference setup number response bytes none =
      (earlier ++ [.signalled number .completed, .completionReported],
        setup.handler.result (earlier.filterMap Entry.given?)) := by
  obtain ⟨rest, accepted⟩ := leaves
  unfold reference Listener.hearAll
  generalize Frame.messages setup.limits bytes = found at rest accepted
  obtain ⟨messages, stop⟩ := found
  dsimp only at rest accepted ⊢
  generalize Fed.walk (Listener.hear setup number) (Listener.attach setup number response)
    messages = walked at accepted ⊢
  obtain ⟨heard, verdict⟩ := walked
  dsimp only at accepted ⊢
  rw [rest, accepted]
  exact ⟨heard.calls, rfl⟩

theorem reference_of_failure {response : ρ} {bytes : Bytes}
    (unsound : ∀ left, ¬LeavesBehind setup number response bytes left) :
    ∃ earlier cause, reference setup number response bytes none =
      (earlier ++ [.signalled number (.failed cause), .failureReported cause], .error cause) := by
  unfold LeavesBehind at unsound
  unfold reference Listener.hearAll
  generalize Frame.messages setup.limits bytes = found at unsound ⊢
  obtain ⟨messages, stop⟩ := found
  dsimp only at unsound ⊢
  generalize Fed.walk (Listener.hear setup number) (Listener.attach setup number response)
    messages = walked at unsound ⊢
  obtain ⟨heard, verdict⟩ := walked
  dsimp only at unsound ⊢
  cases failure : Listener.failure? verdict stop none with
  | some cause => exact ⟨heard.calls, cause, rfl⟩
  | none =>
      obtain ⟨rfl, left, rfl⟩ := Listener.failure?_eq_none failure
      exact absurd ⟨rfl, rfl⟩ (unsound left)

/-- Whatever is left behind the messages, the handler is asked for its result. So the
end of a stream tells the truth about the bytes if, and only if, nothing is left behind
messages that have all been accepted. -/
theorem tells_truncation_iff (response : ρ) {others : List Nat}
    (subscribes : setup.handler.onStream = number :: others)
    (eager : mostDemand ≤ (setup.subscribers number).units .subscribed
      (setup.subscribers number).start)
    (willing : (setup.subscribers number).NeverCancels) (supplies : source.Supplies chunks none)
    (few : (events (reference setup number response chunks.flatten none).1).length < mostDemand) :
    let after := (start setup response { transports := [⟨.pull {} source, none⟩] }).2
    (∀ left, LeavesBehind setup number response chunks.flatten left →
      ∃ earlier, after.outcome = .ready (setup.handler.result after.given) ∧
        after.calls = earlier ++ [.signalled number .completed, .completionReported]) ∧
      (TellsTruncation setup number response chunks.flatten after ↔
        ∀ left, LeavesBehind setup number response chunks.flatten left → left = []) := by
  intro after
  have ended : Ended (reference setup number response chunks.flatten none) after :=
    start_ends response subscribes eager willing supplies few
  have completes {left : Bytes} (leaves : LeavesBehind setup number response chunks.flatten left) :
      ∃ earlier, after.outcome = .ready (setup.handler.result after.given) ∧
        after.calls = earlier ++ [.signalled number .completed, .completionReported] := by
    obtain ⟨earlier, same⟩ := reference_of_left leaves
    have calls : after.calls = earlier ++ [.signalled number .completed, .completionReported] :=
      ended.calls.trans (congrArg Prod.fst same)
    have given : after.given = earlier.filterMap Entry.given? := by
      rw [given_eq_calls, calls, List.filterMap_append]
      exact List.append_nil _
    refine ⟨earlier, ?_, calls⟩
    rw [given]
    exact ended.outcome.trans (congrArg (Outcome.ready ∘ Prod.snd) same)
  refine ⟨fun left leaves => completes leaves, ?_, ?_⟩
  · intro tells left leaves
    -- A failure in front of bytes that are left would stand where the completion stands.
    apply Classical.byContradiction
    intro some
    obtain ⟨earlier, _, calls⟩ := completes leaves
    obtain ⟨others, cause, _, failed⟩ := tells.failure left leaves some
    rw [calls] at failed
    obtain ⟨_, last⟩ := List.append_inj' failed rfl
    cases last
  · intro clean
    refine ⟨?_, fun left leaves some => absurd (clean left leaves) some⟩
    intro value succeeded
    by_cases accepted : ∃ left, LeavesBehind setup number response chunks.flatten left
    · obtain ⟨left, leaves⟩ := accepted
      obtain rfl := clean left leaves
      exact Frame.composed_iff.mpr leaves.1
    · obtain ⟨earlier, cause, same⟩ := reference_of_failure (not_exists.mp accepted)
      have failed := ended.outcome
      rw [same, succeeded] at failed
      cases failed

private def cut : Bytes := [0, 0, 0, 16]

private theorem decode_cut : Frame.decode {} cut = (.ok none, cut) :=
  Frame.decode_eq_iff.mpr (.short (by decide))

private theorem cut_leaves : LeavesBehind greedy 0 "hello" cut cut := by
  have found : Frame.messages greedy.limits cut = ([], .ok cut) :=
    Frame.messages_waiting decode_cut
  unfold LeavesBehind
  rw [found]
  exact ⟨rfl, rfl⟩

private theorem cut_reference : reference greedy 0 "hello" cut none =
    ([.streamReady, .signalled 0 .subscribed, .signalled 0 .completed, .completionReported],
      .ok 0) := by
  have found : Frame.messages greedy.limits cut = ([], .ok cut) :=
    Frame.messages_waiting decode_cut
  unfold reference Listener.hearAll
  rw [found]
  rfl

private theorem cut_few :
    (events (reference greedy 0 "hello" cut none).1).length < mostDemand := by
  rw [cut_reference]
  decide

theorem tells_truncation_iff_cut :
    ¬TellsTruncation greedy 0 "hello" cut
      (start greedy "hello" { transports := [⟨.pull {} (.chunks [cut]), none⟩] }).2 := by
  intro tells
  obtain ⟨_, exactly⟩ := tells_truncation_iff "hello" rfl (Nat.le_refl _) greedy_willing
    (Source.supplies_chunks [cut]) cut_few
  cases exactly.mp tells cut cut_leaves

/-- Four bytes that are no message pass for a success, while a reader of messages
refuses them. -/
theorem success_of_cut :
    (start greedy "hello" { transports := [⟨.pull {} (.chunks [cut]), none⟩] }).2.outcome =
        .ready (.ok 0) ∧
      ¬Frame.Composed greedy.limits cut ∧
      (Reader.read? { script := [], pending := cut }).1 = .error .connectionClosed := by
  have ended : Ended (reference greedy 0 "hello" cut none)
      (start greedy "hello" { transports := [⟨.pull {} (.chunks [cut]), none⟩] }).2 :=
    start_ends "hello" rfl (Nat.le_refl _) greedy_willing (Source.supplies_chunks [cut]) cut_few
  refine ⟨?_, ?_, ?_⟩
  · exact ended.outcome.trans (congrArg (Outcome.ready ∘ Prod.snd) cut_reference)
  · intro composed
    have clean := Frame.composed_iff.mp composed
    rw [cut_leaves.1] at clean
    cases clean
  · exact (Reader.read?_at_end decode_cut).trans (if_neg (by decide))

end Flow

end FramedEvents
