/-
Events fetched one by one.

A stream of events is polled by somebody who takes one signal after the other out of its
channel. When nothing is received, one event is asked for, and whatever chunk answers this
leaves a signal to be received. The answers are the events of the reference and then its
failure. Giving up the stream before its end cancels the subscription, and then nothing is
fetched any more.

A receive may fail spuriously, and a poll takes this for an empty queue: it asks for an event
and may have to wait. Where no receive does, every poll is answered at once, and the queue is
as long as one chunk makes it.
-/

import FramedEvents.Proofs.Flow.Cancelling
import FramedEvents.Proofs.Flow.Filling
import Mathlib.Data.List.Infix

namespace FramedEvents

variable {ε ρ ω : Type}

/-- Whether a poll is answered. -/
def Polled.isAnswer : Polled ε → Bool
  | .pending => false
  | _ => true

/-- What a poll answers when it takes this signal out of the queue. -/
def EventSignal.polled : EventSignal ε → Polled ε
  | .next event => .event event
  | .failed cause => .failed cause
  | _ => .finished

/-- What the polls of a stream with these calls answer, before they answer that it is
finished: every event once, and then the failure that is reported. -/
def replies (calls : List (Entry ε ρ)) : List (Polled ε) :=
  (events calls).map .event ++ (failureIn calls).toList.map .failed

def sinceChunk (log : List (Entry ε ρ)) : List (Entry ε ρ) :=
  log.takeWhile fun entry => !entry.isChunkArrival

/-! ### Places in the reference -/

section

variable {calls : List (Entry ε ρ)} {count : Nat} {signal : EventSignal ε}

def Concluded (calls : List (Entry ε ρ)) : Prop :=
  signals calls = (events calls).map .next ++ [.last (failureIn calls)]

theorem Concluded.length (concluded : Concluded calls) :
    (signals calls).length = (events calls).length + 1 := by
  have total := congrArg List.length concluded
  rw [List.length_append, List.length_map] at total
  exact total

theorem reply_event (within : count < (events calls).length) :
    (replies calls)[count]? = some (.event (events calls)[count]) := by
  unfold replies
  rw [List.getElem?_append_left (by rw [List.length_map]; exact within), List.getElem?_map,
    List.getElem?_eq_getElem within]
  rfl

theorem reply_behind (behind : (events calls).length ≤ count) :
    (replies calls)[count]? =
      ((failureIn calls).toList.map Polled.failed)[count - (events calls).length]? := by
  unfold replies
  rw [List.getElem?_append_right (by rw [List.length_map]; exact behind), List.length_map]

theorem Concluded.reply (concluded : Concluded calls)
    (here : (signals calls)[count]? = some signal) :
    (replies calls)[count]?.getD .finished = signal.polled ∧
      (count + 1 < (signals calls).length ↔ ∃ event, signal = .next event) := by
  have total := concluded.length
  rw [concluded] at here
  by_cases within : count < (events calls).length
  · rw [List.getElem?_append_left (by rw [List.length_map]; exact within), List.getElem?_map,
      List.getElem?_eq_getElem within] at here
    obtain rfl := Option.some.inj here
    rw [reply_event within]
    exact ⟨rfl, iff_of_true (by omega) ⟨_, rfl⟩⟩
  · have behind : (events calls).length ≤ count := Nat.le_of_not_lt within
    rw [List.getElem?_append_right (by rw [List.length_map]; exact behind), List.length_map] at here
    obtain ⟨first, _⟩ := List.getElem?_eq_some_iff.mp here
    have last : count - (events calls).length = 0 := by
      rw [List.length_singleton] at first
      omega
    rw [last] at here
    obtain rfl := Option.some.inj here
    rw [reply_behind behind, last]
    refine ⟨?_, iff_of_false (by omega) ?_⟩
    · cases failureIn calls <;> rfl
    · rintro ⟨event, same⟩
      exact EventSignal.last_ne_next _ event same

theorem Concluded.finished (concluded : Concluded calls) (past : (signals calls).length ≤ count) :
    (replies calls)[count]?.getD .finished = .finished := by
  have total := concluded.length
  have short : (replies calls).length ≤ count := by
    unfold replies
    rw [List.length_append, List.length_map, List.length_map]
    have one := @Option.length_toList_le _ (failureIn calls)
    omega
  rw [List.getElem?_eq_none short]
  rfl

end

theorem isAnswer_reply (calls : List (Entry ε ρ)) (index : Nat) :
    ((replies calls)[index]?.getD .finished).isAnswer = true := by
  cases here : (replies calls)[index]? with
  | none => rfl
  | some reply =>
      rcases List.mem_append.mp (List.mem_of_getElem? here) with early | late
      · obtain ⟨event, _, rfl⟩ := List.mem_map.mp early
        rfl
      · obtain ⟨cause, _, rfl⟩ := List.mem_map.mp late
        rfl

theorem getElem?_of_prefix {all rest : List (EventSignal ε)} {signal : EventSignal ε} {count : Nat}
    (front : all.take count ++ signal :: rest <+: all) : all[count]? = some signal := by
  obtain ⟨more, whole⟩ := front
  have total := congrArg List.length whole
  rw [List.length_append, List.length_append, List.length_take, List.length_cons] at total
  have taken : (all.take count).length = count := by
    rw [List.length_take]
    omega
  rw [← whole, List.append_assoc, List.getElem?_append_right (Nat.le_of_eq taken), taken,
    Nat.sub_self]
  rfl

namespace Flow

open EventStream

/-! ### The end of a stream -/

theorem Orderly.failed {stage : Stage} {calls : List (Entry ε ρ)} (orderly : Orderly stage calls)
    {cause : FlowError} (reported : .failureReported cause ∈ calls) : stage = .failed cause := by
  have silent {others : List (Entry ε ρ)} (ordinary : ∀ call ∈ others, call.isFinal = false) :
      .failureReported cause ∉ others := fun member =>
    Bool.noConfusion (ordinary (.failureReported cause) member)
  have introducing {others : List (Entry ε ρ)}
      (introductions : ∀ call ∈ others, call.isIntroduction = true) :
      .failureReported cause ∉ others := fun member =>
    Bool.noConfusion (introductions (.failureReported cause) member)
  have final {stage : Stage} (same : (.failureReported cause : Entry ε ρ) = stage.report) :
      stage = .failed cause := by
    cases stage <;> cases same
    rfl
  cases orderly with
  | running before => exact absurd reported (silent before)
  | endedAlone _ done before nobody introductions =>
      rcases List.mem_append.mp reported with early | late
      · exact absurd early (silent before)
      · rcases List.mem_cons.mp late with same | later
        · exact final same
        · exact absurd later (introducing introductions)
  | endedTelling _ done before number holder inside introductions =>
      rcases List.mem_append.mp reported with early | late
      · exact absurd early (silent before)
      · rcases List.mem_cons.mp late with same | later
        · cases stage <;> cases same
        · rcases List.mem_append.mp later with during | last
          · exact absurd during (introducing inside)
          · rcases List.mem_cons.mp last with same | after
            · exact final same
            · exact absurd after (introducing introductions)

theorem mem_of_failureIn {calls : List (Entry ε ρ)} {cause : FlowError}
    (failure : failureIn calls = some cause) : .failureReported cause ∈ calls := by
  obtain ⟨call, member, same⟩ := List.exists_of_findSome?_eq_some failure
  cases call with
  | failureReported reason =>
      obtain rfl := Option.some.inj same
      exact member
  | _ => cases same

/-! ### Cancelling -/

section

variable {σ : Type} {setup : Setup ε ω σ ρ} {flow after : Flow ε ρ ω σ}

end

/-! ### Between two polls -/

variable {κ : Type} [Mailbox ε κ] {setup : Setup ε ω κ ρ} {number count extra : Nat}
  {chunks : List Bytes} {final : Option TransportError}
  {told : List (Entry ε ρ) × Except FlowError ω} {source : Source} {flow : Flow ε ρ ω κ}
  {signal : EventSignal ε} {waiting : List (EventSignal ε)}

/-- A stream out of whose queue so many signals have been taken, if there are as many. All
other signals that it has given are in the queue. If no receive fails spuriously, they have
come since the last chunk. -/
structure Stocked (setup : Setup ε ω κ ρ) (number : Nat) (chunks : List Bytes)
    (final : Option TransportError) (told : List (Entry ε ρ) × Except FlowError ω)
    (count extra : Nat) (flow : Flow ε ρ ω κ) : Prop where
  rested : Rested setup number chunks final told flow
  queued : Queued number ((signals told.1).take count) flow
  measured : Mailbox.Prompt κ →
    Measured (((signals told.1).take count).length + extra) flow.log
  narrow : Mailbox.Prompt κ → ∀ size, (∀ chunk ∈ chunks, chunk.length ≤ size) →
    (queue flow).length ≤ size / 16 + 1 + extra
  settled : Settled flow
  books : Told flow

theorem Rested.front (rested : Rested setup number chunks final told flow) :
    signals flow.calls <+: signals told.1 := by
  cases rested with
  | paused behind left listener source shape calls ahead =>
      rw [calls, ← ahead.rest]
      exact (listener.hearAll_adds setup number _ final).filterMap _
  | ended ended =>
      rw [ended.calls]

theorem Stocked.waits (stocked : Stocked setup number chunks final told count extra flow)
    (some : queue flow = signal :: waiting) :
    (signals told.1)[count]? = .some signal := by
  have front := stocked.rested.front
  rw [stocked.queued.order, some] at front
  exact getElem?_of_prefix front

/-- If every chunk arrived when the queue was empty, what is in it has come since the last
one. -/
theorem Queued.since {taken : List (EventSignal ε)} (queued : Queued number taken flow)
    (measured : Measured taken.length flow.log) :
    queue flow <:+ signals (callsIn (sinceChunk flow.log)) := by
  let before := flow.log.dropWhile fun entry => !entry.isChunkArrival
  have split : flow.log = sinceChunk flow.log ++ before :=
    List.takeWhile_append_dropWhile.symm
  have fewer : (signals (callsIn before)).length ≤ taken.length := by
    cases last : before with
    | nil => exact Nat.zero_le _
    | cons entry earlier =>
        have arrival : entry.isChunkArrival = true := by
          have head := List.head?_dropWhile_not (fun entry => !entry.isChunkArrival) flow.log
          have front : flow.log.dropWhile _ = entry :: earlier := last
          rw [front] at head
          exact (Bool.not_eq_false' _).mp head
        cases entry with
        | chunkArrived index bytes =>
            have suffix : .chunkArrived index bytes :: earlier <:+ flow.log := by
              rw [← last]
              exact List.dropWhile_suffix _
            rw [signals_cons]
            change (signals (callsIn earlier) ++ []).length ≤ _
            rw [List.append_nil]
            exact Nat.le_of_lt (measured.arrivals index bytes earlier suffix)
        | _ => cases arrival
  have whole : taken ++ queue flow =
      signals (callsIn before) ++ signals (callsIn (sinceChunk flow.log)) := by
    rw [← queued.order, ← signals_append, ← callsIn_append, ← split]
    rfl
  have total := congrArg List.length whole
  rw [List.length_append, List.length_append] at total
  refine List.suffix_of_suffix_length_le (List.suffix_append taken _) ?_ (by omega)
  rw [whole]
  exact List.suffix_append _ _

theorem Stocked.ends (stocked : Stocked setup number chunks final told count extra flow)
    (concluded : Concluded told.1) (all : (signals told.1).length ≤ count) :
    Ended told flow := by
  cases stocked.rested with
  | ended ended => exact ended
  | paused behind left listener source shape calls ahead =>
      -- Every signal is an event before the end, but the last one of the reference is not.
      have running : flow.stage = .running := by
        rw [shape]
        rfl
      have given := signals_of_unended (stocked.settled.before running)
      rw [stocked.queued.order, List.take_of_length_le all, concluded, List.append_assoc] at given
      have last : EventSignal.last (failureIn told.1) ∈ (events flow.calls).map .next := by
        rw [← given]
        simp
      obtain ⟨event, _, same⟩ := List.mem_map.mp last
      exact absurd same.symm (EventSignal.last_ne_next _ event)

theorem Stocked.past (stocked : Stocked setup number chunks final told count extra flow)
    (all : (signals told.1).length ≤ count) :
    Stocked setup number chunks final told (count + 1) extra flow := by
  obtain ⟨rested, queued, measured, narrow, settled, books⟩ := stocked
  have same : (signals told.1).take (count + 1) = (signals told.1).take count := by
    rw [List.take_of_length_le all, List.take_of_length_le (Nat.le_succ_of_le all)]
  refine ⟨rested, ?_, ?_, narrow, settled, books⟩
  · rw [same]
    exact queued
  · rw [same]
    exact measured

theorem Rested.turn (documented : Mailbox.Documented κ)
    (channel : setup.subscribers number = Mailbox.subscriber)
    (rested : Rested setup number chunks final told flow) {box : κ}
    (usable : Mailbox.closed box = false) :
    Rested setup number chunks final told { flow with subscriber := some (number, box) } := by
  cases rested with
  | ended ended => exact .ended ⟨ended.calls, ended.outcome, ended.done, ended.quiet, rfl⟩
  | paused behind left listener source shape calls ahead =>
      have alike : Listener.Alike { listener with state := box } listener :=
        ⟨rfl, rfl, usable, ahead.usable⟩
      refine .paused behind left { listener with state := box } source ?_ calls
        ⟨ahead.supplies, ahead.within, ahead.waits, usable, ?_⟩
      · rw [shape]
        rfl
      · rw [Listener.hearAll_alike documented channel alike]
        exact ahead.rest

theorem Stocked.fetch (documented : Mailbox.Documented κ)
    (channel : setup.subscribers number = Mailbox.subscriber)
    (stocked : Stocked setup number chunks final told count extra flow) (most : extra ≤ 1) :
    ∃ after : Flow ε ρ ω κ,
      EventStream.fetch flow = (none, after) ∧ (Mailbox.Prompt κ → queue after = []) ∧
          (Mailbox.Prompt κ → queue flow = []) ∧
          Stocked setup number chunks final told count extra after ∨
        ∃ signal, EventStream.fetch flow = (some (some signal), after) ∧
          (signals told.1)[count]? = some signal ∧
          Stocked setup number chunks final told (count + 1) 0 after := by
  obtain ⟨box, usable, received⟩ := stocked.queued.fetch documented
  obtain ⟨held, bound, _⟩ := stocked.queued.holder
  let after : Flow ε ρ ω κ := { flow with subscriber := some (number, box) }
  have rested : Rested setup number chunks final told after :=
    stocked.rested.turn documented channel usable
  have settled : Settled after := stocked.settled.turn bound box
  have books : Told after := stocked.books.of_same rfl rfl rfl rfl
  have holder : after.subscriber = some (number, box) := rfl
  refine ⟨after, ?_⟩
  rcases received with ⟨none, kept, empty⟩ | ⟨signal, fetched, first⟩
  · have same : queue after = queue flow := (queue_of_holder holder).trans kept
    refine .inl ⟨none, same.trans ∘ empty, empty, rested, ?_, stocked.measured, ?_, settled, books⟩
    · refine .of_holder holder usable ?_
      rw [kept]
      exact stocked.queued.order
    · rw [same]
      exact stocked.narrow
  · have here := stocked.waits first
    have taken : (signals told.1).take (count + 1) = (signals told.1).take count ++ [signal] := by
      rw [List.take_add_one, here]
      rfl
    refine .inr ⟨signal, fetched, here, rested, ?_, ?_, ?_, settled, books⟩
    · refine .of_holder holder usable ?_
      rw [taken, List.append_assoc]
      exact stocked.queued.order.trans (congrArg _ first)
    · intro prompt
      rw [taken, List.length_append]
      exact (stocked.measured prompt).mono (Nat.add_le_add_left most _)
    · intro prompt size fits
      have narrow := stocked.narrow prompt size fits
      rw [first, List.length_cons] at narrow
      rw [queue_of_holder holder]
      omega

theorem Stocked.filling {log : List (Entry ε ρ)} {left : Bytes} {behind : List Bytes}
    {listener : Listener ε ρ κ}
    (stocked : Stocked setup number chunks final told count 0
      (pausing number source left listener log))
    (calls : callsIn log = listener.calls)
    (ahead : Ahead setup number chunks final told source behind listener left) :
    Filling setup number chunks final told (signals (callsIn log)).length source source behind
      listener left (streaming number drawing source (some left) listener (Demand.zero.add 1)
        (.chunkRequested :: .demanded 1 :: log)) := by
  have silent : demandIn log = .zero := stocked.books.demand.symm
  have given : ((signals told.1).take count).length ≤ (signals (callsIn log)).length := by
    have order : signals (callsIn log) = _ := stocked.queued.order
    rw [order, List.length_append]
    exact Nat.le_add_right _ _
  have demanded (prompt : Mailbox.Prompt κ) :
      Measured ((signals (callsIn log)).length + 1) (.demanded 1 :: log) := by
    refine ((stocked.measured prompt).mono (Nat.le_succ_of_le given)).cons ?_ nofun
    change ((demandIn log).add 1).outstanding ≤ 1
    rw [silent]
    exact Nat.le_refl 1
  refine ⟨⟨rfl, ?_⟩, rfl, ahead, ?_, ?_, fun prompt => (demanded prompt).unprompted (.note rfl _)⟩
  · change callsIn ([.chunkRequested, .demanded 1] ++ log) = _
    rw [callsIn_append]
    exact (List.append_nil _).trans calls
  · rw [← calls]
    exact stocked.settled.before rfl
  · rw [← calls]

/-- After one event has been asked for, the stream rests again. If the queue was empty, the
request has been answered. -/
theorem Stocked.request (documented : Mailbox.Documented κ)
    (channel : setup.subscribers number = Mailbox.subscriber)
    (stocked : Stocked setup number chunks final told count 0 flow)
    (short : count < (signals told.1).length) (empty : Mailbox.Prompt κ → queue flow = []) :
    Stocked setup number chunks final told count 1 (flow.requestOutside setup 1) ∧
      (Mailbox.Prompt κ → queue (flow.requestOutside setup 1) ≠ []) := by
  have taken : ((signals told.1).take count).length = count := by
    rw [List.length_take]
    exact Nat.min_eq_left (Nat.le_of_lt short)
  have level (prompt : Mailbox.Prompt κ) : (signals flow.calls).length = count := by
    rw [stocked.queued.order, empty prompt, List.append_nil, taken]
  have filled : Rested setup number chunks final told (flow.requestOutside setup 1) ∧
      (Mailbox.Prompt κ →
        Filled setup number chunks final told count (flow.requestOutside setup 1)) := by
    cases stocked.rested with
    | ended ended =>
        refine ⟨.ended (ended.demands (request_demands 1 ended.resting)), fun prompt => ?_⟩
        have all := level prompt
        rw [ended.calls] at all
        omega
    | paused behind left listener source shape calls ahead =>
        obtain ⟨log, rfl⟩ : ∃ log, flow = pausing number source left listener log := ⟨_, shape⟩
        have filled := (stocked.filling calls ahead).handOver documented channel
        unfold requestOutside
        rw [request_asks (by decide) rfl rfl rfl rfl]
        refine ⟨filled.rested, fun prompt => ?_⟩
        rw [← level prompt]
        exact filled
  have steps : Steps setup flow (flow.requestOutside setup 1) :=
    request_steps setup 1 stocked.queued.subscribed
  have queued := steps.queued documented channel stocked.queued
  have total := congrArg List.length queued.order
  rw [List.length_append, taken] at total
  refine ⟨⟨filled.1, queued, fun prompt => ?_, fun prompt size fits => ?_,
    steps.settled stocked.settled, steps.told stocked.books⟩, fun prompt none => ?_⟩
  · rw [taken]
    exact (filled.2 prompt).measured prompt
  · have few := (filled.2 prompt).few size fits
    omega
  · have more := (filled.2 prompt).more
    rw [none] at total
    change _ = count + 0 at total
    omega

end Flow

namespace EventStream

open FramedEvents.Flow

variable {κ : Type} [Mailbox ε κ] {setup : Setup ε ω κ ρ} {number count : Nat}
  {chunks : List Bytes} {final : Option TransportError}
  {told : List (Entry ε ρ) × Except FlowError ω} {source : Source} {stream : EventStream}
  {flow : Flow ε ρ ω κ} {calls : List (Entry ε ρ)} {signal : EventSignal ε}

/-! ### Polls -/

/-- What so many polls answer, and what they make of the stream. -/
def polls (setup : Setup ε ω κ ρ) (stream : EventStream) (flow : Flow ε ρ ω κ) :
    Nat → List (Polled ε) × EventStream × Flow ε ρ ω κ
  | 0 => ([], stream, flow)
  | count + 1 =>
      let before := polls setup stream flow count
      let polled := poll setup before.2.1 before.2.2
      (before.1 ++ [polled.1], polled.2)

/-- A stream whose polls have been answered so many times. It has not been finished before
its last signal was taken. Unless receives fail spuriously, no event is awaited until then. -/
structure Polling (setup : Setup ε ω κ ρ) (number : Nat) (chunks : List Bytes)
    (final : Option TransportError) (told : List (Entry ε ρ) × Except FlowError ω) (count : Nat)
    (stream : EventStream) (flow : Flow ε ρ ω κ) : Prop where
  stocked : Stocked setup number chunks final told count 0 flow
  done : stream.done = decide ((signals told.1).length ≤ count)
  awaiting : Mailbox.Prompt κ → stream.done = false → stream.awaiting = false

theorem yielded_reply (concluded : Concluded calls) (here : (signals calls)[count]? = some signal)
    (going : stream.done = false) :
    let yielded := stream.yielded (some signal)
    yielded.1 = (replies calls)[count]?.getD .finished ∧
      yielded.2.done = decide ((signals calls).length ≤ count + 1) ∧
      (yielded.2.done = false → yielded.2.awaiting = false) := by
  obtain ⟨reply, further⟩ := concluded.reply here
  have last (other : ∀ event, signal ≠ .next event) :
      true = decide ((signals calls).length ≤ count + 1) := by
    refine (decide_eq_true (Nat.le_of_not_lt ?_)).symm
    intro more
    obtain ⟨event, same⟩ := further.mp more
    exact other event same
  rw [reply]
  cases signal with
  | next event =>
      refine ⟨rfl, ?_, fun _ => rfl⟩
      refine going.trans (decide_eq_false (Nat.not_le_of_lt ?_)).symm
      exact further.mpr ⟨event, rfl⟩
  | subscribed => exact ⟨rfl, last nofun, nofun⟩
  | failed cause => exact ⟨rfl, last nofun, nofun⟩
  | completed => exact ⟨rfl, last nofun, nofun⟩

theorem Polling.takes (concluded : Concluded told.1)
    (here : (signals told.1)[count]? = some signal) (going : stream.done = false)
    (stocked : Stocked setup number chunks final told (count + 1) 0 flow) :
    (stream.yielded (some signal)).1 = (replies told.1)[count]?.getD .finished ∧
      Polling setup number chunks final told (count + 1) (stream.yielded (some signal)).2
        flow := by
  obtain ⟨reply, done, awaiting⟩ := yielded_reply concluded here going
  exact ⟨reply, stocked, done, fun _ => awaiting⟩

/-- Every poll is answered at once, with what comes next in the reference, unless a receive
has failed spuriously: then the next poll is answered with it, if it is answered. -/
theorem Polling.poll (documented : Mailbox.Documented κ)
    (channel : setup.subscribers number = Mailbox.subscriber) (concluded : Concluded told.1)
    (polling : Polling setup number chunks final told count stream flow) :
    let polled := EventStream.poll setup stream flow
    polled.1 = (replies told.1)[count]?.getD .finished ∧
        Polling setup number chunks final told (count + 1) polled.2.1 polled.2.2 ∨
      polled.1 = .pending ∧ ¬Mailbox.Prompt κ ∧
        Polling setup number chunks final told count polled.2.1 polled.2.2 := by
  obtain ⟨stocked, done, awaiting⟩ := polling
  unfold EventStream.poll
  by_cases past : (signals told.1).length ≤ count
  · rw [decide_eq_true past] at done
    rw [if_pos done, concluded.finished past]
    refine .inl ⟨rfl, stocked.past past, ?_, awaiting⟩
    exact done.trans (decide_eq_true (Nat.le_succ_of_le past)).symm
  · have stays := done
    rw [decide_eq_false past] at done
    have short := Nat.lt_of_not_le past
    rw [if_neg (by rw [done]; exact Bool.false_ne_true)]
    obtain ⟨after, received⟩ := stocked.fetch documented channel (Nat.zero_le 1)
    rcases received with ⟨fetched, empty, _, idle⟩ | ⟨signal, fetched, here, next⟩
    · rw [fetched]
      dsimp only
      by_cases expected : stream.awaiting = true
      · rw [if_pos expected]
        have spurious (prompt : Mailbox.Prompt κ) : False :=
          Bool.false_ne_true ((awaiting prompt done).symm.trans expected)
        exact .inr ⟨rfl, spurious, idle, stays, awaiting⟩
      · rw [if_neg expected]
        let waiting : EventStream := { stream with awaiting := true }
        obtain ⟨asked, answered⟩ := idle.request documented channel short empty
        obtain ⟨last, received⟩ := asked.fetch documented channel (Nat.le_refl 1)
        rcases received with ⟨fetched, _, none, idle⟩ | ⟨signal, fetched, here, next⟩
        · rw [fetched]
          have spurious (prompt : Mailbox.Prompt κ) : False := answered prompt (none prompt)
          refine .inr ⟨rfl, spurious, ⟨idle.rested, idle.queued, ?_, ?_, idle.settled, idle.books⟩,
            stays, ?_⟩
          · exact fun prompt => (spurious prompt).elim
          · exact fun prompt => (spurious prompt).elim
          · exact fun prompt => (spurious prompt).elim
        · rw [fetched]
          have going : waiting.done = false := done
          exact .inl (Polling.takes concluded here going next)
    · rw [fetched]
      exact .inl (Polling.takes concluded here done next)

/-- What the polls have answered so far is the front of the replies, and if no receive fails
spuriously, all of them have been answered. -/
theorem Polling.polls (documented : Mailbox.Documented κ)
    (channel : setup.subscribers number = Mailbox.subscriber) (concluded : Concluded told.1)
    (polling : Polling setup number chunks final told 0 stream flow) (count : Nat) :
    let polled := polls setup stream flow count
    let fetched := polled.1.filter Polled.isAnswer
    fetched = (List.range fetched.length).map
        (fun index => (replies told.1)[index]?.getD .finished) ∧
      Polling setup number chunks final told fetched.length polled.2.1 polled.2.2 ∧
      (Mailbox.Prompt κ → fetched = polled.1) := by
  induction count with
  | zero => exact ⟨rfl, polling, fun _ => rfl⟩
  | succ count ih =>
      obtain ⟨earlier, before, all⟩ := ih
      let last := EventStream.polls setup stream flow count
      let polled := EventStream.poll setup last.2.1 last.2.2
      have split : (EventStream.polls setup stream flow (count + 1)).1.filter Polled.isAnswer =
          last.1.filter Polled.isAnswer ++ [polled.1].filter Polled.isAnswer :=
        List.filter_append _ _
      dsimp only
      rw [split]
      rcases before.poll documented channel concluded with ⟨reply, next⟩ | ⟨waits, spurious, next⟩
      · have answered : polled.1.isAnswer = true := by
          rw [show polled.1 = _ from reply]
          exact isAnswer_reply _ _
        rw [List.filter_cons_of_pos answered, List.filter_nil, List.length_append]
        refine ⟨?_, next, fun prompt => congrArg (· ++ [polled.1]) (all prompt)⟩
        rw [List.length_singleton, List.range_succ, List.map_append, ← earlier]
        exact congrArg (_ ++ [·]) reply
      · have unanswered : ¬polled.1.isAnswer = true := by
          rw [show polled.1 = _ from waits]
          exact Bool.false_ne_true
        rw [List.filter_cons_of_neg unanswered, List.filter_nil, List.append_nil]
        exact ⟨earlier, next, fun prompt => absurd prompt spurious⟩

/-! ### Streams that are started, and given up -/

theorem Polling.failed (concluded : Concluded told.1)
    (polling : Polling setup number chunks final told count stream flow) {index : Nat}
    (within : index < count) {cause : FlowError}
    (reply : (replies told.1)[index]?.getD .finished = .failed cause) :
    flow.stage = .failed cause := by
  by_cases early : index < (events told.1).length
  · rw [reply_event early] at reply
    cases reply
  · have behind : (events told.1).length ≤ index := Nat.le_of_not_lt early
    have all : (signals told.1).length ≤ count := by
      rw [concluded.length]
      omega
    have ended := polling.stocked.ends concluded all
    have orderly := polling.stocked.settled.orderly
    rw [ended.calls] at orderly
    apply orderly.failed
    apply mem_of_failureIn
    rw [reply_behind behind] at reply
    generalize failureIn told.1 = failure at reply ⊢
    generalize index - (events told.1).length = place at reply
    cases failure with
    | none => cases reply
    | some reason =>
        cases place with
        | zero =>
            cases reply
            rfl
        | succ later => cases reply

private def fetching : Setup String Nat (Channel String) where
  readEvent := fun _ _ => .ok "tick"
  subscribers := fun _ => Channel.subscriber
  handler := { onStream := [subscriber], result := fun given => .ok given.length }

end EventStream

/-! ### Channels that fail spuriously -/

/-- A channel, and which of its receives to come fail spuriously. -/
structure Unreliable (ε : Type) (fails : List Bool) where
  channel : Channel ε := {}
  later : List Bool := fails

namespace Unreliable

variable {fails : List Bool}

instance : Mailbox ε (Unreliable ε fails) where
  fresh := {}
  send signal box := (Mailbox.send signal box.channel).map fun channel => { box with channel }
  receive box :=
    match box.later with
    | true :: later => (none, { box with later })
    | later =>
        let (received, channel) := Mailbox.receive box.channel
        (received, { channel, later := later.tail })
  close box := { box with channel := Mailbox.close box.channel }
  waiting box := box.channel.queue
  closed box := box.channel.dropped

theorem documented : Mailbox.Documented (Unreliable ε fails) where
  fresh := ⟨rfl, rfl⟩
  sent := by
    rintro ⟨channel, later⟩ usable signal
    obtain ⟨filled, sent, added, still⟩ := Channel.documented.sent channel usable signal
    exact ⟨⟨filled, later⟩, congrArg (Option.map _) sent, added, still⟩
  received := by
    rintro ⟨channel, _ | ⟨_ | _, later⟩⟩ signal received
    · exact Channel.documented.received channel signal received
    · exact Channel.documented.received channel signal received
    · cases received
  idle := by
    rintro ⟨channel, _ | ⟨_ | _, later⟩⟩ idle
    · exact Channel.documented.idle channel idle
    · exact Channel.documented.idle channel idle
    · exact ⟨rfl, rfl⟩
  exhausted := by
    rintro ⟨channel, _ | ⟨_ | _, later⟩⟩ none
    · exact Channel.documented.exhausted channel none
    · exact Channel.documented.exhausted channel none
    · cases none

private def hesitant : Setup String Nat (Unreliable String [true, true]) where
  readEvent := fun _ _ => .ok "tick"
  subscribers := fun _ => Mailbox.subscriber
  handler := { onStream := [EventStream.subscriber], result := fun given => .ok given.length }

/-- What is documented does not exclude that a poll has to wait while a signal is queued. -/
theorem poll_waits_beside_signal :
    let started := Flow.start hesitant "hello" { transports := [⟨.idle, none⟩] }
    let ended := started.2.step hesitant (.fail .noSubscriber)
    EventStream.queue ended = [.failed .noSubscriber] ∧
      (EventStream.polls hesitant {} ended 2).1 = [.pending, .failed .noSubscriber] :=
  ⟨rfl, rfl⟩

end Unreliable

end FramedEvents
