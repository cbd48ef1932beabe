/-
A request for one event fills the queue.

When one event is asked for, chunks are fetched until one of them brings a signal or the stream
ends. So at least one signal is queued, and all that are new come from one chunk: those before
it brought none. What is said of the whole log holds if no receive from the channel fails
spuriously, for then nothing is asked for before the queue is empty.
-/

import FramedEvents.Proofs.Chunk.Blocks
import FramedEvents.Proofs.Flow.Queueing

namespace FramedEvents

namespace Flow

variable {ε ρ ω κ : Type} [Mailbox ε κ] {setup : Setup ε ω κ ρ} {number count : Nat}
  {chunks behind : List Bytes} {final : Option TransportError}
  {told : List (Entry ε ρ) × Except FlowError ω} {source held : Source} {left bytes : Bytes}
  {flow after : Flow ε ρ ω κ} {listener heard : Listener ε ρ κ}
  {verdict : Except FlowError Unit}

/-! ### Where a stream rests -/

/-- What is still to come of the chunks, and what the listener is still to be told. -/
structure Ahead (setup : Setup ε ω κ ρ) (number : Nat) (chunks : List Bytes)
    (final : Option TransportError) (told : List (Entry ε ρ) × Except FlowError ω)
    (source : Source) (behind : List Bytes) (listener : Listener ε ρ κ) (left : Bytes) :
    Prop where
  supplies : source.Supplies behind final
  within : behind <:+ chunks
  waits : Frame.decode setup.limits left = (.ok none, left)
  usable : Mailbox.closed listener.state = false
  rest : listener.hearAll setup number (left ++ behind.flatten) final = told

/-- Where a stream is when nothing is going on: no event is wanted, or it has ended. -/
inductive Rested (setup : Setup ε ω κ ρ) (number : Nat) (chunks : List Bytes)
    (final : Option TransportError) (told : List (Entry ε ρ) × Except FlowError ω)
    (flow : Flow ε ρ ω κ) : Prop where
  | paused (behind : List Bytes) (left : Bytes) (listener : Listener ε ρ κ)
      (source : Source) (shape : flow = pausing number source left listener flow.log)
      (calls : flow.calls = listener.calls)
      (ahead : Ahead setup number chunks final told source behind listener left)
  | ended (ended : Ended told flow)

/-- A stream that rests again after one event has been asked for. Since then there was at
least one signal, and not more than a chunk has messages, with the one for the end. -/
structure Filled (setup : Setup ε ω κ ρ) (number : Nat) (chunks : List Bytes)
    (final : Option TransportError) (told : List (Entry ε ρ) × Except FlowError ω) (count : Nat)
    (flow : Flow ε ρ ω κ) : Prop where
  rested : Rested setup number chunks final told flow
  measured : Mailbox.Prompt κ → Measured (count + 1) flow.log
  more : count < (signals flow.calls).length
  few : ∀ size, (∀ chunk ∈ chunks, chunk.length ≤ size) →
    (signals flow.calls).length ≤ count + (size / 16 + 1) + 1

/-- A stream that has been asked for one event, and nothing has come of it yet. -/
structure Filling (setup : Setup ε ω κ ρ) (number : Nat) (chunks : List Bytes)
    (final : Option TransportError) (told : List (Entry ε ρ) × Except FlowError ω) (count : Nat)
    (source held : Source) (behind : List Bytes) (listener : Listener ε ρ κ)
    (left : Bytes) (flow : Flow ε ρ ω κ) : Prop where
  follows : Follows number drawing held (some left) flow listener
  one : flow.demand.outstanding = 1
  ahead : Ahead setup number chunks final told source behind listener left
  unended : ∀ call ∈ listener.calls, call.isFinal = false
  level : (signals listener.calls).length = count
  measured : Mailbox.Prompt κ → Measured (count + 1) flow.log

theorem Ended.filled (ended : Ended told flow) {failure : Option FlowError}
    (unended : ∀ call ∈ heard.calls, call.isFinal = false)
    (finished : heard.finish setup number failure = told)
    (least : count ≤ (signals heard.calls).length)
    (most : ∀ size, (∀ chunk ∈ chunks, chunk.length ≤ size) →
      (signals heard.calls).length ≤ count + (size / 16 + 1))
    (measured : Mailbox.Prompt κ → Measured (count + 1) flow.log) :
    Filled setup number chunks final told count flow := by
  obtain ⟨_, _, last⟩ := Listener.finish_signals setup number unended failure
  have total : (signals flow.calls).length = (signals heard.calls).length + 1 := by
    rw [ended.calls, ← finished, last, List.length_append]
    rfl
  refine ⟨.ended ended, measured, ?_, ?_⟩
  · rw [total]
    exact Nat.lt_succ_of_le least
  · intro size fits
    rw [total]
    exact Nat.succ_le_succ (most size fits)

theorem Filled.updateTransport_of_ended (filled : Filled setup number chunks final told count flow)
    (ended : Ended told flow) (index : Nat) (change : Transport → Transport) :
    Filled setup number chunks final told count (flow.updateTransport index change) :=
  ⟨.ended (ended.updateTransport index change), filled.measured, filled.more, filled.few⟩

theorem Filling.concludes
    (filling : Filling setup number chunks final told count source held behind listener left flow)
    {notify : Flow ε ρ ω κ → Flow ε ρ ω κ} {failure : Option FlowError}
    (finished : listener.finish setup number failure = told)
    (notified : ∀ {delivery flow}, Follows number delivery held (some left) flow listener →
      Ended (listener.finish setup number failure) (notify flow) ∧
        Unprompted flow.log (notify flow).log) (past : Source) :
    Filled setup number chunks final told count
      ((Delivery.conclude (reach setup 0) notify
        (Delivery.takeTurn (reach setup 0) flow)).updateOutlet 0 (Outlet.withSource past)) := by
  obtain ⟨delivery, concluded, follows, log, same⟩ :=
    conclude_notifies (filling.follows.takeTurn setup) notify
  obtain ⟨ended, unprompted⟩ := notified follows
  have measured (prompt : Mailbox.Prompt κ) : Measured (count + 1) concluded.log := by
    rw [log]
    exact filling.measured prompt
  have level := filling.level
  rw [finished] at ended
  rw [same]
  refine Filled.updateTransport_of_ended ?_ ended _ _
  refine ended.filled filling.unended finished (Nat.le_of_eq level.symm) ?_
    fun prompt => (measured prompt).unprompted unprompted
  intro size fits
  rw [level]
  exact Nat.le_add_right _ _

/-! ### One chunk -/

theorem Ahead.next (documented : Mailbox.Documented κ)
    (channel : setup.subscribers number = Mailbox.subscriber)
    (ahead : Ahead setup number chunks final told source (bytes :: behind) listener left)
    (later : source.next.2.Supplies behind final)
    (walked : Fed.walk (Listener.hear setup number) listener
      (Frame.messages setup.limits (left ++ bytes)).1 = (heard, .ok ()))
    {kept : Bytes} (rest : (Frame.messages setup.limits (left ++ bytes)).2 = .ok kept) :
    Ahead setup number chunks final told source.next.2 behind heard kept := by
  refine ⟨later, (List.suffix_cons bytes behind).trans ahead.within, Frame.decode_pending rest,
    Listener.walk_usable documented channel ahead.usable walked, ?_⟩
  rw [← ahead.rest, List.flatten_cons, ← List.append_assoc,
    Listener.hearAll_append walked rest]

theorem Ahead.narrow
    (ahead : Ahead setup number chunks final told source (bytes :: behind) listener left)
    {size : Nat} (fits : ∀ chunk ∈ chunks, chunk.length ≤ size) :
    (Frame.messages setup.limits (left ++ bytes)).1.countP Message.isEvent ≤ size / 16 + 1 := by
  have small := fits bytes (ahead.within.subset List.mem_cons_self)
  have messages := Frame.length_completed_le ahead.waits bytes
  have counted : (Frame.messages setup.limits (left ++ bytes)).1.countP Message.isEvent ≤
      (Frame.messages setup.limits (left ++ bytes)).1.length := List.countP_le_length
  omega

section

variable (channel : setup.subscribers number = Mailbox.subscriber)
  (filling : Filling setup number chunks final told count source held (bytes :: behind) listener
    left flow)

include channel filling

theorem Filling.consumed (prompt : Mailbox.Prompt κ) :
    Measured (count + 1) (consume setup (asking setup bookChunk) 0 true left bytes
      (Delivery.takeTurn (reach setup 0) flow)).log := by
  have mute : (setup.subscribers number).Mute := channel ▸ Mailbox.mute
  have fewer : (signals (callsIn flow.log)).length < count + 1 := by
    have calls : callsIn flow.log = listener.calls := filling.follows.calls
    rw [calls, filling.level]
    exact Nat.lt_succ_self count
  exact ((filling.measured prompt).arrived fewer 0 bytes).unprompted
    (consume_unprompted mute (filling.follows.takeTurn setup) bytes)

theorem Filling.fails {cause : FlowError}
    (walked : Fed.walk (Listener.hear setup number) listener
      (Frame.messages setup.limits (left ++ bytes)).1 = (heard, verdict))
    (failure : Listener.failure? verdict (Frame.messages setup.limits (left ++ bytes)).2 none =
      some cause) :
    let after := consume setup (asking setup bookChunk) 0 true left bytes
      (Delivery.takeTurn (reach setup 0) flow)
    after.firstDelivery.isWaiting = false ∧ Ended told after ∧
      Filled setup number chunks final told count after := by
  intro after
  have mute : (setup.subscribers number).Mute := channel ▸ Mailbox.mute
  obtain ⟨ended, idle⟩ :=
    consume_fails mute.willing (filling.follows.takeTurn setup) walked failure
  have finished := filling.ahead.rest
  rw [List.flatten_cons, ← List.append_assoc,
    Listener.hearAll_of_failure walked failure] at finished
  have unended := Listener.walk_unended setup number filling.unended
    (Frame.messages setup.limits (left ++ bytes)).1
  obtain ⟨least, most, _⟩ := Listener.walk_signals setup number filling.unended
    (Frame.messages setup.limits (left ++ bytes)).1
  rw [walked] at unended least most
  rw [filling.level] at least most
  rw [finished] at ended
  refine ⟨idle, ended, ended.filled unended finished least ?_ (filling.consumed channel)⟩
  intro size fits
  exact Nat.le_trans most (Nat.add_le_add_left (filling.ahead.narrow fits) count)

/-- The demand that is left of a chunk, and the signals that are new, are both told by its
events. -/
theorem Filling.counts
    (walked : Fed.walk (Listener.hear setup number) listener
      (Frame.messages setup.limits (left ++ bytes)).1 = (heard, .ok ())) :
    let messages := (Frame.messages setup.limits (left ++ bytes)).1
    let decoded := (Fed.walk (deal setup (asking setup bookChunk)) (record (.chunkArrived 0 bytes)
      ((Delivery.takeTurn (reach setup 0) flow).keepPending 0 true none)) messages).1
    decoded.demand.outstanding = 1 - messages.countP Message.isEvent ∧
      (∀ call ∈ heard.calls, call.isFinal = false) ∧
      (signals heard.calls).length = count + messages.countP Message.isEvent := by
  intro messages decoded
  have alone : (asking setup bookChunk : Ask ε ρ ω κ).Alone := asking_alone bookChunk
  have mute : (setup.subscribers number).Mute := channel ▸ Mailbox.mute
  have arrived : Follows number drawn held none (record (.chunkArrived 0 bytes)
      ((Delivery.takeTurn (reach setup 0) flow).keepPending 0 true none)) listener :=
    ((filling.follows.takeTurn setup).keepPending none).note rfl
  obtain ⟨_, sound, _⟩ := walk_hears alone mute.willing messages arrived
  have unended := Listener.walk_unended setup number filling.unended messages
  obtain ⟨_, _, given⟩ := Listener.walk_signals setup number filling.unended messages
  rw [walked] at sound unended given
  refine ⟨?_, unended, ?_⟩
  · rw [← filling.one]
    exact (walk_spends alone mute messages arrived).2 (Prod.mk.inj sound).2.symm
  · rw [← filling.level]
    exact given rfl

/-- A chunk that brings events fills the queue, and no further chunk is asked for. One that
brings none leaves everything as it was. -/
theorem Filling.proceeds (documented : Mailbox.Documented κ)
    (later : source.next.2.Supplies behind final)
    (walked : Fed.walk (Listener.hear setup number) listener
      (Frame.messages setup.limits (left ++ bytes)).1 = (heard, .ok ()))
    {kept : Bytes} (rest : (Frame.messages setup.limits (left ++ bytes)).2 = .ok kept) :
    let after := consume setup (asking setup bookChunk) 0 true left bytes
      (Delivery.takeTurn (reach setup 0) flow)
    ((reach setup 0).delivery after).isWaiting = false ∧
        Filled setup number chunks final told count
          ((Delivery.rest (reach setup 0) after).updateOutlet 0
            (Outlet.withSource source.next.2)) ∨
      Filling setup number chunks final told count source.next.2 held behind heard kept after := by
  intro after
  have mute : (setup.subscribers number).Mute := channel ▸ Mailbox.mute
  obtain ⟨decoded, following, _, same, finished⟩ :=
    consume_finishes mute.willing (filling.follows.takeTurn setup) walked rest
  have finished : after = finishChunk (asking setup bookChunk) decoded := finished
  have next := filling.ahead.next documented channel later walked rest
  have measured : Mailbox.Prompt κ → Measured (count + 1) after.log := filling.consumed channel
  obtain ⟨demand, unended, given⟩ := filling.counts channel walked
  have spent : decoded.demand.outstanding = _ :=
    (congrArg (Demand.outstanding ∘ Flow.demand) same).trans demand
  by_cases met : decoded.demand.isMet = true
  · obtain ⟨idle, calls, pauses⟩ := finishChunk_pauses setup following met
    rw [← finished] at idle calls pauses
    have none : decoded.demand.outstanding = 0 := eq_of_beq met
    have total : (signals after.calls).length = _ :=
      (congrArg (List.length ∘ signals) calls).trans given
    refine .inl ⟨idle, ?_, measured, ?_, ?_⟩
    · refine .paused behind kept heard source.next.2 ?_ calls next
      rw [pauses]
      rfl
    · change count < (signals after.calls).length
      omega
    · intro size fits
      have few := filling.ahead.narrow fits
      change (signals after.calls).length ≤ _
      omega
  · have unmet := Bool.eq_false_iff.mpr met
    obtain ⟨followed, demand⟩ := finishChunk_follows setup following unmet
    rw [← finished] at followed demand
    have some := Demand.pos_of_unmet unmet
    refine .inr ⟨followed, ?_, next, unended, ?_, measured⟩
    · rw [demand]
      omega
    · omega

end

/-! ### Deliveries -/

theorem Filling.handOver (documented : Mailbox.Documented κ)
    (channel : setup.subscribers number = Mailbox.subscriber)
    (filling : Filling setup number chunks final told count source held behind listener left
      flow) :
    let handed := Delivery.handOver (reach setup 0) source flow
    Filled setup number chunks final told count
      (handed.2.updateOutlet 0 (Outlet.withSource handed.1)) := by
  have alone : (asking setup bookChunk : Ask ε ρ ω κ).Alone := asking_alone bookChunk
  have mute : (setup.subscribers number).Mute := channel ▸ Mailbox.mute
  induction behind generalizing source flow listener left with
  | nil =>
      have waiting := filling.follows.isWaiting_drawing setup
      have rest := filling.ahead.rest
      rw [List.flatten_nil, List.append_nil, Listener.hearAll_waiting filling.ahead.waits] at rest
      cases filling.ahead.supplies with
      | ended step =>
          rw [Delivery.handOver_ended waiting step]
          exact filling.concludes rest (fun follows =>
            ⟨transportEnded_ends alone mute.willing follows,
              transportEnded_unprompted alone mute follows⟩) _
      | failed error step =>
          rw [Delivery.handOver_failed waiting step]
          exact filling.concludes rest (fun follows =>
            ⟨transportFailed_ends alone mute.willing follows error,
              transportFailed_unprompted alone mute follows error⟩) _
  | cons bytes later ih =>
      have waiting := filling.follows.isWaiting_drawing setup
      have consumed : (reach setup 0).onChunk bytes (Delivery.takeTurn (reach setup 0) flow) =
          consume setup (asking setup bookChunk) 0 true left bytes
            (Delivery.takeTurn (reach setup 0) flow) :=
        chunk_eq_consume (filling.follows.takeTurn setup) bytes
      cases filling.ahead.supplies with
      | chunk bytes step supplies =>
          rw [Delivery.handOver_chunk waiting step, consumed]
          rcases walked : Fed.walk (Listener.hear setup number) listener
            (Frame.messages setup.limits (left ++ bytes)).1 with ⟨heard, verdict⟩
          cases failure : Listener.failure? verdict
              (Frame.messages setup.limits (left ++ bytes)).2 none with
          | some cause =>
              obtain ⟨idle, ended, filled⟩ := filling.fails channel walked failure
              rw [Delivery.handOver_idle idle]
              exact (filled.updateTransport_of_ended ended _ _).updateTransport_of_ended
                (ended.updateTransport _ _) _ _
          | none =>
              obtain ⟨rfl, kept, rest⟩ := Listener.failure?_eq_none failure
              rcases filling.proceeds channel documented supplies walked rest with ⟨idle, filled⟩ | onward
              · rw [Delivery.handOver_idle idle]
                exact filled
              · exact ih onward

end Flow

end FramedEvents
