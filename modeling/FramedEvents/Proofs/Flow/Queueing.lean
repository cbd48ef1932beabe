/-
A subscriber that only queues what it is given.

A subscriber that asks for nothing in its hooks leaves the stream as it has been told:
the signal goes to the log, and demand is only ever taken away. The signals that it is
given can be read off the calls. Those that have not been fetched yet are in its queue,
in order, and what it is given does not depend on what has been fetched.
-/

import FramedEvents.Flow.EventStream
import FramedEvents.Proofs.Flow.Withdrawing
import Mathlib.Tactic.ByContra

namespace FramedEvents

variable {ε ρ ω σ : Type}

/-! ### Signals in the calls -/

namespace Entry

def signal? : Entry ε ρ → Option (EventSignal ε)
  | .signalled _ .subscribed => none
  | .signalled _ signal => some signal
  | _ => none

def failure? : Entry ε ρ → Option FlowError
  | .failureReported cause => some cause
  | _ => none

def isPrompt : Entry ε ρ → Bool
  | .demanded _ => true
  | .chunkArrived _ _ => true
  | _ => false

end Entry

def signals (calls : List (Entry ε ρ)) : List (EventSignal ε) := calls.filterMap Entry.signal?

def failureIn (calls : List (Entry ε ρ)) : Option FlowError := calls.findSome? Entry.failure?

def EventSignal.last : Option FlowError → EventSignal ε
  | some cause => .failed cause
  | none => .completed

theorem EventSignal.last_ne_next (failure : Option FlowError) (event : ε) :
    EventSignal.last failure ≠ .next event := by
  cases failure <;> exact nofun

theorem signals_append (calls more : List (Entry ε ρ)) :
    signals (calls ++ more) = signals calls ++ signals more :=
  List.filterMap_append

theorem failureIn_append (calls more : List (Entry ε ρ)) :
    failureIn (calls ++ more) = (failureIn calls).or (failureIn more) :=
  List.findSome?_append

theorem signals_cons (entry : Entry ε ρ) (log : List (Entry ε ρ)) :
    signals (callsIn (entry :: log)) = signals (callsIn log) ++ entry.signal?.toList := by
  have one : signals (callsIn [entry]) = entry.signal?.toList := by
    cases entry with
    | signalled number signal => cases signal <;> rfl
    | _ => rfl
  have both : callsIn (entry :: log) = _ := callsIn_append [entry] log
  rw [both, signals_append, one]

theorem signals_of_unended {calls : List (Entry ε ρ)}
    (before : ∀ call ∈ calls, call.isFinal = false) : signals calls = (events calls).map .next := by
  induction calls with
  | nil => rfl
  | cons call calls ih =>
      obtain ⟨ordinary, others⟩ := List.forall_mem_cons.mp before
      have rest := ih others
      cases call with
      | signalled number signal =>
          cases signal with
          | subscribed => exact rest
          | next event => exact congrArg (.next event :: ·) rest
          | failed cause => cases ordinary
          | completed => cases ordinary
      | _ => exact rest

theorem failureIn_of_unended {calls : List (Entry ε ρ)}
    (before : ∀ call ∈ calls, call.isFinal = false) : failureIn calls = none := by
  apply List.findSome?_eq_none_iff.mpr
  intro call member
  have ordinary := before call member
  cases call <;> first | rfl | cases ordinary

/-! ### Growth of the log -/

/-- The log has grown. No event has been asked for, and no chunk has arrived. -/
def Unprompted (log grown : List (Entry ε ρ)) : Prop :=
  ∃ notes, grown = notes ++ log ∧ ∀ note ∈ notes, note.isPrompt = false

theorem Unprompted.refl (log : List (Entry ε ρ)) : Unprompted log log :=
  ⟨[], rfl, List.forall_mem_nil _⟩

theorem Unprompted.trans {log middle grown : List (Entry ε ρ)} (earlier : Unprompted log middle)
    (later : Unprompted middle grown) : Unprompted log grown := by
  obtain ⟨notes, rfl, idle⟩ := earlier
  obtain ⟨more, rfl, idleToo⟩ := later
  exact ⟨more ++ notes, (List.append_assoc _ _ _).symm, List.forall_mem_append.mpr ⟨idleToo, idle⟩⟩

theorem Unprompted.note {entry : Entry ε ρ} (idle : entry.isPrompt = false)
    (log : List (Entry ε ρ)) : Unprompted log (entry :: log) :=
  ⟨[entry], rfl, List.forall_mem_singleton.mpr idle⟩

/-- At no moment was more than one event wanted. Whenever a chunk arrived, there had been
fewer signals than these. -/
structure Measured (bound : Nat) (log : List (Entry ε ρ)) : Prop where
  demand : ∀ earlier, earlier <:+ log → (demandIn earlier).outstanding ≤ 1
  arrivals : ∀ index bytes earlier, .chunkArrived index bytes :: earlier <:+ log →
    (signals (callsIn earlier)).length < bound

variable {bound : Nat} {log grown : List (Entry ε ρ)}

theorem Measured.mono (measured : Measured bound log) {most : Nat} (more : bound ≤ most) :
    Measured most log :=
  ⟨measured.demand, fun index bytes earlier suffix =>
    Nat.lt_of_lt_of_le (measured.arrivals index bytes earlier suffix) more⟩

theorem Measured.cons (measured : Measured bound log) {entry : Entry ε ρ}
    (demand : (demandIn (entry :: log)).outstanding ≤ 1)
    (arrival : entry.isChunkArrival = true → (signals (callsIn log)).length < bound) :
    Measured bound (entry :: log) := by
  refine ⟨?_, ?_⟩
  · intro earlier suffix
    rcases List.suffix_cons_iff.mp suffix with rfl | before
    · exact demand
    · exact measured.demand earlier before
  · intro index bytes earlier suffix
    rcases List.suffix_cons_iff.mp suffix with same | before
    · obtain ⟨rfl, rfl⟩ := List.cons.inj same
      exact arrival rfl
    · exact measured.arrivals index bytes earlier before

theorem Measured.arrived (measured : Measured bound log)
    (fewer : (signals (callsIn log)).length < bound) (index : Nat) (bytes : Bytes) :
    Measured bound (.chunkArrived index bytes :: log) :=
  measured.cons (measured.demand log List.suffix_rfl) fun _ => fewer

theorem Measured.unprompted (measured : Measured bound log) (unprompted : Unprompted log grown) :
    Measured bound grown := by
  obtain ⟨notes, rfl, idle⟩ := unprompted
  induction notes with
  | nil => exact measured
  | cons note notes ih =>
      obtain ⟨other, others⟩ := List.forall_mem_cons.mp idle
      have before := ih others
      apply before.cons
      · have none : ¬∃ count, Entry.demanded count ∈ [note] := by
          rintro ⟨count, member⟩
          obtain rfl := List.mem_singleton.mp member
          cases other
        exact Nat.le_trans (outstanding_le_of_undemanded none (notes ++ log))
          (before.demand _ List.suffix_rfl)
      · intro arrival
        cases note with
        | chunkArrived index bytes => cases other
        | _ => cases arrival

/-! ### Subscribers that ask for nothing -/

/-- A subscriber that asks for nothing in its hooks. -/
def EventSubscriber.Mute (subscriber : EventSubscriber ε σ) : Prop :=
  ∀ signal state, (subscriber.react signal state).controls = []

theorem EventSubscriber.Mute.willing {subscriber : EventSubscriber ε σ} (mute : subscriber.Mute) :
    subscriber.NeverCancels := by
  intro signal state member
  rw [mute signal state] at member
  cases member

namespace Flow

variable {setup : Setup ε ω σ ρ} {ask : Ask ε ρ ω σ} {number : Nat} {delivery : Delivery}
  {source : Source} {pending : Option Bytes} {left : Bytes} {flow : Flow ε ρ ω σ}
  {listener : Listener ε ρ σ}

theorem signal_of_mute (alone : ask.Alone) (mute : (setup.subscribers number).Mute) {state : σ}
    (holder : flow.subscriber = some (number, state)) (quiet : flow.interludes = [])
    (given : EventSignal ε) :
    signal setup ask given flow = (informed setup given number state flow,
      ((setup.subscribers number).react given state).refusal) := by
  have obeyed : ((setup.subscribers number).react given state).controls.foldl (obey ask)
      (informed setup given number state flow) = informed setup given number state flow := by
    rw [mute given state]
    rfl
  exact signal_alone alone holder obeyed quiet

theorem handlerSubscribes_unprompted (numbers : List Nat)
    (taken : flow.subscriber.isSome = true) :
    ∃ log, numbers.foldl (handlerSubscribe setup ask) flow = { flow with log := log } ∧
      Unprompted flow.log log := by
  let Refused (after : Flow ε ρ ω σ) : Prop :=
    ∃ log, after = { flow with log := log } ∧ Unprompted flow.log log
  have none : Refused flow := ⟨flow.log, rfl, .refl flow.log⟩
  refine handlerSubscribes_taken taken none ?_ numbers
  rintro _ other - ⟨log, rfl, unprompted⟩
  exact ⟨.refused other .alreadySubscribed :: log, rfl, unprompted.trans (.note rfl log)⟩

/-! ### Messages -/

theorem respond_unprompted (setup : Setup ε ω σ ρ) (alone : ask.Alone)
    (follows : Follows number delivery source pending flow listener) :
    Unprompted flow.log (respond setup ask flow).log ∧
      (respond setup ask flow).demand = flow.demand := by
  cases held : flow.response with
  | none =>
      rw [respond_of_none held]
      exact ⟨.refl flow.log, rfl⟩
  | some response =>
      let released := record (.responded response) { flow with response := none }
      have taken : flow.subscriber.isSome = true := isSome_of_eq follows.holder
      have told : Unprompted flow.log released.log := .note rfl flow.log
      obtain ⟨log, same, unprompted⟩ := @handlerSubscribes_unprompted _ _ _ _ setup ask released
        setup.handler.onResponse taken
      rw [respond_of_some alone held (isSome_of_eq follows.attachment) taken follows.quiet, same]
      exact ⟨told.trans unprompted, rfl⟩

theorem deal_spends (alone : ask.Alone) (mute : (setup.subscribers number).Mute)
    (follows : Follows number delivery source pending flow listener) (message : Message) :
    Unprompted flow.log (deal setup ask flow message).1.log ∧
      ((deal setup ask flow message).2 = .ok () →
        (deal setup ask flow message).1.demand.outstanding =
          flow.demand.outstanding - [message].countP Message.isEvent) := by
  have noted : Follows number delivery source pending
      (record (.looked message.kind) flow) listener := follows.note rfl
  have looked : Unprompted flow.log (.looked message.kind :: flow.log) := .note rfl flow.log
  rw [deal_of_running follows.running, message.countP_isEvent]
  cases kind : message.kind with
  | initialResponse =>
      rw [kind] at noted looked
      obtain ⟨unprompted, demand⟩ := respond_unprompted setup alone noted
      exact ⟨looked.trans unprompted, fun _ => congrArg Demand.outstanding demand⟩
  | event =>
      rw [kind] at noted looked
      dsimp only
      cases read : setup.readEvent (EventMessage.ofMessage message) setup.attributes with
      | error reason =>
          rw [handEvent_unreadable read]
          exact ⟨looked, nofun⟩
      | ok event =>
          have holder : flow.charged.subscriber = some (number, listener.state) := follows.holder
          have quiet : flow.charged.interludes = [] := follows.quiet
          rw [handEvent_handed read (isSome_of_eq follows.holder),
            signal_of_mute alone mute holder quiet, if_pos rfl]
          refine ⟨looked.trans (.note rfl _), fun _ => ?_⟩
          exact flow.demand.outstanding_serve
  | missingEventType =>
      rw [kind] at looked
      exact ⟨looked, nofun⟩
  | error code text =>
      rw [kind] at looked
      exact ⟨looked, nofun⟩
  | other type =>
      rw [kind] at looked
      exact ⟨looked, fun _ => rfl⟩

theorem walk_spends (alone : ask.Alone) (mute : (setup.subscribers number).Mute)
    (messages : List Message) (follows : Follows number delivery source pending flow listener) :
    Unprompted flow.log (Fed.walk (deal setup ask) flow messages).1.log ∧
      ((Fed.walk (deal setup ask) flow messages).2 = .ok () →
        (Fed.walk (deal setup ask) flow messages).1.demand.outstanding =
          flow.demand.outstanding - messages.countP Message.isEvent) := by
  induction messages generalizing flow listener with
  | nil => exact ⟨.refl flow.log, fun _ => rfl⟩
  | cons message later ih =>
      obtain ⟨next, _, followed, _⟩ := deal_hears alone mute.willing follows message
      obtain ⟨first, spent⟩ := deal_spends alone mute follows message
      have both : (message :: later).countP Message.isEvent =
          [message].countP Message.isEvent + later.countP Message.isEvent :=
        @List.countP_append _ Message.isEvent [message] later
      rw [Fed.walk, both]
      generalize deal setup ask flow message = dealt at followed first spent ⊢
      obtain ⟨after, verdict⟩ := dealt
      cases verdict with
      | error cause => exact ⟨first, fun sound => by cases sound⟩
      | ok accepted =>
          obtain ⟨more, spentToo⟩ := ih followed
          refine ⟨first.trans more, fun sound => ?_⟩
          rw [← Nat.sub_sub, ← spent rfl]
          exact spentToo sound

/-! ### The end -/

theorem reported_of_mute (alone : ask.Alone) (mute : (setup.subscribers number).Mute)
    (follows : Follows number delivery source pending flow listener) (final : Stage) :
    ask.others (reported setup ask final flow) = record final.report
      (informed setup final.signal number listener.state { flow with stage := final }) := by
  have holder : ({ flow with stage := final } : Flow ε ρ ω σ).subscriber =
      some (number, listener.state) := follows.holder
  have quiet : ({ flow with stage := final } : Flow ε ρ ω σ).interludes = [] := follows.quiet
  unfold reported
  rw [signal_of_mute alone mute holder quiet]
  exact alone _ quiet

theorem reported_unprompted (alone : ask.Alone) (mute : (setup.subscribers number).Mute)
    (follows : Follows number delivery source pending flow listener) (final : Stage) :
    Unprompted flow.log (ask.others (reported setup ask final flow)).log := by
  rw [reported_of_mute alone mute follows]
  have told : Unprompted flow.log (.signalled number final.signal :: flow.log) := .note rfl flow.log
  refine told.trans (.note ?_ _)
  cases final <;> rfl

theorem fail_unprompted (alone : ask.Alone) (mute : (setup.subscribers number).Mute)
    (follows : Follows number delivery source pending flow listener) (cause : FlowError) :
    Unprompted flow.log (fail setup ask cause flow).log := by
  rw [fail_of_running follows.running]
  exact reported_unprompted alone mute follows _

theorem stop_unprompted (flow : Flow ε ρ ω σ) : Unprompted flow.log (stop flow).log := by
  have stopped : Unprompted flow.log (.stopped :: flow.log) := .note rfl flow.log
  unfold stop
  split
  · exact .refl flow.log
  · dsimp only
    split
    · exact stopped
    · exact stopped.trans (.note rfl _)

theorem transportEnded_unprompted (alone : ask.Alone) (mute : (setup.subscribers number).Mute)
    (follows : Follows number delivery source pending flow listener) :
    Unprompted flow.log (transportEnded setup ask 0 flow).log := by
  unfold transportEnded
  rw [follows.consumer, complete_of_running follows.running]
  exact reported_unprompted alone mute follows _

theorem transportFailed_unprompted (alone : ask.Alone) (mute : (setup.subscribers number).Mute)
    (follows : Follows number delivery source pending flow listener) (error : TransportError) :
    Unprompted flow.log (transportFailed setup ask 0 error flow).log := by
  unfold transportFailed
  rw [follows.consumer]
  exact fail_unprompted alone mute follows _

theorem log_bookChunk (flow : Flow ε ρ ω σ) : (bookChunk flow).log = flow.log := by
  unfold bookChunk
  split <;> rfl

theorem finishChunk_unprompted (setup : Setup ε ω σ ρ) (flow : Flow ε ρ ω σ) :
    Unprompted flow.log (finishChunk (asking setup bookChunk) flow).log := by
  have finished : Unprompted flow.log (.chunkFinished :: flow.log) := .note rfl flow.log
  unfold finishChunk askNext
  dsimp only
  split
  · exact finished
  · split
    · exact finished
    · refine finished.trans ?_
      change Unprompted _ (bookChunk _).log
      rw [log_bookChunk]
      exact .note rfl _

theorem consume_unprompted (mute : (setup.subscribers number).Mute)
    (follows : Follows number drawn source (some left) flow listener) (bytes : Bytes) :
    Unprompted (.chunkArrived 0 bytes :: flow.log)
      (consume setup (asking setup bookChunk) 0 true left bytes flow).log := by
  have alone : (asking setup bookChunk : Ask ε ρ ω σ).Alone := asking_alone bookChunk
  have arrived : Follows number drawn source none
      (record (.chunkArrived 0 bytes) (flow.keepPending 0 true none)) listener :=
    (follows.keepPending none).note rfl
  rcases walked : Fed.walk (Listener.hear setup number) listener
    (Frame.messages setup.limits (left ++ bytes)).1 with ⟨heard, verdict⟩
  obtain ⟨_, kept, _⟩ := decoding_hears mute.willing follows walked
  have spent := (walk_spends alone mute (Frame.messages setup.limits (left ++ bytes)).1 arrived).1
  rw [← (@Fed.decodeAll_eq_walk _ _ setup.limits FlowError.decode _ _ _).1] at spent
  unfold consume
  rw [if_neg follows.going]
  dsimp only
  split
  · exact spent.trans (finishChunk_unprompted setup _)
  · exact (spent.trans (fail_unprompted alone mute kept _)).trans (stop_unprompted _)

theorem Settled.turn (settled : Settled flow) {state : σ}
    (holder : flow.subscriber = some (number, state)) (next : σ) :
    Settled { flow with subscriber := some (number, next) } := by
  obtain ⟨orderly, known⟩ := settled
  unfold Known at known
  rw [holder] at known
  exact ⟨orderly, known⟩

end Flow

/-! ### The queue -/

theorem Channel.documented : Mailbox.Documented (Channel ε) where
  fresh := ⟨rfl, rfl⟩
  sent := by
    rintro ⟨queue, dropped⟩ usable signal
    obtain rfl : dropped = false := usable
    exact ⟨{ queue := queue ++ [signal] }, rfl, rfl, rfl⟩
  received := by
    rintro ⟨_ | ⟨first, rest⟩, _ | _⟩ signal received <;> cases received
    · exact ⟨rfl, rfl⟩
    · exact ⟨rfl, rfl⟩
  idle := by
    rintro ⟨_ | ⟨first, rest⟩, _ | _⟩ idle <;> cases idle
    exact ⟨rfl, rfl⟩
  exhausted := by
    rintro ⟨_ | ⟨first, rest⟩, _ | _⟩ none <;> cases none
    rfl

theorem Channel.prompt : Mailbox.Prompt (Channel ε) := by
  rintro ⟨_ | ⟨first, rest⟩, dropped⟩ some idle
  · exact some rfl
  · cases idle

namespace Mailbox

variable {κ : Type} [Mailbox ε κ]

theorem mute : (Mailbox.subscriber : EventSubscriber ε κ).Mute := by
  intro signal box
  cases signal with
  | subscribed => rfl
  | _ =>
      unfold Mailbox.subscriber
      dsimp only
      split <;> rfl

theorem Documented.react (documented : Documented κ) {given : EventSignal ε}
    (ordinary : given ≠ .subscribed) {box : κ} (usable : closed box = false) :
    ∃ filled, Mailbox.subscriber.react given box = { state := filled } ∧
      waiting filled = waiting box ++ [given] ∧ closed filled = false := by
  obtain ⟨filled, sent, added, still⟩ := documented.sent box usable given
  refine ⟨filled, ?_, added, still⟩
  cases given with
  | subscribed => exact absurd rfl ordinary
  | _ =>
      unfold Mailbox.subscriber
      dsimp only
      rw [sent]

end Mailbox

namespace Flow

open EventStream

variable {κ : Type} [Mailbox ε κ] {setup : Setup ε ω κ ρ} {number : Nat}
  {taken : List (EventSignal ε)} {flow after : Flow ε ρ ω κ} {box : κ}

/-- The subscriber has queued what it was given, except for what has been taken out. -/
structure Queued (number : Nat) (taken : List (EventSignal ε)) (flow : Flow ε ρ ω κ) : Prop where
  holder : ∃ box, flow.subscriber = some (number, box) ∧ Mailbox.closed box = false
  order : signals flow.calls = taken ++ queue flow

theorem queue_of_holder (holder : flow.subscriber = some (number, box)) :
    queue flow = Mailbox.waiting box := by
  unfold queue
  rw [holder]

theorem Queued.of_holder (holder : flow.subscriber = some (number, box))
    (usable : Mailbox.closed box = false)
    (order : signals flow.calls = taken ++ Mailbox.waiting box) : Queued number taken flow := by
  refine ⟨⟨box, holder, usable⟩, ?_⟩
  rw [queue_of_holder holder]
  exact order

theorem Queued.subscribed (queued : Queued number taken flow) : flow.subscriber.isSome = true := by
  obtain ⟨box, holder, _⟩ := queued.holder
  exact isSome_of_eq holder

theorem Queued.of_same (queued : Queued number taken flow) (log : after.log = flow.log)
    (same : after.subscriber = flow.subscriber) : Queued number taken after := by
  obtain ⟨⟨box, holder, usable⟩, order⟩ := queued
  rw [queue_of_holder holder] at order
  refine .of_holder (same.trans holder) usable ?_
  unfold Flow.calls
  rw [log]
  exact order

theorem Queued.of_note (queued : Queued number taken flow) {entry : Entry ε ρ}
    (log : after.log = entry :: flow.log) (silent : entry.signal? = none)
    (same : after.subscriber = flow.subscriber) : Queued number taken after := by
  obtain ⟨⟨box, holder, usable⟩, order⟩ := queued
  rw [queue_of_holder holder] at order
  refine .of_holder (same.trans holder) usable ?_
  change signals (callsIn after.log) = _
  rw [log, signals_cons, silent]
  exact (List.append_nil _).trans order

theorem Queued.informed (documented : Mailbox.Documented κ)
    (channel : setup.subscribers number = Mailbox.subscriber)
    (queued : Queued number taken flow) {given : EventSignal ε} (ordinary : given ≠ .subscribed)
    {other : Nat} (holder : flow.subscriber = some (other, box)) :
    Queued number taken (informed setup given other box flow) := by
  obtain ⟨⟨state, held, usable⟩, order⟩ := queued
  rw [queue_of_holder held] at order
  rw [holder] at held
  obtain ⟨rfl, rfl⟩ := Prod.mk.inj (Option.some.inj held)
  have told : (Entry.signalled other given : Entry ε ρ).signal? = some given := by
    cases given with
    | subscribed => exact absurd rfl ordinary
    | _ => rfl
  obtain ⟨filled, reacted, added, still⟩ := documented.react ordinary usable
  have reached : (Flow.informed setup given other box flow).subscriber =
      some (other, filled) := by
    change some (other, ((setup.subscribers other).react given box).state) = _
    rw [channel, reacted]
  refine .of_holder reached still ?_
  change signals (callsIn (.signalled other given :: flow.log)) = _
  rw [signals_cons, told, added, ← List.append_assoc]
  exact congrArg (· ++ [given]) order

/-- What is fetched is the first signal of the queue. If nothing is, the queue is as it was,
and it can only have been left so with something in it if receives fail spuriously. -/
theorem Queued.fetch (documented : Mailbox.Documented κ) (queued : Queued number taken flow) :
    ∃ box : κ, Mailbox.closed box = false ∧
      (EventStream.fetch flow = (none, { flow with subscriber := some (number, box) }) ∧
          Mailbox.waiting box = queue flow ∧ (Mailbox.Prompt κ → queue flow = []) ∨
        ∃ signal, EventStream.fetch flow =
            (some (some signal), { flow with subscriber := some (number, box) }) ∧
          queue flow = signal :: Mailbox.waiting box) := by
  obtain ⟨⟨box, holder, usable⟩, _⟩ := queued
  have fetched : EventStream.fetch flow = ((Mailbox.receive box).1,
      { flow with subscriber := some (number, (Mailbox.receive box).2) }) := by
    unfold EventStream.fetch
    rw [holder]
  rw [fetched, queue_of_holder holder]
  refine ⟨(Mailbox.receive box).2, ?_⟩
  cases received : (Mailbox.receive box).1 with
  | none =>
      obtain ⟨kept, still⟩ := documented.idle box received
      refine ⟨still.trans usable, .inl ⟨rfl, kept, fun prompt => ?_⟩⟩
      by_contra waiting
      exact prompt box waiting received
  | some found =>
      cases found with
      | none => cases usable.symm.trans (documented.exhausted box received)
      | some signal =>
          obtain ⟨first, still⟩ := documented.received box signal received
          exact ⟨still.trans usable, .inr ⟨signal, rfl, first⟩⟩

theorem QuietStep.queued (step : QuietStep setup flow after) (queued : Queued number taken flow) :
    Queued number taken after := by
  cases step with
  | captured response free => exact queued.of_same rfl rfl
  | scripted events later next => exact queued.of_same rfl rfl
  | carried transports same => exact queued.of_same rfl rfl
  | demanded count counts wanted => exact queued.of_note rfl rfl rfl
  | stopped wanted loose => exact queued.of_note rfl rfl rfl
  | halted index transports wanted held same =>
      have stopped : Queued number taken
          (record .stopped { flow with cancelled := true, transports := transports }) :=
        queued.of_note rfl rfl rfl
      exact stopped.of_note rfl rfl rfl
  | declined index first transports held joins => exact queued.of_note rfl rfl rfl
  | attached index loose transports joins => exact queued.of_note rfl rfl rfl
  | subscribed other free held =>
      have bound := queued.subscribed
      rw [free] at bound
      cases bound
  | refused other taken => exact queued.of_note rfl rfl rfl
  | finished => exact queued.of_note rfl rfl rfl
  | resolved result done => exact queued.of_same rfl rfl

theorem QuietSteps.queued (steps : QuietSteps setup flow after)
    (queued : Queued number taken flow) : Queued number taken after := by
  induction steps with
  | refl => exact queued
  | tail _ step ih => exact step.queued ih

theorem Step.queued (documented : Mailbox.Documented κ)
    (channel : setup.subscribers number = Mailbox.subscriber)
    (step : Step setup flow after) (queued : Queued number taken flow) :
    Queued number taken after := by
  cases step with
  | quiet step => exact step.queued queued
  | asked running wanted held free unmet => exact queued.of_note rfl rfl rfl
  | arrived running index bytes => exact queued.of_note rfl rfl rfl
  | looked running kind other => exact queued.of_note rfl rfl rfl
  | served running => exact queued.of_note rfl rfl rfl
  | responded running response held => exact queued.of_note rfl rfl rfl
  | handed running event other state holder =>
      exact queued.informed documented channel (by nofun) holder
  | endedAlone running final done nobody =>
      have bound := queued.subscribed
      rw [nobody] at bound
      cases bound
  | endedTelling running final done other state holder hook =>
      have ending : Queued number taken { flow with stage := final } := queued.of_same rfl rfl
      have told := QuietSteps.queued hook
        (ending.informed documented channel (by cases final <;> nofun) holder)
      exact told.of_note rfl (by cases final <;> rfl) rfl

theorem Steps.queued (documented : Mailbox.Documented κ)
    (channel : setup.subscribers number = Mailbox.subscriber)
    (steps : Steps setup flow after) (queued : Queued number taken flow) :
    Queued number taken after := by
  induction steps with
  | refl => exact queued
  | tail _ step ih => exact step.queued documented channel ih

end Flow

/-! ### Listeners with a queue -/

namespace Listener

variable {κ : Type} [Mailbox ε κ] {setup : Setup ε ω κ ρ} {number : Nat}

/-- The listeners differ at most in what has been fetched from their queues. -/
structure Alike (first second : Listener ε ρ κ) : Prop where
  response : first.response = second.response
  calls : first.calls = second.calls
  usable : Mailbox.closed first.state = false
  usableToo : Mailbox.closed second.state = false

variable {first second : Listener ε ρ κ}

theorem hear_alike (documented : Mailbox.Documented κ)
    (channel : setup.subscribers number = Mailbox.subscriber)
    (alike : Alike first second) (message : Message) :
    Alike (first.hear setup number message).1 (second.hear setup number message).1 ∧
      (first.hear setup number message).2 = (second.hear setup number message).2 := by
  obtain ⟨response, box, calls⟩ := first
  obtain ⟨_, boxToo, _⟩ := second
  obtain ⟨rfl, rfl, usable, usableToo⟩ := alike
  unfold hear
  cases message.kind with
  | initialResponse =>
      cases response with
      | none => exact ⟨⟨rfl, rfl, usable, usableToo⟩, rfl⟩
      | some response => exact ⟨⟨rfl, rfl, usable, usableToo⟩, rfl⟩
  | event =>
      dsimp only
      cases setup.readEvent (EventMessage.ofMessage message) setup.attributes with
      | error reason => exact ⟨⟨rfl, rfl, usable, usableToo⟩, rfl⟩
      | ok event =>
          have ordinary : EventSignal.next event ≠ .subscribed := by simp
          obtain ⟨filled, reacted, _, still⟩ := documented.react ordinary usable
          obtain ⟨filledToo, reactedToo, _, stillToo⟩ := documented.react ordinary usableToo
          dsimp only
          rw [channel, reacted, reactedToo]
          exact ⟨⟨rfl, rfl, still, stillToo⟩, rfl⟩
  | _ => exact ⟨⟨rfl, rfl, usable, usableToo⟩, rfl⟩

theorem walk_alike (documented : Mailbox.Documented κ)
    (channel : setup.subscribers number = Mailbox.subscriber)
    (messages : List Message) (alike : Alike first second) :
    Alike (Fed.walk (hear setup number) first messages).1
        (Fed.walk (hear setup number) second messages).1 ∧
      (Fed.walk (hear setup number) first messages).2 =
        (Fed.walk (hear setup number) second messages).2 := by
  induction messages generalizing first second with
  | nil => exact ⟨alike, rfl⟩
  | cons message later ih =>
      obtain ⟨next, same⟩ := hear_alike documented channel alike message
      rw [Fed.walk, Fed.walk]
      generalize first.hear setup number message = answer at next same ⊢
      generalize second.hear setup number message = answerToo at next same ⊢
      obtain ⟨heard, verdict⟩ := answer
      obtain ⟨heardToo, verdictToo⟩ := answerToo
      obtain rfl : verdict = verdictToo := same
      cases verdict with
      | error cause => exact ⟨next, rfl⟩
      | ok accepted => exact ih next

theorem hearAll_alike (documented : Mailbox.Documented κ)
    (channel : setup.subscribers number = Mailbox.subscriber)
    (alike : Alike first second) (bytes : Bytes) (final : Option TransportError) :
    first.hearAll setup number bytes final = second.hearAll setup number bytes final := by
  obtain ⟨next, same⟩ :=
    walk_alike documented channel (Frame.messages setup.limits bytes).1 alike
  unfold hearAll finish
  dsimp only
  rw [next.calls, same]

theorem walk_usable (documented : Mailbox.Documented κ)
    (channel : setup.subscribers number = Mailbox.subscriber)
    {listener heard : Listener ε ρ κ} {messages : List Message}
    {verdict : Except FlowError Unit} (usable : Mailbox.closed listener.state = false)
    (walked : Fed.walk (hear setup number) listener messages = (heard, verdict)) :
    Mailbox.closed heard.state = false := by
  have next := (walk_alike documented channel messages ⟨rfl, rfl, usable, usable⟩).1.usable
  rw [walked] at next
  exact next

end Listener

/-! ### What a listener is told -/

namespace Listener

variable {setup : Setup ε ω σ ρ} {number : Nat} {listener : Listener ε ρ σ}

theorem hear_unended (before : ∀ call ∈ listener.calls, call.isFinal = false)
    (message : Message) :
    ∀ call ∈ (listener.hear setup number message).1.calls, call.isFinal = false := by
  have onward {call : Entry ε ρ} (ordinary : call.isFinal = false) :
      ∀ other ∈ listener.calls ++ [call], other.isFinal = false :=
    List.forall_mem_append.mpr ⟨before, List.forall_mem_singleton.mpr ordinary⟩
  unfold hear
  cases message.kind with
  | initialResponse =>
      dsimp only
      cases listener.response with
      | none => exact before
      | some response => exact onward rfl
  | event =>
      dsimp only
      cases setup.readEvent (EventMessage.ofMessage message) setup.attributes with
      | error reason => exact before
      | ok event => exact onward rfl
  | _ => exact before

theorem walk_unended (setup : Setup ε ω σ ρ) (number : Nat)
    (before : ∀ call ∈ listener.calls, call.isFinal = false) (messages : List Message) :
    ∀ call ∈ (Fed.walk (hear setup number) listener messages).1.calls, call.isFinal = false := by
  induction messages generalizing listener with
  | nil => exact before
  | cons message later ih =>
      have next : ∀ call ∈ (listener.hear setup number message).1.calls, call.isFinal = false :=
        hear_unended before message
      rw [Fed.walk]
      generalize listener.hear setup number message = answer at next ⊢
      obtain ⟨heard, verdict⟩ := answer
      cases verdict with
      | error cause => exact next
      | ok accepted => exact ih next

theorem walk_signals (setup : Setup ε ω σ ρ) (number : Nat)
    (before : ∀ call ∈ listener.calls, call.isFinal = false) (messages : List Message) :
    let walked := Fed.walk (hear setup number) listener messages
    (signals listener.calls).length ≤ (signals walked.1.calls).length ∧
      (signals walked.1.calls).length ≤
        (signals listener.calls).length + messages.countP Message.isEvent ∧
      (walked.2 = .ok () → (signals walked.1.calls).length =
        (signals listener.calls).length + messages.countP Message.isEvent) := by
  intro walked
  obtain ⟨more, added, few, counted⟩ := walk_adds setup number listener messages
  have given : (signals walked.1.calls).length =
      (signals listener.calls).length + (events more).length := by
    rw [signals_of_unended (walk_unended setup number before messages), signals_of_unended before,
      List.length_map, List.length_map, added, events_append, List.length_append]
  rw [given]
  refine ⟨Nat.le_add_right _ _, Nat.add_le_add_left few _, fun sound => ?_⟩
  rw [counted sound]

theorem finish_signals (setup : Setup ε ω σ ρ) (number : Nat)
    (before : ∀ call ∈ listener.calls, call.isFinal = false) (failure : Option FlowError) :
    let told := (listener.finish setup number failure).1
    events told = events listener.calls ∧ failureIn told = failure ∧
      signals told = signals listener.calls ++ [.last failure] := by
  have none := failureIn_of_unended before
  unfold finish
  cases failure with
  | some cause =>
      refine ⟨?_, ?_, signals_append _ _⟩
      · rw [events_append]
        exact List.append_nil _
      · rw [failureIn_append, none]
        rfl
  | none =>
      refine ⟨?_, ?_, signals_append _ _⟩
      · rw [events_append]
        exact List.append_nil _
      · rw [failureIn_append, none]
        rfl

end Listener

end FramedEvents
