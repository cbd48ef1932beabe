/-
What the decode command makes of its input when it is asked for so many events.

The printer asks for that many events and cancels with the last of them. By then the
chunk that has brought it has been fetched, and no chunk behind it will be. But what is
left of this chunk is still decoded: its events are passed over, and a failure among its
messages is the failure of the command.
-/

import FramedEvents.Proofs.Command.Decoding
import FramedEvents.Proofs.Flow.Cancelling
import Mathlib.Data.List.Infix

namespace FramedEvents

def StreamRecord.isEvent (record : StreamRecord) : Bool := record.kind == "event"

namespace Decode

open FramedEvents.Flow

/-! ### The front of an input -/

/-- The number of events in front of the first failure. -/
def eventCount (limits : Limits) (bytes : Bytes) : Nat :=
  (sound (Frame.messages limits bytes).1).countP Message.isEvent

theorem sound_append_of_faulty {messages : List Message} {cause : FlowError}
    (faulty : messages.findSome? Message.fault? = some cause) (more : List Message) :
    sound (messages ++ more) = sound messages := by
  induction messages with
  | nil => cases faulty
  | cons message later ih =>
      unfold sound at ih ⊢
      rw [List.cons_append, List.takeWhile_cons, List.takeWhile_cons]
      unfold Message.isSound
      cases fault : message.fault? with
      | some reason => rfl
      | none =>
          rw [List.findSome?_cons_of_isNone (by rw [fault]; rfl)] at faulty
          exact congrArg (message :: ·) (ih faulty)

theorem firstFailure?_eq_none {limits : Limits} {bytes : Bytes}
    (none : firstFailure? limits bytes = none) :
    sound (Frame.messages limits bytes).1 = (Frame.messages limits bytes).1 ∧
      ∃ left, (Frame.messages limits bytes).2 = .ok left := by
  obtain ⟨faultless, unstopped⟩ := Option.or_eq_none_iff.mp none
  refine ⟨sound_of_faultless faultless, ?_⟩
  generalize (Frame.messages limits bytes).2 = stop at unstopped
  cases stop with
  | error malformed => cases unstopped
  | ok left => exact ⟨left, rfl⟩

theorem sound_of_failure {limits : Limits} {front : Bytes} {cause : FlowError}
    (fails : firstFailure? limits front = some cause) (back : Bytes) :
    sound (Frame.messages limits (front ++ back)).1 = sound (Frame.messages limits front).1 := by
  rw [Frame.messages_append]
  unfold firstFailure? at fails
  generalize Frame.messages limits front = found at fails
  obtain ⟨messages, stop⟩ := found
  cases stop with
  | error malformed => rfl
  | ok left =>
      dsimp only at fails
      rw [stopFailure?, Option.or_none] at fails
      exact sound_append_of_faulty fails _

theorem firstFailure?_append {limits : Limits} {front : Bytes} {cause : FlowError}
    (fails : firstFailure? limits front = some cause) (back : Bytes) :
    firstFailure? limits (front ++ back) = some cause := by
  unfold firstFailure? at fails ⊢
  rw [Frame.messages_append]
  generalize Frame.messages limits front = found at fails
  obtain ⟨messages, stop⟩ := found
  cases stop with
  | error malformed => exact fails
  | ok left =>
      dsimp only at fails ⊢
      rw [stopFailure?, Option.or_none] at fails
      rw [List.findSome?_append, fails]
      rfl

theorem sound_prefix (limits : Limits) (front back : Bytes) :
    sound (Frame.messages limits front).1 <+: sound (Frame.messages limits (front ++ back)).1 := by
  cases fails : firstFailure? limits front with
  | some cause => rw [sound_of_failure fails]
  | none =>
      obtain ⟨all, left, waits⟩ := firstFailure?_eq_none fails
      have parts : Frame.messages limits front = ((Frame.messages limits front).1, .ok left) := by
        rw [← waits]
      rw [Frame.messages_append, parts]
      dsimp only
      unfold sound at all ⊢
      rw [List.takeWhile_append_of_pos, all]
      · exact List.prefix_append _ _
      · exact List.takeWhile_eq_self_iff.mp all

/-! ### What the counting printer hears -/

theorem printer_enough {count printed : Nat} (enough : count ≤ printed) (event : ReceivedEvent) :
    (printer (some count)).react (.next event) printed = { state := printed } :=
  if_pos (decide_eq_true enough)

theorem printer_wants {count printed : Nat} (few : printed < count) (event : ReceivedEvent) :
    (printer (some count)).react (.next event) printed =
      { state := printed + 1
        controls := if some count = some (printed + 1) then [.cancel] else [] } :=
  if_neg (by
    rw [isEnough, decide_eq_true_eq]
    exact Nat.not_le_of_lt few)

theorem printer_accepts (limit : Option Nat) (signal : EventSignal ReceivedEvent) (printed : Nat) :
    ((printer limit).react signal printed).refusal = none := by
  cases signal with
  | next event =>
      unfold printer
      dsimp only
      split
      · rfl
      · rfl
  | _ => rfl

theorem hear_limit (limits : Limits) (limit : Option Nat)
    {first second : Listener ReceivedEvent String Nat} (response : first.response = second.response)
    (calls : first.calls = second.calls) (message : Message) :
    let heard := first.hear (setup limits limit) 0 message
    let other := second.hear (setup limits none) 0 message
    heard.1.response = other.1.response ∧ heard.1.calls = other.1.calls ∧ heard.2 = other.2 := by
  unfold Listener.hear
  cases kind : message.kind with
  | initialResponse =>
      dsimp only
      rw [response]
      cases second.response with
      | none => exact ⟨response, calls, rfl⟩
      | some source => exact ⟨rfl, congrArg (· ++ _) calls, rfl⟩
  | event =>
      dsimp only [setup]
      rw [receive_event kind]
      refine ⟨response, congrArg (· ++ _) calls, ?_⟩
      dsimp only
      rw [printer_accepts, printer_accepts]
  | _ => exact ⟨response, calls, rfl⟩

theorem walk_limit (limits : Limits) (limit : Option Nat) (messages : List Message)
    {first second : Listener ReceivedEvent String Nat} (response : first.response = second.response)
    (calls : first.calls = second.calls) :
    let heard := Fed.walk (Listener.hear (setup limits limit) 0) first messages
    let other := Fed.walk (Listener.hear (setup limits none) 0) second messages
    heard.1.calls = other.1.calls ∧ heard.2 = other.2 := by
  induction messages generalizing first second with
  | nil => exact ⟨calls, rfl⟩
  | cons message later ih =>
      obtain ⟨next, told, same⟩ := hear_limit limits limit response calls message
      rw [Fed.walk, Fed.walk]
      generalize first.hear (setup limits limit) 0 message = answer at next told same ⊢
      generalize second.hear (setup limits none) 0 message = answerToo at next told same ⊢
      obtain ⟨heard, verdict⟩ := answer
      obtain ⟨heardToo, verdictToo⟩ := answerToo
      obtain rfl : verdict = verdictToo := same
      cases verdict with
      | error cause => exact ⟨told, rfl⟩
      | ok accepted => exact ih next told

theorem hear_prints (limits : Limits) (count : Nat) (message : Message)
    (listener : Listener ReceivedEvent String Nat) (few : listener.state ≤ count) :
    (listener.hear (setup limits (some count)) 0 message).1.state =
      min count (listener.state + [message].countP Message.isEvent) := by
  rw [message.countP_isEvent]
  unfold Listener.hear
  have same : listener.state = min count (listener.state + 0) := (Nat.min_eq_right few).symm
  cases kind : message.kind with
  | initialResponse =>
      dsimp only
      cases listener.response with
      | none => exact same
      | some source => exact same
  | event =>
      dsimp only [setup]
      rw [receive_event kind, if_pos rfl]
      dsimp only
      by_cases enough : count ≤ listener.state
      · rw [printer_enough enough]
        dsimp only
        omega
      · rw [printer_wants (Nat.lt_of_not_le enough)]
        dsimp only
        omega
  | _ => exact same

theorem walk_prints (limits : Limits) (count : Nat) (messages : List Message)
    (listener : Listener ReceivedEvent String Nat) (few : listener.state ≤ count) :
    (Fed.walk (Listener.hear (setup limits (some count)) 0) listener messages).1.state =
      min count (listener.state + (sound messages).countP Message.isEvent) := by
  induction messages generalizing listener with
  | nil => exact (Nat.min_eq_right few).symm
  | cons message later ih =>
      have goes : sound (message :: later) =
          if message.isSound then message :: sound later else [] := List.takeWhile_cons
      rw [Fed.walk, goes]
      unfold Message.isSound
      cases fault : message.fault? with
      | some cause =>
          rw [hear_fault limits fault]
          exact (Nat.min_eq_right few).symm
      | none =>
          obtain ⟨next, _, _, heard, _⟩ := hear_tells limits fault listener 0
          obtain ⟨_, _, accepts⟩ :=
            @hear_limit limits (some count) listener listener rfl rfl message
          have printed := hear_prints limits count message listener few
          rw [heard] at accepts
          generalize listener.hear (setup limits (some count)) 0 message = answer at accepts printed
          obtain ⟨after, verdict⟩ := answer
          obtain rfl : verdict = .ok () := accepts
          have both : (message :: sound later).countP Message.isEvent =
              [message].countP Message.isEvent + (sound later).countP Message.isEvent :=
            @List.countP_append _ Message.isEvent [message] (sound later)
          have rest := ih after (by rw [printed]; exact Nat.min_le_left _ _)
          change _ = min count (listener.state + (message :: sound later).countP _)
          dsimp only at rest printed ⊢
          rw [rest, printed, both]
          omega

/-! ### Records -/

theorem records_some (count printed : Nat) (log : List (Entry ReceivedEvent String)) :
    records (some count) (min count printed) log =
      (records none printed log).filter fun record => record.index ≤ count := by
  induction log generalizing printed with
  | nil => rfl
  | cons entry rest ih =>
      cases quiet : tells entry with
      | false => rw [records_quiet quiet, records_quiet quiet, ih]
      | true =>
          cases entry with
          | responded source =>
              exact congrArg (StreamRecord.initialResponse source :: ·) (ih printed)
          | signalled number signal =>
              cases signal with
              | next event =>
                  have next := ih (printed + 1)
                  have wanted : records none printed (.signalled number (.next event) :: rest) =
                      .ofEvent (printed + 1) event :: records none (printed + 1) rest := rfl
                  have counted (passed : Nat) :
                      records (some count) passed (.signalled number (.next event) :: rest) =
                        if decide (count ≤ passed) then records (some count) passed rest
                        else .ofEvent (passed + 1) event ::
                          records (some count) (passed + 1) rest :=
                    rfl
                  rw [wanted, counted, List.filter_cons]
                  change _ = if decide (printed + 1 ≤ count) then _ else _
                  by_cases enough : count ≤ printed
                  · rw [Nat.min_eq_left (Nat.le_succ_of_le enough)] at next
                    rw [Nat.min_eq_left enough, if_pos (decide_eq_true (Nat.le_refl count)),
                      if_neg (by rw [decide_eq_true_eq]; omega), next]
                  · rw [Nat.min_eq_right (by omega)] at next
                    rw [Nat.min_eq_right (by omega),
                      if_neg (by rw [decide_eq_true_eq]; exact enough),
                      if_pos (decide_eq_true (by omega)), next]
              | _ => cases quiet
          | _ => cases quiet

theorem length_numbered (first : Nat) (messages : List Message) :
    (numbered first messages).length = messages.countP Message.isEvent := by
  unfold numbered
  rw [List.length_map, List.length_zipIdx, List.countP_eq_length_filter]

theorem numbered_append (first : Nat) (messages more : List Message) :
    numbered first (messages ++ more) =
      numbered first messages ++ numbered (first + messages.countP Message.isEvent) more := by
  unfold numbered
  rw [List.filter_append, List.zipIdx_append, List.map_append, List.countP_eq_length_filter]

theorem numbered_upTo (first count : Nat) (messages : List Message) :
    (numbered first messages).filter (fun record => record.index ≤ count) =
      (numbered first messages).take (count + 1 - first) := by
  induction messages generalizing first with
  | nil => exact List.take_nil.symm
  | cons message later ih =>
      by_cases event : message.kind = .event
      · rw [numbered_event event, List.filter_cons, ih]
        change (if decide (first ≤ count) then _ else _) = _
        by_cases within : first ≤ count
        · rw [if_pos (decide_eq_true within)]
          obtain ⟨more, same⟩ : ∃ more, count + 1 - first = more + 1 := ⟨count - first, by omega⟩
          have less : count + 1 - (first + 1) = more := by omega
          rw [same, less, List.take_succ_cons]
        · have none : count + 1 - first = 0 := by omega
          have noneToo : count + 1 - (first + 1) = 0 := by omega
          rw [if_neg (by rw [decide_eq_true_eq]; exact within), none, noneToo]
          rfl
      · rw [numbered_other event, ih]

theorem isEvent_numbered (first : Nat) (messages : List Message) :
    (numbered first messages).filter StreamRecord.isEvent = numbered first messages := by
  apply List.filter_eq_self.mpr
  intro record member
  unfold numbered at member
  obtain ⟨⟨message, index⟩, _, rfl⟩ := List.mem_map.mp member
  rfl

theorem isEvent_transcript (source : String) (first : Nat) (messages : List Message) :
    (transcript source first messages).filter StreamRecord.isEvent = numbered first messages := by
  induction messages generalizing first with
  | nil => rfl
  | cons message later ih =>
      by_cases event : message.kind = .event
      · rw [transcript_event event, numbered_event event, List.filter_cons_of_pos rfl, ih]
      · by_cases marker : message.kind = .initialResponse
        · rw [transcript_marker marker, numbered_other event,
            List.filter_cons_of_neg Bool.false_ne_true, isEvent_numbered]
        · rw [transcript_other event marker, numbered_other event, ih]

theorem shown_events (source : String) (limits : Limits) {count : Nat} (front back : Bytes)
    (enough : count ≤ eventCount limits front) :
    ((transcript source 1 (sound (Frame.messages limits front).1)).filter
        (fun record => record.index ≤ count)).filter StreamRecord.isEvent =
      (numbered 1 (sound (Frame.messages limits (front ++ back)).1)).take count := by
  obtain ⟨more, whole⟩ := sound_prefix limits front back
  rw [← whole, numbered_append, List.take_append_of_le_length]
  · rw [List.filter_comm, isEvent_transcript, numbered_upTo]
    rfl
  · rw [length_numbered]
    exact enough

/-! ### The counting stream -/

variable {limits : Limits} {count printed : Nat} {name : String}
  {ask : Ask ReceivedEvent String Nat Nat} {flow after : Flow ReceivedEvent String Nat Nat}

/-- The printer has printed so many events. It has cancelled if these are all it wants, and
otherwise as many are wanted as are left. -/
structure Counting (count printed : Nat) (flow : Flow ReceivedEvent String Nat Nat) : Prop where
  running : flow.stage = .running
  quiet : flow.interludes = []
  holder : flow.subscriber = some (0, printed)
  few : printed ≤ count
  cancelled : flow.cancelled = decide (count ≤ printed)
  demand : printed < count → flow.demand.outstanding = count - printed

theorem Counting.of_same (counting : Counting count printed flow)
    (stage : after.stage = flow.stage) (interludes : after.interludes = flow.interludes)
    (subscriber : after.subscriber = flow.subscriber) (cancelled : after.cancelled = flow.cancelled)
    (demand : after.demand = flow.demand) : Counting count printed after := by
  obtain ⟨running, quiet, holder, few, stopped, wanted⟩ := counting
  exact ⟨stage.trans running, interludes.trans quiet, subscriber.trans holder, few,
    cancelled.trans stopped, demand ▸ wanted⟩

theorem stop_leaves (flow : Flow ReceivedEvent String Nat Nat) :
    (stop flow).stage = flow.stage ∧ (stop flow).subscriber = flow.subscriber ∧
      (stop flow).outcome = flow.outcome := by
  unfold stop
  split
  · exact ⟨rfl, rfl, rfl⟩
  · dsimp only
    split
    · exact ⟨rfl, rfl, rfl⟩
    · exact ⟨rfl, rfl, rfl⟩

theorem Counting.responds (alone : ask.Alone) (counting : Counting count printed flow) :
    Counting count printed (respond (setup limits (some count)) ask flow) := by
  cases held : flow.response with
  | none =>
      rw [respond_of_none held]
      exact counting
  | some response =>
      have same : respond (setup limits (some count)) ask flow =
          record (.responded response) { flow with response := none } := by
        unfold respond
        rw [held]
        dsimp only
        have quiet : (record (.responded response) { flow with response := none }).interludes =
            [] := counting.quiet
        split
        · exact alone _ quiet
        · exact alone _ quiet
      rw [same]
      exact counting.of_same rfl rfl rfl rfl rfl

/-- An event is printed if it is wanted, and with the last one that is, the stream is
cancelled. -/
theorem Counting.hands (alone : ask.Alone) (counting : Counting count printed flow)
    (message : Message) :
    ∃ printed, Counting count printed
      (handEvent (setup limits (some count)) ask message flow).1 := by
  obtain ⟨running, quiet, holder, few, stopped, wanted⟩ := counting
  let event : ReceivedEvent :=
    ⟨(EventMessage.ofMessage message).header? Reserved.eventType, message.payload⟩
  let served : Flow ReceivedEvent String Nat Nat := { flow with demand := flow.demand.serve }
  have handed : (handEvent (setup limits (some count)) ask message flow).1 =
      (signal (setup limits (some count)) ask (.next event) served).1 :=
    congrArg Prod.fst (handEvent_of_read rfl holder)
  let reaction := (printer (some count)).react (.next event) printed
  let told := informed (setup limits (some count)) (.next event) 0 printed served
  have held : served.subscriber = some (0, printed) := holder
  have signalled {obeyed : Flow ReceivedEvent String Nat Nat}
      (obeys : reaction.controls.foldl (obey ask) told = obeyed) (still : obeyed.interludes = []) :
      (signal (setup limits (some count)) ask (.next event) served).1 = obeyed :=
    congrArg Prod.fst (signal_alone alone held obeys still)
  have passed : told.subscriber = some (0, reaction.state) := rfl
  have left : told.demand.outstanding = flow.demand.outstanding - 1 :=
    flow.demand.outstanding_serve
  rw [handed]
  by_cases enough : count ≤ printed
  · have reacts : reaction = { state := printed } := printer_enough enough event
    have idle : reaction.controls.foldl (obey ask) told = told := by rw [reacts]; rfl
    rw [signalled idle quiet]
    refine ⟨printed, running, quiet, ?_, few, stopped, fun less => ?_⟩
    · rw [passed, reacts]
    · omega
  · have more := Nat.lt_of_not_le enough
    have reacts : reaction = _ := printer_wants more event
    have next : told.subscriber = some (0, printed + 1) := by rw [passed, reacts]
    by_cases last : some count = some (printed + 1)
    · have cancels : reaction.controls.foldl (obey ask) told = stop told := by
        rw [reacts, if_pos last]
        rfl
      obtain rfl := Option.some.inj last
      obtain ⟨stage, subscriber, _⟩ := stop_leaves told
      rw [signalled cancels (stop_quiet quiet)]
      refine ⟨printed + 1, stage.trans running, stop_quiet quiet, subscriber.trans next,
        Nat.le_refl _, (stop_cancelled told).trans (decide_eq_true (Nat.le_refl _)).symm,
        fun less => ?_⟩
      exact absurd less (Nat.lt_irrefl _)
    · have idle : reaction.controls.foldl (obey ask) told = told := by
        rw [reacts, if_neg last]
        rfl
      have apart : count ≠ printed + 1 := fun same => last (congrArg some same)
      rw [signalled idle quiet]
      refine ⟨printed + 1, running, quiet, next, more, ?_, fun less => ?_⟩
      · rw [decide_eq_false enough] at stopped
        exact stopped.trans (decide_eq_false (by omega)).symm
      · rw [left, wanted more, Nat.sub_sub]

theorem Counting.deals (alone : ask.Alone) (counting : Counting count printed flow)
    (message : Message) :
    ∃ printed, Counting count printed (deal (setup limits (some count)) ask flow message).1 := by
  have looked : Counting count printed (record (.looked message.kind) flow) :=
    counting.of_same rfl rfl rfl rfl rfl
  rw [deal_of_running counting.running]
  cases kind : message.kind with
  | initialResponse =>
      rw [kind] at looked
      exact ⟨printed, looked.responds alone⟩
  | event =>
      rw [kind] at looked
      exact looked.hands alone message
  | _ =>
      rw [kind] at looked
      exact ⟨printed, looked⟩

theorem Counting.walks (alone : ask.Alone) (messages : List Message)
    (counting : Counting count printed flow) :
    ∃ printed, Counting count printed
      (Fed.walk (deal (setup limits (some count)) ask) flow messages).1 := by
  induction messages generalizing flow printed with
  | nil => exact ⟨printed, counting⟩
  | cons message later ih =>
      obtain ⟨more, next⟩ := counting.deals alone message
      rw [Fed.walk]
      generalize deal (setup limits (some count)) ask flow message = dealt at next ⊢
      obtain ⟨after, verdict⟩ := dealt
      cases verdict with
      | error cause => exact ⟨more, next⟩
      | ok accepted => exact ih next

/-! ### Chunks -/

variable {messages : List Message} {chunks behind taken : List Bytes} {origin source held : Source}
  {bytes left : Bytes} {pending : Option Bytes} {least : Nat}

/-- The number of printed events is that of the events that have been heard, as far as they
are wanted. -/
theorem Counting.printed_eq (counting : Counting count printed flow)
    (holder : flow.subscriber =
      some (0, (hearing (setup limits (some count)) 0 name messages).1.state)) :
    printed = min count ((sound messages).countP Message.isEvent) := by
  have same := counting.holder.symm.trans holder
  have prints := walk_prints limits count messages
    (Listener.attach (setup limits (some count)) 0 name) (Nat.zero_le count)
  obtain ⟨_, state⟩ := Prod.mk.inj (Option.some.inj same)
  rw [state]
  refine prints.trans ?_
  change min count (0 + _) = _
  rw [Nat.zero_add]

theorem failure_eq (limits : Limits) (limit : Option Nat) (name : String) (bytes : Bytes) :
    Listener.failure? (hearing (setup limits limit) 0 name (Frame.messages limits bytes).1).2
      (Frame.messages limits bytes).2 none = firstFailure? limits bytes := by
  obtain ⟨heard, verdict, more, walked, _, _, failure⟩ := walk_tells limits
    (Frame.messages limits bytes).1 (Listener.attach (setup limits none) 0 name) 0
  have same : (hearing (setup limits limit) 0 name (Frame.messages limits bytes).1).2 = verdict :=
    (walk_limit limits limit _ rfl rfl).2.trans (congrArg Prod.snd walked)
  rw [same]
  exact failure _

def outcomeOf (limits : Limits) (bytes : Bytes) : Outcome Nat :=
  match firstFailure? limits bytes with
  | none => .pending
  | some cause => .ready (.error cause)

/-- The stream has been cancelled with the last event that is wanted, and no chunk has been
fetched behind the one that has brought it. -/
structure Sated (limits : Limits) (count : Nat) (name : String) (chunks : List Bytes)
    (origin source : Source) (flow : Flow ReceivedEvent String Nat Nat) : Prop where
  released : Released (setup limits (some count)) 0 name flow
  last : ∃ front last behind, fetched flow.log = front ++ [last] ∧
    chunks = front ++ last :: behind ∧ source = origin.advance (front.length + 1) ∧
    eventCount limits front.flatten < count ∧ count ≤ eventCount limits (front ++ [last]).flatten
  outcome : flow.outcome = outcomeOf limits (fetched flow.log).flatten

theorem Sated.of_same (sated : Sated limits count name chunks origin source flow)
    (released : Released (setup limits (some count)) 0 name after) (log : after.log = flow.log)
    (outcome : after.outcome = flow.outcome) :
    Sated limits count name chunks origin source after := by
  refine ⟨released, ?_, ?_⟩
  · rw [log]
    exact sated.last
  · rw [log, outcome]
    exact sated.outcome

/-- What has been heard of a chunk is all that it tells, up to its failure if there is one. -/
theorem printed_of_dealt {kept : Flow ReceivedEvent String Nat Nat}
    (dealt : Dealt (setup limits (some count)) 0 name taken held kept after)
    (counting : Counting count printed kept) :
    printed = min count (eventCount limits taken.flatten) := by
  unfold eventCount
  cases dealt with
  | accepted messages left found accepted attentive finishes =>
      have heard : (Frame.messages limits taken.flatten).1 = messages := congrArg Prod.fst found
      rw [heard]
      exact counting.printed_eq attentive.holder
  | failed front cause left within same failure attentive ends =>
      have holder := attentive.holder
      rw [← same] at holder
      exact counting.printed_eq holder

theorem dealt_sates {kept : Flow ReceivedEvent String Nat Nat} {front : List Bytes}
    (dealt : Dealt (setup limits (some count)) 0 name (front ++ [bytes]) held kept after)
    (counting : Counting count printed kept) (split : chunks = (front ++ [bytes]) ++ behind)
    (short : eventCount limits front.flatten < count)
    (enough : count ≤ eventCount limits chunks.flatten)
    (here : source = origin.advance (front ++ [bytes]).length) :
    (after.firstDelivery.isWaiting = false ∧ Sated limits count name chunks origin source
        (Delivery.rest (Flow.reach (setup limits (some count)) 0) after)) ∨
      ∃ messages left, printed < count ∧ Counting count printed after ∧
        Follows 0 drawing held (some left) after
          (hearing (setup limits (some count)) 0 name messages).1 ∧
        Reached (setup limits (some count)) 0 name chunks behind messages left after.log ∧
        fetched after.log = front ++ [bytes] := by
  have many := printed_of_dealt dealt counting
  have last (sated : count ≤ eventCount limits (front ++ [bytes]).flatten) :
      ∃ before last behind, front ++ [bytes] = before ++ [last] ∧
        chunks = before ++ last :: behind ∧ source = origin.advance (before.length + 1) ∧
        eventCount limits before.flatten < count ∧
        count ≤ eventCount limits (before ++ [last]).flatten := by
    refine ⟨front, bytes, behind, rfl, ?_, ?_, short, sated⟩
    · rw [split]
      exact (List.append_cons _ _ _).symm
    · rw [here, List.length_append]
      rfl
  cases dealt with
  | accepted messages left found accepted attentive finishes =>
      by_cases going : printed < count
      · have wanted : kept.cancelled = false := by
          rw [counting.cancelled, decide_eq_false (Nat.not_le_of_lt going)]
        have unmet : kept.demand.isMet = false := by
          have left := counting.demand going
          refine beq_eq_false_iff_ne.mpr ?_
          omega
        obtain ⟨follows, reached, got⟩ := attentive.proceeds split found accepted wanted unmet
        have same : after = _ :=
          finishes.trans (finishChunk_unmet _ (attentive.follows wanted) unmet)
        rw [← finishes] at follows reached got
        refine .inr ⟨messages, left, going, ?_, follows, reached, got⟩
        rw [same]
        exact counting.of_same counting.running.symm counting.quiet.symm
          attentive.holder.symm wanted.symm rfl
      · have stopped : kept.cancelled = true := by
          rw [counting.cancelled, decide_eq_true (Nat.le_of_not_lt going)]
        have released := attentive.leaves found accepted stopped
        have log : fetched (.chunkFinished :: kept.log) = front ++ [bytes] := by
          rw [(Takes.of_note rfl kept.log).fetched, attentive.heard.fetched]
        rw [finishes, finishChunk_of_cancelled stopped]
        refine .inl ⟨attentive.idle, released.updateDelivery _, ?_, ?_⟩
        · change ∃ before last behind, fetched (.chunkFinished :: kept.log) = _ ∧ _
          rw [log]
          exact last (by omega)
        · have none : firstFailure? limits (front ++ [bytes]).flatten = none := by
            have heard : Frame.messages limits (front ++ [bytes]).flatten = (messages, .ok left) :=
              found
            rw [← failure_eq limits (some count) name, heard, accepted]
            rfl
          change kept.outcome = outcomeOf limits (fetched (.chunkFinished :: kept.log)).flatten
          rw [log, outcomeOf, none]
          exact congrArg Flow.outcome attentive.shape
  | failed messages cause left within same failure attentive ends =>
      have fails : firstFailure? limits (front ++ [bytes]).flatten = some cause :=
        (failure_eq limits (some count) name _).symm.trans failure
      have going : count ≤ printed := by
        -- There is no event behind a failure.
        rw [split, List.flatten_append] at enough
        unfold eventCount at enough
        rw [sound_of_failure fails] at enough
        unfold eventCount at many
        omega
      have stopped : kept.cancelled = true := by
        rw [counting.cancelled, decide_eq_true going]
      obtain ⟨released, log, outcome⟩ := attentive.leaves_failed within same failure stopped
      have idle : (fail (setup limits (some count)) (asking (setup limits (some count)) bookChunk)
          cause kept).firstDelivery.isWaiting = false :=
        fail_idle (asking_alone bookChunk) cause attentive.running attentive.holder
          attentive.quiet attentive.idle
      rw [ends, stop_of_cancelled released.stopped]
      refine .inl ⟨idle, released.updateDelivery _, ?_, ?_⟩
      · change ∃ before last behind, fetched (fail _ _ cause kept).log = _ ∧ _
        rw [log]
        exact last (by omega)
      · change (fail _ _ cause kept).outcome =
          outcomeOf limits (fetched (fail _ _ cause kept).log).flatten
        have unresolved : kept.outcome = .pending := congrArg Flow.outcome attentive.shape
        rw [log, outcome, unresolved, outcomeOf, fails]
        rfl

theorem handOver_sates (supplies : source.Supplies behind none)
    (follows : Follows 0 drawing held (some left) flow
      (hearing (setup limits (some count)) 0 name messages).1)
    (reached : Reached (setup limits (some count)) 0 name chunks behind messages left flow.log)
    (counting : Counting count printed flow) (going : printed < count)
    (here : source = origin.advance (fetched flow.log).length)
    (enough : count ≤ eventCount limits chunks.flatten) :
    let delivered := Delivery.handOver (Flow.reach (setup limits (some count)) 0) source flow
    Sated limits count name chunks origin delivered.1 delivered.2 := by
  generalize none : (none : Option TransportError) = final at supplies
  induction supplies generalizing flow messages left printed with
  | ended step =>
      -- All events have been heard, and there have been fewer than are wanted.
      have printed_eq := counting.printed_eq follows.holder
      have all : chunks.flatten = (fetched flow.log).flatten := by
        rw [reached.split, List.append_nil]
      have heard : (Frame.messages limits (fetched flow.log).flatten).1 = messages :=
        congrArg Prod.fst reached.found
      unfold eventCount at enough
      rw [all, heard] at enough
      omega
  | failed error step => cases none
  | @chunk source behind final bytes step later ih =>
      have consumed : (Flow.reach (setup limits (some count)) 0).onChunk bytes
          (Delivery.takeTurn (Flow.reach (setup limits (some count)) 0) flow) =
          consume (setup limits (some count)) (asking (setup limits (some count)) bookChunk) 0 true
            left bytes (Delivery.takeTurn (Flow.reach (setup limits (some count)) 0) flow) :=
        chunk_eq_consume (follows.takeTurn (setup limits (some count))) bytes
      have short : eventCount limits (fetched flow.log).flatten < count := by
        have printed_eq := counting.printed_eq follows.holder
        have heard : (Frame.messages limits (fetched flow.log).flatten).1 = messages :=
          congrArg Prod.fst reached.found
        unfold eventCount
        rw [heard]
        omega
      have split : chunks = (fetched flow.log ++ [bytes]) ++ behind := by
        rw [reached.split]
        exact List.append_cons _ _ _
      have further : source.next.2 = origin.advance (fetched flow.log ++ [bytes]).length := by
        rw [here, List.length_append]
        exact (Source.advance_succ _ origin).symm
      obtain ⟨rest, dealt⟩ := consume_deals follows reached
      have arriving : Counting count printed (arriving 0 true bytes
          (Delivery.takeTurn (Flow.reach (setup limits (some count)) 0) flow)) :=
        counting.of_same rfl rfl rfl rfl rfl
      obtain ⟨more, walked⟩ := @Counting.walks limits count printed
        (asking (setup limits (some count)) bookChunk) _ (asking_alone bookChunk)
        (Frame.messages limits (left ++ bytes)).1 arriving
      have sates :=
        dealt_sates dealt (walked.of_same rfl rfl rfl rfl rfl) split short enough further
      rw [Delivery.handOver_chunk (follows.isWaiting_drawing _) step, consumed]
      rcases sates with ⟨idle, sated⟩ | ⟨messages, left, going, counting, next, reached, got⟩
      · rw [Delivery.handOver_idle idle]
        exact sated
      · refine ih next reached counting going ?_ none
        rw [got]
        exact further

theorem stream_sates (limits : Limits) (name : String) (supplies : source.Supplies chunks none)
    (counts : count ≠ 0) (possible : count ≤ mostDemand)
    (enough : count ≤ eventCount limits chunks.flatten) :
    let started := stream limits (some count) name source
    started.1 = .ok () ∧
      Sated limits count name chunks source started.2.firstSource started.2 := by
  intro started
  let printing : Setup ReceivedEvent Nat Nat := setup limits (some count)
  have alone : (Flow.ask printing : Ask ReceivedEvent String Nat Nat).Alone := asking_alone _
  let asked : Flow ReceivedEvent String Nat Nat := streaming 0 drawing source (some [])
    (Listener.attach printing 0 name) (Demand.zero.add count)
    [.chunkRequested, .demanded count, .signalled 0 .subscribed, .streamReady]
  let delivered := Delivery.handOver (Flow.reach printing 0) source asked
  have demand : asked.demand.outstanding = count - 0 :=
    (congrArg (min · mostDemand) (Nat.zero_add _)).trans (Nat.min_eq_left possible)
  have counting : Counting count 0 asked := by
    refine ⟨rfl, rfl, rfl, Nat.zero_le _, ?_, fun _ => demand⟩
    exact (decide_eq_false (Nat.not_le_of_lt (Nat.pos_of_ne_zero counts))).symm
  have heard : Heard printing 0 name [] 0 [] false asked.log := by
    refine ⟨rfl, rfl, rfl, Nat.le_refl _, ?_, nofun⟩
    intro _
    simp [asked, streaming]
  have reached : Reached printing 0 name chunks chunks [] [] asked.log :=
    heard.reached rfl Frame.messages_nil rfl
  have follows : Follows 0 drawing source (some []) asked (hearing printing 0 name []).1 :=
    ⟨rfl, rfl⟩
  have sated : Sated limits count name chunks source delivered.1 delivered.2 :=
    handOver_sates supplies follows reached counting (Nat.pos_of_ne_zero counts) rfl enough
  obtain ⟨released, first⟩ := sated.released.withSource delivered.1
  have delivers : request (Flow.ask printing) count (attending printing 0 name source) =
      delivered.2.updateOutlet 0 (Outlet.withSource delivered.1) := by
    rw [request_asks counts rfl rfl rfl rfl]
    rfl
  let controls :=
    ((printing.subscribers 0).react .subscribed (printing.subscribers 0).start).controls
  have obeyed : controls.foldl (obey (Flow.ask printing)) (attending printing 0 name source) =
      delivered.2.updateOutlet 0 (Outlet.withSource delivered.1) := delivers
  have same : started = (.ok (), delivered.2.updateOutlet 0 (Outlet.withSource delivered.1)) := by
    have begun : started = _ := start_eq printing name rfl
    rw [begun, obeyed, alone _ released.quiet]
    exact congrArg (Prod.mk _) (alone _ released.quiet)
  rw [same]
  refine ⟨rfl, ?_⟩
  dsimp only
  rw [first]
  exact sated.of_same released rfl rfl

/-- The records of a stream that is asked for so many events: those of all events up to
their number. -/
theorem records_callsOf (limits : Limits) (count : Nat) (name : String) (bytes : Bytes) :
    records (some count) 0 (callsOf (setup limits (some count)) 0 name bytes) =
      (transcript name 1 (sound (Frame.messages limits bytes).1)).filter
        fun record => record.index ≤ count := by
  obtain ⟨heard, verdict, more, walked, added, told, _⟩ := walk_tells limits
    (Frame.messages limits bytes).1 (Listener.attach (setup limits none) 0 name) 0
  have same : (hearing (setup limits (some count)) 0 name (Frame.messages limits bytes).1).1.calls =
      heard.calls :=
    (walk_limit limits (some count) _ rfl rfl).1.trans
      (congrArg (fun answer => answer.1.calls) walked)
  have spoken : records none 0 heard.calls =
      transcript name 1 (sound (Frame.messages limits bytes).1) := by
    rw [added]
    exact told
  have counted := records_some count 0 heard.calls
  rw [Nat.min_zero, spoken, ← same] at counted
  rw [← counted]
  cases failure : Listener.failure? (hearing (setup limits (some count)) 0 name
      (Frame.messages limits bytes).1).2 (Frame.messages limits bytes).2 none with
  | none =>
      obtain ⟨accepted, left, kept⟩ := Listener.failure?_eq_none failure
      have found : Frame.messages limits bytes = ((Frame.messages limits bytes).1, .ok left) := by
        rw [← kept]
      rw [callsOf_of_accepted found accepted]
  | some cause =>
      rw [callsOf_of_failure failure]
      refine records_append_quiet 0 _ ?_
      intro entry member
      rcases List.mem_pair.mp member with rfl | rfl
      · rfl
      · rfl

/-! ### The command -/

/-- The records of the first events of an input, and that of its initial response. -/
def shown (source : String) (limits : Limits) (count : Nat) (bytes : Bytes) :
    List StreamRecord :=
  (transcript (sourceName source) 1 (sound (Frame.messages limits bytes).1)).filter
    fun record => record.index ≤ count

/-- How the command ends when it is asked for so many events, told from the bytes that it
has read. -/
def countedAccount (format : Format) (source : String) (limits : Limits) (workspace : Workspace)
    (count : Nat) (bytes : Bytes) : Completion where
  output := (shown source limits count bytes).flatMap (·.print format)
  failure := (firstFailure? limits bytes).map (Failure.ofFlow "decode failed")
  workspace := workspace

theorem failure_outcomeOf {flow : Flow ReceivedEvent String Nat Nat} {bytes : Bytes}
    (outcome : flow.outcome = outcomeOf limits bytes) :
    failure (.ok ()) flow = (firstFailure? limits bytes).map (Failure.ofFlow "decode failed") := by
  unfold failure
  rw [outcome]
  unfold outcomeOf
  cases firstFailure? limits bytes with
  | none => rfl
  | some cause => rfl

/-- What the command makes of a stream that has had enough is told by the chunks it has
fetched. -/
theorem run_eq_countedAccount (format : Format) {source : String} {limits : Limits}
    {workspace : Workspace} {handle : Workspace.Handle} {chunkSize count : Nat}
    (opened : workspace.openSource source = .ok handle) (positive : chunkSize ≠ 0)
    (counts : count ≠ 0) {chunks read : List Bytes}
    (answer : (stream limits (some count) (sourceName source)
      (.stream (workspace.script handle chunkSize) chunkSize)).1 = .ok ())
    (sated : Sated limits count (sourceName source) chunks origin held
      (stream limits (some count) (sourceName source)
        (.stream (workspace.script handle chunkSize) chunkSize)).2)
    (got : fetched (stream limits (some count) (sourceName source)
      (.stream (workspace.script handle chunkSize) chunkSize)).2.log = read) :
    run format source chunkSize (some count) limits workspace =
      countedAccount format source limits workspace count read.flatten := by
  obtain ⟨released, _, outcome⟩ := sated
  have calls := released.log.calls
  rw [got] at calls outcome
  have told := records_callsOf limits count (sourceName source) read.flatten
  rw [← calls] at told
  unfold callsIn at told
  rw [records_calls] at told
  unfold run countedAccount shown
  rw [if_neg positive, if_neg (fun none => counts (Option.some.inj none)), opened]
  dsimp only
  rw [told, answer, failure_outcomeOf outcome]

/-- If there are as many events in front of the first failure as the command is asked for,
it shows just these. It reads no chunk behind the one that brings the last of them. All of
this chunk is decoded, so that the command fails if there is a failure in what it has read,
and not for anything behind. The count is a number of 64 bits. -/
theorem run_reads_until_counted (format : Format) {source : String} {limits : Limits}
    {workspace : Workspace} {handle : Workspace.Handle} {bytes : Bytes}
    (opened : workspace.openSource source = .ok handle)
    (readable : workspace.contents handle = .ok bytes) {chunkSize count : Nat}
    (positive : chunkSize ≠ 0) (counts : count ≠ 0) (possible : count ≤ mostDemand)
    (enough : count ≤ eventCount limits bytes) :
    let chunked := Source.stream (workspace.script handle chunkSize) chunkSize
    let completion := run format source chunkSize (some count) limits workspace
    let events := (numbered 1 (sound (Frame.messages limits bytes).1)).take count
    ∃ front last behind,
      let read := (front ++ [last]).flatten
      chunked.Supplies (front ++ last :: behind) none ∧
        (front ++ last :: behind).flatten = bytes ∧ last.length ≤ chunkSize ∧
        eventCount limits front.flatten < count ∧ count ≤ eventCount limits read ∧
        (stream limits (some count) (sourceName source) chunked).2.firstSource =
          chunked.advance (front.length + 1) ∧
        (shown source limits count read).filter StreamRecord.isEvent = events ∧
        events.length = count ∧
        completion = countedAccount format source limits workspace count read ∧
        completion.code = exitCode (firstFailure? limits read) ∧
        (firstFailure? limits bytes = none → completion.code = 0) := by
  intro chunked completion events
  obtain ⟨chunks, supplies, whole⟩ := Source.supplies_stream (workspace.script handle chunkSize)
    chunkSize (Workspace.script_brings readable chunkSize)
  have sufficient : count ≤ eventCount limits chunks.flatten := whole ▸ enough
  obtain ⟨answer, sated⟩ :=
    stream_sates limits (sourceName source) supplies counts possible sufficient
  obtain ⟨front, last, behind, got, split, here, short, sates⟩ := sated.last
  have told : completion =
      countedAccount format source limits workspace count (front ++ [last]).flatten :=
    run_eq_countedAccount format opened positive counts answer sated got
  have rejoined : (front ++ [last]).flatten ++ behind.flatten = bytes := by
    rw [← whole, split, List.append_cons front last behind]
    exact List.flatten_append.symm
  have some_left : 1 ≤ chunkSize := Nat.pos_of_ne_zero positive
  obtain ⟨_, within⟩ := supplies.blocks last (by rw [split]; simp)
  have code : completion.code = exitCode (firstFailure? limits (front ++ [last]).flatten) := by
    rw [told]
    exact code_account format source limits workspace _
  refine ⟨front, last, behind, split ▸ supplies, split ▸ whole, ?_, short, sates, here, ?_, ?_,
    told, code, ?_⟩
  · rwa [Nat.max_eq_left some_left] at within
  · exact (shown_events _ limits _ behind.flatten sates).trans (by rw [rejoined])
  · rw [List.length_take, length_numbered]
    exact Nat.min_eq_left enough
  · intro faultless
    rw [code]
    cases fails : firstFailure? limits (front ++ [last]).flatten with
    | none => rfl
    | some cause =>
        have failsToo := firstFailure?_append fails behind.flatten
        rw [rejoined, faultless] at failsToo
        cases failsToo

/-- Two events, of which one is wanted: the other is not shown. -/
theorem run_reads_until_counted_once :
    let workspace : Workspace := { standardInput := Flow.tickFrame ++ Flow.tickFrame }
    1 ≤ eventCount {} workspace.standardInput ∧
      (run .raw "-" 64 (some 1) {} workspace).output = [7] ∧
      (run .raw "-" 64 (some 1) {} workspace).code = 0 := by
  intro workspace
  have found : Frame.messages {} workspace.standardInput = ([Flow.tick, Flow.tick], .ok []) :=
    Flow.messages_twoTicks
  have enough : 1 ≤ eventCount {} workspace.standardInput := by
    unfold eventCount
    rw [found]
    decide
  obtain ⟨front, last, behind, _, whole, _, _, sates, _, _, _, told, _, clean⟩ :=
    @run_reads_until_counted .raw "-" {} workspace _ workspace.standardInput rfl rfl 64 1
      (by decide) (by decide) (by decide) enough
  refine ⟨enough, ?_, clean ?_⟩
  · have rejoined : (front ++ [last]).flatten ++ behind.flatten = workspace.standardInput := by
      rw [← whole, List.append_cons front last behind]
      exact List.flatten_append.symm
    -- What has been read are one or both of the events.
    have parts := sound_prefix {} (front ++ [last]).flatten behind.flatten
    rw [rejoined, found] at parts
    change _ <+: [Flow.tick, Flow.tick] at parts
    rw [told]
    unfold countedAccount shown
    unfold eventCount at sates
    generalize sound (Frame.messages {} (front ++ [last]).flatten).1 = heard at parts sates ⊢
    match heard with
    | [] => cases sates
    | [first] =>
        obtain ⟨rfl, _⟩ := List.cons_prefix_cons.mp parts
        rfl
    | first :: second :: rest =>
        obtain ⟨rfl, later⟩ := List.cons_prefix_cons.mp parts
        obtain ⟨rfl, none⟩ := List.cons_prefix_cons.mp later
        obtain rfl := List.prefix_nil.mp none
        rfl
  · unfold firstFailure?
    rw [found]
    rfl

/-- An event is all that is wanted, and it is shown. But the chunk that has brought it also
brings bytes that start no message, and they are the failure of the command. -/
theorem damaged_chunk_fails :
    let workspace : Workspace := { standardInput := damagedTick }
    1 ≤ eventCount {} damagedTick ∧
      (run .raw "-" Source.defaultBlockSize (some 1) {} workspace).output = [7] ∧
      (run .raw "-" Source.defaultBlockSize (some 1) {} workspace).code = 60 := by
  intro workspace
  let chunked := Source.stream (workspace.script .standardInput Source.defaultBlockSize)
    Source.defaultBlockSize
  have enough : 1 ≤ eventCount {} damagedTick := by
    unfold eventCount
    rw [messages_damagedTick]
    decide
  have supplies : chunked.Supplies [damagedTick] none := by
    refine .chunk _ ?_ (.ended ?_)
    · with_unfolding_all rfl
    · with_unfolding_all rfl
  obtain ⟨answer, sated⟩ := stream_sates {} (sourceName "-") supplies (by decide) (by decide)
    (show 1 ≤ eventCount {} [damagedTick].flatten by rw [List.flatten_singleton]; exact enough)
  obtain ⟨front, last, behind, got, split, _⟩ := sated.last
  rcases List.append_eq_singleton_iff.mp split.symm with ⟨rfl, whole⟩ | ⟨_, none⟩
  · obtain ⟨rfl, _⟩ := List.cons.inj whole
    have told := @run_eq_countedAccount _ _ .raw "-" {} workspace .standardInput
      Source.defaultBlockSize 1 rfl (by decide) (by decide) _ _ answer sated got
    refine ⟨enough, ?_, ?_⟩
    · rw [told]
      unfold countedAccount shown
      dsimp only [List.nil_append]
      rw [List.flatten_singleton, messages_damagedTick]
      rfl
    · rw [told]
      unfold countedAccount firstFailure?
      dsimp only [List.nil_append]
      rw [List.flatten_singleton, messages_damagedTick]
      rfl
  · cases none

end Decode

end FramedEvents
