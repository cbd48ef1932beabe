/-
What a publisher delivers.

Every unit that is asked for buys one chunk, in the order of the source, and the
first unit behind the last chunk buys the final signal. It makes no difference
whether a unit is asked for from outside or inside a hook: when the outermost
request returns, everything that has been asked for has been delivered.
-/

import FramedEvents.Proofs.Chunk.Watching

namespace FramedEvents

def ChunkSignal.ending : Option TransportError → ChunkSignal
  | none => .completed
  | some error => .failed error

/-! ### Subscribers -/

def Control.units : Control → Nat
  | .request count => count
  | .cancel => 0

namespace ChunkSubscriber

variable {σ : Type}

def NeverCancels (subscriber : ChunkSubscriber σ) : Prop :=
  ∀ signal state, .cancel ∉ (subscriber.react signal state).2

def told (subscriber : ChunkSubscriber σ) : σ → List ChunkSignal → σ
  | state, [] => state
  | state, signal :: later => subscriber.told (subscriber.react signal state).1 later

/-- The units asked for while these signals are handled. -/
def asked (subscriber : ChunkSubscriber σ) : σ → List ChunkSignal → Nat
  | _, [] => 0
  | state, signal :: later =>
      ((subscriber.react signal state).2.map Control.units).sum +
        subscriber.asked (subscriber.react signal state).1 later

variable {subscriber : ChunkSubscriber σ}

theorem told_append (state : σ) (earlier later : List ChunkSignal) :
    subscriber.told state (earlier ++ later) =
      subscriber.told (subscriber.told state earlier) later := by
  induction earlier generalizing state with
  | nil => rfl
  | cons signal earlier ih => exact ih _

theorem asked_append (state : σ) (earlier later : List ChunkSignal) :
    subscriber.asked state (earlier ++ later) =
      subscriber.asked state earlier + subscriber.asked (subscriber.told state earlier) later := by
  induction earlier generalizing state with
  | nil =>
      change _ = 0 + _
      rw [Nat.zero_add]
      rfl
  | cons signal earlier ih =>
      change _ + subscriber.asked _ (earlier ++ later) = _ + subscriber.asked _ earlier + _
      rw [ih, Nat.add_assoc]
      rfl

end ChunkSubscriber

/-! ### Requests inside the hooks -/

namespace Delivery

theorem foldl_obey_over {controls : List Control} (willing : .cancel ∉ controls)
    {delivery : Delivery} (past : delivery.isOver = true) :
    controls.foldl obey delivery = delivery := by
  induction controls with
  | nil => rfl
  | cons control later ih =>
      have laterWilling : .cancel ∉ later := fun member => willing (List.mem_cons_of_mem _ member)
      cases control with
      | cancel => exact absurd List.mem_cons_self willing
      | request count =>
          have ignored : delivery.obey (.request count) = delivery := if_pos past
          rw [List.foldl_cons, ignored]
          exact ih laterWilling

theorem foldl_obey_open {controls : List Control} (willing : .cancel ∉ controls)
    {delivery : Delivery} (opened : delivery.isOver = false)
    (fits : delivery.demand.outstanding + (controls.map Control.units).sum ≤ mostDemand) :
    ∃ demand : Demand,
      demand.outstanding =
        delivery.demand.outstanding + (controls.map Control.units).sum ∧
      controls.foldl obey delivery = { delivery with demand := demand } := by
  induction controls generalizing delivery with
  | nil => exact ⟨delivery.demand, rfl, rfl⟩
  | cons control later ih =>
      have laterWilling : .cancel ∉ later := fun member => willing (List.mem_cons_of_mem _ member)
      cases control with
      | cancel => exact absurd List.mem_cons_self willing
      | request count =>
          have total : delivery.demand.outstanding + (count + (later.map Control.units).sum) ≤
              mostDemand := fits
          let booked : Delivery := { delivery with demand := delivery.demand.add count }
          have first : delivery.obey (.request count) = booked := by
            change (if delivery.isOver then delivery else booked) = booked
            rw [opened, if_neg Bool.false_ne_true]
          have grown : booked.demand.outstanding = delivery.demand.outstanding + count := by
            change (delivery.demand.add count).outstanding = _
            rw [Demand.outstanding_add]
            omega
          obtain ⟨demand, reached, obeyed⟩ := @ih laterWilling booked opened (by omega)
          refine ⟨demand, ?_, ?_⟩
          · rw [List.map_cons, List.sum_cons, Control.units]
            omega
          · rw [List.foldl_cons, first, obeyed]

end Delivery

namespace Publisher

variable {σ : Type} {subscriber : ChunkSubscriber σ}

def looping (held : Source) (demand : Demand) (state : σ) (received : List ChunkSignal) :
    Publisher σ :=
  { source := held
    delivery := { demand := demand, busy := true }
    attached := some state
    received := received }

theorem signalInside_over (willing : subscriber.NeverCancels) (given : ChunkSignal)
    {publisher : Publisher σ} {state : σ} (holder : publisher.attached = some state)
    (past : publisher.delivery.isOver = true) :
    signalInside subscriber given publisher =
      { publisher with
        attached := some (subscriber.react given state).1
        received := given :: publisher.received } := by
  unfold signalInside signal
  rw [holder]
  dsimp only
  rw [Delivery.foldl_obey_over (willing given state) past]

/-- One turn of the loop: a unit is taken, a chunk handed over, and what is asked
for meanwhile added. -/
theorem onChunk_looping (willing : subscriber.NeverCancels) (held : Source) {demand : Demand}
    (unmet : demand.isMet = false) (state : σ) (received : List ChunkSignal) (bytes : Bytes)
    (fits : demand.outstanding + subscriber.asked state [.next bytes] ≤ 1 + mostDemand) :
    ∃ next : Demand,
      next.outstanding + 1 = demand.outstanding + subscriber.asked state [.next bytes] ∧
      (reach subscriber).onChunk bytes
          (Delivery.takeTurn (reach subscriber) (looping held demand state received)) =
        looping held next (subscriber.told state [.next bytes]) (.next bytes :: received) := by
  have positive : demand.outstanding ≠ 0 := beq_eq_false_iff_ne.mp unmet
  have total : demand.outstanding +
      ((subscriber.react (.next bytes) state).2.map Control.units).sum ≤ 1 + mostDemand := fits
  have room : demand.serve.outstanding +
      ((subscriber.react (.next bytes) state).2.map Control.units).sum ≤ mostDemand := by
    rw [Demand.outstanding_serve]
    omega
  let served : Delivery := { demand := demand.serve, busy := true }
  have opened : served.isOver = false := rfl
  obtain ⟨next, reached, obeyed⟩ :=
    Delivery.foldl_obey_open (willing (.next bytes) state) opened room
  refine ⟨next, ?_, ?_⟩
  · change next.outstanding = demand.serve.outstanding + _ at reached
    change next.outstanding + 1 = demand.outstanding + (_ + 0)
    rw [Demand.outstanding_serve] at reached
    omega
  · exact congrArg (fun delivery => (⟨held, delivery, _, _⟩ : Publisher σ)) obeyed

/-- Where a loop has come to when it stops: demand has run out with the last chunk
that was handed over, or the final signal has been given. -/
inductive Stopped (subscriber : ChunkSubscriber σ) (source held : Source) (chunks : List Bytes)
    (final : Option TransportError) (demand : Nat) (state : σ) (received : List ChunkSignal)
    (result : Source × Publisher σ) : Prop where
  | paused (given behind : List Bytes) (split : chunks = given ++ behind)
      (spent : demand + subscriber.asked state (given.map .next) = given.length)
      (same : result = (source.advance given.length,
        { source := held
          attached := some (subscriber.told state (given.map .next))
          received := (given.map ChunkSignal.next).reverse ++ received }))
  | concluded (delivery : Delivery) (past : delivery.isOver = true)
      (more : chunks.length < demand + subscriber.asked state (chunks.map .next))
      (same : result = (source.advance (chunks.length + 1),
        { source := held
          delivery := delivery
          attached := some (subscriber.told state (chunks.map .next ++ [.ending final]))
          received := .ending final :: ((chunks.map ChunkSignal.next).reverse ++ received) }))

variable {source : Source} {chunks : List Bytes} {final : Option TransportError}

theorem Stopped.append {held : Source} {earlier : List Bytes} {demand next : Nat} {state : σ}
    {received : List ChunkSignal} {result : Source × Publisher σ}
    (spent : next + earlier.length = demand + subscriber.asked state (earlier.map .next))
    (stopped : Stopped subscriber (source.advance earlier.length) held chunks final next
      (subscriber.told state (earlier.map .next))
      ((earlier.map ChunkSignal.next).reverse ++ received) result) :
    Stopped subscriber source held (earlier ++ chunks) final demand state received result := by
  have total (given : List Bytes) :
      demand + subscriber.asked state ((earlier ++ given).map .next) = earlier.length +
        (next + subscriber.asked (subscriber.told state (earlier.map .next))
          (given.map .next)) := by
    rw [List.map_append, ChunkSubscriber.asked_append]
    omega
  have placed (given : List Bytes) :
      ((earlier ++ given).map ChunkSignal.next).reverse ++ received =
        (given.map ChunkSignal.next).reverse ++
          ((earlier.map ChunkSignal.next).reverse ++ received) := by
    rw [List.map_append, List.reverse_append, List.append_assoc]
  cases stopped with
  | paused given behind split exhausted same =>
      refine .paused (earlier ++ given) behind ?_ ?_ ?_
      · rw [split, List.append_assoc]
      · rw [total, List.length_append, exhausted]
      · rw [same, placed, List.length_append, Source.advance_add, List.map_append,
          ChunkSubscriber.told_append]
  | concluded delivery past more same =>
      refine .concluded delivery past ?_ ?_
      · rw [total, List.length_append]
        omega
      · rw [same, placed, List.length_append, Nat.add_assoc,
          Source.advance_add earlier.length, List.map_append, List.append_assoc,
          ChunkSubscriber.told_append state]

theorem handOver_met (held : Source) {demand : Demand} (met : demand.isMet = true) (state : σ)
    (received : List ChunkSignal) :
    Stopped subscriber source held chunks final demand.outstanding state received
      (Delivery.handOver (reach subscriber) source (looping held demand state received)) := by
  obtain rfl := Demand.eq_of_isMet met
  refine .paused [] chunks rfl rfl ?_
  exact Delivery.handOver_idle rfl

theorem conclude_looping (willing : subscriber.NeverCancels) (held : Source) (demand : Demand)
    (state : σ) (received : List ChunkSignal) (given : ChunkSignal) :
    ∃ delivery : Delivery, delivery.isOver = true ∧
      Delivery.conclude (reach subscriber) (signalInside subscriber given)
          (Delivery.takeTurn (reach subscriber) (looping held demand state received)) =
        { source := held
          delivery := delivery
          attached := some (subscriber.told state [given])
          received := given :: received } := by
  let past : Publisher σ :=
    { source := held
      delivery := { demand := demand.serve, concluded := true }
      attached := some state
      received := received }
  have holder : past.attached = some state := rfl
  refine ⟨past.delivery, rfl, ?_⟩
  change signalInside subscriber given past = _
  rw [signalInside_over willing given holder rfl]
  rfl

theorem received_signalInside (given : ChunkSignal) (publisher : Publisher σ) :
    publisher.received <:+ (signalInside subscriber given publisher).received := by
  unfold signalInside signal
  cases publisher.attached with
  | none => exact List.suffix_rfl
  | some state => exact List.suffix_cons given publisher.received

theorem received_handOver (source : Source) (publisher : Publisher σ) :
    publisher.received <:+
      (Delivery.handOver (reach subscriber) source publisher).2.received := by
  let grows : Publisher σ → Publisher σ → Prop := fun before after =>
    before.received <:+ after.received
  have same (before after : Publisher σ) (equal : after.received = before.received) :
      Relation.ReflTransGen grows before after := by
    refine .single ?_
    have kept : before.received <:+ after.received := equal ▸ List.suffix_rfl
    exact kept
  have told (given : ChunkSignal) (world : Publisher σ) :
      Relation.ReflTransGen grows world (signalInside subscriber given world) :=
    .single (received_signalInside given world)
  have steps : Relation.ReflTransGen grows publisher
      (Delivery.handOver (reach subscriber) source publisher).2 := by
    apply Delivery.handOver_changes
    · exact fun made _ world => same _ _ rfl
    · exact fun bytes world => told (.next bytes) world
    · exact fun error world => told (.failed error) world
    · exact fun world => told .completed world
    · exact fun world => same _ _ rfl
  generalize (Delivery.handOver (reach subscriber) source publisher).2 = left at steps
  induction steps with
  | refl => exact List.suffix_rfl
  | tail _ step ih => exact ih.trans step

theorem handOver_stops (willing : subscriber.NeverCancels) {source : Source} {chunks : List Bytes}
    {final : Option TransportError} (supplies : source.Supplies chunks final) (held : Source)
    {demand : Demand} (unmet : demand.isMet = false) (state : σ) (received : List ChunkSignal)
    (fits : ∀ given : List Bytes, (given.map ChunkSignal.next).reverse ++ received <:+
        (Delivery.handOver (reach subscriber) source
          (looping held demand state received)).2.received →
      demand.outstanding + subscriber.asked state (given.map .next) ≤
        given.length + mostDemand) :
    Stopped subscriber source held chunks final demand.outstanding state received
      (Delivery.handOver (reach subscriber) source (looping held demand state received)) := by
  have waits {demand : Demand} (unmet : demand.isMet = false) (state : σ)
      (received : List ChunkSignal) : ((reach subscriber).delivery
        (looping held demand state received)).isWaiting = true := by
    change (!(false || demand.isMet)) = true
    rw [unmet]
    rfl
  -- Along with what the source supplies, the demand that is outstanding at any time
  -- is what has been asked for and not been handed over.
  induction supplies generalizing demand state received with
  | ended step =>
      rw [Delivery.handOver_ended (waits unmet state received) step]
      obtain ⟨delivery, past, same⟩ :=
        conclude_looping willing held demand state received .completed
      refine .concluded delivery past ?_ (congrArg (_, ·) same)
      exact Nat.pos_of_ne_zero (beq_eq_false_iff_ne.mp unmet)
  | failed error step =>
      rw [Delivery.handOver_failed (waits unmet state received) step]
      obtain ⟨delivery, past, same⟩ :=
        conclude_looping willing held demand state received (.failed error)
      refine .concluded delivery past ?_ (congrArg (_, ·) same)
      exact Nat.pos_of_ne_zero (beq_eq_false_iff_ne.mp unmet)
  | @chunk source chunks final bytes step later ih =>
      rw [Delivery.handOver_chunk (waits unmet state received) step] at fits ⊢
      have room : demand.outstanding + subscriber.asked state [.next bytes] ≤ 1 + mostDemand := by
        apply fits [bytes]
        exact received_handOver source.next.2
          ((reach subscriber).onChunk bytes
            (Delivery.takeTurn (reach subscriber) (looping held demand state received)))
      obtain ⟨next, spent, turned⟩ := onChunk_looping willing held unmet state received bytes room
      rw [turned] at fits ⊢
      suffices stopped : Stopped subscriber source.next.2 held chunks final next.outstanding
          (subscriber.told state [.next bytes]) (.next bytes :: received) _ from
        @Stopped.append _ _ source chunks final held [bytes] _ _ _ _ _ spent stopped
      by_cases met : next.isMet = true
      · exact handOver_met held met _ _
      · apply ih (Bool.eq_false_iff.mpr met)
        intro given reached
        have bounded := fits ([bytes] ++ given) (by
          rw [List.map_append, List.reverse_append, List.append_assoc]
          exact reached)
        rw [List.map_append, ChunkSubscriber.asked_append, List.length_append] at bounded
        change demand.outstanding + (subscriber.asked state [.next bytes] +
            subscriber.asked (subscriber.told state [.next bytes]) (given.map .next)) ≤
          1 + given.length + mostDemand at bounded
        omega

/-! ### Runs -/

def opened (subscriber : ChunkSubscriber σ) (source : Source) : Publisher σ :=
  { source := source
    attached := some (subscriber.told subscriber.start [.subscribed])
    received := [.subscribed] }

def requests (subscriber : ChunkSubscriber σ) (publisher : Publisher σ) (counts : List Nat) :
    Publisher σ :=
  counts.foldl (fun publisher count => publisher.request subscriber count) publisher

/-- Demand never saturates while a request is served: whatever has been handed over
by then, the rest of what has been asked for can be counted. -/
def Fits (subscriber : ChunkSubscriber σ) (publisher : Publisher σ) (count : Nat) : Prop :=
  ∀ state (given : List Bytes), publisher.attached = some state →
    (given.map ChunkSignal.next).reverse ++ publisher.received <:+
      (publisher.request subscriber count).received →
    count + subscriber.asked state (given.map .next) ≤ given.length + mostDemand

theorem subscribe_eq_requests (willing : subscriber.NeverCancels) (source : Source) :
    subscribe subscriber { source := source } =
      (.ok (), requests subscriber (opened subscriber source)
        ((subscriber.react .subscribed subscriber.start).2.map Control.units)) := by
  have fold (controls : List Control) (uncancelled : .cancel ∉ controls) (publisher : Publisher σ) :
      controls.foldl (control subscriber) publisher =
        requests subscriber publisher (controls.map Control.units) := by
    induction controls generalizing publisher with
    | nil => rfl
    | cons control later ih =>
        have laterUncancelled : .cancel ∉ later := fun member =>
          uncancelled (List.mem_cons_of_mem _ member)
        cases control with
        | cancel => exact absurd List.mem_cons_self uncancelled
        | request count => exact ih laterUncancelled _
  exact congrArg (Except.ok (), ·) (fold _ (willing .subscribed subscriber.start) _)

theorem request_idle {count : Nat} (counts : count ≠ 0) (fits : count ≤ mostDemand)
    (source : Source) (state : σ) (received : List ChunkSignal) :
    let idle : Publisher σ := { source := source, attached := some state, received := received }
    let served := Delivery.handOver (reach subscriber) source
      (looping source ⟨count, fits⟩ state received)
    idle.request subscriber count = { served.2 with source := served.1 } := by
  intro idle served
  have booked : Demand.add {} count = ⟨count, fits⟩ := by
    change (⟨min (0 + count) mostDemand, _⟩ : Demand) = _
    congr 1
    omega
  have started : Delivery.request (reach subscriber) count source idle =
      Delivery.handOver (reach subscriber) source
        (looping source (Demand.add {} count) state received) :=
    Delivery.request_counts counts rfl
  rw [booked] at started
  exact congrArg (fun left : Source × Publisher σ => { left.2 with source := left.1 }) started

def Serves (subscriber : ChunkSubscriber σ) (source : Source) (chunks : List Bytes)
    (final : Option TransportError) (made : Nat) (publisher : Publisher σ) : Prop :=
  Stopped subscriber source publisher.source chunks final made
    (subscriber.told subscriber.start [.subscribed]) [.subscribed] (publisher.source, publisher)

theorem received_request (count : Nat) (publisher : Publisher σ) :
    publisher.received <:+ (publisher.request subscriber count).received := by
  change publisher.received <:+
    (Delivery.request (reach subscriber) count publisher.source publisher).2.received
  unfold Delivery.request
  split
  · exact List.suffix_rfl
  · dsimp only
    split
    · exact List.suffix_rfl
    · exact received_handOver publisher.source
        { publisher with delivery := { publisher.delivery.book count with busy := true } }

theorem Stopped.kept {held : Source} {demand : Nat} {state : σ} {received : List ChunkSignal}
    {result : Source × Publisher σ}
    (stopped : Stopped subscriber source held chunks final demand state received result) :
    Stopped subscriber source result.1 chunks final demand state received
      (result.1, { result.2 with source := result.1 }) := by
  cases stopped with
  | paused given behind split spent same =>
      subst same
      exact .paused given behind split spent rfl
  | concluded delivery past more same =>
      subst same
      exact .concluded delivery past more rfl

theorem Fits.count_le {publisher : Publisher σ} {count : Nat}
    (fits : Fits subscriber publisher count) {state : σ}
    (holder : publisher.attached = some state) : count ≤ mostDemand := by
  have grown : ([].map ChunkSignal.next).reverse ++ publisher.received <:+
      (publisher.request subscriber count).received := received_request count publisher
  have bounded : count + 0 ≤ 0 + mostDemand := fits state [] holder grown
  omega

theorem Serves.request (willing : subscriber.NeverCancels)
    (supplies : source.Supplies chunks final) {made : Nat} {publisher : Publisher σ}
    (serves : Serves subscriber source chunks final made publisher) {count : Nat}
    (fits : Fits subscriber publisher count) :
    Serves subscriber source chunks final (made + count)
      (publisher.request subscriber count) := by
  unfold Serves at serves ⊢
  cases serves with
  | paused given behind split spent same =>
      obtain ⟨held, delivery, attached, received⟩ := publisher
      simp only [Prod.mk.injEq, Publisher.mk.injEq] at same
      obtain ⟨rfl, -, rfl, rfl, rfl⟩ := same
      by_cases none : count = 0
      · subst none
        exact .paused given behind split spent rfl
      · have room : count ≤ mostDemand := fits.count_le rfl
        have remaining : (source.advance given.length).Supplies behind final := by
          have within : given.length ≤ chunks.length := by
            rw [split, List.length_append]
            exact Nat.le_add_right _ _
          have dropped := supplies.drop within
          rw [split, List.drop_left] at dropped
          exact dropped
        rw [request_idle none room]
        have unmet : (⟨count, room⟩ : Demand).isMet = false := beq_eq_false_iff_ne.mpr none
        have stopped := handOver_stops willing remaining (source.advance given.length) unmet
          (subscriber.told (subscriber.told subscriber.start [.subscribed]) (given.map .next))
          ((given.map ChunkSignal.next).reverse ++ [.subscribed]) (by
            intro more reached
            apply fits _ more rfl
            rw [request_idle none room]
            exact reached)
        rw [split]
        refine Stopped.append ?_ stopped.kept
        change count + given.length = _
        omega
  | concluded delivery past more same =>
      have ended : publisher.delivery.isOver = true := by
        rw [show publisher.delivery = delivery from
          congrArg (fun result => result.2.delivery) same]
        exact past
      rw [request_ignored (.inr ended)]
      exact .concluded delivery past (by omega) same

theorem Serves.requests (willing : subscriber.NeverCancels)
    (supplies : source.Supplies chunks final) {made : Nat} {publisher : Publisher σ}
    (serves : Serves subscriber source chunks final made publisher) (counts : List Nat)
    (fits : ∀ earlier count later, counts = earlier ++ count :: later →
      Fits subscriber (requests subscriber publisher earlier) count) :
    Serves subscriber source chunks final (made + counts.sum)
      (requests subscriber publisher counts) := by
  induction counts generalizing made publisher with
  | nil => exact serves
  | cons count later ih =>
      rw [List.sum_cons, ← Nat.add_assoc]
      apply ih
      · exact serves.request willing supplies (fits [] count later rfl)
      · intro earlier next rest split
        exact fits (count :: earlier) next rest (congrArg (count :: ·) split)

/-- What has been handed over by now is the front of what the source supplies, as long as
what has been asked for. -/
theorem Serves.delivered {made : Nat} {publisher : Publisher σ}
    (serves : Serves subscriber source chunks final made publisher) :
    let given := publisher.received.reverse.tail
    let asked := made + subscriber.asked (subscriber.told subscriber.start [.subscribed]) given
    publisher.received.reverse = .subscribed :: given ∧
      given = (chunks.take asked).map .next ++
        (if chunks.length < asked then [.ending final] else []) ∧
      publisher.source = source.advance (min asked (chunks.length + 1)) := by
  intro given asked
  cases serves with
  | paused served behind split spent same =>
      have received : publisher.received.reverse = .subscribed :: served.map .next := by
        have latest : publisher.received = _ := congrArg (fun left => left.2.received) same
        rw [latest, List.reverse_append, List.reverse_reverse]
        rfl
      have found : given = served.map .next := congrArg List.tail received
      have total : asked = served.length := by
        rw [← spent, ← found]
      have within : served.length ≤ chunks.length := by
        rw [split, List.length_append]
        exact Nat.le_add_right _ _
      rw [found, total]
      refine ⟨received, ?_, ?_⟩
      · rw [split, List.take_left, ← split, if_neg (Nat.not_lt.mpr within), List.append_nil]
      · rw [Nat.min_eq_left (Nat.le_succ_of_le within)]
        exact congrArg Prod.fst same
  | concluded delivery past more same =>
      have received : publisher.received.reverse =
          .subscribed :: (chunks.map .next ++ [.ending final]) := by
        have latest : publisher.received = _ := congrArg (fun left => left.2.received) same
        rw [latest, List.reverse_cons, List.reverse_append, List.reverse_reverse]
        rfl
      have found : given = chunks.map .next ++ [.ending final] := congrArg List.tail received
      -- The final signal may itself be answered by requests, which only add to what is asked.
      have beyond : chunks.length < asked := by
        change chunks.length < made + subscriber.asked _ given
        rw [found, ChunkSubscriber.asked_append]
        omega
      rw [found]
      refine ⟨received, ?_, ?_⟩
      · rw [List.take_of_length_le (Nat.le_of_lt beyond), if_pos beyond]
      · rw [Nat.min_eq_right beyond]
        exact congrArg Prod.fst same

theorem Observed.requests_eq (counts : List Nat) (publisher : Publisher σ) :
    counts.foldl (fun seen count => Observed.request subscriber count seen) ⟨publisher, false⟩ =
      ⟨requests subscriber publisher counts, false⟩ := by
  induction counts generalizing publisher with
  | nil => rfl
  | cons count later ih =>
      rw [List.foldl_cons, Observed.request_eq]
      exact ih _

/-- Whatever has been asked for has been delivered when the outermost request returns:
a chunk for every unit, in the order of the source, and the final signal for the
first unit behind the last chunk. The source has been asked once for each of them,
and nothing is handed over inside a hook that the loop has called. -/
theorem requests_deliver (willing : subscriber.NeverCancels)
    (supplies : source.Supplies chunks final) (counts : List Nat)
    (fits : ∀ earlier count later, counts = earlier ++ count :: later →
      Fits subscriber (requests subscriber (opened subscriber source) earlier) count) :
    let publisher := requests subscriber (opened subscriber source) counts
    let given := publisher.received.reverse.tail
    let asked := counts.sum +
      subscriber.asked (subscriber.told subscriber.start [.subscribed]) given
    subscribe subscriber { source := source } =
        (.ok (), requests subscriber (opened subscriber source)
          ((subscriber.react .subscribed subscriber.start).2.map Control.units)) ∧
      publisher.received.reverse = .subscribed :: given ∧
      given = (chunks.take asked).map .next ++
        (if chunks.length < asked then [.ending final] else []) ∧
      publisher.source = source.advance (min asked (chunks.length + 1)) ∧
      counts.foldl (fun seen count => Observed.request subscriber count seen)
        ⟨opened subscriber source, false⟩ = ⟨publisher, false⟩ := by
  intro publisher given asked
  -- A publisher that has just been opened has paused with nothing given and nothing asked for.
  have serves : Serves subscriber source chunks final (0 + counts.sum) publisher :=
    Serves.requests willing supplies (.paused [] chunks rfl rfl rfl) counts fits
  rw [Nat.zero_add] at serves
  obtain ⟨received, delivered, advanced⟩ := serves.delivered
  exact ⟨subscribe_eq_requests willing source, received, delivered, advanced,
    Observed.requests_eq counts _⟩

/-- A subscriber that asks for one more chunk with every chunk, and again at the end. -/
private def insistent : ChunkSubscriber Unit where
  start := ()
  react
    | .subscribed, _ => ((), [])
    | .next _, _ => ((), [.request 1])
    | _, _ => ((), [.request 5])

/-- Two chunks, for which the first request from outside is enough. -/
theorem requests_deliver_insistent :
    let publisher := requests insistent (opened insistent (.chunks [[1], [2]])) [1, 3]
    publisher.received.reverse = [.subscribed, .next [1], .next [2], .completed] ∧
      publisher.source = .chunks [] := by
  intro publisher
  have willing : insistent.NeverCancels := by
    intro signal state member
    cases signal with
    | subscribed => cases member
    | next bytes => exact Control.noConfusion (List.mem_singleton.mp member)
    | failed error => exact Control.noConfusion (List.mem_singleton.mp member)
    | completed => exact Control.noConfusion (List.mem_singleton.mp member)
  have counted (given : List Bytes) :
      insistent.asked () (given.map .next) = given.length := by
    induction given with
    | nil => rfl
    | cons bytes later ih =>
        change 1 + insistent.asked () (later.map .next) = later.length + 1
        omega
  have fits : ∀ earlier count later, [1, 3] = earlier ++ count :: later →
      Fits insistent
        (requests insistent (opened insistent (.chunks [[1], [2]])) earlier) count := by
    intro earlier count later split state given _ _
    have few : count ≤ 3 := by
      have member : count ∈ [1, 3] := by
        rw [split]
        exact List.mem_append_right _ List.mem_cons_self
      rcases List.mem_cons.mp member with one | three
      · omega
      · rw [List.mem_singleton] at three
        omega
    have most : 3 ≤ mostDemand := by decide
    rw [counted given]
    omega
  obtain ⟨_, received, given, source, _⟩ :=
    requests_deliver willing (Source.supplies_chunks [[1], [2]]) [1, 3] fits
  have beyond (more : Nat) : [([1] : Bytes), [2]].length < [1, 3].sum + more := by
    change 2 < 4 + more
    omega
  refine ⟨?_, ?_⟩
  · rw [received, given, if_pos (beyond _), List.take_of_length_le (Nat.le_of_lt (beyond _))]
    rfl
  · rw [source, Nat.min_eq_right (beyond _)]
    rfl

end Publisher

end FramedEvents
