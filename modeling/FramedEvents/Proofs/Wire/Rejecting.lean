/-
What a decoder has given away, and what it still has, when it fails.

A consumer that rejects a message has been given it and those in front of it. The decoder
keeps the bytes behind it, and goes on there as a new decoder would. Whoever has the messages
of a slice listed gets the list only if no frame fails: the messages that the same slice has
completed in front of the failure have left the buffer by then, and are in no list.
-/

import FramedEvents.Proofs.Wire.FrontEnds
import Mathlib.Data.List.Infix

namespace FramedEvents

/-! ### The bytes of some messages -/

namespace Frame

variable {limits : Limits} {buffer : Bytes} {stop : Except FrameError Bytes}

/-- These bytes are the frames of the messages, one behind the other. -/
inductive Framed (limits : Limits) : List Message → Bytes → Prop where
  | nil : Framed limits [] []
  | cons {message : Message} {later : List Message} {frame bytes : Bytes}
      (encoded : encode limits message = .ok frame) (framed : Framed limits later bytes) :
      Framed limits (message :: later) (frame ++ bytes)

theorem Framed.concat {earlier : List Message} {message : Message} {front frame : Bytes}
    (framed : Framed limits earlier front) (encoded : encode limits message = .ok frame) :
    Framed limits (earlier ++ [message]) (front ++ frame) := by
  induction framed with
  | nil =>
      have alone := Framed.cons encoded .nil
      rwa [List.append_nil] at alone
  | cons first framed ih =>
      rw [List.append_assoc]
      exact .cons first ih

theorem Framed.eq {all : List Message} {first second : Bytes} (framed : Framed limits all first)
    (framedToo : Framed limits all second) : first = second := by
  induction framed generalizing second with
  | nil =>
      cases framedToo
      rfl
  | cons encoded framed ih =>
      cases framedToo with
      | cons encodedToo framedToo =>
          cases encoded.symm.trans encodedToo
          rw [ih framedToo]

theorem decode_of_encode {message : Message} {frame : Bytes}
    (encoded : encode limits message = .ok frame) (behind : Bytes) :
    decode limits (frame ++ behind) = (.ok (some message), behind) :=
  decode_eq_iff.mpr (.of_encode encoded behind)

theorem messages_cons {message : Message} {later : List Message}
    (found : messages limits buffer = (message :: later, stop)) :
    ∃ rest, decode limits buffer = (.ok (some message), rest) ∧
      messages limits rest = (later, stop) := by
  cases decoded : decode limits buffer with
  | mk answer rest =>
      match answer with
      | .error error =>
          rw [messages_failed decoded] at found
          cases found
      | .ok none =>
          rw [messages_waiting decoded] at found
          cases found
      | .ok (some first) =>
          rw [messages_message decoded] at found
          cases found
          exact ⟨rest, rfl, rfl⟩

theorem messages_cut {earlier later : List Message}
    (found : messages limits buffer = (earlier ++ later, stop)) :
    ∃ front behind, Framed limits earlier front ∧ buffer = front ++ behind ∧
      messages limits behind = (later, stop) := by
  induction earlier generalizing buffer with
  | nil => exact ⟨[], buffer, .nil, rfl, found⟩
  | cons message earlier ih =>
      obtain ⟨rest, decoded, others⟩ := messages_cons found
      obtain ⟨front, behind, framed, rfl, left⟩ := ih others
      obtain ⟨frame, encoded, rfl⟩ := (decode_eq_iff.mp decoded).encode_of_message
      exact ⟨frame ++ front, behind, .cons encoded framed, (List.append_assoc _ _ _).symm, left⟩

theorem Framed.messages {earlier : List Message} {front : Bytes}
    (framed : Framed limits earlier front) (behind : Bytes) :
    messages limits (front ++ behind) =
      (earlier ++ (Frame.messages limits behind).1, (Frame.messages limits behind).2) := by
  induction framed with
  | nil => rfl
  | cons encoded framed ih =>
      rw [List.append_assoc, messages_message (decode_of_encode encoded _), ih]
      rfl

end Frame

/-! ### A consumer that rejects a message -/

namespace Fed

variable {σ ε : Type} {limits : Limits} {lift : FrameError → ε}
  {consume : σ → Message → σ × Except ε Unit}

def noting (consume : σ → Message → σ × Except ε Unit) (state : σ × List Message)
    (message : Message) : (σ × List Message) × Except ε Unit :=
  let (after, verdict) := consume state.1 message
  ((after, state.2 ++ [message]), verdict)

theorem walk_noting (state : σ) (seen messages : List Message) {after : σ}
    (accepted : walk consume state messages = (after, .ok ())) :
    walk (noting consume) (state, seen) messages = ((after, seen ++ messages), .ok ()) := by
  induction messages generalizing state seen with
  | nil =>
      cases accepted
      rw [walk, List.append_nil]
  | cons message later ih =>
      rw [walk] at accepted
      rw [walk, noting]
      dsimp only
      generalize consume state message = answer at accepted ⊢
      obtain ⟨next, verdict⟩ := answer
      cases verdict with
      | error error => cases accepted
      | ok =>
          have rest := ih next (seen ++ [message]) accepted
          rw [List.append_assoc] at rest
          exact rest

theorem decodeAll_refused {earlier : List Message} {message : Message} {front frame : Bytes}
    {state before after : σ} {error : ε} (framed : Frame.Framed limits earlier front)
    (encoded : Frame.encode limits message = .ok frame)
    (accepted : walk consume state earlier = (before, .ok ()))
    (refused : consume before message = (after, .error error)) (behind : Bytes) :
    decodeAll limits lift consume state (front ++ (frame ++ behind)) =
      ⟨after, .error error, behind⟩ := by
  induction framed generalizing state with
  | nil =>
      cases accepted
      rw [List.nil_append, decodeAll_message (Frame.decode_of_encode encoded behind), refused]
  | cons first framed ih =>
      rw [List.append_assoc, decodeAll_message (Frame.decode_of_encode first _)]
      rw [walk] at accepted
      generalize consume state _ = answer at accepted ⊢
      obtain ⟨next, verdict⟩ := answer
      cases verdict with
      | error error => cases accepted
      | ok => exact ih accepted

end Fed

namespace Decoder

variable {σ ε : Type}

/-- When the consumer rejects a message, it has been given exactly the messages up to this
one, and the decoder keeps exactly the bytes behind it. Whatever is fed later is taken as by
a new decoder that is given these bytes first, so the messages go on behind the rejected
one. -/
theorem feed_refused (decoder : Decoder) (bytes : Bytes) (lift : FrameError → ε)
    (consume : σ → Message → σ × Except ε Unit) {state before after : σ}
    {earlier later : List Message} {message : Message} {stop : Except FrameError Bytes} {error : ε}
    (found : Frame.messages decoder.limits (decoder.pending ++ bytes) =
      (earlier ++ message :: later, stop))
    (accepted : Fed.walk consume state earlier = (before, .ok ()))
    (refused : consume before message = (after, .error error)) :
    let (fed, next) := decoder.feed bytes lift consume state
    let (noted, noter) := decoder.feed bytes lift (Fed.noting consume) (state, [])
    fed.outcome = .error error ∧ fed.state = after ∧
      noted = ⟨(after, earlier ++ [message]), .error error, fed.pending⟩ ∧ noter = next ∧
      (∃ front, Frame.Framed decoder.limits (earlier ++ [message]) front ∧
        decoder.pending ++ bytes = front ++ next.pending) ∧
      (∀ {τ δ : Type} (more : Bytes) (liftToo : FrameError → δ)
          (consumeToo : τ → Message → τ × Except δ Unit) (stateToo : τ),
        next.feed more liftToo consumeToo stateToo =
          feed { limits := decoder.limits } (next.pending ++ more) liftToo consumeToo stateToo) ∧
      ∀ more,
        let again := Frame.messages decoder.limits (next.pending ++ more)
        Frame.messages decoder.limits (decoder.pending ++ bytes ++ more) =
          (earlier ++ message :: again.1, again.2) := by
  obtain ⟨front, rest, framed, parts, others⟩ := Frame.messages_cut found
  obtain ⟨left, decoded, _⟩ := Frame.messages_cons others
  obtain ⟨frame, encoded, rfl⟩ := (Frame.decode_eq_iff.mp decoded).encode_of_message
  have whole := framed.concat encoded
  have plain : Fed.decodeAll decoder.limits lift consume state (decoder.pending ++ bytes) =
      ⟨after, .error error, left⟩ := by
    rw [parts]
    exact Fed.decodeAll_refused framed encoded accepted refused left
  have noted : Fed.decodeAll decoder.limits lift (Fed.noting consume) (state, [])
      (decoder.pending ++ bytes) = ⟨(after, earlier ++ [message]), .error error, left⟩ := by
    rw [parts]
    refine Fed.decodeAll_refused framed encoded (Fed.walk_noting state [] earlier accepted) ?_ left
    unfold Fed.noting
    dsimp only
    rw [refused]
    rfl
  unfold feed
  rw [plain, noted]
  refine ⟨rfl, rfl, rfl, rfl, ⟨front ++ frame, whole, ?_⟩, ?_, ?_⟩
  · rw [parts, List.append_assoc]
  · intro τ δ more liftToo consumeToo stateToo
    rfl
  · intro more
    dsimp only
    rw [parts, List.append_assoc, List.append_assoc, ← List.append_assoc, whole.messages,
      List.append_assoc]
    rfl

/-- Of three empty messages, with the start of another behind them, the second is rejected.
The third is found when the next slice comes. -/
theorem feed_refused_second :
    let empty : Message := ⟨[], []⟩
    let frame : Bytes := [0, 0, 0, 16, 0, 0, 0, 0, 5, 194, 72, 235, 125, 152, 200, 255]
    let bytes := frame ++ (frame ++ (frame ++ [0, 0]))
    let refusing := keeping fun seen =>
      if seen.length < 2 then .ok () else .error FrameError.connectionClosed
    let (fed, next) := feed {} bytes id refusing []
    fed.state = [empty, empty] ∧ fed.outcome = .error .connectionClosed ∧
      next.pending = frame ++ [0, 0] ∧
      Frame.messages {} (bytes ++ frame.drop 2) = ([empty, empty, empty, empty], .ok []) := by
  intro empty frame bytes refusing
  have encoded : Frame.encode {} empty = .ok frame := by cbv
  have three : Frame.Framed {} [empty, empty, empty] (frame ++ (frame ++ (frame ++ []))) :=
    .cons encoded (.cons encoded (.cons encoded .nil))
  have four : Frame.Framed {} [empty, empty, empty, empty]
      (frame ++ (frame ++ (frame ++ (frame ++ [])))) := .cons encoded three
  have rest : Frame.messages {} [0, 0] = ([], .ok [0, 0]) :=
    Frame.messages_waiting (Frame.decode_eq_iff.mpr (.short (by decide)))
  have found : Frame.messages {} bytes = ([empty] ++ empty :: [empty], .ok [0, 0]) := by
    have split := three.messages [0, 0]
    rw [rest] at split
    exact split
  have whole : Frame.messages {} (bytes ++ frame.drop 2) =
      ([empty, empty, empty, empty], .ok []) := by
    have split := four.messages []
    rw [Frame.messages_nil] at split
    exact split
  have accepted : Fed.walk refusing [] [empty] = ([empty], .ok ()) := rfl
  have refused : refusing [empty] empty = ([empty, empty], .error .connectionClosed) := rfl
  obtain ⟨outcome, state, _, _, ⟨front, framed, parts⟩, _, _⟩ :=
    feed_refused {} bytes id refusing found accepted refused
  have pair : front = frame ++ (frame ++ []) :=
    framed.eq (.cons encoded (.cons encoded .nil))
  subst pair
  have tail : frame ++ (frame ++ []) ++ (frame ++ [0, 0]) = frame ++ (frame ++ []) ++ _ := parts
  exact ⟨state, outcome, (List.append_cancel_left tail).symm, whole⟩

/-! ### Listing the messages of every slice -/

/-- What listing slice after slice comes to: the lists, how it ended, and the decoder then. -/
structure Listed where
  lists : List (List Message)
  outcome : Except FrameError Unit
  decoder : Decoder

def decodeEach (decoder : Decoder) : List Bytes → Listed
  | [] => ⟨[], .ok (), decoder⟩
  | bytes :: later =>
      match decoder.decode bytes with
      | (.error error, after) => ⟨[], .error error, after⟩
      | (.ok list, after) =>
          let behind := after.decodeEach later
          { behind with lists := list :: behind.lists }

theorem decodeAll_keeping (limits : Limits) (seen : List Message) (buffer : Bytes) :
    let found := Frame.messages limits buffer
    let fed := Fed.decodeAll limits id (keeping fun _ => (.ok () : Except FrameError Unit)) seen
      buffer
    fed.state = seen ++ found.1 ∧ fed.outcome = found.2.map (fun _ => ()) ∧
      (∀ left, found.2 = .ok left → fed.pending = left) ∧
      ∃ front behind, Frame.Framed limits found.1 front ∧ buffer = front ++ behind ∧
        fed.pending <:+ behind := by
  intro found fed
  subst found fed
  fun_induction Fed.decodeAll limits id (keeping fun _ => (.ok () : Except FrameError Unit)) seen
      buffer with
  | case1 seen buffer error rest decoded =>
      rw [Frame.messages_failed decoded]
      refine ⟨(List.append_nil seen).symm, rfl, ?_, [], buffer, .nil, rfl, ?_⟩
      · intro left impossible
        cases impossible
      rcases (Frame.decode_eq_iff.mp decoded).of_error with ⟨_, rfl⟩ | ⟨frame, _, rfl⟩
      · exact List.suffix_rfl
      · exact List.suffix_append frame rest
  | case2 seen buffer rest decoded =>
      rw [Frame.messages_waiting decoded]
      refine ⟨(List.append_nil seen).symm, rfl, ?_, [], buffer, .nil, rfl, ?_⟩
      · intro left same
        cases same
        rfl
      · rw [Frame.decode_waiting decoded]
  | case3 seen buffer message rest decoded after error refused => cases refused
  | case4 seen buffer message rest decoded after accepted ih =>
      cases accepted
      obtain ⟨frame, encoded, rfl⟩ := (Frame.decode_eq_iff.mp decoded).encode_of_message
      obtain ⟨state, outcome, pending, front, behind, framed, rfl, within⟩ := ih
      rw [Frame.messages_message decoded]
      refine ⟨?_, outcome, pending, frame ++ front, behind, .cons encoded framed,
        (List.append_assoc _ _ _).symm, within⟩
      rw [state, List.append_assoc]
      rfl

theorem decode_eq_messages (decoder : Decoder) (bytes : Bytes) :
    let found := Frame.messages decoder.limits (decoder.pending ++ bytes)
    (decoder.decode bytes).1 = found.2.map (fun _ => found.1) ∧
      (decoder.decode bytes).2.limits = decoder.limits ∧
      (∀ left, found.2 = .ok left → (decoder.decode bytes).2.pending = left) ∧
      ∃ front behind, Frame.Framed decoder.limits found.1 front ∧
        decoder.pending ++ bytes = front ++ behind ∧
        (decoder.decode bytes).2.pending <:+ behind := by
  obtain ⟨state, outcome, pending, kept⟩ :=
    decodeAll_keeping decoder.limits [] (decoder.pending ++ bytes)
  refine ⟨?_, rfl, pending, kept⟩
  change Except.map _ (Fed.decodeAll decoder.limits id (keeping fun _ => .ok ()) []
    (decoder.pending ++ bytes)).outcome = _
  rw [outcome]
  cases (Frame.messages decoder.limits (decoder.pending ++ bytes)).2 with
  | error error => rfl
  | ok left => exact congrArg Except.ok state

/-- The listing of some slices by a decoder. If no frame fails, the lists hold all messages of
the bytes. If one does, they lack those that the slice with it completes. -/
inductive Lists (decoder : Decoder) (slices : List Bytes) (listed : Listed) : Prop where
  | whole (left : Bytes) (outcome : listed.outcome = .ok ())
      (found : Frame.messages decoder.limits (decoder.pending ++ slices.flatten) =
        (listed.lists.flatten, .ok left))
      (pending : listed.decoder.pending = left)
  | failed (error : FrameError) (earlier later : List Bytes) (slice kept : Bytes)
      (lost : List Message) (outcome : listed.outcome = .error error)
      (cut : slices = earlier ++ slice :: later) (calls : listed.lists.length = earlier.length)
      (found : Frame.messages decoder.limits (decoder.pending ++ earlier.flatten) =
        (listed.lists.flatten, .ok kept))
      (missed : Frame.messages decoder.limits (kept ++ slice) = (lost, .error error))
      (gone : ∃ front behind, Frame.Framed decoder.limits lost front ∧
        kept ++ slice = front ++ behind ∧ listed.decoder.pending <:+ behind)

/-- All frames up to a faulty one are listed, unless they are completed by the slice that
completes it. -/
theorem decodeEach_cases (decoder : Decoder) (slices : List Bytes)
    (waits : Frame.decode decoder.limits decoder.pending = (.ok none, decoder.pending)) :
    Lists decoder slices (decoder.decodeEach slices) := by
  induction slices generalizing decoder with
  | nil =>
      refine .whole decoder.pending rfl ?_ rfl
      rw [List.flatten_nil, List.append_nil, Frame.messages_waiting waits]
      rfl
  | cons bytes later ih =>
      obtain ⟨answer, limits, pending, kept⟩ := decode_eq_messages decoder bytes
      rw [decodeEach]
      generalize decoder.decode bytes = decoded at answer limits pending kept ⊢
      obtain ⟨answered, after⟩ := decoded
      cases found : Frame.messages decoder.limits (decoder.pending ++ bytes) with
      | mk list stop =>
          rw [found] at answer pending kept
          cases stop with
          | error error =>
              cases answer
              refine .failed error [] later bytes decoder.pending list rfl rfl rfl ?_ found kept
              rw [List.flatten_nil, List.append_nil, Frame.messages_waiting waits]
              rfl
          | ok left =>
              cases answer
              obtain ⟨limitsToo, pendingToo⟩ := after
              obtain rfl : limitsToo = decoder.limits := limits
              obtain rfl : pendingToo = left := pending left rfl
              have stop : (Frame.messages decoder.limits (decoder.pending ++ bytes)).2 =
                  .ok pendingToo := congrArg Prod.snd found
              let next : Decoder := { limits := decoder.limits, pending := pendingToo }
              cases ih next (Frame.decode_pending stop) with
              | whole last outcome others ended =>
                  refine .whole last outcome ?_ ended
                  rw [List.flatten_cons, ← List.append_assoc, Frame.messages_append, found]
                  dsimp only at others ⊢
                  rw [others]
                  rfl
              | failed error earlier rest slice remains lost outcome cut calls others missed gone =>
                  refine .failed error (bytes :: earlier) rest slice remains lost outcome ?_ ?_ ?_
                    missed gone
                  · rw [cut]
                    rfl
                  · exact congrArg (· + 1) calls
                  · rw [List.flatten_cons, ← List.append_assoc, Frame.messages_append, found]
                    dsimp only at others ⊢
                    rw [others]
                    rfl

/-- Without a fault the lists hold all messages of the bytes. With one, they hold the
messages that were complete before the slice with the fault. Those that this slice has
completed in front of the fault are in no list, and they are not pending any more. So all
messages in front of the fault are listed exactly if this slice completes none. -/
theorem decodeEach_lists (limits : Limits) (slices : List Bytes) :
    let listed := decodeEach { limits := limits } slices
    let found := Frame.messages limits slices.flatten
    listed.outcome = found.2.map (fun _ => ()) ∧
      (∀ left, found.2 = .ok left →
        listed.lists.flatten = found.1 ∧ listed.decoder.pending = left) ∧
      ∀ error, found.2 = .error error →
        ∃ earlier slice later kept lost, slices = earlier ++ slice :: later ∧
          listed.lists.length = earlier.length ∧
          Frame.messages limits earlier.flatten = (listed.lists.flatten, .ok kept) ∧
          Frame.messages limits (kept ++ slice) = (lost, .error error) ∧
          found.1 = listed.lists.flatten ++ lost ∧
          (listed.lists.flatten = found.1 ↔ lost = []) ∧
          ∃ front behind, Frame.Framed limits lost front ∧ kept ++ slice = front ++ behind ∧
            listed.decoder.pending <:+ behind := by
  intro listed found
  have waits : Frame.decode limits [] = (.ok none, []) := Frame.decode_nil
  cases decodeEach_cases { limits := limits } slices waits with
  | whole left outcome others pending =>
      have same : found = (listed.lists.flatten, .ok left) := others
      rw [same]
      refine ⟨outcome, ?_, ?_⟩
      · intro other stop
        cases stop
        exact ⟨rfl, pending⟩
      · intro error impossible
        cases impossible
  | failed error earlier later slice kept lost outcome cut calls others missed gone =>
      have before : Frame.messages limits earlier.flatten =
          (listed.lists.flatten, .ok kept) := others
      have upTo : Frame.messages limits (earlier.flatten ++ slice) =
          (listed.lists.flatten ++ lost, .error error) := by
        rw [Frame.messages_append, before]
        dsimp only
        rw [missed]
      have same : found = (listed.lists.flatten ++ lost, .error error) := by
        change Frame.messages limits slices.flatten = _
        rw [cut, List.flatten_append, List.flatten_cons, ← List.append_assoc,
          Frame.messages_append, upTo]
      rw [same]
      refine ⟨outcome, ?_, ?_⟩
      · intro left impossible
        cases impossible
      · intro other stop
        cases stop
        exact ⟨earlier, slice, later, kept, lost, cut, calls, before, missed, rfl,
          List.self_eq_append_right, gone⟩

/-- An empty message is listed if what follows it comes in a slice of its own, and lost if it
comes in the same slice. -/
theorem decodeEach_drops_message :
    let empty : Message := ⟨[], []⟩
    let frame : Bytes := [0, 0, 0, 16, 0, 0, 0, 0, 5, 194, 72, 235, 125, 152, 200, 255]
    let damaged : Bytes := List.replicate 12 255
    [frame, damaged].flatten = [frame ++ damaged].flatten ∧
      (Frame.messages {} (frame ++ damaged)).1 = [empty] ∧
      (decodeEach {} [frame, damaged]).lists.flatten = [empty] ∧
      (decodeEach {} [frame ++ damaged]).lists.flatten = [] ∧
      (decodeEach {} [frame ++ damaged]).decoder.pending = damaged := by
  intro empty frame damaged
  have encoded : Frame.encode {} empty = .ok frame := by cbv
  have wrong : [255, 255, 255, 255] ≠ Frame.checksum (List.replicate 8 255) := by decide +kernel
  obtain ⟨error, failed⟩ : ∃ error, Frame.decode {} damaged = (.error error, damaged) :=
    ⟨_, Frame.decode_unchecked rfl rfl wrong []⟩
  have whole := Frame.decode_of_encode encoded damaged
  have alone := Frame.decode_of_encode encoded []
  have listing (slice : Bytes) : decode {} slice =
      let fed := Fed.decodeAll {} id (keeping fun _ => (.ok () : Except FrameError Unit)) [] slice
      (fed.outcome.map fun _ => fed.state, { pending := fed.pending }) := rfl
  have lost : decode {} (frame ++ damaged) = (.error error, { pending := damaged }) := by
    rw [listing, Fed.decodeAll_message whole]
    dsimp only [keeping]
    rw [Fed.decodeAll_failed failed]
    rfl
  have listed : decode {} frame = (.ok [empty], {}) := by
    rw [List.append_nil] at alone
    rw [listing, Fed.decodeAll_message alone]
    dsimp only [keeping]
    rw [Fed.decodeAll_waiting Frame.decode_nil]
    rfl
  have refused : decode {} damaged = (.error error, { pending := damaged }) := by
    rw [listing, Fed.decodeAll_failed failed]
    rfl
  refine ⟨rfl, ?_, ?_, ?_, ?_⟩
  · rw [Frame.messages_message whole, Frame.messages_failed failed]
  · rw [decodeEach, listed]
    dsimp only
    rw [decodeEach, refused]
    rfl
  · rw [decodeEach, lost]
    rfl
  · rw [decodeEach, lost]

end Decoder

end FramedEvents
