/-
The messages of a byte string.

A byte string holds a list of complete messages, and behind them either the bytes
of an incomplete one or something that is not a message. Decoding it comes to
walking this list: every message goes to the consumer, until the consumer fails,
and only when all have been accepted does it matter how the list ends.
-/

import FramedEvents.Proofs.Wire.Chunking

namespace FramedEvents

namespace Frame

/-- The complete messages in front of a byte string, and what stops the list: a
failure, or the bytes of an incomplete message. -/
def messages (limits : Limits) (buffer : Bytes) : List Message × Except FrameError Bytes :=
  match _decoded : decode limits buffer with
  | (.error error, _) => ([], .error error)
  | (.ok none, rest) => ([], .ok rest)
  | (.ok (some message), rest) =>
      let behind := messages limits rest
      (message :: behind.1, behind.2)
termination_by buffer.length
decreasing_by exact decode_shrinks _decoded

variable {limits : Limits} {buffer rest : Bytes}

theorem messages_failed {error : FrameError} (decoded : decode limits buffer = (.error error, rest)) :
    messages limits buffer = ([], .error error) := by
  rw [messages]
  split
  · rename_i found left same
    rw [decoded] at same
    cases same
    rfl
  · rename_i left other
    rw [decoded] at other
    cases other
  · rename_i message left other
    rw [decoded] at other
    cases other

theorem messages_waiting (decoded : decode limits buffer = (.ok none, rest)) :
    messages limits buffer = ([], .ok rest) := by
  rw [messages]
  split
  · rename_i error left other
    rw [decoded] at other
    cases other
  · rename_i left same
    rw [decoded] at same
    cases same
    rfl
  · rename_i message left other
    rw [decoded] at other
    cases other

theorem messages_nil : messages limits [] = ([], .ok []) := messages_waiting decode_nil

theorem messages_message {message : Message}
    (decoded : decode limits buffer = (.ok (some message), rest)) :
    messages limits buffer = (message :: (messages limits rest).1, (messages limits rest).2) := by
  rw [messages]
  split
  · rename_i error left other
    rw [decoded] at other
    cases other
  · rename_i left other
    rw [decoded] at other
    cases other
  · rename_i found left same
    rw [decoded] at same
    cases same
    rfl

theorem messages_append (front back : Bytes) :
    messages limits (front ++ back) =
      match messages limits front with
      | (earlier, .ok pending) =>
          (earlier ++ (messages limits (pending ++ back)).1, (messages limits (pending ++ back)).2)
      | failed => failed := by
  fun_induction messages limits front with
  | case1 front error rest decoded =>
      exact messages_failed (decode_append decoded (by simp) back)
  | case2 front rest decoded =>
      rw [decode_waiting decoded]
      rfl
  | case3 front message rest decoded behind ih =>
      have same : behind = messages limits rest := rfl
      rw [messages_message (decode_append decoded (by simp) back), ih, same]
      generalize messages limits rest = found
      obtain ⟨earlier, stop⟩ := found
      cases stop with
      | error error => rfl
      | ok pending => rfl

theorem decode_pending {pending : Bytes} (left : (messages limits buffer).2 = .ok pending) :
    decode limits pending = (.ok none, pending) := by
  fun_induction messages limits buffer with
  | case1 buffer error rest decoded => cases left
  | case2 buffer rest decoded =>
      cases left
      have same := decode_waiting decoded
      subst same
      exact decoded
  | case3 buffer message rest decoded behind ih => exact ih left

end Frame

namespace Fed

variable {σ ε : Type} {limits : Limits} {lift : FrameError → ε}
  {consume : σ → Message → σ × Except ε Unit}

/-- Hands a list of messages to a consumer, until it fails. -/
def walk (consume : σ → Message → σ × Except ε Unit) : σ → List Message → σ × Except ε Unit
  | state, [] => (state, .ok ())
  | state, message :: later =>
      match consume state message with
      | (after, .ok ()) => walk consume after later
      | (after, .error error) => (after, .error error)

/-- How a walk through messages ends that came to this verdict, given what stops
their list. -/
def stopped (lift : FrameError → ε) (rest : Except FrameError Bytes) : Except ε Unit → Except ε Unit
  | .ok () => (rest.mapError lift).map fun _ => ()
  | refused => refused

theorem walk_append (state : σ) (earlier later : List Message) :
    walk consume state (earlier ++ later) =
      match walk consume state earlier with
      | (after, .ok ()) => walk consume after later
      | failed => failed := by
  induction earlier generalizing state with
  | nil => rfl
  | cons message earlier ih =>
      rw [List.cons_append, walk, walk]
      generalize consume state message = answer
      obtain ⟨after, verdict⟩ := answer
      cases verdict with
      | error error => rfl
      | ok accepted => exact ih after

theorem decodeAll_eq_walk (state : σ) (buffer : Bytes) :
    (decodeAll limits lift consume state buffer).state =
        (walk consume state (Frame.messages limits buffer).1).1 ∧
      (decodeAll limits lift consume state buffer).outcome =
        stopped lift (Frame.messages limits buffer).2
          (walk consume state (Frame.messages limits buffer).1).2 := by
  fun_induction decodeAll limits lift consume state buffer with
  | case1 state buffer error rest decoded =>
      rw [Frame.messages_failed decoded]
      exact ⟨rfl, rfl⟩
  | case2 state buffer rest decoded =>
      rw [Frame.messages_waiting decoded]
      exact ⟨rfl, rfl⟩
  | case3 state buffer message rest decoded after error refused =>
      rw [Frame.messages_message decoded, walk, refused]
      exact ⟨rfl, rfl⟩
  | case4 state buffer message rest decoded after accepted ih =>
      rw [Frame.messages_message decoded, walk, accepted]
      exact ih

theorem pending_of_ok {state after : σ} {buffer pending : Bytes}
    (fed : decodeAll limits lift consume state buffer = ⟨after, .ok (), pending⟩) :
    (Frame.messages limits buffer).2 = .ok pending := by
  fun_induction decodeAll limits lift consume state buffer with
  | case1 state buffer error rest decoded => cases fed
  | case2 state buffer rest decoded =>
      cases fed
      rw [Frame.messages_waiting decoded]
  | case3 state buffer message rest decoded next error refused => cases fed
  | case4 state buffer message rest decoded next accepted ih =>
      rw [Frame.messages_message decoded]
      exact ih fed

theorem decodeAll_of_messages {state after : σ} {buffer pending : Bytes} {messages : List Message}
    (found : Frame.messages limits buffer = (messages, .ok pending))
    (accepted : walk consume state messages = (after, .ok ())) :
    decodeAll limits lift consume state buffer = ⟨after, .ok (), pending⟩ := by
  have walked := @decodeAll_eq_walk σ ε limits lift consume state buffer
  generalize fed : decodeAll limits lift consume state buffer = whole at walked ⊢
  obtain ⟨last, outcome, left⟩ := whole
  rw [found, accepted] at walked
  obtain ⟨rfl, rfl⟩ : last = after ∧ outcome = .ok () := walked
  have kept := pending_of_ok fed
  rw [found] at kept
  rw [Except.ok.inj kept]

end Fed

end FramedEvents
