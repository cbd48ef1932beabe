/-
Decoding with every access checked.

Taking bytes that are not there gives fewer of them, and a difference below zero is zero.
Here decoding is written once more, step by step, with accesses and differences that have
no result in these cases, and it is shown to have a result on every buffer, the same as
before: no access lies outside the bytes, and no difference is below zero, whatever the
lengths that the buffer states and whatever the limits.
-/

import FramedEvents.Proofs.Wire.FrameExactness

namespace FramedEvents

/-! ### Accesses -/

namespace Bytes

def slice? (start stop : Nat) (bytes : Bytes) : Option Bytes :=
  if start ≤ stop ∧ stop ≤ bytes.length then some ((bytes.drop start).take (stop - start)) else none

def split? (count : Nat) (bytes : Bytes) : Option (Bytes × Bytes) :=
  if count ≤ bytes.length then some (bytes.take count, bytes.drop count) else none

/-- The number that these bytes are, if they are as many as it needs. -/
def number? (width : Nat) (bytes : Bytes) : Option Nat :=
  if bytes.length = width then some bytes.toNat else none

/-- The identifier that these bytes are, if they are as many as it needs. -/
def uuid? (bytes : Bytes) : Option Uuid :=
  if wide : bytes.length = 16 then some ⟨bytes, wide⟩ else none

/-- The number in the four bytes from `start` up to `stop`, if they are four and there. -/
def word? (start stop : Nat) (bytes : Bytes) : Option Nat :=
  (bytes.slice? start stop).bind (number? 4)

variable {bytes : Bytes}

theorem slice?_of_le {start stop : Nat} (ordered : start ≤ stop) (bounded : stop ≤ bytes.length) :
    bytes.slice? start stop = some ((bytes.drop start).take (stop - start)) :=
  if_pos ⟨ordered, bounded⟩

theorem split?_of_le {count : Nat} (bounded : count ≤ bytes.length) :
    bytes.split? count = some (bytes.take count, bytes.drop count) :=
  if_pos bounded

theorem number?_of_length {width : Nat} (wide : bytes.length = width) :
    bytes.number? width = some bytes.toNat :=
  if_pos wide

theorem word?_of_le {start stop : Nat} (four : stop = start + 4) (bounded : stop ≤ bytes.length) :
    bytes.word? start stop = some (toNat ((bytes.drop start).take 4)) := by
  have wide : ((bytes.drop start).take 4).length = 4 := by
    rw [List.length_take, List.length_drop]
    omega
  rw [word?, slice?_of_le (by omega) bounded, four, Nat.add_sub_cancel_left, Option.bind_some,
    number?_of_length wide]

theorem uuid?_of_length (wide : bytes.length = 16) : bytes.uuid? = some ⟨bytes, wide⟩ :=
  dif_pos wide

end Bytes

def difference? (whole part : Nat) : Option Nat :=
  if part ≤ whole then some (whole - part) else none

theorem difference?_of_le {whole part : Nat} (bounded : part ≤ whole) :
    difference? whole part = some (whole - part) :=
  if_pos bounded

/-! ### Headers -/

namespace HeaderBlock

abbrev Checked (α : Type) := ExceptT FrameError Option α

def Checked.present {α : Type} (result : Except FrameError α) : Checked α := ExceptT.mk (some result)

theorem Checked.present_ok_bind {α β : Type} (value : α) (next? : α → Checked β) :
    (Checked.present (.ok value) >>= next?) = next? value := rfl

theorem Checked.bind_present {α β : Type} {first : Except FrameError α} {next? : α → Checked β}
    {next : α → Except FrameError β}
    (same : ∀ value, first = .ok value → next? value = .present (next value)) :
    (Checked.present first >>= next?) = .present (first >>= next) := by
  cases first with
  | error error => rfl
  | ok value => exact same value rfl

def takeField? (length : Nat) (field : String) (bytes : Bytes) : Checked (Bytes × Bytes) :=
  if bytes.length < length then
    throw (.malformedHeader (.truncated field length bytes.length))
  else
    monadLift (bytes.split? length)

def takeNumber? (width : Nat) (field : String) (bytes : Bytes) : Checked (Nat × Bytes) := do
  let (digits, rest) ← takeField? width field bytes
  let number ← digits.number? width
  return (number, rest)

def takeCounted? (field : String) (bytes : Bytes) : Checked (Bytes × Bytes) := do
  let (count, rest) ← takeNumber? 2 field bytes
  takeField? count field rest

def takeNumeric? (width : Nat) (make : Nat → HeaderValue) (field : String) (bytes : Bytes) :
    Checked (HeaderValue × Bytes) := do
  let (number, rest) ← takeNumber? width field bytes
  return (make number, rest)

def takeUuid? (field : String) (bytes : Bytes) : Checked (Uuid × Bytes) := do
  let (front, rest) ← takeField? 16 field bytes
  let uuid ← front.uuid?
  return (uuid, rest)

def decodeBody? (name : String) (code : UInt8) (bytes : Bytes) : Checked (HeaderValue × Bytes) := do
  match code with
  | 0 => return (.bool true, bytes)
  | 1 => return (.bool false, bytes)
  | 2 => takeNumeric? 1 (fun number => .byte (Int8.ofBitVec (BitVec.ofNat 8 number))) name bytes
  | 3 => takeNumeric? 2 (fun number => .short (Int16.ofBitVec (BitVec.ofNat 16 number))) name bytes
  | 4 =>
      takeNumeric? 4 (fun number => .integer (Int32.ofBitVec (BitVec.ofNat 32 number))) name bytes
  | 5 => takeNumeric? 8 (fun number => .long (Int64.ofBitVec (BitVec.ofNat 64 number))) name bytes
  | 6 =>
      let (value, rest) ← takeCounted? name bytes
      return (.binary value, rest)
  | 7 =>
      let (value, rest) ← takeCounted? name bytes
      match value.text? with
      | some text => return (.string text, rest)
      | none => throw (.malformedHeader (.valueNotUtf8 name))
  | 8 =>
      takeNumeric? 8 (fun number => .timestamp (Int64.ofBitVec (BitVec.ofNat 64 number))) name bytes
  | 9 =>
      let (value, rest) ← takeUuid? name bytes
      return (.uuid value, rest)
  | other => throw (.unknownHeaderType other)

def decodeHeader? (length : UInt8) (bytes : Bytes) : Checked (Header × Bytes) := do
  if length = 0 then
    throw (.malformedHeader .emptyName)
  else
    let (rawName, afterName) ← takeField? length.toNat "header name" bytes
    match rawName.text? with
    | none => throw (.malformedHeader .nameNotUtf8)
    | some name =>
        let (code, afterCode) ← takeField? 1 name afterName
        let code ← code.head?
        let (value, rest) ← decodeBody? name code afterCode
        return (⟨name, value⟩, rest)

theorem takeField?_eq (length : Nat) (field : String) (bytes : Bytes) :
    takeField? length field bytes = .present (takeField length field bytes) := by
  unfold takeField? takeField
  dsimp only
  by_cases few : bytes.length < length
  · have missing : ¬(bytes.take length).length = length := by
      rw [List.length_take]
      omega
    rw [if_pos few, if_neg missing]
    rfl
  · have whole : (bytes.take length).length = length := by
      rw [List.length_take]
      omega
    rw [if_neg few, if_pos whole, Bytes.split?_of_le (Nat.le_of_not_lt few)]
    rfl

theorem takeNumber?_eq (width : Nat) (field : String) (bytes : Bytes) :
    takeNumber? width field bytes = .present (takeNumber width field bytes) := by
  unfold takeNumber?
  rw [takeField?_eq]
  apply Checked.bind_present
  rintro ⟨digits, rest⟩ taken
  dsimp only
  rw [Bytes.number?_of_length (takeField_eq_ok_iff.mp taken).2]
  rfl

theorem takeCounted?_eq (field : String) (bytes : Bytes) :
    takeCounted? field bytes = .present (takeCounted field bytes) := by
  unfold takeCounted? takeCounted
  rw [takeNumber?_eq, takeNumber]
  cases takeField 2 field bytes with
  | error error => rfl
  | ok pair =>
      obtain ⟨count, rest⟩ := pair
      exact takeField?_eq count.toNat field rest

theorem takeNumeric?_eq (width : Nat) (make : Nat → HeaderValue) (field : String) (bytes : Bytes) :
    takeNumeric? width make field bytes = .present (takeNumeric width make field bytes) := by
  unfold takeNumeric?
  rw [takeNumber?_eq]
  exact Checked.bind_present fun _ _ => rfl

theorem takeUuid?_eq (field : String) (bytes : Bytes) :
    takeUuid? field bytes = .present (takeUuid field bytes) := by
  unfold takeUuid? takeUuid
  split
  · rename_i front rest taken
    have present : takeField? 16 field bytes = .present (.ok (front, rest)) := by
      rw [takeField?_eq, taken]
    rw [present]
    change (monadLift front.uuid? >>= fun uuid => pure (uuid, rest) : Checked (Uuid × Bytes)) = _
    rw [Bytes.uuid?_of_length (takeField_eq_ok_iff.mp taken).2]
    rfl
  · rename_i error failed
    rw [takeField?_eq, failed]
    rfl

theorem decodeBody?_eq (name : String) (code : UInt8) (bytes : Bytes) :
    decodeBody? name code bytes = .present (decodeBody name code bytes) := by
  unfold decodeBody?
  split
  · rfl
  · rfl
  · exact takeNumeric?_eq _ _ _ _
  · exact takeNumeric?_eq _ _ _ _
  · exact takeNumeric?_eq _ _ _ _
  · exact takeNumeric?_eq _ _ _ _
  · rw [takeCounted?_eq]
    exact Checked.bind_present fun _ _ => rfl
  · rw [takeCounted?_eq]
    apply Checked.bind_present
    rintro ⟨value, rest⟩ _
    dsimp only
    cases value.text? with
    | none => rfl
    | some text => rfl
  · exact takeNumeric?_eq _ _ _ _
  · rw [takeUuid?_eq]
    exact Checked.bind_present fun _ _ => rfl
  · unfold decodeBody
    split
    all_goals first
      | rfl
      | contradiction

theorem decodeHeader?_eq (length : UInt8) (bytes : Bytes) :
    decodeHeader? length bytes = .present (decodeHeader length bytes) := by
  unfold decodeHeader? decodeHeader
  split
  · rfl
  · rw [takeField?_eq]
    cases takeField length.toNat "header name" bytes with
    | error error => rfl
    | ok pair =>
        obtain ⟨rawName, afterName⟩ := pair
        rw [Checked.present_ok_bind]
        dsimp only
        cases rawName.text? with
        | none => rfl
        | some name =>
            cases afterName with
            | nil => rfl
            | cons code afterCode =>
                dsimp only
                have one : takeField? 1 name (code :: afterCode) =
                    .present (.ok ([code], afterCode)) := by
                  rw [takeField?_eq]
                  rfl
                rw [one, Checked.present_ok_bind]
                change (decodeBody? name code afterCode >>= _) = _
                rw [decodeBody?_eq]
                cases decodeBody name code afterCode with
                | error error => rfl
                | ok pair => rfl

def decode? (bytes : Bytes) : Checked Headers :=
  match bytes with
  | [] => return []
  | length :: body =>
      match _read : decodeHeader? length body with
      | none => none
      | some (.error error) => throw error
      | some (.ok (header, rest)) => do
          let later ← decode? rest
          return header :: later
termination_by bytes.length
decreasing_by
  have read : decodeHeader length body = .ok (header, rest) :=
    Option.some.inj ((decodeHeader?_eq length body).symm.trans _read)
  have := decodeHeader_shrinks read
  simp only [List.length_cons]
  omega

theorem decode?_eq (bytes : Bytes) : decode? bytes = .present (decode bytes) := by
  fun_induction decode bytes with
  | case1 =>
      rw [decode?]
      rfl
  | case2 length body error failed =>
      have read : decodeHeader? length body = some (.error error) := by
        rw [decodeHeader?_eq, failed]
        rfl
      rw [decode?]
      split
      · rename_i missing
        rw [read] at missing
        cases missing
      · rename_i found same
        rw [read] at same
        cases same
        rfl
      · rename_i header rest other
        rw [read] at other
        cases other
  | case3 length body header rest found ih =>
      have read : decodeHeader? length body = some (.ok (header, rest)) := by
        rw [decodeHeader?_eq, found]
        rfl
      rw [decode?]
      split
      · rename_i missing
        rw [read] at missing
        cases missing
      · rename_i error other
        rw [read] at other
        cases other
      · rename_i first behind same
        rw [read] at same
        cases same
        rw [ih]
        cases decode rest with
        | error error => rfl
        | ok later => rfl

end HeaderBlock

/-! ### Frames -/

namespace Frame

def checkOpening? (limits : Limits) (buffer : Bytes) : Option (Except FrameError (Nat × Nat)) := do
  let total ← buffer.word? 0 4
  let headers ← buffer.word? 4 8
  let expected := (← buffer.word? 8 12).toUInt32
  let computed := Checksum.crc32 (← buffer.slice? 0 8)
  if expected ≠ computed then return .error (.preludeChecksum expected computed)
  else if limits.message < total then return .error (.messageTooLarge total limits.message)
  else if limits.headers < headers then return .error (.headersTooLarge headers limits.headers)
  else if total < Message.leastSize then return .error (.invalidLength total headers)
  else if (← difference? total Message.leastSize) < headers then
    return .error (.invalidLength total headers)
  else return .ok (total, headers)

def content? (stop headers : Nat) (frame : Bytes) : Option (Except FrameError Message) := do
  let (_, inner) ← frame.split? Message.openingSize
  let (block, behind) ← inner.split? headers
  match ← (HeaderBlock.decode? block).run with
  | .error error => return .error error
  | .ok decoded =>
      let length ← difference? (← difference? stop Message.openingSize) headers
      let (payload, _) ← behind.split? length
      return .ok ⟨decoded, payload⟩

def decode? (limits : Limits) (buffer : Bytes) :
    Option (Except FrameError (Option Message) × Bytes) := do
  if buffer.length < Message.openingSize then return (.ok none, buffer)
  else
    match ← checkOpening? limits buffer with
    | .error error => return (.error error, buffer)
    | .ok (total, headers) =>
        if buffer.length < total then return (.ok none, buffer)
        else
          let stop ← difference? total Message.checksumSize
          let expected := (← buffer.word? stop total).toUInt32
          let computed := Checksum.crc32 (← buffer.slice? 0 stop)
          if expected ≠ computed then
            return (.error (.messageChecksum expected computed), buffer)
          else
            let (frame, rest) ← buffer.split? total
            let found ← content? stop headers frame
            return (found.map some, rest)

theorem checkOpening?_eq {limits : Limits} {buffer : Bytes}
    (enough : Message.openingSize ≤ buffer.length) :
    checkOpening? limits buffer = some (checkOpening limits (buffer.take Message.openingSize)) := by
  unfold Message.openingSize at enough ⊢
  have front : (buffer.take 12).take 8 = buffer.take 8 := List.take_take
  have total : (buffer.take 12).take 4 = buffer.take 4 := List.take_take
  have headers : ((buffer.take 12).drop 4).take 4 = (buffer.drop 4).take 4 := by
    rw [List.drop_take, List.take_take]
    rfl
  have digits : (buffer.take 12).drop 8 = (buffer.drop 8).take 4 := List.drop_take
  have computed : buffer.slice? 0 8 = some (buffer.take 8) :=
    Bytes.slice?_of_le (by omega) (by omega)
  unfold checkOpening? checkOpening
  rw [Bytes.word?_of_le rfl (by omega), Bytes.word?_of_le rfl (by omega),
    Bytes.word?_of_le rfl enough, computed]
  simp only [front, total, headers, digits, List.drop_zero, Option.bind_eq_bind, Option.bind_some]
  -- The two differ only where the difference is taken, behind the test that makes it safe.
  split
  · rfl
  · split
    · rfl
    · split
      · rfl
      · split
        · rename_i least
          rw [if_pos (.inl least)]
          rfl
        · rename_i least
          rw [difference?_of_le (Nat.le_of_not_lt least), Option.bind_some]
          split
          · rename_i room
            rw [if_pos (.inr room)]
            rfl
          · rename_i room
            rw [if_neg (not_or.mpr ⟨least, room⟩)]
            rfl

theorem content?_eq {stop headers : Nat} {frame : Bytes}
    (whole : frame.length = stop + Message.checksumSize)
    (room : Message.openingSize + headers ≤ stop) :
    content? stop headers frame = some (content headers (frame.take stop)) := by
  have block : ((frame.take stop).drop Message.openingSize).take headers =
      (frame.drop Message.openingSize).take headers := by
    rw [List.drop_take, List.take_take, Nat.min_eq_left (by omega)]
  have payload : ((frame.take stop).drop Message.openingSize).drop headers =
      ((frame.drop Message.openingSize).drop headers).take
        (stop - Message.openingSize - headers) := by
    rw [List.drop_take, List.drop_take]
  have blockThere : headers ≤ (frame.drop Message.openingSize).length := by
    rw [List.length_drop]
    omega
  have payloadThere : stop - Message.openingSize - headers ≤
      ((frame.drop Message.openingSize).drop headers).length := by
    rw [List.length_drop, List.length_drop]
    omega
  unfold content? content
  rw [Bytes.split?_of_le (by omega)]
  simp only [Option.bind_eq_bind, Option.bind_some]
  rw [Bytes.split?_of_le blockThere, Option.bind_some, HeaderBlock.decode?_eq, block, payload]
  cases HeaderBlock.decode ((frame.drop Message.openingSize).take headers) with
  | error error => rfl
  | ok decoded =>
      change ((difference? stop Message.openingSize).bind fun length => _) = _
      rw [difference?_of_le (by omega), Option.bind_some, difference?_of_le (by omega),
        Option.bind_some, Bytes.split?_of_le payloadThere]
      rfl

theorem decode?_eq (limits : Limits) (buffer : Bytes) :
    decode? limits buffer = some (decode limits buffer) := by
  unfold decode? decode
  by_cases few : buffer.length < Message.openingSize
  · have short : (buffer.take Message.openingSize).length < Message.openingSize := by
      rw [List.length_take]
      omega
    simp only [if_pos few, if_pos short]
    rfl
  · have enough := Nat.le_of_not_lt few
    have opened : ¬(buffer.take Message.openingSize).length < Message.openingSize := by
      rw [List.length_take]
      omega
    simp only [if_neg few, if_neg opened, checkOpening?_eq enough, Option.bind_eq_bind,
      Option.bind_some]
    cases sound : checkOpening limits (buffer.take Message.openingSize) with
    | error error => rfl
    | ok lengths =>
        obtain ⟨total, headers⟩ := lengths
        dsimp only
        have room := ((checkOpening_eq_ok_iff (take_opening_length enough)).mp sound).1.room
        simp only [Message.leastSize] at room
        by_cases missing : buffer.length < total
        · have cut : (buffer.take total).length < total := by
            rw [List.length_take]
            omega
          rw [if_pos missing, if_pos cut]
          rfl
        · have whole : ¬(buffer.take total).length < total := by
            rw [List.length_take]
            omega
          have present := Nat.le_of_not_lt missing
          have size : total = total - Message.checksumSize + 4 := by
            unfold Message.checksumSize at room ⊢
            omega
          have body : (buffer.take total).take (total - Message.checksumSize) =
              buffer.take (total - Message.checksumSize) := by
            rw [List.take_take, Nat.min_eq_left (Nat.sub_le _ _)]
          have digits : (buffer.take total).drop (total - Message.checksumSize) =
              (buffer.drop (total - Message.checksumSize)).take 4 := by
            rw [List.drop_take]
            congr 1
            omega
          have computed : buffer.slice? 0 (total - Message.checksumSize) =
              some (buffer.take (total - Message.checksumSize)) :=
            Bytes.slice?_of_le (Nat.zero_le _) (by omega)
          rw [if_neg missing, if_neg whole, difference?_of_le (by omega), Option.bind_some,
            Bytes.word?_of_le size present, computed, body, digits, Option.bind_some,
            Option.bind_some]
          split
          · rfl
          · have found : content? (total - Message.checksumSize) headers (buffer.take total) =
                some (content headers (buffer.take (total - Message.checksumSize))) := by
              rw [content?_eq _ (by omega), body]
              rw [List.length_take]
              omega
            rw [Bytes.split?_of_le present, Option.bind_some]
            dsimp only
            rw [found]
            rfl

end Frame

end FramedEvents
