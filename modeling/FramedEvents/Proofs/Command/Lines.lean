/-
What the lines of a text say.

The lines of a text are texts themselves. A line that is accepted says which headers its
message has: names and values as they stand in the line, the last value of each name, in
the order of the bytes of the names, and each value with the narrowest type that holds it.
-/

import FramedEvents.Command.MessageLine
import FramedEvents.Proofs.Json.Reading
import FramedEvents.Proofs.Text.Characters
import FramedEvents.Proofs.Wire.HeaderExactness

namespace FramedEvents.MessageLine

open FramedEvents.Json

/-! ### Lines of a text -/

theorem foldr_pushFront_unbroken {bytes : Bytes} (unbroken : bytes.Unbroken)
    {lines : List Bytes} (some : lines ≠ []) :
    bytes.foldr pushFront lines = (bytes ++ lines.headD []) :: lines.tail := by
  induction bytes with
  | nil =>
      cases lines with
      | nil => exact absurd rfl some
      | cons line rest => rfl
  | cons byte bytes ih =>
      obtain ⟨apart, later⟩ := List.forall_mem_cons.mp unbroken
      rw [List.foldr_cons, ih later]
      unfold pushFront
      rw [if_neg apart]
      rfl

theorem isText_parts (characters : List Char) :
    let parts := (Bytes.ofChars characters).foldr pushFront [[]]
    parts ≠ [] ∧ ∀ part ∈ parts, part.IsText := by
  induction characters with
  | nil => exact ⟨List.cons_ne_nil _ _, List.forall_mem_singleton.mpr Bytes.isText_nil⟩
  | cons character characters ih =>
      obtain ⟨some, texts⟩ := ih
      dsimp only
      rw [Bytes.ofChars_cons, List.foldr_append]
      generalize (Bytes.ofChars characters).foldr pushFront [[]] = parts at some texts
      by_cases feed : character.toNat = 10
      · have single : String.utf8EncodeChar character = [10] := by
          rw [Bytes.encodeChar_narrow (by omega), feed]
          rfl
        rw [single]
        exact ⟨List.cons_ne_nil _ _, List.forall_mem_cons.mpr ⟨Bytes.isText_nil, texts⟩⟩
      · rw [foldr_pushFront_unbroken (Bytes.unbroken_encodeChar feed) some]
        refine ⟨List.cons_ne_nil _ _, List.forall_mem_cons.mpr ⟨?_, ?_⟩⟩
        · refine (Bytes.isText_encodeChar character).append ?_
          cases parts with
          | nil => exact Bytes.isText_nil
          | cons first rest => exact texts first List.mem_cons_self
        · exact fun part member => texts part (List.mem_of_mem_tail member)

theorem isText_withoutReturn {line : Bytes} (isText : line.IsText) :
    (withoutReturn line).IsText := by
  unfold withoutReturn
  split
  · rename_i ends
    obtain ⟨text, rfl⟩ := isText
    rw [Bytes.ofText_eq_ofChars] at ends ⊢
    generalize text.toList = characters at ends ⊢
    cases characters using List.reverseRecOn with
    | nil => cases ends
    | append_singleton front last =>
        rw [Bytes.ofChars_append] at ends ⊢
        have single : Bytes.ofChars [last] = String.utf8EncodeChar last := List.append_nil _
        rw [single] at ends ⊢
        by_cases narrow : last.toNat < 128
        · rw [Bytes.encodeChar_narrow narrow, List.dropLast_concat]
          exact Bytes.isText_ofChars front
        · have wide := (Bytes.encoded last).wide (Nat.le_of_not_lt narrow)
          have some := (Bytes.encoded last).ne_nil
          rw [List.getLast?_append, List.getLast?_eq_some_getLast some, Option.some_or] at ends
          have member := List.getLast_mem some
          rw [Option.some.inj ends] at member
          exact absurd (wide 13 member) (by decide)
  · exact isText

theorem isText_lines {text line : Bytes} (isText : text.IsText) (member : line ∈ lines text) :
    line.IsText := by
  obtain ⟨read, rfl⟩ := isText
  rw [Bytes.ofText_eq_ofChars] at member
  obtain ⟨some, texts⟩ := isText_parts read.toList
  unfold lines at member
  generalize (Bytes.ofChars read.toList).foldr pushFront [[]] = parts at some texts member
  dsimp only at member
  rcases List.mem_append.mp member with before | last
  · obtain ⟨part, held, rfl⟩ := List.mem_map.mp before
    exact isText_withoutReturn (texts part ((List.dropLast_sublist _).subset held))
  · split at last
    · cases last
    · rw [List.mem_singleton.mp last, List.getLastD_eq_getLast?, List.getLast?_eq_some_getLast some]
      exact texts _ (List.getLast_mem some)

/-- Lines that are each ended by a line feed fall apart into these lines, unless one of them
ends with a carriage return. -/
theorem lines_flatMap {held : List Bytes} (unbroken : ∀ line ∈ held, line.Unbroken)
    (plain : ∀ line ∈ held, line.getLast? ≠ some 13) :
    lines (held.flatMap (· ++ [10])) = held := by
  have parts : (held.flatMap (· ++ [10])).foldr pushFront [[]] = held ++ [[]] := by
    clear plain
    induction held with
    | nil => rfl
    | cons line later ih =>
        obtain ⟨whole, others⟩ := List.forall_mem_cons.mp unbroken
        rw [List.flatMap_cons, List.foldr_append, ih others, List.foldr_append]
        change line.foldr pushFront ([] :: (later ++ [[]])) = _
        rw [foldr_pushFront_unbroken whole (List.cons_ne_nil _ _), List.headD_cons,
          List.append_nil, List.tail_cons, List.cons_append]
  have kept : held.map withoutReturn = held := by
    conv_rhs => rw [← List.map_id held]
    exact List.map_congr_left fun line member => if_neg (plain line member)
  unfold lines
  dsimp only
  rw [parts, List.dropLast_concat, List.getLastD_concat, if_pos rfl, kept, List.append_nil]

/-! ### The document of a line -/

def solidStart (line : Bytes) : Cursor := Cursor.skipBlanks { rest := line, streamed := false }

def openedLine (line : Bytes) : Cursor := (solidStart line).advance 1

/-- A value is passed, whether or not it is kept. -/
inductive Steps (place : Cursor) : Cursor → Prop where
  | skipped {behind : Cursor} (skipped : Parser.skipValue place = .ok ((), behind)) :
      Steps place behind
  | read {behind : Cursor} (type : FieldType) (value : Value)
      (read : Record.readField (depthLimit - 1) type place = .ok (value, behind)) :
      Steps place behind

/-- The fields of a line that is an object have been passed up to a place, with these names,
latest first. -/
inductive Passed (line : Bytes) : List String → Cursor → Prop where
  | opened (brace : (solidStart line).rest.head? = some 123) : Passed line [] (openedLine line)
  | field {names : List String} {name : String} {front looked named past behind : Cursor}
      (passed : Passed line names front)
      (more : Parser.moreFields names.isEmpty front = .ok (true, looked))
      (said : Parser.fieldName looked = .ok (name, named))
      (parted : Parser.colon named = .ok ((), past)) (steps : Steps past behind) :
      Passed line (name :: names) behind

/-- Where the headers of a line stand: behind their name, or in front of all else in a list. -/
inductive HeadersStand (line : Bytes) : Cursor → Prop where
  | named {names : List String} {front looked named place : Cursor}
      (passed : Passed line names front)
      (more : Parser.moreFields names.isEmpty front = .ok (true, looked))
      (said : Parser.fieldName looked = .ok ("headers", named))
      (parted : Parser.colon named = .ok ((), place)) : HeadersStand line place
  | first {place : Cursor} (bracket : (solidStart line).rest.head? = some 91)
      (item : Parser.moreItems true (openedLine line) = .ok (true, place)) :
      HeadersStand line place

inductive HeadersMissing (line : Bytes) : Prop where
  | unnamed {names : List String} {front behind : Cursor} (passed : Passed line names front)
      (last : Parser.moreFields names.isEmpty front = .ok (false, behind))
      (unnamed : "headers" ∉ names) : HeadersMissing line
  | empty {behind : Cursor} (bracket : (solidStart line).rest.head? = some 91)
      (last : Parser.moreItems true (openedLine line) = .ok (false, behind)) : HeadersMissing line

/-- The names and values of the headers of a line, in the order of the line. -/
inductive HeadersRead (line : Bytes) : List (String × Value) → Prop where
  | missing (missing : HeadersMissing line) : HeadersRead line []
  | read {place after : Cursor} {pairs : List (String × Value)} (stands : HeadersStand line place)
      (brace : place.skipBlanks.rest.head? = some 123)
      (read : Parser.fields (Parser.value (depthLimit - 2)) place.skipBlanks = .ok (pairs, after)) :
      HeadersRead line pairs

/-- What a line says: its headers, of which the last of each name counts, and its payload. -/
structure Document (line : Bytes) (fields : Fields) (value : Value) : Prop where
  headers : ∃ pairs, HeadersRead line pairs ∧ fields = Fields.ofList pairs
  payload : value.Formed (depthLimit - 1)

theorem HeadersStand.read_map {line : Bytes} {place after : Cursor} {value : Value}
    (stands : HeadersStand line place)
    (read : Record.readField (depthLimit - 1) .map place = .ok (value, after)) :
    ∃ pairs, HeadersRead line pairs ∧ value = .object (Fields.ofList pairs) := by
  obtain ⟨pairs, brace, all, whole⟩ := Parser.map_eq_ok read
  exact ⟨pairs, .read stands brace all, whole⟩

/-- What has been found in a line of which fields with these names have been passed. -/
structure Found (line : Bytes) (names : List String) (found : List (String × Value)) : Prop where
  headers : ∀ value, found.lookup "headers" = some value →
    ∃ pairs, HeadersRead line pairs ∧ value = .object (Fields.ofList pairs)
  missing : found.lookup "headers" = none → "headers" ∉ names
  payload : ∀ value, found.lookup "payload" = some value → value.Formed (depthLimit - 1)

theorem known_field {name : String} {field : Field}
    (known : record.fields.find? (fun field => field.name == name) = some field) :
    name = "headers" ∧ field.type = .map ∨ name = "payload" ∧ field.type = .any := by
  have found := List.find?_some known
  have same : field.name = name := eq_of_beq found
  rcases List.mem_pair.mp (List.mem_of_find?_eq_some known) with rfl | rfl
  · exact .inl ⟨same.symm, rfl⟩
  · exact .inr ⟨same.symm, rfl⟩

namespace Found

variable {line : Bytes} {names : List String} {found : List (String × Value)}

theorem nothing : Found line [] [] where
  headers := by
    rintro _ ⟨⟩
  missing := fun _ => List.not_mem_nil
  payload := by
    rintro _ ⟨⟩

theorem skip (sound : Found line names found) {name : String}
    (unknown : record.fields.find? (fun field => field.name == name) = none) :
    Found line (name :: names) found where
  headers := sound.headers
  missing := by
    intro none member
    rcases List.mem_cons.mp member with rfl | before
    · cases unknown
    · exact sound.missing none before
  payload := sound.payload

theorem addHeaders (sound : Found line names found) {place after : Cursor} {value : Value}
    (stands : HeadersStand line place)
    (read : Record.readField (depthLimit - 1) .map place = .ok (value, after)) :
    Found line ("headers" :: names) (("headers", value) :: found) where
  headers := by
    rintro _ ⟨⟩
    exact stands.read_map read
  missing := by
    rintro ⟨⟩
  payload := sound.payload

theorem addPayload (sound : Found line names found) {place after : Cursor} {value : Value}
    (read : Record.readField (depthLimit - 1) .any place = .ok (value, after)) :
    Found line ("payload" :: names) (("payload", value) :: found) where
  headers := sound.headers
  missing := by
    intro none member
    rcases List.mem_cons.mp member with impossible | before
    · exact absurd impossible (by decide)
    · exact sound.missing none before
  payload := by
    rintro _ ⟨⟩
    exact Parser.yields_value _ read

theorem document (sound : Found line names found) {front behind : Cursor}
    (passed : Passed line names front)
    (last : Parser.moreFields names.isEmpty front = .ok (false, behind)) {values : List Value}
    (complete : Record.complete found record.fields = .ok values) :
    ∃ fields value, values = [.object fields, value] ∧ Document line fields value := by
  have payload : ∃ value, (found.lookup "payload").or (some .null) = some value ∧
      value.Formed (depthLimit - 1) := by
    cases held : found.lookup "payload" with
    | none => exact ⟨.null, rfl, .null⟩
    | some value => exact ⟨value, rfl, sound.payload value held⟩
  have headers : ∃ pairs, (found.lookup "headers").or (some (.object [])) =
      some (.object (Fields.ofList pairs)) ∧ HeadersRead line pairs := by
    cases held : found.lookup "headers" with
    | none => exact ⟨[], rfl, .missing (.unnamed passed last (sound.missing held))⟩
    | some value =>
        obtain ⟨pairs, read, rfl⟩ := sound.headers value held
        exact ⟨pairs, rfl, read⟩
  obtain ⟨value, second, formed⟩ := payload
  obtain ⟨pairs, first, read⟩ := headers
  simp only [record, Record.complete, first, second] at complete
  cases complete
  exact ⟨_, value, rfl, ⟨pairs, read, rfl⟩, formed⟩

end Found

/-- A line that is an object. The induction is on the fields that are still to be read. -/
theorem fromFields_document {line : Bytes} {names : List String} {fuel : Nat}
    {found : List (String × Value)} (sound : Found line names found) {cursor after : Cursor}
    (passed : Passed line names cursor) {values : List Value}
    (read : Record.fromFields record (depthLimit - 1) fuel names.isEmpty found cursor =
      .ok (.ok values, after)) :
    ∃ fields value, values = [.object fields, value] ∧ Document line fields value := by
  induction fuel generalizing names found cursor with
  | zero => cases read
  | succ fuel ih =>
      unfold Record.fromFields at read
      obtain ⟨more, looked, went, rest⟩ := Parser.bind_eq_ok.mp read
      cases more with
      | false =>
          obtain ⟨complete, _⟩ := Prod.mk.inj (Except.ok.inj rest)
          exact sound.document passed went complete
      | true =>
          obtain ⟨name, named, said, rest⟩ := Parser.bind_eq_ok.mp rest
          cases known : record.fields.find? (fun field => field.name == name) with
          | none =>
              simp only [known] at rest
              obtain ⟨_, past, parted, rest⟩ := Parser.bind_eq_ok.mp rest
              obtain ⟨_, behind, skipped, rest⟩ := Parser.bind_eq_ok.mp rest
              exact ih (sound.skip known) (.field passed went said parted (.skipped skipped)) rest
          | some field =>
              simp only [known] at rest
              split at rest
              · cases rest
              · obtain ⟨_, past, parted, rest⟩ := Parser.bind_eq_ok.mp rest
                obtain ⟨value, behind, valued, rest⟩ := Parser.bind_eq_ok.mp rest
                have onward := Passed.field passed went said parted (.read _ _ valued)
                rcases known_field known with ⟨rfl, type⟩ | ⟨rfl, type⟩
                · rw [type] at valued
                  have stands := HeadersStand.named passed went said parted
                  exact ih (sound.addHeaders stands valued) onward rest
                · rw [type] at valued
                  exact ih (sound.addPayload valued) onward rest

/-- The first of the items of a list is read, or there is none and the field has a default. -/
theorem fromItems_cons {known : Record} {depth count : Nat} {field : Field} {later : List Field}
    {cursor after : Cursor} {values : List Value}
    (read : known.fromItems depth (field :: later) count cursor = .ok (.ok values, after)) :
    ∃ value others countToo between, values = value :: others ∧
      known.fromItems depth later countToo between = .ok (.ok others, after) ∧
      ((∃ place, Parser.moreItems (count == 0) cursor = .ok (true, place) ∧
        Record.readField depth field.type place = .ok (value, between)) ∨
        Parser.moreItems (count == 0) cursor = .ok (false, between) ∧
          field.fallback = some value) := by
  have mapped {value : Value} {countToo : Nat} {between : Cursor}
      (rest : (known.fromItems depth later countToo >>= fun answer =>
        pure (answer.map (value :: ·))) between = .ok (.ok values, after)) :
      ∃ others, values = value :: others ∧
        known.fromItems depth later countToo between = .ok (.ok others, after) := by
    obtain ⟨answer, last, went, done⟩ := Parser.bind_eq_ok.mp rest
    obtain ⟨same, rfl⟩ := Prod.mk.inj (Except.ok.inj done)
    cases answer with
    | error fault => cases same
    | ok others => exact ⟨others, (Except.ok.inj same).symm, went⟩
  unfold Record.fromItems at read
  obtain ⟨more, looked, went, rest⟩ := Parser.bind_eq_ok.mp read
  cases more with
  | true =>
      obtain ⟨value, between, valued, rest⟩ := Parser.bind_eq_ok.mp rest
      obtain ⟨others, parts, onward⟩ := mapped rest
      exact ⟨value, others, _, between, parts, onward, .inl ⟨looked, went, valued⟩⟩
  | false =>
      cases default : field.fallback with
      | none =>
          simp only [default] at rest
          cases rest
      | some value =>
          simp only [default] at rest
          obtain ⟨others, parts, onward⟩ := mapped rest
          exact ⟨value, others, _, looked, parts, onward, .inr ⟨went, rfl⟩⟩

theorem fromItems_document {line : Bytes} {after : Cursor} {values : List Value}
    (bracket : (solidStart line).rest.head? = some 91)
    (read : Record.fromItems record (depthLimit - 1) record.fields 0 (openedLine line) =
      .ok (.ok values, after)) :
    ∃ fields value, values = [.object fields, value] ∧ Document line fields value := by
  obtain ⟨first, others, count, between, rfl, rest, headers⟩ := fromItems_cons read
  obtain ⟨value, none, _, _, rfl, last, payload⟩ := fromItems_cons rest
  cases last
  have formed : value.Formed (depthLimit - 1) := by
    rcases payload with ⟨place, _, valued⟩ | ⟨_, default⟩
    · exact Parser.yields_value _ valued
    · cases default
      exact .null
  rcases headers with ⟨place, more, mapped⟩ | ⟨last, default⟩
  · obtain ⟨pairs, found, rfl⟩ := (HeadersStand.first bracket more).read_map mapped
    exact ⟨_, value, rfl, ⟨pairs, found, rfl⟩, formed⟩
  · cases default
    exact ⟨_, value, rfl, ⟨[], .missing (.empty bracket last), rfl⟩, formed⟩

theorem closeWith_eq_ok {close : Cursor → Option Problem × Cursor}
    {parser : Parser (Except Fault (List Value))} {cursor after : Cursor} {values : List Value}
    (read : Record.closeWith close parser cursor = .ok (values, after)) :
    ∃ between, parser cursor = .ok (.ok values, between) := by
  obtain ⟨answer, between, went, rest⟩ := Parser.bind_eq_ok.mp read
  dsimp only at rest
  split at rest
  · cases rest
  · cases rest
  · cases rest
    exact ⟨between, went⟩

theorem record_document {line : Bytes} {values : List Value}
    (read : record.parse false line = .ok values) :
    ∃ fields value, values = [.object fields, value] ∧ Document line fields value := by
  obtain ⟨after, went⟩ := Parser.run_eq_ok read
  obtain ⟨found, looked, ahead, rest⟩ := Parser.bind_eq_ok.mp went
  obtain ⟨start, place⟩ := Prod.mk.inj (Except.ok.inj ahead)
  split at rest
  · cases rest
  · obtain ⟨_, opened, skipped, rest⟩ := Parser.bind_eq_ok.mp rest
    cases skipped
    obtain ⟨_, items⟩ := closeWith_eq_ok rest
    rw [← place] at items
    exact fromItems_document start items
  · obtain ⟨_, opened, skipped, rest⟩ := Parser.bind_eq_ok.mp rest
    cases skipped
    obtain ⟨fuel, _, measured, rest⟩ := Parser.bind_eq_ok.mp rest
    cases measured
    obtain ⟨_, fields⟩ := closeWith_eq_ok rest
    rw [← place] at fields
    exact fromFields_document .nothing (.opened start) fields
  · exact (Parser.yields_wrongType _ rest).elim

/-! ### The headers of a line -/

theorem HeadersRead.formed {line : Bytes} {pairs : List (String × Value)}
    (read : HeadersRead line pairs) : ∀ pair ∈ pairs, pair.2.Formed (depthLimit - 2) := by
  cases read with
  | missing => exact fun _ none => absurd none List.not_mem_nil
  | read _ _ all => exact Parser.yields_fields (Parser.yields_value _) all

/-- The value of a header stands for the same text, truth value or whole number as the value
in a line. Whole numbers of at most 32 bits take that many, and others take 64. -/
inductive Typed : Value → HeaderValue → Prop where
  | text (text : String) : Typed (.string text) (.string text)
  | truth (value : Bool) : Typed (.bool value) (.bool value)
  | narrow {number : Int} {value : Int32} (same : value.toInt = number) :
      Typed (.number (.integer number)) (.integer value)
  | wide {number : Int} {value : Int64} (same : value.toInt = number)
      (large : ¬(-2147483648 ≤ number ∧ number ≤ 2147483647)) :
      Typed (.number (.integer number)) (.long value)

theorem typed_headerValue {name : String} {depth : Nat} {value : Value} {header : HeaderValue}
    (formed : value.Formed depth) (made : headerValue name value = .ok header) :
    Typed value header := by
  cases formed with
  | null => cases made
  | bool value =>
      cases made
      exact .truth value
  | string text =>
      cases made
      exact .text text
  | number number fits =>
      cases number with
      | double bits => cases made
      | integer number =>
          simp only [headerValue] at made
          split at made
          · rename_i narrow
            cases made
            exact .narrow (Int32.toInt_ofInt_of_le narrow.1 (by omega))
          · rename_i large
            split at made
            · rename_i most
              cases made
              exact .wide (Int64.toInt_ofInt_of_le fits.1 (by omega)) large
            · cases made
  | array items _ _ => cases made
  | object fields _ _ _ => cases made

theorem headers_typed {depth : Nat} {fields : Fields}
    (formed : ∀ field ∈ fields, field.2.Formed depth) {made : Headers}
    (typed : headers fields = .ok made) :
    List.Forall₂ (fun field header => header.name = field.1 ∧ Typed field.2 header.value)
      fields made := by
  induction fields generalizing made with
  | nil =>
      cases typed
      exact .nil
  | cons field later ih =>
      obtain ⟨first, others⟩ := List.forall_mem_cons.mp formed
      unfold headers at typed
      rw [List.mapM_cons] at typed
      obtain ⟨header, front, rest⟩ := bind_eq_ok_iff.mp typed
      obtain ⟨behind, back, done⟩ := bind_eq_ok_iff.mp rest
      obtain ⟨value, valued, named⟩ := bind_eq_ok_iff.mp front
      cases named
      cases done
      exact .cons ⟨rfl, typed_headerValue first valued⟩ (ih others back)

/-! ### The message of a line -/

/-- A line spells a message. Its headers have the names and values that stand in the line,
the last value of each name, and they are in the order of the bytes of their names. -/
structure Spells (line : Bytes) (message : Message) : Prop where
  document : ∃ pairs fields value, HeadersRead line pairs ∧
    record.parse false line = .ok [.object fields, value] ∧
    (∀ name, fields.lookup name = pairs.reverse.lookup name) ∧
    List.Forall₂ (fun field header => header.name = field.1 ∧ Typed field.2 header.value)
      fields message.headers ∧
    message.payload = payload value
  ordered : message.headers.Pairwise fun first second =>
    Bytes.ofText first.name < Bytes.ofText second.name

theorem ordered_headers {fields : Fields} {made : Headers} {holds : Value → HeaderValue → Prop}
    (ordered : fields.Ordered)
    (same : List.Forall₂ (fun field header => header.name = field.1 ∧ holds field.2 header.value)
      fields made) :
    made.Pairwise fun first second => Bytes.ofText first.name < Bytes.ofText second.name := by
  have names : made.map Header.name = fields.map Prod.fst := by
    clear ordered
    induction same with
    | nil => rfl
    | cons first _ ih => rw [List.map_cons, List.map_cons, first.1, ih]
  have increasing : (fields.map Prod.fst).Pairwise fun first second =>
      Bytes.ofText first < Bytes.ofText second :=
    List.pairwise_map.mpr (ordered.imp Bytes.ofText_lt)
  rw [← names, List.pairwise_map] at increasing
  exact increasing

theorem spells_parse {line : Bytes} {message : Message} (parsed : parse line = .ok message) :
    Spells line message := by
  obtain ⟨values, read, rest⟩ := bind_eq_ok_iff.mp parsed
  have accepted : record.parse false line = .ok values := by
    cases answer : record.parse false line with
    | error problem =>
        rw [answer] at read
        cases read
    | ok found =>
        rw [answer] at read
        cases read
        rfl
  obtain ⟨_, value, rfl, ⟨pairs, found, rfl⟩, _⟩ := record_document accepted
  obtain ⟨made, typed, done⟩ := bind_eq_ok_iff.mp rest
  cases done
  have same := headers_typed (fun field member =>
    found.formed field (Fields.mem_ofList member)) typed
  exact ⟨⟨pairs, _, value, found, accepted, Fields.lookup_ofList pairs, same, rfl⟩,
    ordered_headers (Fields.ordered_ofList pairs) same⟩

end FramedEvents.MessageLine
