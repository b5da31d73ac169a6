import ChainFeed.Proofs.Message.Decoding
import ChainFeed.Proofs.Message.Occurrences
import ChainFeed.Proofs.Message.Resolution
import ChainFeed.Proofs.Json.Reading
import ChainFeed.Proofs.Wire.Repetition

/-!
# The grammar of the decoder

Which byte strings are a message of a schema is said here as languages: a message is a concatenation
of records, a record is a key and a content, and what content may stand behind a key follows from
the first field that declares its number. The decoder of a schema file accepts just these bytes.
Both of its loops repeat one step until their bytes end, so it is enough to know which words the
steps read off: values in a packed chunk, and records in a message.

## Main definitions

- `Schema.values`, `Schema.records`, `Schema.language`: values, records and messages as languages
- `Schema.Recognizes`: the decoder accepts the messages and nothing else

## Main results

- `Schema.reads_packedStep`, `Schema.reads_recordStep`: the words of the two steps
- `Schema.accepts_decodeMessage`: messages at any level
- `SchemaFile.recognizes_of_load`: each schema file that can be used has an exact decoder
-/

namespace ChainFeed

open Wire
open scoped Computability

namespace Schema

variable {schema : Schema} {decoder : String → List UInt8 → Except DynamicFault Json}
  {nested : String → Language UInt8} {field : SchemaField} {fields : List SchemaField}
  {bytes rest written payload : List UInt8} {out next : Members Json} {value : Json} {fuel : Nat}

/-! ### Values -/

/-- The byte strings that a field of a kind with a length may have; `nested` are the messages of
each type. -/
inductive IsText (nested : String → Language UInt8) (field : SchemaField) : List UInt8 → Prop
  | bytes {payload : List UInt8} (hkind : field.kind = .bytes) : IsText nested field payload
  | string {text : String} (hkind : field.kind = .string) :
    IsText nested field (Utf8.encode text)
  | message {target : String} {payload : List UInt8} (hkind : field.kind = .message)
    (htarget : field.message = some target) (h : payload ∈ nested target) :
    IsText nested field payload

/-- The bytes of one value of a field, without a key. -/
inductive IsValue (nested : String → Language UInt8) (field : SchemaField) : List UInt8 → Prop
  | number {written : List UInt8} (hshape : field.kind.wireType ≠ .lengthDelimited)
    (h : Payload field.kind.wireType written) : IsValue nested field written
  | text {payload written : List UInt8} (htext : IsText nested field payload)
    (h : Delimited payload written) : IsValue nested field written

/-- The values of a field as a language. -/
def values (nested : String → Language UInt8) (field : SchemaField) : Language UInt8 :=
  {written | IsValue nested field written}

/-- A decoder accepts the messages of each type and nothing else. -/
def Accepts (decoder : String → List UInt8 → Except DynamicFault Json)
    (nested : String → Language UInt8) : Prop :=
  ∀ target payload, (∃ json, decoder target payload = .ok json) ↔ payload ∈ nested target

/-- A field of kind message names its type. -/
def Resolved (field : SchemaField) : Prop :=
  field.kind = .message → ∃ target, field.message = some target

theorem IsText.wireType_eq (h : IsText nested field payload) :
    field.kind.wireType = .lengthDelimited := by
  cases h with
  | bytes hkind | string hkind | message hkind => rw [hkind]; rfl

theorem isText_of_ofDelimited (hnested : Accepts decoder nested) (hresolved : Resolved field)
    (hshape : field.kind.wireType = .lengthDelimited)
    (h : ofDelimited decoder field payload = .ok value) : IsText nested field payload := by
  cases hkind : field.kind with
  | string =>
    rw [ofDelimited, hkind] at h
    cases hread : Utf8.decode? payload with
    | none =>
      rw [hread] at h
      cases h
    | some text =>
      obtain rfl := Utf8.decode?_eq_some_iff.mp hread
      exact .string hkind
  | message =>
    obtain ⟨target, htarget⟩ := hresolved hkind
    rw [ofDelimited, hkind, htarget] at h
    exact .message hkind htarget ((hnested target payload).mp ⟨value, h⟩)
  | bytes => exact .bytes hkind
  | _ =>
    rw [hkind] at hshape
    cases hshape

theorem IsText.exists_ofDelimited (h : IsText nested field payload)
    (hnested : Accepts decoder nested) :
    ∃ value, ofDelimited decoder field payload = .ok value := by
  cases h with
  | bytes hkind => exact ⟨.bytes payload, by rw [ofDelimited, hkind]⟩
  | @string text hkind =>
    refine ⟨.string text, ?_⟩
    rw [ofDelimited, hkind]
    dsimp only
    rw [Utf8.decode?_encode]
    rfl
  | @message target _ hkind htarget hpayload =>
    obtain ⟨value, hvalue⟩ := (hnested target payload).mpr hpayload
    refine ⟨value, ?_⟩
    rw [ofDelimited, hkind, htarget]
    exact hvalue

/-- What is read as a value is a value. -/
theorem exists_isValue_of_decodeValue (hnested : Accepts decoder nested)
    (hresolved : Resolved field)
    (h : decodeValue decoder field bytes = .ok (value, rest)) :
    ∃ written, IsValue nested field written ∧ bytes = written ++ rest := by
  obtain ⟨content, written, hcontent, hwritten, rfl, hvalue⟩ := decodeValue_eq_ok h
  refine ⟨written, ?_, rfl⟩
  by_cases hshape : field.kind.wireType = .lengthDelimited
  · cases hwritten with
    | lengthDelimited hdelimited =>
      exact .text (isText_of_ofDelimited hnested hresolved hshape hvalue) hdelimited
    | _ => exact absurd (hcontent.trans hshape) nofun
  · exact .number hshape (hcontent ▸ hwritten.toPayload)

/-- A value is read, whatever stands behind it. -/
theorem IsValue.exists_decodeValue (h : IsValue nested field written)
    (hnested : Accepts decoder nested) :
    ∃ value, ∀ rest, decodeValue decoder field (written ++ rest) = .ok (value, rest) := by
  cases h with
  | number hshape h =>
    generalize hwire : field.kind.wireType = wireType at hshape h
    cases h with
    | varint h => exact ⟨_, decodeValue_varint hwire h⟩
    | sixtyFourBit h => exact ⟨_, decodeValue_sixtyFourBit hwire h⟩
    | thirtyTwoBit h => exact ⟨_, decodeValue_thirtyTwoBit hwire h⟩
    | lengthDelimited => exact absurd rfl hshape
  | text htext h =>
    obtain ⟨value, hvalue⟩ := htext.exists_ofDelimited hnested
    refine ⟨value, fun rest => ?_⟩
    rw [decodeValue_lengthDelimited htext.wireType_eq h, hvalue]
    rfl

/-! ### Packed chunks -/

/-- One value of a packed chunk, added to the array of its field. -/
def packedStep (decoder : String → List UInt8 → Except DynamicFault Json) (field : SchemaField)
    (out : Members Json) (bytes : List UInt8) : Except DynamicFault (Members Json × List UInt8) :=
  (decodeValue decoder field bytes).map fun (value, rest) => (push field.name value out, rest)

theorem decodePacked_eq_untilEnd (fuel : Nat) (out : Members Json) (bytes : List UInt8) :
    decodePacked decoder field fuel out bytes =
      untilEnd (packedStep decoder field) fuel out bytes := by
  induction fuel generalizing out bytes with
  | zero => rfl
  | succ fuel ih =>
    cases bytes with
    | nil => rfl
    | cons b bytes =>
      simp only [decodePacked, untilEnd, packedStep]
      cases decodeValue decoder field (b :: bytes) with
      | error fault => rfl
      | ok result => exact ih _ _

theorem packedStep_eq_ok (h : packedStep decoder field out bytes = .ok (next, rest)) :
    ∃ value, decodeValue decoder field bytes = .ok (value, rest) ∧
      next = push field.name value out := by
  obtain ⟨⟨value, _⟩, hvalue, heq⟩ := exists_of_map_eq_ok h
  obtain ⟨rfl, rfl⟩ := Prod.mk.inj heq
  exact ⟨value, hvalue, rfl⟩

theorem shortens_packedStep (decoder : String → List UInt8 → Except DynamicFault Json)
    (field : SchemaField) : Shortens (packedStep decoder field) := by
  intro out bytes next rest h
  obtain ⟨value, hvalue, -⟩ := packedStep_eq_ok h
  obtain ⟨content, written, -, hwritten, rfl, -⟩ := decodeValue_eq_ok hvalue
  have hpos := hwritten.length_pos
  rw [List.length_append]
  omega

theorem reads_packedStep (hnested : Accepts decoder nested) (hresolved : Resolved field) :
    Reads (packedStep decoder field) (values nested field) where
  split h := by
    obtain ⟨value, hvalue, -⟩ := packedStep_eq_ok h
    exact exists_isValue_of_decodeValue hnested hresolved hvalue
  append hfront out := by
    obtain ⟨value, hvalue⟩ := IsValue.exists_decodeValue hfront hnested
    exact ⟨push field.name value out, fun rest => by rw [packedStep, hvalue]; rfl⟩

/-! ### Records -/

/-- What may stand behind the key of a record of a field: one value, if the key has the shape of its
kind, or else a chunk of values. -/
inductive IsContent (nested : String → Language UInt8) (field : SchemaField) :
    WireType → List UInt8 → Prop
  | value {written : List UInt8} (h : written ∈ values nested field) :
    IsContent nested field field.kind.wireType written
  | packed {chunk written : List UInt8} (hrepeated : field.repeated = true)
    (hshape : field.kind.wireType ≠ .lengthDelimited) (hchunk : chunk ∈ (values nested field)∗)
    (h : Delimited chunk written) : IsContent nested field .lengthDelimited written

/-- The bytes of one record of a message with the given fields; of the fields with one number the
first counts. -/
inductive IsRecord (nested : String → Language UInt8) (fields : List SchemaField) :
    List UInt8 → Prop
  | undeclared {number : Nat} {wireType : WireType} {key payload : List UInt8}
    (hfind : fields.find? (fun field => field.number.toNat = number) = none)
    (hkey : Key number wireType key) (h : Payload wireType payload) :
    IsRecord nested fields (key ++ payload)
  | declared {field : SchemaField} {number : Nat} {wireType : WireType} {key written : List UInt8}
    (hfind : fields.find? (fun field => field.number.toNat = number) = some field)
    (hkey : Key number wireType key) (h : IsContent nested field wireType written) :
    IsRecord nested fields (key ++ written)

/-- The records of a message as a language. -/
def records (nested : String → Language UInt8) (fields : List SchemaField) : Language UInt8 :=
  {bytes | IsRecord nested fields bytes}

/-- What is read behind the key of a declared record is what may stand there. -/
theorem exists_isContent_of_decodeRecord (hnested : Accepts decoder nested)
    (hresolved : Resolved field) {wireType : WireType}
    (h : decodeRecord decoder field wireType out bytes = .ok (next, rest)) :
    ∃ written, IsContent nested field wireType written ∧ bytes = written ++ rest := by
  rcases decodeRecord_cases h with
    ⟨chunk, written, hpacked, hdelimited, rfl, hfinal⟩ | ⟨value, -, rfl, hvalue, -⟩
  · obtain ⟨hrepeated, rfl, hshape⟩ := isPacked_iff.mp hpacked
    rw [decodePacked_eq_untilEnd] at hfinal
    have hchunk := (reads_packedStep hnested hresolved).mem_kstar_of_untilEnd
      (shortens_packedStep decoder field) (Nat.lt_succ_self _) hfinal
    exact ⟨written, .packed hrepeated hshape hchunk hdelimited, rfl⟩
  · obtain ⟨written, hwritten, rfl⟩ := exists_isValue_of_decodeValue hnested hresolved hvalue
    exact ⟨written, .value hwritten, rfl⟩

/-- What may stand behind a key is read, whatever stands behind it. -/
theorem IsContent.exists_decodeRecord {wireType : WireType}
    (h : IsContent nested field wireType written) (hnested : Accepts decoder nested)
    (hresolved : Resolved field) (out : Members Json) :
    ∃ next, ∀ rest,
      decodeRecord decoder field wireType out (written ++ rest) = .ok (next, rest) := by
  cases h with
  | value h =>
    obtain ⟨value, hvalue⟩ := IsValue.exists_decodeValue h hnested
    refine ⟨add out (field, value), fun rest => ?_⟩
    rw [decodeRecord, isPacked_wireType_eq, if_neg Bool.false_ne_true, if_pos rfl, hvalue]
    rfl
  | @packed chunk _ hrepeated hshape hchunk h =>
    obtain ⟨final, hfinal⟩ :
        ∃ final, untilEnd (packedStep decoder field) (chunk.length + 1) out chunk = .ok final :=
      (reads_packedStep hnested hresolved).untilEnd_of_mem_kstar (shortens_packedStep decoder field)
        (Nat.lt_succ_self _) hchunk
    refine ⟨final, fun rest => ?_⟩
    rw [decodeRecord, if_pos (isPacked_iff.mpr ⟨hrepeated, rfl, hshape⟩), readDelimited_append h]
    dsimp only
    rw [decodePacked_eq_untilEnd, hfinal]
    rfl

/-- One record of a message. -/
def recordStep (decoder : String → List UInt8 → Except DynamicFault Json)
    (fields : List SchemaField) (out : Members Json) (bytes : List UInt8) :
    Except DynamicFault (Members Json × List UInt8) :=
  match readKey bytes with
  | .error fault => .error (.wire fault)
  | .ok ((number, wireType), rest) =>
    match fields.find? fun field => field.number.toNat = number with
    | none => (skip wireType rest).map fun rest => (out, rest)
    | some field => decodeRecord decoder field wireType out rest

theorem decodeRecords_eq_untilEnd (fuel : Nat) (out : Members Json) (bytes : List UInt8) :
    decodeRecords decoder fields fuel out bytes =
      untilEnd (recordStep decoder fields) fuel out bytes := by
  induction fuel generalizing out bytes with
  | zero => rfl
  | succ fuel ih =>
    cases bytes with
    | nil => rfl
    | cons b bytes =>
      simp only [decodeRecords, untilEnd, recordStep]
      cases readKey (b :: bytes) with
      | error fault => rfl
      | ok key =>
        dsimp only
        cases fields.find? fun field => field.number.toNat = key.1.1 with
        | none =>
          dsimp only
          cases skip key.1.2 key.2 with
          | error fault => rfl
          | ok rest => exact ih _ _
        | some field =>
          dsimp only
          cases decodeRecord decoder field key.1.2 out key.2 with
          | error fault => rfl
          | ok result => exact ih _ _

/-- A record that was read is a key, and behind it something passed over or a record of a field. -/
theorem recordStep_cases (h : recordStep decoder fields out bytes = .ok (next, rest)) :
    ∃ (number : Nat) (wireType : WireType) (key tail : List UInt8),
      Key number wireType key ∧ bytes = key ++ tail ∧
      ((fields.find? (fun field => field.number.toNat = number) = none ∧
          skip wireType tail = .ok rest ∧ next = out) ∨
        ∃ field ∈ fields, fields.find? (fun field => field.number.toNat = number) = some field ∧
          decodeRecord decoder field wireType out tail = .ok (next, rest)) := by
  rw [recordStep] at h
  split at h
  · cases h
  · rename_i number wireType tail hread
    obtain ⟨key, hkey, rfl⟩ := readKey_eq_ok hread
    refine ⟨number, wireType, key, tail, hkey, rfl, ?_⟩
    split at h
    · rename_i hfind
      obtain ⟨_, hskip, heq⟩ := exists_of_map_eq_ok h
      obtain ⟨rfl, rfl⟩ := Prod.mk.inj heq
      exact .inl ⟨hfind, hskip, rfl⟩
    · rename_i field hfind
      exact .inr ⟨field, List.mem_of_find?_eq_some hfind, hfind, h⟩

/-- What is left of a record that was read is the end of it. -/
theorem exists_append_of_decodeRecord {wireType : WireType}
    (h : decodeRecord decoder field wireType out bytes = .ok (next, rest)) :
    ∃ written, bytes = written ++ rest := by
  rcases decodeRecord_cases h with ⟨chunk, written, -, -, heq, -⟩ | ⟨value, -, -, hvalue, -⟩
  · exact ⟨written, heq⟩
  · obtain ⟨-, written, -, -, heq, -⟩ := decodeValue_eq_ok hvalue
    exact ⟨written, heq⟩

/-- A key is read off each record, even off one whose content is empty. -/
theorem shortens_recordStep (decoder : String → List UInt8 → Except DynamicFault Json)
    (fields : List SchemaField) : Shortens (recordStep decoder fields) := by
  intro out bytes next rest h
  obtain ⟨number, wireType, key, tail, hkey, rfl, hcases⟩ := recordStep_cases h
  rcases hcases with ⟨-, hskip, -⟩ | ⟨field, -, -, hrecord⟩
  · obtain ⟨-, written, -, -, rfl⟩ := skip_eq_ok hskip
    exact hkey.length_lt written _
  · obtain ⟨written, rfl⟩ := exists_append_of_decodeRecord hrecord
    exact hkey.length_lt written _

theorem reads_recordStep (hnested : Accepts decoder nested)
    (hresolved : ∀ field ∈ fields, Resolved field) :
    Reads (recordStep decoder fields) (records nested fields) where
  split {out bytes next rest} h := by
    obtain ⟨number, wireType, key, tail, hkey, rfl, hcases⟩ := recordStep_cases h
    rcases hcases with ⟨hfind, hskip, -⟩ | ⟨field, hmem, hfind, hrecord⟩
    · obtain ⟨content, written, rfl, hwritten, rfl⟩ := skip_eq_ok hskip
      exact ⟨key ++ written, .undeclared hfind hkey hwritten.toPayload, (List.append_assoc ..).symm⟩
    · obtain ⟨written, hwritten, rfl⟩ :=
        exists_isContent_of_decodeRecord hnested (hresolved field hmem) hrecord
      exact ⟨key ++ written, .declared hfind hkey hwritten, (List.append_assoc ..).symm⟩
  append {front} hfront out := by
    cases hfront with
    | undeclared hfind hkey h =>
      refine ⟨out, fun rest => ?_⟩
      rw [recordStep, List.append_assoc, readKey_append hkey]
      dsimp only
      rw [hfind]
      dsimp only
      rw [skip_append h]
      rfl
    | @declared field _ _ _ _ hfind hkey h =>
      have hfield := hresolved field (List.mem_of_find?_eq_some hfind)
      obtain ⟨next, hnext⟩ := h.exists_decodeRecord hnested hfield out
      refine ⟨next, fun rest => ?_⟩
      rw [recordStep, List.append_assoc, readKey_append hkey]
      dsimp only
      rw [hfind]
      exact hnext rest

/-! ### Messages -/

/-- The messages of each type that have at most `levels` levels, themselves included. -/
def language (schema : Schema) : (levels : Nat) → String → Language UInt8
  | 0, _ => 0
  | levels + 1, name => (records (language schema levels) (schema.fields name))∗

/-- Each level of the decoder accepts the messages that have as many levels as it has room for. -/
theorem accepts_decodeMessage (hresolved : ∀ name, ∀ field ∈ schema.fields name, Resolved field)
    (levels : Nat) : Accepts (schema.decodeMessage levels) (schema.language levels) := by
  -- the messages in a message have one level less to go
  induction levels with
  | zero => exact fun name bytes => ⟨fun ⟨_, h⟩ => (nomatch h), fun h => (nomatch h)⟩
  | succ levels ih =>
    intro name bytes
    have hrecords : (∃ final, untilEnd (recordStep (schema.decodeMessage levels)
        (schema.fields name)) (bytes.length + 1) [] bytes = .ok final) ↔
          bytes ∈ schema.language (levels + 1) name :=
      (reads_recordStep ih (hresolved name)).untilEnd_iff (shortens_recordStep _ _)
        (Nat.lt_succ_self _)
    rw [← hrecords, decodeMessage, decodeRecords_eq_untilEnd]
    constructor
    · rintro ⟨json, h⟩
      obtain ⟨final, hfinal, -⟩ := exists_of_map_eq_ok h
      exact ⟨final, hfinal⟩
    · rintro ⟨final, hfinal⟩
      exact ⟨.object (fillAbsent (schema.fields name) final), by rw [hfinal]; rfl⟩

/-- The decoder of a schema accepts its messages, ends, and stays within each length. -/
structure Recognizes (schema : Schema) : Prop where
  /-- The bytes that are accepted are the messages with at most `maxDepth` levels below the top. -/
  accepts : ∀ name bytes,
    (∃ json, schema.decode name bytes = .ok json) ↔ bytes ∈ schema.language (maxDepth + 1) name
  /-- The loop over records is over before its fuel, with whatever decoder for what is nested. -/
  records_end : ∀ decoder fields out bytes fuel, bytes.length < fuel →
    decodeRecords decoder fields fuel out bytes =
      decodeRecords decoder fields (bytes.length + 1) out bytes
  /-- The loop over a packed chunk is over before its fuel. -/
  chunk_ends : ∀ decoder field out chunk fuel, chunk.length < fuel →
    decodePacked decoder field fuel out chunk =
      decodePacked decoder field (chunk.length + 1) out chunk
  /-- What stands behind a byte string with a length neither changes what comes of the record nor
  is read. -/
  stays_within : ∀ decoder field out payload written rest, Delimited payload written →
    decodeRecord decoder field .lengthDelimited out (written ++ rest) =
      (decodeRecord decoder field .lengthDelimited out written).map fun (next, _) => (next, rest)

/-- A record with a length is read off its own bytes. -/
theorem decodeRecord_append_eq_map (decoder : String → List UInt8 → Except DynamicFault Json)
    (field : SchemaField) (out : Members Json) (h : Delimited payload written)
    (rest : List UInt8) :
    decodeRecord decoder field .lengthDelimited out (written ++ rest) =
      (decodeRecord decoder field .lengthDelimited out written).map
        fun (next, _) => (next, rest) := by
  have hread : readDelimited written = .ok (payload, []) := by
    rw [← List.append_nil written]
    exact readDelimited_append h []
  rw [decodeRecord, decodeRecord]
  split
  · rw [readDelimited_append h, hread]
    dsimp only
    cases decodePacked decoder field (payload.length + 1) out payload <;> rfl
  · split
    · rename_i hshape
      have hvalue : decodeValue decoder field written =
          (ofDelimited decoder field payload).map (·, []) := by
        rw [← List.append_nil written]
        exact decodeValue_lengthDelimited hshape.symm h []
      rw [decodeValue_lengthDelimited hshape.symm h, hvalue]
      cases ofDelimited decoder field payload <;> rfl
    · rfl

/-- A schema whose fields name their types has an exact decoder. -/
theorem recognizes_of_resolved
    (hresolved : ∀ name, ∀ field ∈ schema.fields name, Resolved field) : schema.Recognizes where
  accepts := accepts_decodeMessage hresolved (maxDepth + 1)
  records_end decoder fields out bytes fuel hfuel := by
    rw [decodeRecords_eq_untilEnd, decodeRecords_eq_untilEnd]
    exact (shortens_recordStep decoder fields).untilEnd_eq hfuel (Nat.lt_succ_self _)
  chunk_ends decoder field out chunk fuel hfuel := by
    rw [decodePacked_eq_untilEnd, decodePacked_eq_untilEnd]
    exact (shortens_packedStep decoder field).untilEnd_eq hfuel (Nat.lt_succ_self _)
  stays_within decoder field out _ _ rest h :=
    decodeRecord_append_eq_map decoder field out h rest

end Schema

/-! ### Schema files -/

namespace SchemaFile

open Schema

variable {file : SchemaFile} {path : String} {schema : Schema}

/-- The fields of a schema that was resolved name their types. -/
theorem resolved_of_resolve (h : file.resolve path = .ok schema) (name : String) :
    ∀ field ∈ schema.fields name, Resolved field := by
  intro field hfield
  rcases schema.fields_eq_or_mem name with hnil | ⟨message, hmem, heq⟩
  · rw [hnil] at hfield
    exact absurd hfield List.not_mem_nil
  · obtain ⟨_, -, -, hfields⟩ := exists_of_mem_of_forall₂ (resolve_eq_ok_iff.mp h) hmem
    rw [heq] at hfield
    obtain ⟨_, -, hresolves⟩ := exists_of_mem_of_forall₂ hfields hfield
    intro hkind
    obtain ⟨_, target, -, -, htarget⟩ := hresolves.exists_refers (hresolves.kind.symm.trans hkind)
    exact ⟨target, htarget⟩

/-- The decoder of a schema file that can be used accepts the messages of its schema and nothing
else. -/
theorem recognizes_of_load {text : Except FileError String} (h : load path text = .ok schema) :
    schema.Recognizes := by
  unfold load at h
  split at h
  · cases h
  · split at h
    · cases h
    · exact recognizes_of_resolved (resolved_of_resolve h)

/-- The file that declares the messages `nodeSchema` has. -/
def nodeFile : Json :=
  .ofMembers [("messages", .array [.ofMembers [("name", .string "Node"), ("fields", .array [
    .ofMembers [("name", .string "label"), ("number", .nat 1), ("type", .string "string")],
    .ofMembers [("name", .string "counts"), ("number", .nat 2), ("type", .string "uint32"),
      ("repeated", .bool true)],
    .ofMembers [("name", .string "child"), ("number", .nat 3), ("type", .string "message"),
      ("type_name", .string ".Node")]])]])]

/-- The message that it declares. -/
def nodeMessage : MessageDeclaration :=
  ⟨"Node", [⟨"label", 1, .string, false, none⟩, ⟨"counts", 2, .uint32, true, none⟩,
    ⟨"child", 3, .message, false, some ".Node"⟩]⟩

theorem loads_nodeFile :
    Loads "node.json" (.ok nodeFile.render) ⟨"", [nodeMessage]⟩ nodeSchema :=
  ⟨.mk (Reader.ofText_render (by decide +kernel)), eq_ok_of_toOption_eq (by decide +kernel)⟩

theorem load_nodeFile : load "node.json" (.ok nodeFile.render) = .ok nodeSchema :=
  load_eq_ok_iff.mpr ⟨_, loads_nodeFile⟩

/-- Messages that may hold themselves are read to their last level. -/
theorem recognizes_nodeFile :
    load "node.json" (.ok nodeFile.render) = .ok nodeSchema ∧ nodeSchema.Recognizes :=
  ⟨load_nodeFile, recognizes_of_load load_nodeFile⟩

end SchemaFile

end ChainFeed
