import ChainFeed.Proofs.Message.Grammar
import ChainFeed.Proofs.Message.Resolution

/-!
# The shape of payloads

Whatever bytes the decoder of a schema file accepts, the payload has the shape that the file
declares: an object with just the names of the fields, and under each name a value of the kind of
the field, or an array of such values. Records may come in any order, more than once, packed or not,
and between records that nothing declares. Each record that is read preserves that what has been
gathered is of the declared shape, and the defaults of the fields that did not occur are of it too.

## Main definitions

- `FieldKind.Admits`: the values of a kind without fields
- `SchemaFile.FitsMessage`, `SchemaFile.FitsField`, `SchemaFile.FitsElement`: the declared shape
- `Schema.Gathered`: what may have been gathered while a message is read

## Main results

- `Schema.admits_of_decodeValue`: what is read of a kind is one of its values
- `Schema.Gathered.recordStep`: the step
- `SchemaFile.fitsMessage_of_decodeMessage`: messages at any level
- `SchemaFile.fits_of_run`: the decoder of a declared message
-/

namespace ChainFeed

open Wire

/-! ### Values without fields -/

namespace FieldKind

/-- The least and the greatest integer of a kind. -/
def range? : FieldKind → Option (Int × Int)
  | .int32 | .sint32 | .sfixed32 | .enum => some (-2147483648, 2147483647)
  | .int64 | .sint64 | .sfixed64 => some (-9223372036854775808, 9223372036854775807)
  | .uint32 | .fixed32 => some (0, 4294967295)
  | .uint64 | .fixed64 => some (0, 18446744073709551615)
  | _ => none

/-- The kinds of floating-point numbers. -/
def IsFloat (kind : FieldKind) : Prop :=
  kind = .float ∨ kind = .double

/-- The values of a kind without fields; a number that is not finite is null. -/
inductive Admits : FieldKind → Json → Prop
  | string (s : String) : Admits .string (.string s)
  | bytes (bs : List UInt8) : Admits .bytes (.bytes bs)
  | bool (b : Bool) : Admits .bool (.bool b)
  | integer {kind : FieldKind} {low high n : Int} (hrange : kind.range? = some (low, high))
    (hlow : low ≤ n) (hhigh : n ≤ high) : Admits kind (.int n)
  | number {kind : FieldKind} {x : Binary64} (hkind : kind.IsFloat) (hfinite : x.isFinite = true) :
    Admits kind (.number (.float x))
  | null {kind : FieldKind} (hkind : kind.IsFloat) : Admits kind .null

variable {kind : FieldKind} {n : Nat} {bytes : List UInt8}

/-- The default of a kind is one of its values. -/
theorem admits_absentValue (h : kind ≠ .message) : kind.Admits kind.absentValue := by
  cases kind with
  | message => exact absurd rfl h
  | string => exact .string ""
  | bytes => exact .bytes []
  | bool => exact .bool false
  | float => exact .number (.inl rfl) (by decide)
  | double => exact .number (.inr rfl) (by decide)
  | _ => exact .integer rfl (by decide) (by decide)

theorem admits_ofFloat (hkind : kind.IsFloat) (x : Binary64) : kind.Admits (Schema.ofFloat x) := by
  unfold Schema.ofFloat
  split
  · rename_i hfinite
    exact .number hkind hfinite
  · exact .null hkind

theorem le_lowSigned_thirtyTwo (n : Nat) : -2147483648 ≤ lowSigned 32 n :=
  Int.le_bmod (by decide)

theorem lowSigned_thirtyTwo_le (n : Nat) : lowSigned 32 n ≤ 2147483647 :=
  Int.lt_add_one_iff.mp (Int.bmod_lt (by decide))

theorem le_lowSigned_sixtyFour (n : Nat) : -9223372036854775808 ≤ lowSigned 64 n :=
  Int.le_bmod (by decide)

theorem lowSigned_sixtyFour_le (n : Nat) : lowSigned 64 n ≤ 9223372036854775807 :=
  Int.lt_add_one_iff.mp (Int.bmod_lt (by decide))

/-- A varint is read as a value of its kind. -/
theorem admits_ofVarint (hshape : kind.wireType = .varint) (hn : n < 2 ^ 64) :
    kind.Admits (Schema.ofVarint kind n) := by
  have hzigzag : -9223372036854775808 ≤ unzigzag n ∧ unzigzag n ≤ 9223372036854775807 := by
    unfold unzigzag
    split <;> omega
  cases kind with
  | bool => exact .bool _
  | int32 | enum => exact .integer rfl (le_lowSigned_thirtyTwo n) (lowSigned_thirtyTwo_le n)
  | int64 => exact .integer rfl (le_lowSigned_sixtyFour n) (lowSigned_sixtyFour_le n)
  | uint32 => exact .integer rfl (by omega) (by omega)
  | uint64 => exact .integer rfl (by omega) (by omega)
  | sint32 =>
    exact .integer rfl (Int.le_bmod (by decide)) (Int.lt_add_one_iff.mp (Int.bmod_lt (by decide)))
  | sint64 => exact .integer rfl hzigzag.1 hzigzag.2
  | _ => cases hshape

theorem admits_ofFixed_four (hshape : kind.wireType = .thirtyTwoBit) (hlength : bytes.length = 4) :
    kind.Admits (Schema.ofFixed kind bytes) := by
  have hlt := littleEndian_lt bytes
  rw [hlength] at hlt
  cases kind with
  | fixed32 => exact .integer rfl (by omega) (by omega)
  | sfixed32 => exact .integer rfl (le_lowSigned_thirtyTwo _) (lowSigned_thirtyTwo_le _)
  | float =>
    rw [Schema.ofFixed]
    cases Binary64.widen? (littleEndian bytes).toUInt32 with
    | none => exact .null (.inl rfl)
    | some x => exact admits_ofFloat (.inl rfl) x
  | _ => cases hshape

theorem admits_ofFixed_eight (hshape : kind.wireType = .sixtyFourBit) (hlength : bytes.length = 8) :
    kind.Admits (Schema.ofFixed kind bytes) := by
  have hlt := littleEndian_lt bytes
  rw [hlength] at hlt
  cases kind with
  | fixed64 => exact .integer rfl (by omega) (by omega)
  | sfixed64 => exact .integer rfl (le_lowSigned_sixtyFour _) (lowSigned_sixtyFour_le _)
  | double => exact admits_ofFloat (.inr rfl) _
  | _ => cases hshape

end FieldKind

namespace Schema

variable {decoder : String → List UInt8 → Except DynamicFault Json} {field : SchemaField}
  {fields : List SchemaField} {bytes rest : List UInt8} {out next final : Members Json}
  {value : Json} {name : String}

theorem admits_ofDelimited {payload : List UInt8}
    (hshape : field.kind.wireType = .lengthDelimited) (hkind : field.kind ≠ .message)
    (h : ofDelimited decoder field payload = .ok value) : field.kind.Admits value := by
  unfold ofDelimited at h
  cases hfield : field.kind with
  | message => exact absurd hfield hkind
  | string =>
    rw [hfield] at h
    dsimp only at h
    cases htext : Utf8.decode? payload with
    | none =>
      rw [htext] at h
      cases h
    | some s =>
      rw [htext] at h
      obtain rfl := Except.ok.inj h
      exact .string s
  | bytes =>
    rw [hfield] at h
    obtain rfl := Except.ok.inj h
    exact .bytes payload
  | _ =>
    rw [hfield] at hshape
    cases hshape

/-- What is read of a kind without fields is one of its values. -/
theorem admits_of_decodeValue (hkind : field.kind ≠ .message)
    (h : decodeValue decoder field bytes = .ok (value, rest)) : field.kind.Admits value := by
  obtain ⟨content, written, hshape, hwritten, -, hvalue⟩ := decodeValue_eq_ok h
  cases hwritten with
  | varint hvarint =>
    obtain rfl := Except.ok.inj hvalue
    exact FieldKind.admits_ofVarint hshape.symm hvarint.lt
  | sixtyFourBit hlength =>
    obtain rfl := Except.ok.inj hvalue
    exact FieldKind.admits_ofFixed_eight hshape.symm hlength
  | thirtyTwoBit hlength =>
    obtain rfl := Except.ok.inj hvalue
    exact FieldKind.admits_ofFixed_four hshape.symm hlength
  | lengthDelimited => exact admits_ofDelimited hshape.symm hkind hvalue

/-! ### What has been gathered -/

variable {single : SchemaField → Json → Prop}

/-- What may stand under the name of a field that has occurred: one value of it, or an array of such
values. -/
inductive Filled (single : SchemaField → Json → Prop) (field : SchemaField) : Json → Prop
  | repeated {items : List Json} (hrepeated : field.repeated = true)
    (h : ∀ item ∈ items, single field item) : Filled single field (.array items)
  | single {value : Json} (hsingle : field.repeated = false) (h : single field value) :
    Filled single field value

/-- What may have been gathered while a message is read: under names of fields, values of these. -/
structure Gathered (single : SchemaField → Json → Prop) (fields : List SchemaField)
    (out : Members Json) : Prop where
  sorted : out.Sorted
  filled : ∀ {name value}, out.get? name = some value →
    ∃ field ∈ fields, field.name = name ∧ Filled single field value

/-- What is read as one value of a field is one. -/
def Reads (decoder : String → List UInt8 → Except DynamicFault Json)
    (single : SchemaField → Json → Prop) (fields : List SchemaField) : Prop :=
  ∀ field ∈ fields, ∀ bytes value rest,
    decodeValue decoder field bytes = .ok (value, rest) → single field value

theorem gathered_nil : Gathered single fields [] :=
  ⟨Members.sorted_nil, nofun⟩

/-- What stands under the name of a field is of that field, if no other has its name. -/
theorem Gathered.filled_of_mem (h : Gathered single fields out)
    (hnames : (fields.map (·.name)).Nodup) (hfield : field ∈ fields)
    (hvalue : out.get? field.name = some value) : Filled single field value := by
  obtain ⟨other, hother, hname, hfilled⟩ := h.filled hvalue
  rwa [List.inj_on_of_nodup_map hnames hother hfield hname] at hfilled

theorem Gathered.add (h : Gathered single fields out) (hnames : (fields.map (·.name)).Nodup)
    (hfield : field ∈ fields) (hvalue : single field value) :
    Gathered single fields (add out (field, value)) := by
  refine ⟨sorted_add _ h.sorted, fun {name found} hfound => ?_⟩
  by_cases hname : field.name = name
  · subst hname
    refine ⟨field, hfield, rfl, ?_⟩
    unfold Schema.add at hfound
    split at hfound
    · rename_i hrepeated
      cases hout : out.get? field.name with
      | none =>
        rw [get?_push_of_none hout] at hfound
        obtain rfl := Option.some.inj hfound
        exact .repeated hrepeated fun item hitem => List.mem_singleton.mp hitem ▸ hvalue
      | some old =>
        -- what stands there is an array, since the field is repeated
        cases h.filled_of_mem hnames hfield hout with
        | repeated _ hitems =>
          rw [get?_push_of_array hout] at hfound
          obtain rfl := Option.some.inj hfound
          refine .repeated hrepeated fun item hitem => ?_
          rcases List.mem_append.mp hitem with hold | hnew
          · exact hitems item hold
          · exact List.mem_singleton.mp hnew ▸ hvalue
        | single hsingle => exact absurd hrepeated (by simp [hsingle])
    · rename_i hsingle
      rw [Members.get?_insert_self] at hfound
      obtain rfl := Option.some.inj hfound
      exact .single (Bool.eq_false_iff.mpr hsingle) hvalue
  · rw [get?_add_of_ne hname] at hfound
    exact h.filled hfound

theorem Gathered.packed (h : Gathered single fields out) (hnames : (fields.map (·.name)).Nodup)
    (hread : Reads decoder single fields) (hfield : field ∈ fields)
    (hrepeated : field.repeated = true) {fuel : Nat}
    (hchunk : decodePacked decoder field fuel out bytes = .ok final) :
    Gathered single fields final := by
  rw [decodePacked_eq_untilEnd] at hchunk
  refine invariant_untilEnd (fun {out bytes next rest} hout hstep => ?_) h hchunk
  obtain ⟨value, hvalue, rfl⟩ := packedStep_eq_ok hstep
  have hadd := hout.add hnames hfield (hread field hfield _ _ _ hvalue)
  rwa [Schema.add, if_pos hrepeated] at hadd

/-- A record adds values of its field, or nothing. -/
theorem Gathered.recordStep (h : Gathered single fields out)
    (hnames : (fields.map (·.name)).Nodup) (hread : Reads decoder single fields)
    (hstep : recordStep decoder fields out bytes = .ok (next, rest)) :
    Gathered single fields next := by
  obtain ⟨_, _, _, _, -, -, ⟨-, -, rfl⟩ | ⟨field, hfield, -, hrecord⟩⟩ := recordStep_cases hstep
  · exact h
  · rcases decodeRecord_cases hrecord with
      ⟨_, _, hpacked, -, -, hchunk⟩ | ⟨value, -, -, hvalue, rfl⟩
    · exact h.packed hnames hread hfield (isPacked_iff.mp hpacked).1 hchunk
    · exact h.add hnames hfield (hread field hfield _ _ _ hvalue)

theorem Gathered.records (hnames : (fields.map (·.name)).Nodup)
    (hread : Reads decoder single fields) {fuel : Nat}
    (h : decodeRecords decoder fields fuel [] bytes = .ok final) :
    Gathered single fields final := by
  rw [decodeRecords_eq_untilEnd] at h
  exact invariant_untilEnd (fun hout hstep => hout.recordStep hnames hread hstep) gathered_nil h

/-! ### The members of a message -/

/-- The names of a message are those of its fields. -/
theorem Gathered.perm_fillAbsent (h : Gathered single fields out)
    (hnames : (fields.map (·.name)).Nodup) :
    ((fillAbsent fields out).map (·.1)).Perm (fields.map (·.name)) := by
  refine (List.perm_ext_iff_of_nodup (sorted_fillAbsent fields h.sorted).nodup hnames).mpr
    fun name => ?_
  rw [← Members.contains_iff_mem, Members.contains, get?_fillAbsent, Option.isSome_or,
    Bool.or_eq_true, Option.isSome_map]
  constructor
  · rintro (hfound | hfound)
    · obtain ⟨value, hvalue⟩ := Option.isSome_iff_exists.mp hfound
      obtain ⟨field, hfield, rfl, -⟩ := h.filled hvalue
      exact List.mem_map_of_mem hfield
    · obtain ⟨field, hfield, hname⟩ := List.find?_isSome.mp hfound
      exact List.mem_map.mpr ⟨field, hfield, by simpa using hname⟩
  · intro hname
    obtain ⟨field, hfield, rfl⟩ := List.mem_map.mp hname
    exact .inr (List.find?_isSome.mpr ⟨field, hfield, by simp⟩)

/-- Under the name of a field stands what was gathered for it, or its default. -/
theorem Gathered.filled_or_absent (h : Gathered single fields out)
    (hnames : (fields.map (·.name)).Nodup) (hfield : field ∈ fields)
    (hvalue : (fillAbsent fields out).get? field.name = some value) :
    Filled single field value ∨ value = SchemaField.absentValue field := by
  rw [get?_fillAbsent, find?_of_mem_of_nodup hnames hfield] at hvalue
  cases hout : out.get? field.name with
  | none =>
    rw [hout] at hvalue
    exact .inr (Option.some.inj hvalue).symm
  | some found =>
    rw [hout] at hvalue
    obtain rfl := Option.some.inj hvalue
    exact .inl (h.filled_of_mem hnames hfield hout)

end Schema

/-! ### Declared messages -/

namespace SchemaFile

mutual

/-- A value is one value of a field. -/
inductive FitsElement (file : SchemaFile) : FieldDeclaration → Json → Prop
  | scalar {field : FieldDeclaration} {value : Json} (hkind : field.kind ≠ .message)
    (h : field.kind.Admits value) : FitsElement file field value
  | message {field : FieldDeclaration} {typeName : String} {target : MessageDeclaration}
    {value : Json} (hkind : field.kind = .message) (htype : field.typeName = some typeName)
    (hname : file.resolveName? typeName = some (file.qualify target.name))
    (htarget : target ∈ file.messages) (h : FitsMessage file target value) :
    FitsElement file field value

/-- A value may stand under the name of a field: an array of values of it, if it is repeated, or
else one value of it, which is null if a message does not occur. -/
inductive FitsField (file : SchemaFile) : FieldDeclaration → Json → Prop
  | repeated {field : FieldDeclaration} {items : List Json} (hrepeated : field.repeated = true)
    (h : ∀ item ∈ items, FitsElement file field item) : FitsField file field (.array items)
  | single {field : FieldDeclaration} {value : Json} (hsingle : field.repeated = false)
    (h : FitsElement file field value) : FitsField file field value
  | absent {field : FieldDeclaration} (hsingle : field.repeated = false)
    (hkind : field.kind = .message) : FitsField file field .null

/-- A value is an object with just the names of the fields of a message, and under each of them what
may stand there. -/
inductive FitsMessage (file : SchemaFile) : MessageDeclaration → Json → Prop
  | mk {message : MessageDeclaration} {members : Members Json}
    (hnames : (members.map (·.1)).Perm (message.fields.map (·.name)))
    (h : ∀ field ∈ message.fields, ∀ value, members.get? field.name = some value →
      FitsField file field value) : FitsMessage file message (.object members)

end

/-- Messages differ in name, and so do the fields of each. -/
structure HasDistinctNames (file : SchemaFile) : Prop where
  messages : (file.messages.map (·.name)).Nodup
  fields : ∀ message ∈ file.messages, (message.fields.map (·.name)).Nodup

variable {file : SchemaFile} {path : String} {schema : Schema} {message : MessageDeclaration}

/-- What is read of a field fits its declaration, if what is read of the messages in it does. -/
theorem fitsElement_of_decodeValue
    {decoder : String → List UInt8 → Except DynamicFault Json}
    (hnested : ∀ target ∈ file.messages, ∀ bytes json,
      decoder (file.qualify target.name) bytes = .ok json → file.FitsMessage target json)
    {field : FieldDeclaration} {resolved : SchemaField}
    (hresolved : file.ResolvesField field resolved) {bytes rest : List UInt8} {value : Json}
    (h : Schema.decodeValue decoder resolved bytes = .ok (value, rest)) :
    file.FitsElement field value := by
  by_cases hkind : field.kind = .message
  · obtain ⟨typeName, name, htype, hrefers, hmessage⟩ := hresolved.exists_refers hkind
    obtain ⟨target, htarget, rfl⟩ := List.mem_map.mp hrefers.mem_declared
    have hname := resolveName?_eq_some_iff.mpr hrefers
    have hresolvedKind : resolved.kind = .message := hresolved.kind.trans hkind
    obtain ⟨content, _, hshape, -, -, hvalue⟩ := Schema.decodeValue_eq_ok h
    rw [hresolvedKind] at hshape
    cases content with
    | lengthDelimited payload =>
      rw [Schema.valueOf, Schema.ofDelimited, hresolvedKind, hmessage] at hvalue
      exact .message hkind htype hname htarget (hnested target htarget payload value hvalue)
    | _ => cases hshape
  · have hresolvedKind : resolved.kind ≠ .message := by
      rw [hresolved.kind]
      exact hkind
    exact .scalar hkind (hresolved.kind ▸ Schema.admits_of_decodeValue hresolvedKind h)

/-- A default fits the declaration of its field. -/
theorem fitsField_absentValue {field : FieldDeclaration} {resolved : SchemaField}
    (hresolved : file.ResolvesField field resolved) :
    file.FitsField field (Schema.SchemaField.absentValue resolved) := by
  rw [Schema.SchemaField.absentValue, hresolved.repeated, hresolved.kind]
  split
  · rename_i hrepeated
    exact .repeated hrepeated fun item hitem => absurd hitem List.not_mem_nil
  · rename_i hsingle
    rw [Bool.not_eq_true] at hsingle
    by_cases hkind : field.kind = .message
    · rw [hkind]
      exact .absent hsingle hkind
    · exact .single hsingle (.scalar hkind (FieldKind.admits_absentValue hkind))

/-- A value of a resolved field: it fits what the field was resolved from. -/
def FitsResolved (file : SchemaFile) (resolved : SchemaField) (value : Json) : Prop :=
  ∀ field, file.ResolvesField field resolved → file.FitsElement field value

theorem fitsField_of_filled {field : FieldDeclaration} {resolved : SchemaField} {value : Json}
    (hresolved : file.ResolvesField field resolved)
    (h : Schema.Filled file.FitsResolved resolved value) : file.FitsField field value := by
  cases h with
  | repeated hrepeated h =>
    exact .repeated (hresolved.repeated ▸ hrepeated) fun item hitem => h item hitem field hresolved
  | single hsingle h => exact .single (hresolved.repeated ▸ hsingle) (h field hresolved)

/-- What a declared message is decoded to fits it, however deep messages nest in it. -/
theorem fitsMessage_of_decodeMessage (hresolve : file.resolve path = .ok schema)
    (hdistinct : file.HasDistinctNames) (room : Nat) :
    ∀ message ∈ file.messages, ∀ bytes json,
      schema.decodeMessage room (file.qualify message.name) bytes = .ok json →
        file.FitsMessage message json := by
  -- the messages in a message have one level less to go
  induction room with
  | zero => exact fun _ _ _ _ h => nomatch h
  | succ room ih =>
    intro message hmem bytes json h
    have hfields := resolvesField_of_mem hresolve hdistinct.messages hmem
    rw [Schema.decodeMessage] at h
    obtain ⟨out, hout, rfl⟩ := exists_of_map_eq_ok h
    generalize schema.fields (file.qualify message.name) = fields at hfields hout ⊢
    have hnames : fields.map (·.name) = message.fields.map (·.name) := by
      rw [eq_comm, ← List.forall₂_eq_eq_eq, List.forall₂_map_left_iff, List.forall₂_map_right_iff]
      exact hfields.imp fun _ _ hresolved => hresolved.name.symm
    have hnodup : (fields.map (·.name)).Nodup := hnames ▸ hdistinct.fields message hmem
    have hread : Schema.Reads (schema.decodeMessage room) file.FitsResolved fields :=
      fun _ _ _ _ _ hvalue _ hresolved => fitsElement_of_decodeValue ih hresolved hvalue
    have hgathered := Schema.Gathered.records hnodup hread hout
    refine .mk (hnames ▸ hgathered.perm_fillAbsent hnodup) fun field hfield value hvalue => ?_
    obtain ⟨resolved, hmemResolved, hresolved⟩ := exists_of_mem_of_forall₂ hfields.flip hfield
    rw [← hresolved.name] at hvalue
    rcases hgathered.filled_or_absent hnodup hmemResolved hvalue with hfilled | rfl
    · exact fitsField_of_filled hresolved hfilled
    · exact fitsField_absentValue hresolved

/-- The decoder of a declared message gives nothing but what fits the message. -/
theorem fits_of_run {text : Except FileError String} (h : Loads path text file schema)
    (hdistinct : file.HasDistinctNames) (hmessage : message ∈ file.messages) {bytes : List UInt8}
    {json : Json}
    (hrun : Decoder.run (.dynamic schema (file.qualify message.name)) bytes = .ok json) :
    file.FitsMessage message json :=
  fitsMessage_of_decodeMessage h.resolve_eq hdistinct (Schema.maxDepth + 1) message hmessage bytes
    json (of_mapError_eq_ok hrun)

/-- The payload of `nodeBytes`. -/
def nodePayload : Json :=
  .object [("child", .object [("child", .null), ("counts", .array []), ("label", .string "")]),
    ("counts", .array [.nat 1, .nat 300, .nat 2]), ("label", .string "b")]

/-- A node whose records come in no order, one in a chunk, one superseded, and one undeclared. -/
theorem fits_nodePayload :
    Loads "node.json" (.ok nodeFile.render) ⟨"", [nodeMessage]⟩ nodeSchema ∧
      HasDistinctNames ⟨"", [nodeMessage]⟩ ∧
      Decoder.run (.dynamic nodeSchema "Node") nodeBytes = .ok nodePayload ∧
      FitsMessage ⟨"", [nodeMessage]⟩ nodeMessage nodePayload := by
  have hdistinct : HasDistinctNames ⟨"", [nodeMessage]⟩ := ⟨by decide, by decide⟩
  have hrun : Decoder.run (.dynamic nodeSchema "Node") nodeBytes = .ok nodePayload := rfl
  exact ⟨loads_nodeFile, hdistinct, hrun,
    fits_of_run loads_nodeFile hdistinct (List.mem_singleton_self nodeMessage) hrun⟩

end SchemaFile

end ChainFeed
