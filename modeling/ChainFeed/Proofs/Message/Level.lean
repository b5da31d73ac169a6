import ChainFeed.Message.Registry
import ChainFeed.Proofs.Message.Description
import ChainFeed.Proofs.Message.Object
import ChainFeed.Proofs.Message.Occurrences
import ChainFeed.Proofs.Message.Writing

/-!
# Two decoders on one level

A message is a level of fields, with messages on the level below. If the decoder of a schema accepts
the bytes of a level that it describes, the built-in decoder reads the same records. Both put the
same values under the names of the fields, with one difference: the records of a single message are
merged by the built-in decoder, while for the decoder of a schema only the last one counts.

## Main definitions

- `Layout.Follows`: a layout reads what a decoder accepts
- `Layout.Merged`: what the records of a single message are merged into
- `Level`, `Level.Mirrored`: a level, and what its records come to for both decoders

## Main results

- `Level.reads`: the records that one decoder accepts are read by the other
- `Level.object_eq_iff`: the objects are the same if they are the same field by field
- `Level.agreement`: so they are the same up to single messages
-/

namespace ChainFeed

open Wire

/-! ### One record for both decoders -/

section Record

variable {decoder : String → List UInt8 → Except DynamicFault Json} {field : SchemaField}
  {type : FieldType} {content : Content} {written : List UInt8} {json : Json}

/-- A value that is no message is the same for both decoders. -/
theorem FieldType.reads_of_valueOf (htype : type.nested? = none) (hkind : field.kind = type.kind)
    (hshape : content.wireType = type.wireType) (hwritten : content.Written written)
    (hvalue : Schema.valueOf decoder field content = .ok json) :
    ∃ value, type.Reads value written ∧ value.toJson type = json := by
  cases type with
  | message => cases htype
  | text =>
    cases hwritten <;> cases hshape
    rename_i payload hdelimited
    rw [Schema.valueOf, Schema.ofDelimited, hkind, kind] at hvalue
    dsimp only at hvalue
    cases htext : Utf8.decode? payload with
    | none =>
      rw [htext] at hvalue
      cases hvalue
    | some s =>
      rw [htext] at hvalue
      exact ⟨.text s, .text htext hdelimited, by rw [FieldValue.toJson]; exact Except.ok.inj hvalue⟩
  | bytes =>
    cases hwritten <;> cases hshape
    rename_i payload hdelimited
    rw [Schema.valueOf, Schema.ofDelimited, hkind, kind] at hvalue
    exact ⟨.bytes payload, .bytes hdelimited, by rw [FieldValue.toJson]; exact Except.ok.inj hvalue⟩
  | uint64 =>
    cases hwritten <;> cases hshape
    rename_i n hvarint
    rw [Schema.valueOf, hkind, kind] at hvalue
    -- a varint that is read at all is below the bound of the type
    have hn : n.toUInt64.toNat = n := UInt64.toNat_ofNat_of_lt' hvarint.lt
    exact ⟨.uint64 n.toUInt64, .uint64 hvarint, by
      rw [FieldValue.toJson, hn]; exact Except.ok.inj hvalue⟩
  | int32 =>
    cases hwritten <;> cases hshape
    rename_i n hvarint
    rw [Schema.valueOf, hkind, kind] at hvalue
    -- here it may be above, and both decoders keep the low bits
    have hn : (lowSigned 32 n).toInt32.toInt = lowSigned 32 n :=
      Int32.toInt_ofInt.trans (Int.bmod_bmod ..)
    exact ⟨.int32 (lowSigned 32 n).toInt32, .int32 hvarint, by
      rw [FieldValue.toJson, hn]; exact Except.ok.inj hvalue⟩

/-- A message is a byte string that the decoder of its type accepts. -/
theorem Schema.payload_of_valueOf (hkind : field.kind = .message)
    (hshape : content.wireType = .lengthDelimited) (hwritten : content.Written written)
    (hvalue : valueOf decoder field content = .ok json) :
    ∃ payload, content = .lengthDelimited payload ∧ Delimited payload written ∧
      decoder (field.message.getD "") payload = .ok json := by
  cases hwritten <;> cases hshape
  rename_i payload hdelimited
  rw [valueOf, ofDelimited, hkind] at hvalue
  exact ⟨payload, rfl, hdelimited, hvalue⟩

end Record

/-! ### Merged messages -/

namespace Layout

/-- A layout reads what a decoder accepts: any message can be continued by it, and by itself it is
the same object. -/
structure Follows (layout : Layout) (decode : List UInt8 → Except DynamicFault Json) : Prop where
  accepts : ∀ {bytes : List UInt8} {json : Json}, decode bytes = .ok json →
    ∀ values, ∃ final, layout.Reads values bytes final
  agrees : ∀ {bytes : List UInt8} {json : Json}, decode bytes = .ok json →
    ∃ final, layout.Reads layout.empty bytes final ∧ layout.toJson final = json

/-- What the byte strings of a single message field make of its old value: the message that all of
them are, one behind the other. -/
inductive Merged (layout : Layout) (old : FieldValue) :
    List (List UInt8) → List FieldValue → Prop
  | unchanged : Merged layout old [] []
  | merged {payloads : List (List UInt8)} {items final : List FieldValue}
    (hne : payloads ≠ []) (hlast : items.getLast? = some (.message final))
    (h : layout.Reads (continued .single layout old) payloads.flatten final) :
    Merged layout old payloads items

theorem Merged.cons {layout : Layout} {old : FieldValue} {payload : List UInt8}
    {payloads : List (List UInt8)} {fields items : List FieldValue}
    (hpayload : layout.Reads (continued .single layout old) payload fields)
    (h : layout.Merged (.message fields) payloads items) :
    layout.Merged old (payload :: payloads) (.message fields :: items) := by
  cases h with
  | unchanged =>
    refine .merged (List.cons_ne_nil _ _) rfl ?_
    rw [List.flatten_cons, List.flatten_nil, List.append_nil]
    exact hpayload
  | @merged _ _ final hne hlast h =>
    have hlast' : (FieldValue.message fields :: items).getLast? = some (.message final) := by
      rw [List.getLast?_cons, hlast]
      rfl
    refine .merged (List.cons_ne_nil _ _) hlast' ?_
    rw [List.flatten_cons]
    exact hpayload.append h

end Layout

/-! ### One level of messages -/

variable {decoder : String → List UInt8 → Except DynamicFault Json} {fields : List SchemaField}
  {layout : Layout} {field : SchemaField} {declared : LayoutField} {number i : Nat} {name : String}
  {occurrence : Occurrence} {type : FieldType} {frames : List (Nat × Content)} {content : Content}
  {occurrences : List (SchemaField × Json)} {puts : List (Nat × FieldValue)}
  {values : List FieldValue} {new : FieldValue} {json : Json} {bytes : List UInt8}

/-- The fields of a schema declare those of a layout, and the messages inside are read as their
decoder accepts them. -/
structure Level (decoder : String → List UInt8 → Except DynamicFault Json)
    (fields : List SchemaField) (layout : Layout) : Prop where
  regular : layout.Regular
  exists_declared : ∀ field ∈ fields, ∃ declared ∈ layout.fields, field.Declares declared
  exists_field : ∀ declared ∈ layout.fields, ∃ field ∈ fields, field.Declares declared
  follows : ∀ field ∈ fields, ∀ declared ∈ layout.fields, field.Declares declared →
    ∀ nested, declared.2.2.2 = .message nested → nested.Follows (decoder (field.message.getD ""))

namespace Level

/-- The field of a schema that is found by the number of a field of the layout. -/
def Found (fields : List SchemaField) (number : Nat) (field : SchemaField) : Prop :=
  fields.find? (fun other => other.number.toNat = number) = some field

theorem unpacked (h : Level decoder fields layout) :
    ∀ field ∈ fields, Schema.Unpacked field := by
  intro field hfield hrepeated
  obtain ⟨declared, hmem, hdeclares⟩ := h.exists_declared field hfield
  rw [hdeclares.kind_eq, FieldType.wireType_kind]
  exact h.regular.unpacked declared hmem (hdeclares.repeated_iff.mp hrepeated)

theorem find?_eq_none (h : Level decoder fields layout)
    (hfind : fields.find? (fun field => field.number.toNat = number) = none) :
    layout.find? number = none := by
  rw [Layout.find?_eq_none_iff]
  rintro declared hmem rfl
  obtain ⟨field, hfield, hdeclares⟩ := h.exists_field declared hmem
  have hne := List.find?_eq_none.mp hfind field hfield
  exact hne (decide_eq_true hdeclares.number_eq)

/-- What a schema's field of a number declares is the layout's field of that number. -/
theorem exists_find? (h : Level decoder fields layout) (hfound : Found fields number field) :
    ∃ i name occurrence type, layout.find? number = some (i, number, name, occurrence, type) ∧
      field.Declares (number, name, occurrence, type) := by
  have hnumber : field.number.toNat = number := by simpa using List.find?_some hfound
  obtain ⟨⟨other, name, occurrence, type⟩, hmem, hdeclares⟩ :=
    h.exists_declared field (List.mem_of_find?_eq_some hfound)
  obtain rfl : other = number := hdeclares.number_eq.symm.trans hnumber
  obtain ⟨i, hi⟩ := List.getElem?_of_mem hmem
  exact ⟨i, name, occurrence, type, h.regular.find?_eq hi, hdeclares⟩

theorem exists_found (h : Level decoder fields layout)
    (hat : layout.fields[i]? = some (number, name, occurrence, type)) :
    ∃ field, Found fields number field ∧ field.Declares (number, name, occurrence, type) := by
  obtain ⟨other, hother, hdeclares⟩ := h.exists_field _ (List.mem_of_getElem? hat)
  have hsome : (fields.find? fun field => field.number.toNat = number).isSome :=
    List.find?_isSome.mpr ⟨other, hother, decide_eq_true hdeclares.number_eq⟩
  obtain ⟨field, hfield⟩ := Option.isSome_iff_exists.mp hsome
  obtain ⟨j, _, _, _, hfind, hdeclares'⟩ := h.exists_find? hfield
  rw [h.regular.find?_eq hat] at hfind
  cases hfind
  exact ⟨field, hfield, hdeclares'⟩

theorem declares_of_found (h : Level decoder fields layout)
    (hat : layout.fields[i]? = some (number, name, occurrence, type))
    (hfound : Found fields number field) : field.Declares (number, name, occurrence, type) := by
  obtain ⟨other, hother, hdeclares⟩ := h.exists_found hat
  cases hfound.symm.trans hother
  exact hdeclares

theorem number_eq_of_found {other : Nat} (h : Found fields number field)
    (h' : Found fields other field) : number = other := by
  have hfirst : field.number.toNat = number := by simpa using List.find?_some h
  have hsecond : field.number.toNat = other := by simpa using List.find?_some h'
  exact hfirst.symm.trans hsecond

/-- Fields at two positions have two numbers. -/
theorem position_eq {j : Nat} {other : LayoutField} (h : Level decoder fields layout)
    (hi : layout.fields[i]? = some declared) (hj : layout.fields[j]? = some other)
    (heq : declared.1 = other.1) : i = j := by
  have hfind := h.regular.find?_eq hi
  rw [heq, h.regular.find?_eq hj] at hfind
  exact (Prod.mk.inj (Option.some.inj hfind)).1.symm

/-! ### The records of a level -/

/-- What records and the values in them come to for both decoders, field by field: single messages
are merged from the values before, all other values are the same. -/
structure Mirrored (fields : List SchemaField) (layout : Layout) (values : List FieldValue)
    (frames : List (Nat × Content)) (occurrences : List (SchemaField × Json))
    (puts : List (Nat × FieldValue)) : Prop where
  items_eq : ∀ {i number : Nat} {name : String} {occurrence : Occurrence} {type : FieldType}
    {field : SchemaField}, layout.fields[i]? = some (number, name, occurrence, type) →
    Found fields number field → (occurrence = .single → type.nested? = none) →
      (itemsAt i puts).map (FieldValue.toJson type) = occurrencesOf field occurrences
  merged : ∀ {i number : Nat} {name : String} {nested : Layout} {old : FieldValue},
    layout.fields[i]? = some (number, name, .single, .message nested) → values[i]? = some old →
      nested.Merged old (payloadsOf number frames) (itemsAt i puts)

theorem Mirrored.nil : Mirrored fields layout values [] [] [] where
  items_eq _ _ _ := rfl
  merged _ _ := .unchanged

/-- A record of no field leaves all fields alone. -/
theorem Mirrored.skip (h : Level decoder fields layout)
    (hfind : fields.find? (fun field => field.number.toNat = number) = none)
    (hrest : Mirrored fields layout values frames occurrences puts) :
    Mirrored fields layout values ((number, content) :: frames) occurrences puts where
  items_eq := hrest.items_eq
  merged := by
    intro i other name nested old hat hold
    have hne : number ≠ other := by
      rintro rfl
      have hsome := h.regular.find?_eq hat
      rw [h.find?_eq_none hfind] at hsome
      cases hsome
    rw [payloadsOf_cons_of_ne hne]
    exact hrest.merged hat hold

/-- One more record in front belongs to one field, and leaves the others alone. -/
theorem Mirrored.cons (h : Level decoder fields layout) (hfound : Found fields number field)
    (hat : layout.fields[i]? = some (number, name, occurrence, type))
    (hjson : (occurrence = .single → type.nested? = none) → new.toJson type = json)
    (hmerged : ∀ nested, type = .message nested → occurrence = .single → ∃ payload final,
      content = .lengthDelimited payload ∧ new = .message final ∧
        nested.Reads (Layout.continued .single nested (values.getD i .absent)) payload final)
    (hrest : Mirrored fields layout (layout.put values (i, new)) frames occurrences puts) :
    Mirrored fields layout values ((number, content) :: frames) ((field, json) :: occurrences)
      ((i, new) :: puts) where
  items_eq := by
    intro j other name' occurrence' type' field' hat' hfound' hplain
    have hitems := hrest.items_eq hat' hfound' hplain
    by_cases hij : i = j
    · -- the record holds one more value of the field
      subst hij
      cases hat.symm.trans hat'
      cases hfound.symm.trans hfound'
      rw [Layout.itemsAt_cons_self, List.map_cons, hjson hplain, hitems, occurrencesOf_cons_self]
    · have hfield : field ≠ field' := by
        rintro rfl
        exact hij (h.position_eq hat hat' (number_eq_of_found hfound hfound'))
      rw [Layout.itemsAt_cons_of_ne hij, hitems, occurrencesOf_cons_of_ne hfield]
  merged := by
    intro j other name' nested old hat' hold
    by_cases hij : i = j
    · -- the records behind it continue the message that this one leaves
      subst hij
      cases hat.symm.trans hat'
      obtain ⟨payload, final, rfl, rfl, hreads⟩ := hmerged nested rfl rfl
      have hlt := (List.getElem?_eq_some_iff.mp hold).1
      have hnow : (layout.put values (i, .message final))[i]? = some (.message final) := by
        rw [Layout.put_eq hat, Layout.addRecord_single, List.getElem?_set_self hlt]
      rw [List.getD, hold, Option.getD_some] at hreads
      rw [Layout.itemsAt_cons_self, payloadsOf_cons_self]
      exact .cons hreads (hrest.merged hat hnow)
    · have hnumber : number ≠ other := fun heq => hij (h.position_eq hat hat' heq)
      rw [← Layout.getElem?_put_of_ne hij] at hold
      rw [Layout.itemsAt_cons_of_ne hij, payloadsOf_cons_of_ne hnumber]
      exact hrest.merged hat' hold

/-- The message that a record of a message field leaves: a new one for a repeated field, and for a
single one what the record makes of the message before. -/
theorem exists_message {nested : Layout} {payload : List UInt8}
    {decode : List UInt8 → Except DynamicFault Json} (hfollows : nested.Follows decode)
    (hdecode : decode payload = .ok json) (occurrence : Occurrence) (old : FieldValue) :
    ∃ final, nested.Reads (Layout.continued occurrence nested old) payload final ∧
      (occurrence ≠ .single → nested.toJson final = json) := by
  cases occurrence with
  | single =>
    obtain ⟨final, hreads⟩ := hfollows.accepts hdecode (Layout.continued .single nested old)
    exact ⟨final, hreads, fun hne => absurd rfl hne⟩
  | repeated =>
    obtain ⟨final, hreads, hjson⟩ := hfollows.agrees hdecode
    have hnew : Layout.continued .repeated nested old = nested.empty := by cases old <;> rfl
    exact ⟨final, hnew ▸ hreads, fun _ => hjson⟩

/-- The records that hold values for a schema's decoder are read by the built-in one. -/
theorem reads (h : Level decoder fields layout)
    (hholds : Schema.Holds decoder fields frames occurrences) (hframed : Framed frames bytes)
    (values : List FieldValue) :
    ∃ puts, layout.Reads values bytes (puts.foldl layout.put values) ∧
      Mirrored fields layout values frames occurrences puts := by
  -- the first record changes the values that the others start from
  induction hholds generalizing bytes values with
  | nil =>
    cases hframed
    exact ⟨[], .done, .nil⟩
  | undeclared hfind _ ih =>
    cases hframed with
    | cons hkey hwritten hrest =>
      obtain ⟨puts, hreads, hmirrored⟩ := ih hrest values
      exact ⟨puts, .undeclared (h.find?_eq_none hfind) hkey hwritten.toPayload hreads,
        hmirrored.skip h hfind⟩
  | @declared number content field json frames occurrences hfound hshape hvalue _ ih =>
    cases hframed with
    | cons hkey hwritten hrest =>
      obtain ⟨i, name, occurrence, type, hfind, hdeclares⟩ := h.exists_find? hfound
      have hat := Layout.find?_eq_some hfind
      have hkind : field.kind = type.kind := hdeclares.kind_eq
      rw [hkind, FieldType.wireType_kind] at hshape
      rw [hshape] at hkey
      cases htype : type.nested? with
      | none =>
        obtain ⟨new, hnew, hjson⟩ := FieldType.reads_of_valueOf htype hkind hshape hwritten hvalue
        obtain ⟨puts, hreads, hmirrored⟩ := ih hrest (layout.put values (i, new))
        refine ⟨(i, new) :: puts, ?_, hmirrored.cons h hfound hat (fun _ => hjson) ?_⟩
        · rw [List.foldl_cons]
          rw [Layout.put_eq hat] at hreads ⊢
          exact .value hfind hkey hnew hreads
        · rintro nested rfl
          cases htype
      | some nested =>
        obtain rfl := FieldType.eq_message_of_nested? htype
        obtain ⟨payload, rfl, hdelimited, hdecode⟩ :=
          Schema.payload_of_valueOf hkind hshape hwritten hvalue
        have hfollows := h.follows field (List.mem_of_find?_eq_some hfound) _
          (List.mem_of_getElem? hat) hdeclares nested rfl
        obtain ⟨final, hfinal, hjson⟩ :=
          exists_message hfollows hdecode occurrence (values.getD i .absent)
        obtain ⟨puts, hreads, hmirrored⟩ := ih hrest (layout.put values (i, .message final))
        refine ⟨(i, .message final) :: puts, ?_, hmirrored.cons h hfound hat ?_ ?_⟩
        · rw [List.foldl_cons]
          rw [Layout.put_eq hat] at hreads ⊢
          exact .message hfind hkey hfinal hdelimited hreads
        · intro hplain
          rw [FieldValue.toJson]
          refine hjson fun hsingle => ?_
          cases hplain hsingle
        · rintro other heq rfl
          cases heq
          exact ⟨payload, final, rfl, rfl, hfinal⟩

/-! ### The objects of a level -/

theorem declared_eq {other : LayoutField} (h : Level decoder fields layout)
    (hmem : declared ∈ layout.fields) (hother : other ∈ layout.fields)
    (hname : declared.2.1 = other.2.1) : declared = other :=
  List.inj_on_of_nodup_map h.regular.names hmem hother hname

/-- Under the name of a field the decoder of a schema puts what its occurrences make. -/
theorem get?_fillAbsent (h : Level decoder fields layout)
    (hholds : Schema.Holds decoder fields frames occurrences) (hfound : Found fields number field)
    (hmem : (number, name, occurrence, type) ∈ layout.fields)
    (hdeclares : field.Declares (number, name, occurrence, type)) :
    (Schema.fillAbsent fields (Schema.gather occurrences)).get? name =
      some (field.collect (occurrencesOf field occurrences)) := by
  obtain rfl : field.name = name := hdeclares.name_eq
  -- of all fields of this name, the occurrences are those of the one found by number
  have hself : ∀ occurrence ∈ occurrences,
      occurrence.1.name = field.name → occurrence.1 = field := by
    intro entry hentry hname
    obtain ⟨other, hother⟩ := hholds.exists_find? entry hentry
    obtain ⟨j, _, _, _, hfind, hdeclares'⟩ := h.exists_find? hother
    have heq := h.declared_eq (List.mem_of_getElem? (Layout.find?_eq_some hfind)) hmem
      (hdeclares'.name_eq.symm.trans hname)
    obtain rfl : other = number := (Prod.mk.inj heq).1
    exact Option.some.inj (hother.symm.trans hfound)
  rw [Schema.get?_fillAbsent, Schema.get?_gather hself]
  by_cases hnone : occurrencesOf field occurrences = []
  · have hsome : (fields.find? fun other => other.name = field.name).isSome :=
      List.find?_isSome.mpr ⟨field, List.mem_of_find?_eq_some hfound, decide_eq_true rfl⟩
    obtain ⟨other, hother⟩ := Option.isSome_iff_exists.mp hsome
    have hname : other.name = field.name := by simpa using List.find?_some hother
    obtain ⟨declared, hdeclared, hdeclares'⟩ :=
      h.exists_declared other (List.mem_of_find?_eq_some hother)
    obtain rfl := h.declared_eq hdeclared hmem (hdeclares'.name_eq.symm.trans hname)
    rw [if_pos hnone, Option.none_or, hother, hnone, Schema.collect_nil]
    exact congrArg some (hdeclares'.absentValue_eq hdeclares)
  · rw [if_neg hnone, Option.some_or]

/-- What the records of a field leave is, as JSON, what their values make. -/
theorem toJson_foldl (hdeclares : field.Declares (number, name, occurrence, type))
    (items : List FieldValue) :
    (items.foldl (Layout.addRecord occurrence) (Layout.absentValue occurrence type)).toJson type =
      field.collect (items.map (FieldValue.toJson type)) := by
  have hkind : field.kind = type.kind := hdeclares.kind_eq
  rw [SchemaField.collect, hkind]
  cases occurrence with
  | repeated =>
    have hlist : (Layout.absentValue .repeated type) = .list [] := by cases type <;> rfl
    rw [if_pos (hdeclares.repeated_iff.mpr rfl), hlist, Layout.foldl_addRecord_repeated,
      List.nil_append, ← FieldValue.itemsToJson_eq_map]
    cases type <;> rw [FieldValue.toJson]
  | single =>
    have habsent : (Layout.absentValue .single type).toJson type = type.kind.absentValue := by
      cases type with
      | message =>
        simp [Layout.absentValue, FieldValue.toJson, FieldType.kind, FieldKind.absentValue]
      | _ => rw [Layout.absentValue, FieldValue.toJson]; rfl
    rw [if_neg hdeclares.not_repeated, Layout.foldl_addRecord_single, List.getLast?_map, ← habsent,
      Option.getD_map]

theorem get?_toJson (h : Level decoder fields layout)
    (hat : layout.fields[i]? = some (number, name, occurrence, type))
    (hdeclares : field.Declares (number, name, occurrence, type))
    (puts : List (Nat × FieldValue)) :
    (Members.ofList (Layout.membersToJson layout.fields
      (puts.foldl layout.put layout.empty))).get? name =
        some (field.collect ((itemsAt i puts).map (FieldValue.toJson type))) := by
  have hvalue : (puts.foldl layout.put layout.empty)[i]? =
      some ((itemsAt i puts).foldl (Layout.addRecord occurrence)
        (Layout.absentValue occurrence type)) := by
    rw [Layout.getElem?_foldl_put hat, Layout.empty, List.getElem?_map, hat]
    rfl
  have hzip : (layout.fields.zip (puts.foldl layout.put layout.empty))[i]? =
      some ((number, name, occurrence, type), _) :=
    List.getElem?_zip_eq_some.mpr ⟨hat, hvalue⟩
  rw [Layout.get?_membersToJson h.regular.names (List.mem_of_getElem? hzip),
    toJson_foldl hdeclares]

/-- The objects of both decoders are the same if they are the same field by field. -/
theorem object_eq_iff (h : Level decoder fields layout)
    (hholds : Schema.Holds decoder fields frames occurrences) (puts : List (Nat × FieldValue)) :
    Json.object (Schema.fillAbsent fields (Schema.gather occurrences)) =
        layout.toJson (puts.foldl layout.put layout.empty) ↔
      ∀ {i number : Nat} {name : String} {occurrence : Occurrence} {type : FieldType}
        {field : SchemaField}, layout.fields[i]? = some (number, name, occurrence, type) →
        Found fields number field →
          field.collect (occurrencesOf field occurrences) =
            field.collect ((itemsAt i puts).map (FieldValue.toJson type)) := by
  rw [Layout.toJson_eq, Json.ofMembers]
  constructor
  · intro heq i number name occurrence type field hat hfound
    have hdeclares := h.declares_of_found hat hfound
    have hget := h.get?_fillAbsent hholds hfound (List.mem_of_getElem? hat) hdeclares
    rw [Json.object.inj heq, h.get?_toJson hat hdeclares] at hget
    exact (Option.some.inj hget).symm
  · intro hall
    -- both objects are sorted, so it is enough to compare what is found in them
    have hsorted := Schema.sorted_fillAbsent fields (Schema.sorted_gather occurrences)
    refine congrArg Json.object (hsorted.ext (Members.sorted_ofList _) fun name => ?_)
    by_cases hname : ∃ declared ∈ layout.fields, declared.2.1 = name
    · obtain ⟨⟨number, _, occurrence, type⟩, hmem, rfl⟩ := hname
      obtain ⟨i, hat⟩ := List.getElem?_of_mem hmem
      obtain ⟨field, hfound, hdeclares⟩ := h.exists_found hat
      rw [h.get?_fillAbsent hholds hfound hmem hdeclares, h.get?_toJson hat hdeclares,
        hall hat hfound]
    -- neither object has a name that is not declared
    · have hother : ∀ declared ∈ layout.fields, declared.2.1 ≠ name := fun declared hmem heq =>
        hname ⟨declared, hmem, heq⟩
      have hfields : ∀ field ∈ fields, field.name ≠ name := by
        intro field hfield
        obtain ⟨declared, hmem, hdeclares⟩ := h.exists_declared field hfield
        rw [hdeclares.name_eq]
        exact hother declared hmem
      have hoccurrences : ∀ occurrence ∈ occurrences, occurrence.1.name ≠ name := by
        intro occurrence hmem
        obtain ⟨number, hfind⟩ := hholds.exists_find? occurrence hmem
        exact hfields _ (List.mem_of_find?_eq_some hfind)
      have hnone : fields.find? (fun field => field.name = name) = none :=
        List.find?_eq_none.mpr fun field hfield => by simpa using hfields field hfield
      rw [Layout.get?_membersToJson_eq_none hother, Schema.get?_fillAbsent,
        Schema.get?_gather_of_ne hoccurrences, hnone]
      rfl

/-! ### Single messages -/

/-- The byte strings of a message field are accepted one by one. -/
theorem forall₂_payloads (hholds : Schema.Holds decoder fields frames occurrences)
    (hfound : Found fields number field) (hkind : field.kind = .message) :
    List.Forall₂ (fun payload json => decoder (field.message.getD "") payload = .ok json)
      (payloadsOf number frames) (occurrencesOf field occurrences) := by
  -- a record of another field is in neither list
  induction hholds with
  | nil => exact .nil
  | @undeclared other content frames occurrences hfind _ ih =>
    have hne : other ≠ number := by
      rintro rfl
      cases hfind.symm.trans hfound
    rw [payloadsOf_cons_of_ne hne]
    exact ih
  | @declared other content owner json frames occurrences hfind hshape hvalue _ ih =>
    by_cases hnumber : other = number
    · subst hnumber
      obtain rfl : owner = field := Option.some.inj (hfind.symm.trans hfound)
      rw [hkind] at hshape
      cases content with
      | lengthDelimited payload =>
        rw [Schema.valueOf, Schema.ofDelimited, hkind] at hvalue
        rw [payloadsOf_cons_self, occurrencesOf_cons_self]
        exact .cons hvalue ih
      | _ => cases hshape
    · have howner : owner ≠ field := by
        rintro rfl
        exact hnumber (number_eq_of_found hfind hfound)
      rw [payloadsOf_cons_of_ne hnumber, occurrencesOf_cons_of_ne howner]
      exact ih

theorem exists_getLast? {α β : Type} {R : α → β → Prop} {front : List α} {last : α} {bs : List β}
    (h : List.Forall₂ R (front ++ [last]) bs) : ∃ b, bs.getLast? = some b ∧ R last b := by
  have hreverse := List.forall₂_reverse_iff.mpr h
  rw [List.reverse_concat] at hreverse
  rw [List.getLast?_eq_head?_reverse]
  generalize bs.reverse = reversed at hreverse
  cases hreverse with
  | cons hlast _ => exact ⟨_, rfl, hlast⟩

theorem run_builtin {depth : Nat} {final : List FieldValue}
    (h : layout.Reads layout.empty bytes final) (hnests : layout.Nests depth)
    (hdepth : depth < Layout.maxNesting) :
    (Decoder.builtin layout).run bytes = .ok (layout.toJson final) := by
  rw [Decoder.run, h.decode_eq hnests hdepth]

/-- A single message is the same for both decoders if it is the same whether all its records count
or only the last one. -/
theorem collect_eq_iff (h : Level decoder fields layout)
    (hholds : Schema.Holds decoder fields frames occurrences)
    (hmirrored : Mirrored fields layout layout.empty frames occurrences puts) {nested : Layout}
    (hat : layout.fields[i]? = some (number, name, .single, .message nested))
    (hfound : Found fields number field) {depth : Nat} (hnests : nested.Nests depth)
    (hdepth : depth < Layout.maxNesting) :
    field.collect (occurrencesOf field occurrences) =
        field.collect ((itemsAt i puts).map (FieldValue.toJson (.message nested))) ↔
      ∀ front last, payloadsOf number frames = front ++ [last] →
        (Decoder.builtin nested).run (front ++ [last]).flatten =
          (Decoder.builtin nested).run last := by
  have hdeclares := h.declares_of_found hat hfound
  have hfollows := h.follows field (List.mem_of_find?_eq_some hfound) _ (List.mem_of_getElem? hat)
    hdeclares nested rfl
  have hforall := forall₂_payloads hholds hfound hdeclares.kind_eq
  have habsent : layout.empty[i]? = some .absent := by
    rw [Layout.empty, List.getElem?_map, hat]
    rfl
  have hmerged := hmirrored.merged hat habsent
  rw [SchemaField.collect, SchemaField.collect, if_neg hdeclares.not_repeated,
    if_neg hdeclares.not_repeated]
  generalize payloadsOf number frames = payloads, occurrencesOf field occurrences = jsons,
    itemsAt i puts = items at hforall hmerged ⊢
  cases hmerged with
  | unchanged =>
    cases hforall
    refine ⟨fun _ front last hempty => ?_, fun _ => rfl⟩
    cases front <;> cases hempty
  | @merged _ _ final hne hlast hreads =>
    -- one decoder has the message of all byte strings, the other has that of the last one
    obtain ⟨front, last, rfl⟩ : ∃ front last, payloads = front ++ [last] :=
      ⟨_, _, (List.dropLast_append_getLast hne).symm⟩
    obtain ⟨json, hjson, hdecode⟩ := exists_getLast? hforall
    obtain ⟨fields', hfields', rfl⟩ := hfollows.agrees hdecode
    have hall := run_builtin hreads hnests hdepth
    have hend := run_builtin hfields' hnests hdepth
    rw [hjson, List.getLast?_map, hlast, Option.map_some, Option.getD_some, Option.getD_some,
      FieldValue.toJson]
    constructor
    · intro heq front' last' hpayloads
      rw [← hpayloads, hall, ← heq, ← hend]
      obtain ⟨rfl, hlast'⟩ := List.append_inj' hpayloads rfl
      cases hlast'
      rfl
    · intro hsame
      have heq := hsame front last rfl
      rw [hall, hend] at heq
      exact (Except.ok.inj heq).symm

/-- What both decoders make of the records of a level. -/
theorem agreement (h : Level decoder fields layout) {depth : Nat} (hshallow : layout.Shallow depth)
    (hdepth : depth < Layout.maxNesting)
    (hholds : Schema.Holds decoder fields frames occurrences) (hframed : Framed frames bytes) :
    ∃ final, layout.Reads layout.empty bytes final ∧
      (Json.object (Schema.fillAbsent fields (Schema.gather occurrences)) = layout.toJson final ↔
        ∀ number name nested, (number, name, .single, .message nested) ∈ layout.fields →
          ∀ front last, payloadsOf number frames = front ++ [last] →
            (Decoder.builtin nested).run (front ++ [last]).flatten =
              (Decoder.builtin nested).run last) := by
  obtain ⟨puts, hreads, hmirrored⟩ := h.reads hholds hframed layout.empty
  refine ⟨_, hreads, (h.object_eq_iff hholds puts).trans ?_⟩
  have hnests : ∀ {number : Nat} {name : String} {nested : Layout},
      (number, name, .single, .message nested) ∈ layout.fields → nested.Nests depth := fun hmem =>
    Layout.nests_of_plain (Layout.plain_of_shallow hshallow hmem)
  constructor
  · intro hall number name nested hmem
    obtain ⟨i, hat⟩ := List.getElem?_of_mem hmem
    obtain ⟨field, hfound, -⟩ := h.exists_found hat
    exact (h.collect_eq_iff hholds hmirrored hat hfound (hnests hmem) hdepth).mp (hall hat hfound)
  · intro hall i number name occurrence type field hat hfound
    by_cases hplain : occurrence = .single → type.nested? = none
    -- all but single messages are the same in any case
    · rw [hmirrored.items_eq hat hfound hplain]
    · obtain ⟨rfl, htype⟩ := Classical.not_imp.mp hplain
      obtain ⟨nested, hsome⟩ := Option.ne_none_iff_exists'.mp htype
      obtain rfl := FieldType.eq_message_of_nested? hsome
      have hmem := List.mem_of_getElem? hat
      exact (h.collect_eq_iff hholds hmirrored hat hfound (hnests hmem) hdepth).mpr
        (hall number name nested hmem)

end Level

end ChainFeed
