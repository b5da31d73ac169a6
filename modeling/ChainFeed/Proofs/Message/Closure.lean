import ChainFeed.Proofs.Message.Grammar

/-!
# Types that are declared

A schema file is used only if the type of each of its fields of kind message is declared in it, by
its full name or by its name in the package. The messages of a schema are then closed under the
types of their fields: the decoder of a declared message goes on to declared messages only, however
deep it comes and whatever the bytes are. That the decoder reads a name it does not find as a
message without fields is of no consequence; anything else could stand in its place.

## Main definitions

- `Schema.decodeWith`: the decoder with something else in the place of undeclared messages
- `Schema.Closed`: each field of kind message leads to a message of the schema
- `SchemaFile.LoadsClosed`: which files are used, what they are resolved to, and what is read with
  them

## Main results

- `Schema.Closed.decodeWith_eq`: what stands in the place of undeclared messages does not matter
- `SchemaFile.closed_of_resolve`: the schema of a file is closed
- `SchemaFile.loadsClosed_load`: which files are used, and that their decoders stay inside them
-/

namespace ChainFeed

/-! ### Decoding declared messages -/

namespace Schema

variable {schema : Schema} {nested other : String → List UInt8 → Except DynamicFault Json}
  {unknown : Nat → String → List UInt8 → Except DynamicFault Json} {field : SchemaField}
  {fields : List SchemaField} {name : String}

/-- The fields of a declared message. -/
def find? (schema : Schema) (name : String) : Option (List SchemaField) :=
  schema.messages.reverse.lookup name

/-- The decoder of a schema, with `unknown` in the place of the messages that are not declared. -/
def decodeWith (unknown : Nat → String → List UInt8 → Except DynamicFault Json) (schema : Schema) :
    (room : Nat) → String → List UInt8 → Except DynamicFault Json
  | 0, name, bytes =>
    match schema.find? name with
    | none => unknown 0 name bytes
    | some _ => .error .depthExceeded
  | room + 1, name, bytes =>
    match schema.find? name with
    | none => unknown (room + 1) name bytes
    | some fields =>
      (decodeRecords (decodeWith unknown schema room) fields (bytes.length + 1) [] bytes).map
        fun out => .object (fillAbsent fields out)

/-- The fields of a schema that are of kind message lead to messages of the schema. -/
def Closed (schema : Schema) : Prop :=
  ∀ name, ∀ field ∈ schema.fields name, field.kind = .message →
    ∃ target ∈ schema.names, field.message = some target

theorem find?_of_mem (h : name ∈ schema.names) : schema.find? name = some (schema.fields name) := by
  rw [Schema.fields, ← find?]
  cases hfind : schema.find? name with
  | some fields => rfl
  | none =>
    obtain ⟨entry, hentry, rfl⟩ := List.mem_map.mp h
    have hne := List.lookup_eq_none_iff.mp hfind entry (List.mem_reverse.mpr hentry)
    exact absurd rfl (bne_iff_ne.mp hne)

/-- Two decoders do the same for the values of a field. -/
def Alike (nested other : String → List UInt8 → Except DynamicFault Json) (field : SchemaField) :
    Prop :=
  field.kind = .message → nested (field.message.getD "") = other (field.message.getD "")

theorem Alike.decodeValue_eq (h : Alike nested other field) :
    decodeValue nested field = decodeValue other field := by
  have hdelimited : ofDelimited nested field = ofDelimited other field := by
    funext payload
    rw [ofDelimited, ofDelimited]
    split
    · rfl
    · rename_i hkind
      rw [h hkind]
    · rfl
  funext bytes
  rw [decodeValue, decodeValue, hdelimited]

theorem Alike.decodeRecord_eq (h : Alike nested other field) :
    decodeRecord nested field = decodeRecord other field := by
  have hpacked : decodePacked nested field = decodePacked other field := by
    funext fuel out bytes
    rw [decodePacked_eq_untilEnd, decodePacked_eq_untilEnd]
    have hstep : packedStep nested field = packedStep other field := by
      funext out bytes
      rw [packedStep, packedStep, h.decodeValue_eq]
    rw [hstep]
  funext wireType out bytes
  rw [decodeRecord, decodeRecord, h.decodeValue_eq, hpacked]

/-- What is read of a message depends on the messages that its fields lead to only. -/
theorem decodeRecords_congr (h : ∀ field ∈ fields, Alike nested other field) :
    decodeRecords nested fields = decodeRecords other fields := by
  have hstep : recordStep nested fields = recordStep other fields := by
    funext out bytes
    rw [recordStep, recordStep]
    split
    · rfl
    · split
      · rfl
      · rename_i field hfind
        rw [(h field (List.mem_of_find?_eq_some hfind)).decodeRecord_eq]
  funext fuel out bytes
  rw [decodeRecords_eq_untilEnd, decodeRecords_eq_untilEnd, hstep]

/-- A message without fields, whose records are all passed over. -/
def withoutFields : (room : Nat) → String → List UInt8 → Except DynamicFault Json
  | 0, _, _ => .error .depthExceeded
  | _ + 1, _, bytes =>
    (decodeRecords (fun _ _ => .ok .null) [] (bytes.length + 1) [] bytes).map .object

/-- The decoder of a schema reads a message without fields where a name is not declared. -/
theorem decodeWith_withoutFields (schema : Schema) (room : Nat) :
    schema.decodeWith withoutFields room = schema.decodeMessage room := by
  induction room with
  | zero =>
    funext name bytes
    rw [decodeWith]
    split <;> rfl
  | succ room ih =>
    funext name bytes
    rw [decodeWith, decodeMessage, ih, Schema.fields, ← find?]
    split
    · -- without fields no record is left to what is nested
      rename_i hfind
      have halike : ∀ field ∈ ([] : List SchemaField),
          Alike (fun _ _ => .ok .null) (schema.decodeMessage room) field :=
        fun _ hmem => absurd hmem List.not_mem_nil
      rw [hfind, withoutFields, decodeRecords_congr halike]
      rfl
    · rename_i fields hfind
      rw [hfind]
      rfl

/-- In a closed schema it does not matter what is read for undeclared messages: the decoder of a
declared one never comes to them. -/
theorem Closed.decodeWith_eq (h : schema.Closed) (room : Nat) (hname : name ∈ schema.names) :
    schema.decodeWith unknown room name = schema.decodeMessage room name := by
  induction room generalizing name with
  | zero =>
    funext bytes
    rw [decodeWith, decodeMessage, find?_of_mem hname]
  | succ room ih =>
    have halike : ∀ field ∈ schema.fields name,
        Alike (schema.decodeWith unknown room) (schema.decodeMessage room) field := by
      intro field hfield hkind
      obtain ⟨target, htarget, hmessage⟩ := h name field hfield hkind
      rw [hmessage, Option.getD_some]
      exact ih htarget
    funext bytes
    rw [decodeWith, decodeMessage, find?_of_mem hname]
    dsimp only
    rw [decodeRecords_congr halike]

end Schema

/-! ### Schemas of files -/

namespace SchemaFile

variable {file : SchemaFile} {path : String} {schema : Schema}

/-- The types of the fields of a schema that was resolved are messages of the schema. -/
theorem closed_of_resolve (h : file.resolve path = .ok schema) : schema.Closed := by
  intro name field hfield hkind
  -- whichever declaration of the name counts, its fields were resolved
  rcases schema.fields_eq_or_mem name with hnil | ⟨entry, hentry, heq⟩
  · rw [hnil] at hfield
    exact absurd hfield List.not_mem_nil
  · have hmessages := resolve_eq_ok_iff.mp h
    obtain ⟨message, -, -, hfields⟩ := exists_of_mem_of_forall₂ hmessages hentry
    rw [heq] at hfield
    obtain ⟨declaration, -, hresolves⟩ := exists_of_mem_of_forall₂ hfields hfield
    obtain ⟨_, target, -, hrefers, hmessage⟩ :=
      hresolves.exists_refers (hresolves.kind.symm.trans hkind)
    rw [names_of_resolve h]
    exact ⟨target, hrefers.mem_declared, hmessage⟩

/-- A file is used just if the types of its fields are declared, and what its decoders read is then
a matter of the declared messages. -/
structure LoadsClosed (path : String) (text : Except FileError String) : Prop where
  /-- The files that are used are those whose fields are all sound. -/
  loads_iff : (∃ schema, load path text = .ok schema) ↔ ∃ file, Declares text file ∧
    ∀ message ∈ file.messages, ∀ field ∈ message.fields, file.Sound field
  /-- Of a file that is not used, the first field that is not sound is the error. -/
  fails_iff : ∀ fault, load path text = .error fault ↔ Refuses path text fault
  /-- A schema has the messages of its file in order, with the message that each field leads to. -/
  resolves : ∀ schema, load path text = .ok schema → ∃ file, Declares text file ∧
    List.Forall₂ file.ResolvesMessage file.messages schema.messages
  /-- Each field of kind message leads to a message of the schema. -/
  closed : ∀ schema, load path text = .ok schema → schema.Closed
  /-- There is a decoder for each message that is declared and, at each depth and for all bytes, it
  is the same whatever is read for messages that are not: a message without fields, as the decoder
  of a schema does, or anything else. -/
  decoders : ∀ schema, load path text = .ok schema → ∀ entry ∈ Registry.schemaDecoders schema,
    ∃ name ∈ schema.names, entry = ("/" ++ name, .dynamic schema name) ∧
      ∀ room, schema.decodeWith Schema.withoutFields room = schema.decodeMessage room ∧
        ∀ unknown, schema.decodeWith unknown room name = schema.decodeMessage room name

/-- Whatever the text of a file, none of its names is left dangling. -/
theorem loadsClosed_load (path : String) (text : Except FileError String) :
    LoadsClosed path text where
  loads_iff := by
    simp only [load_eq_ok_iff, ← exists_resolve_iff path]
    constructor
    · rintro ⟨schema, file, hdeclares, h⟩
      exact ⟨file, hdeclares, schema, h⟩
    · rintro ⟨file, hdeclares, schema, h⟩
      exact ⟨schema, file, hdeclares, h⟩
  fails_iff fault := load_eq_error_iff
  resolves schema h := by
    obtain ⟨file, hloads⟩ := load_eq_ok_iff.mp h
    exact ⟨file, hloads.declares, resolve_eq_ok_iff.mp hloads.resolve_eq⟩
  closed schema h := by
    obtain ⟨file, hloads⟩ := load_eq_ok_iff.mp h
    exact closed_of_resolve hloads.resolve_eq
  decoders schema h entry hentry := by
    obtain ⟨file, hloads⟩ := load_eq_ok_iff.mp h
    obtain ⟨name, hname, rfl⟩ := List.mem_map.mp hentry
    refine ⟨name, hname, rfl, fun room => ⟨schema.decodeWith_withoutFields room, ?_⟩⟩
    intro unknown
    exact (closed_of_resolve hloads.resolve_eq).decodeWith_eq room hname

end SchemaFile

end ChainFeed
