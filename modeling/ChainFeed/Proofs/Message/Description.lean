import ChainFeed.Message.Dynamic
import ChainFeed.Proofs.Message.Reading

/-!
# Schemas that describe a layout

A schema may declare a message type that is also laid out: with the same fields, by number, name,
kind and how often they stand, and with the same messages inside. What its decoder makes of the
messages of a layout depends on where single messages stand in it, and how deep.

## Main definitions

- `Schema.Describes`: a schema has the message type of a layout
- `Layout.Regular`: fields that can be told apart, and are never packed
- `Layout.Plain`, `Layout.Shallow`: layouts with single messages nowhere, or only at the first level

## Main results

- `Layout.Regular.find?_eq`: a field is found by its number
- `Layout.nests_of_shallow`: how deep messages nest
-/

namespace ChainFeed

/-! ### Schemas of a layout -/

/-- The kind of the values of a type. -/
def FieldType.kind : FieldType → FieldKind
  | .text => .string
  | .bytes => .bytes
  | .uint64 => .uint64
  | .int32 => .int32
  | .message _ => .message

theorem FieldType.wireType_kind (type : FieldType) : type.kind.wireType = type.wireType := by
  cases type <;> rfl

/-- A field of a schema that declares a field of a layout. -/
structure SchemaField.Declares (field : SchemaField) (declared : LayoutField) : Prop where
  number_eq : field.number.toNat = declared.1
  name_eq : field.name = declared.2.1
  repeated_iff : field.repeated = true ↔ declared.2.2.1 = .repeated
  kind_eq : field.kind = declared.2.2.2.kind
  isSome_message : field.kind = .message → field.message.isSome = true

instance (field : SchemaField) (declared : LayoutField) : Decidable (field.Declares declared) :=
  decidable_of_iff (field.number.toNat = declared.1 ∧ field.name = declared.2.1 ∧
    (field.repeated = true ↔ declared.2.2.1 = .repeated) ∧ field.kind = declared.2.2.2.kind ∧
    (field.kind = .message → field.message.isSome = true))
    ⟨fun ⟨h₁, h₂, h₃, h₄, h₅⟩ => ⟨h₁, h₂, h₃, h₄, h₅⟩,
      fun ⟨h₁, h₂, h₃, h₄, h₅⟩ => ⟨h₁, h₂, h₃, h₄, h₅⟩⟩

theorem SchemaField.Declares.not_repeated {field : SchemaField} {number : Nat} {name : String}
    {type : FieldType} (h : field.Declares (number, name, .single, type)) :
    ¬ field.repeated = true := by
  intro hrepeated
  cases h.repeated_iff.mp hrepeated

/-- Fields that declare the same have the same default. -/
theorem SchemaField.Declares.absentValue_eq {field other : SchemaField} {declared : LayoutField}
    (h : field.Declares declared) (h' : other.Declares declared) :
    Schema.SchemaField.absentValue field = Schema.SchemaField.absentValue other := by
  have hrepeated : field.repeated = other.repeated :=
    Bool.eq_iff_iff.mpr (h.repeated_iff.trans h'.repeated_iff.symm)
  rw [Schema.SchemaField.absentValue, Schema.SchemaField.absentValue, hrepeated, h.kind_eq,
    h'.kind_eq]

theorem FieldType.eq_message_of_nested? {type : FieldType} {nested : Layout}
    (h : type.nested? = some nested) : type = .message nested := by
  cases type <;> cases h
  rfl

/-- A schema declares, under a name, the fields of a layout, and the messages inside it as well. -/
inductive Schema.Describes (schema : Schema) : String → Layout → Prop
  | mk {name : String} {layout : Layout}
    (hfields : ∀ field ∈ schema.fields name, ∃ declared ∈ layout.fields, field.Declares declared)
    (hlayout : ∀ declared ∈ layout.fields, ∃ field ∈ schema.fields name, field.Declares declared)
    (hnested : ∀ field ∈ schema.fields name, ∀ declared ∈ layout.fields, field.Declares declared →
      ∀ nested, declared.2.2.2 = .message nested → ∀ target, field.message = some target →
        Schema.Describes schema target nested) :
    Schema.Describes schema name layout

/-! ### Layouts -/

namespace Layout

/-- Fields differ in number and in name, and numbers are not repeated. -/
structure Regular (layout : Layout) : Prop where
  numbers : (layout.fields.map (·.1)).Nodup
  names : (layout.fields.map (·.2.1)).Nodup
  unpacked : ∀ field ∈ layout.fields, field.2.2.1 = .repeated →
    field.2.2.2.wireType = .lengthDelimited

instance (layout : Layout) : Decidable layout.Regular :=
  decidable_of_iff ((layout.fields.map (·.1)).Nodup ∧ (layout.fields.map (·.2.1)).Nodup ∧
    ∀ field ∈ layout.fields, field.2.2.1 = .repeated → field.2.2.2.wireType = .lengthDelimited)
    ⟨fun ⟨h₁, h₂, h₃⟩ => ⟨h₁, h₂, h₃⟩, fun ⟨h₁, h₂, h₃⟩ => ⟨h₁, h₂, h₃⟩⟩

/-- All messages are repeated, on at most `depth` levels. -/
def Plain : (depth : Nat) → Layout → Bool
  | 0, _ => false
  | depth + 1, layout => decide layout.Regular && layout.fields.all fun (_, _, occurrence, type) =>
    type.nested?.all fun nested => occurrence = .repeated && nested.Plain depth

/-- All messages inside other messages are repeated, on at most `depth` levels. -/
def Shallow (depth : Nat) (layout : Layout) : Bool :=
  decide layout.Regular && layout.fields.all fun (_, _, _, type) => type.nested?.all (Plain depth)

variable {layout nested : Layout} {depth number i : Nat} {name : String} {occurrence : Occurrence}
  {declared : LayoutField}

theorem regular_of_shallow (h : layout.Shallow depth) : layout.Regular :=
  of_decide_eq_true (Bool.and_eq_true_iff.mp h).1

theorem plain_of_shallow (h : layout.Shallow depth)
    (hmem : (number, name, occurrence, .message nested) ∈ layout.fields) : nested.Plain depth :=
  List.all_eq_true.mp (Bool.and_eq_true_iff.mp h).2 _ hmem

theorem repeated_of_plain (h : layout.Plain (depth + 1))
    (hmem : (number, name, occurrence, .message nested) ∈ layout.fields) :
    occurrence = .repeated ∧ nested.Plain depth := by
  have hall := List.all_eq_true.mp (Bool.and_eq_true_iff.mp h).2 _ hmem
  simpa [FieldType.nested?] using hall

theorem shallow_of_plain (h : layout.Plain (depth + 1)) : layout.Shallow depth := by
  refine Bool.and_eq_true_iff.mpr ⟨(Bool.and_eq_true_iff.mp h).1, List.all_eq_true.mpr ?_⟩
  rintro ⟨number, name, occurrence, type⟩ hmem
  cases type with
  | message nested => exact (repeated_of_plain h hmem).2
  | _ => rfl

theorem nests_succ
    (h : ∀ {number : Nat} {name : String} {occurrence : Occurrence} {nested : Layout},
      (number, name, occurrence, .message nested) ∈ layout.fields → nested.Nests depth) :
    layout.Nests (depth + 1) := by
  refine List.all_eq_true.mpr ?_
  rintro ⟨number, name, occurrence, type⟩ hmem
  cases type with
  | message nested => exact h hmem
  | _ => rfl

theorem nests_of_plain (h : layout.Plain depth) : layout.Nests depth := by
  induction depth generalizing layout with
  | zero => cases h
  | succ depth ih => exact nests_succ fun hmem => ih (repeated_of_plain h hmem).2

theorem nests_of_shallow (h : layout.Shallow depth) : layout.Nests (depth + 1) :=
  nests_succ fun hmem => nests_of_plain (plain_of_shallow h hmem)

theorem find?_eq_none_iff :
    layout.find? number = none ↔ ∀ declared ∈ layout.fields, declared.1 ≠ number := by
  rw [find?, Option.map_eq_none_iff, List.find?_eq_none]
  constructor
  · intro h declared hmem
    obtain ⟨i, hi⟩ := List.getElem?_of_mem hmem
    simpa using h (declared, i) (List.mem_zipIdx_iff_getElem?.mpr hi)
  · rintro h ⟨declared, i⟩ hmem
    simpa using h declared (List.mem_of_getElem? (List.mem_zipIdx_iff_getElem?.mp hmem))

/-- A field is found by its number. -/
theorem Regular.find?_eq (h : layout.Regular) (hdeclared : layout.fields[i]? = some declared) :
    layout.find? declared.1 = some (i, declared) := by
  cases hfind : layout.find? declared.1 with
  | none => exact absurd rfl (find?_eq_none_iff.mp hfind _ (List.mem_of_getElem? hdeclared))
  | some found =>
    obtain ⟨⟨other, j⟩, hother, rfl⟩ := Option.map_eq_some_iff.mp hfind
    have hnumber : other.1 = declared.1 := by simpa using List.find?_some hother
    have hj : layout.fields[j]? = some other :=
      List.mem_zipIdx_iff_getElem?.mp (List.mem_of_find?_eq_some hother)
    have hsame : (layout.fields.map (·.1))[j]? = (layout.fields.map (·.1))[i]? := by
      rw [List.getElem?_map, List.getElem?_map, hj, hdeclared]
      exact congrArg some hnumber
    have hlt : j < (layout.fields.map (·.1)).length := by
      rw [List.length_map]
      exact (List.getElem?_eq_some_iff.mp hj).1
    obtain rfl := (List.getElem?_inj hlt h.numbers).mp hsame
    obtain rfl := Option.some.inj (hj.symm.trans hdeclared)
    rfl

end Layout

end ChainFeed
