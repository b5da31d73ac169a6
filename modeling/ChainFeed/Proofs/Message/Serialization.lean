import ChainFeed.Proofs.Message.Scalar

/-!
# The serializations of a message

A value of a message type has a list of values for each field. Its serializations are the
concatenations of records that carry it: records of different fields may be mixed, the values of a
repeated field come in order, packed or one by one, of a field that occurs once the last record
counts, and records of undeclared fields may stand anywhere.

## Main definitions

- `Item`, `MessageValue`: the values of fields and messages, with `MessageValue.toJson`
- `MessageValue.Within`: how deep messages nest in a value
- `Record`, `Records`: the bytes of records and the occurrences they hold
- `Carried`: which occurrences of a field stand for which values
- `Schema.Serializes`: the bytes of a value
-/

namespace ChainFeed

open Wire

/-! ### Values -/

/-- One value of a field: a message has values for each field number. -/
inductive Item where
  | scalar (value : Scalar)
  | message (items : Nat → List Item)

/-- The values of the fields of a message, by field number. -/
abbrev MessageValue := Nat → List Item

/-- What stands in an object for the values of a field. -/
def SchemaField.collect (field : SchemaField) (values : List Json) : Json :=
  if field.repeated then .array values else values.getLast?.getD field.kind.absentValue

mutual

/-- The JSON of a value; messages are of type `name`. -/
def Item.toJson (schema : Schema) (name : String) : Item → Json
  | .scalar value => value.toJson
  | .message items => .ofMembers ((schema.fields name).map fun field =>
      (field.name, field.collect
        (Item.listToJson schema (field.message.getD "") (items field.number.toNat))))

/-- The JSON of a list of values. -/
def Item.listToJson (schema : Schema) (name : String) : List Item → List Json
  | [] => []
  | item :: items => item.toJson schema name :: Item.listToJson schema name items

end

namespace MessageValue

/-- The object of a message: one member for each declared field. -/
def toJson (schema : Schema) (name : String) (value : MessageValue) : Json :=
  (Item.message value).toJson schema name

/-- At most `room` levels of messages lie below a message. -/
def Within : (room : Nat) → MessageValue → Prop
  | 0, value => ∀ number nested, Item.message nested ∉ value number
  | room + 1, value => ∀ number nested, Item.message nested ∈ value number → Within room nested

end MessageValue

theorem Item.listToJson_eq_map (schema : Schema) (name : String) (items : List Item) :
    Item.listToJson schema name items = items.map (·.toJson schema name) := by
  induction items with
  | nil => rfl
  | cons item items ih => rw [Item.listToJson, ih, List.map_cons]

/-- The JSON of a value of a field. -/
def SchemaField.itemJson (schema : Schema) (field : SchemaField) (item : Item) : Json :=
  item.toJson schema (field.message.getD "")

theorem MessageValue.toJson_eq (schema : Schema) (name : String) (value : MessageValue) :
    value.toJson schema name = .ofMembers ((schema.fields name).map fun field =>
      (field.name, field.collect
        ((value field.number.toNat).map (field.itemJson schema)))) := by
  unfold MessageValue.toJson
  rw [Item.toJson]
  simp only [Item.listToJson_eq_map]
  rfl

/-! ### Records -/

/-- The values that occur of a field, in order. -/
def occurrencesOf {α : Type} (field : SchemaField) (occurrences : List (SchemaField × α)) :
    List α :=
  (occurrences.filter fun occurrence => occurrence.1 = field).map (·.2)

/-- The occurrences of a field that carry its values. Where the last one counts, an absent value is
the same as the one that stands for it. -/
inductive Carried (field : SchemaField) : (occurring values : List Item) → Prop
  | repeated {values : List Item} (hrepeated : field.repeated = true) : Carried field values values
  | message {values : List Item} (hrepeated : field.repeated = false)
    (hkind : field.kind = .message) (hlength : values.length ≤ 1) : Carried field values values
  | last {zero : Scalar} {occurring values : List Item} (hrepeated : field.repeated = false)
    (hzero : Scalar.zero? field.kind = some zero) (hlength : values.length ≤ 1)
    (hlast : occurring.getLast?.getD (.scalar zero) = values.getLast?.getD (.scalar zero)) :
    Carried field occurring values

/-- The values of a packed chunk, one behind the other. -/
inductive Chunk (kind : FieldKind) : List Scalar → List UInt8 → Prop
  | nil : Chunk kind [] []
  | cons {value : Scalar} {values : List Scalar} {front rest : List UInt8}
    (hkind : kind = value.kind) (h : value.Written front) (hrest : Chunk kind values rest) :
    Chunk kind (value :: values) (front ++ rest)

mutual

/-- The bytes of one value of a field, without a key. -/
inductive Item.Written (schema : Schema) : SchemaField → Item → List UInt8 → Prop
  | scalar {field : SchemaField} {value : Scalar} {written : List UInt8}
    (hkind : field.kind = value.kind) (h : value.Written written) :
    Item.Written schema field (.scalar value) written
  | message {field : SchemaField} {target : String} {value : MessageValue}
    {payload written : List UInt8} (hkind : field.kind = .message)
    (htarget : field.message = some target)
    (hpayload : Schema.Serializes schema target value payload)
    (h : Delimited payload written) : Item.Written schema field (.message value) written

/-- One record, and the occurrences of fields that it holds. -/
inductive Record (schema : Schema) :
    List SchemaField → List (SchemaField × Item) → List UInt8 → Prop
  | undeclared {fields : List SchemaField} {number : Nat} {wireType : WireType}
    {key payload : List UInt8} (hfields : ∀ field ∈ fields, field.number.toNat ≠ number)
    (hkey : Key number wireType key) (h : Payload wireType payload) :
    Record schema fields [] (key ++ payload)
  | value {fields : List SchemaField} {field : SchemaField} {item : Item}
    {key written : List UInt8} (hfield : field ∈ fields)
    (hkey : Key field.number.toNat field.kind.wireType key)
    (h : Item.Written schema field item written) :
    Record schema fields [(field, item)] (key ++ written)
  | packed {fields : List SchemaField} {field : SchemaField} {values : List Scalar}
    {key chunk written : List UInt8} (hfield : field ∈ fields) (hrepeated : field.repeated = true)
    (hshape : field.kind.wireType ≠ .lengthDelimited)
    (hkey : Key field.number.toNat .lengthDelimited key) (hchunk : Chunk field.kind values chunk)
    (h : Delimited chunk written) :
    Record schema fields (values.map fun value => (field, .scalar value)) (key ++ written)

/-- Records one behind the other, and the occurrences of fields that they hold. -/
inductive Records (schema : Schema) :
    List SchemaField → List (SchemaField × Item) → List UInt8 → Prop
  | nil {fields : List SchemaField} : Records schema fields [] []
  | cons {fields : List SchemaField} {front rest : List (SchemaField × Item)}
    {bytes tail : List UInt8} (h : Record schema fields front bytes)
    (hrest : Records schema fields rest tail) :
    Records schema fields (front ++ rest) (bytes ++ tail)

/-- The bytes that serialize a value of the message type `name`. -/
inductive Schema.Serializes (schema : Schema) : String → MessageValue → List UInt8 → Prop
  | mk {name : String} {value : MessageValue} {occurrences : List (SchemaField × Item)}
    {bytes : List UInt8} (hrecords : Records schema (schema.fields name) occurrences bytes)
    (hcarried : ∀ field ∈ schema.fields name,
      Carried field (occurrencesOf field occurrences) (value field.number.toNat)) :
    Schema.Serializes schema name value bytes

end

/-- Fields of one message differ in name and number. -/
structure Schema.Distinct (schema : Schema) : Prop where
  names : ∀ message ∈ schema.messages, (message.2.map (·.name)).Nodup
  numbers : ∀ message ∈ schema.messages, (message.2.map (·.number)).Nodup

end ChainFeed
