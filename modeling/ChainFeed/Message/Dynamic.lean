import ChainFeed.Message.Schema

/-!
# Messages of a schema

A message is decoded to an object with one member for each declared field. The last record of a
single field counts, records of a repeated field add up, and a repeated field of numbers may come in
packed chunks. Fields that do not occur have their default; records of other numbers are passed
over, except groups, which are refused.

## Main definitions

- `ChainFeed.DynamicFault`: why bytes are no message
- `ChainFeed.Schema.decode`: the payload of a message
-/

namespace ChainFeed

/-- Why bytes are no message of a schema. -/
inductive DynamicFault where
  /-- A key or a varint is not one. -/
  | wire (fault : Wire.Fault)
  | wireTypeMismatch (field : String) (expected found : WireType)
  | truncated
  | notUtf8 (field : String)
  | unsupportedGroup
  | depthExceeded
  deriving DecidableEq, Repr

namespace Schema

/-- How many messages may nest inside the outermost one. -/
def maxDepth : Nat :=
  32

end Schema

/-- The text of a fault. -/
def DynamicFault.message : DynamicFault → String
  | .wire fault => Wire.faultLabel ++ fault.message
  | .wireTypeMismatch field expected found =>
    "field " ++ field ++ " expects wire type " ++ expected.name ++ " but found " ++ found.name
  | .truncated => "buffer underflow"
  | .notUtf8 field => "field " ++ field ++ " is not valid utf-8"
  | .unsupportedGroup => "group wire types are not supported"
  | .depthExceeded => "message nesting exceeds " ++ toString Schema.maxDepth

namespace Schema

/-- A varint. -/
def readVarint (bytes : List UInt8) : Except DynamicFault (Nat × List UInt8) :=
  (Wire.varint? bytes).elim (.error (.wire .invalidVarint)) .ok

/-- A given number of bytes. -/
def readFixed (n : Nat) (bytes : List UInt8) : Except DynamicFault (List UInt8 × List UInt8) :=
  (Wire.split? n bytes).elim (.error .truncated) .ok

/-- A byte string behind its length. -/
def readDelimited (bytes : List UInt8) : Except DynamicFault (List UInt8 × List UInt8) :=
  match readVarint bytes with
  | .error fault => .error fault
  | .ok (n, rest) => readFixed n rest

/-- Passes over the payload of an undeclared field. -/
def skip (wireType : WireType) (bytes : List UInt8) : Except DynamicFault (List UInt8) :=
  match wireType with
  | .varint => (readVarint bytes).map (·.2)
  | .sixtyFourBit => (readFixed 8 bytes).map (·.2)
  | .thirtyTwoBit => (readFixed 4 bytes).map (·.2)
  | .lengthDelimited => (readDelimited bytes).map (·.2)
  | .startGroup | .endGroup => .error .unsupportedGroup

/-- A floating-point number as JSON, which has no form for those that are not finite. -/
def ofFloat (x : Binary64) : Json :=
  if x.isFinite then .number (.float x) else .null

/-- The value of a varint kind. -/
def ofVarint : FieldKind → Nat → Json
  | .bool, n => .bool (n != 0)
  | .int64, n => .int (Wire.lowSigned 64 n)
  | .uint32, n => .nat (n % 4294967296)
  | .uint64, n => .nat n
  | .sint32, n => .int (Int.bmod (Wire.unzigzag n) 4294967296)
  | .sint64, n => .int (Wire.unzigzag n)
  | _, n => .int (Wire.lowSigned 32 n)

/-- The value of a kind of fixed width. -/
def ofFixed : FieldKind → List UInt8 → Json
  | .sfixed32, bytes => .int (Wire.lowSigned 32 (Wire.littleEndian bytes))
  | .sfixed64, bytes => .int (Wire.lowSigned 64 (Wire.littleEndian bytes))
  | .float, bytes => ((Binary64.widen? (Wire.littleEndian bytes).toUInt32).map ofFloat).getD .null
  | .double, bytes => ofFloat ⟨(Wire.littleEndian bytes).toUInt64⟩
  | _, bytes => .nat (Wire.littleEndian bytes)

/-- The value of a kind that has a length; `nested` decodes messages. -/
def ofDelimited (nested : String → List UInt8 → Except DynamicFault Json) (field : SchemaField)
    (bytes : List UInt8) : Except DynamicFault Json :=
  match field.kind with
  | .string => (Utf8.decode? bytes).elim (.error (.notUtf8 field.name)) (.ok ∘ .string)
  | .message => nested (field.message.getD "") bytes
  | _ => .ok (.bytes bytes)

/-- One value of a field, without its key. -/
def decodeValue (nested : String → List UInt8 → Except DynamicFault Json) (field : SchemaField)
    (bytes : List UInt8) : Except DynamicFault (Json × List UInt8) :=
  match field.kind.wireType with
  | .varint => (readVarint bytes).map fun (n, rest) => (ofVarint field.kind n, rest)
  | .thirtyTwoBit => (readFixed 4 bytes).map fun (b, rest) => (ofFixed field.kind b, rest)
  | .sixtyFourBit => (readFixed 8 bytes).map fun (b, rest) => (ofFixed field.kind b, rest)
  | _ =>
    match readDelimited bytes with
    | .error fault => .error fault
    | .ok (payload, rest) => (ofDelimited nested field payload).map (·, rest)

/-- Adds a value to the array under a name. -/
def push (name : String) (value : Json) (out : Members Json) : Members Json :=
  match out.get? name with
  | some (.array items) => out.insert name (.array (items ++ [value]))
  | _ => out.insert name (.array [value])

/-- The values of a packed chunk, to its end. -/
def decodePacked (nested : String → List UInt8 → Except DynamicFault Json) (field : SchemaField) :
    (fuel : Nat) → Members Json → List UInt8 → Except DynamicFault (Members Json)
  | 0, out, _ => .ok out
  | _ + 1, out, [] => .ok out
  | fuel + 1, out, bytes =>
    match decodeValue nested field bytes with
    | .error fault => .error fault
    | .ok (value, rest) => decodePacked nested field fuel (push field.name value out) rest

/-- Whether a payload is a packed chunk of a field. -/
def isPacked (field : SchemaField) (wireType : WireType) : Bool :=
  field.repeated && wireType = .lengthDelimited && field.kind.wireType != .lengthDelimited

/-- The record of a declared field. -/
def decodeRecord (nested : String → List UInt8 → Except DynamicFault Json) (field : SchemaField)
    (wireType : WireType) (out : Members Json) (bytes : List UInt8) :
    Except DynamicFault (Members Json × List UInt8) :=
  if isPacked field wireType then
    match readDelimited bytes with
    | .error fault => .error fault
    | .ok (chunk, rest) => (decodePacked nested field (chunk.length + 1) out chunk).map (·, rest)
  else if wireType = field.kind.wireType then
    (decodeValue nested field bytes).map fun (value, rest) =>
      (if field.repeated then push field.name value out else out.insert field.name value, rest)
  else .error (.wireTypeMismatch field.name field.kind.wireType wireType)

/-- The records of a message, to its end. -/
def decodeRecords (nested : String → List UInt8 → Except DynamicFault Json)
    (fields : List SchemaField) :
    (fuel : Nat) → Members Json → List UInt8 → Except DynamicFault (Members Json)
  | 0, out, _ => .ok out
  | _ + 1, out, [] => .ok out
  | fuel + 1, out, bytes =>
    match Wire.readKey bytes with
    | .error fault => .error (.wire fault)
    | .ok ((number, wireType), rest) =>
      match fields.find? fun field => field.number.toNat = number with
      | none =>
        match skip wireType rest with
        | .error fault => .error fault
        | .ok rest => decodeRecords nested fields fuel out rest
      | some field =>
        match decodeRecord nested field wireType out rest with
        | .error fault => .error fault
        | .ok (out, rest) => decodeRecords nested fields fuel out rest

/-- The value of a field that does not occur. -/
def SchemaField.absentValue (field : SchemaField) : Json :=
  if field.repeated then .array [] else field.kind.absentValue

/-- Gives the fields that did not occur their default. -/
def fillAbsent (fields : List SchemaField) (out : Members Json) : Members Json :=
  fields.foldl (fun out field =>
    if out.contains field.name then out
    else out.insert field.name (SchemaField.absentValue field)) out

/-- Decodes a message, with at most `room` messages nested to its place and inside it. -/
def decodeMessage (schema : Schema) : (room : Nat) → String → List UInt8 → Except DynamicFault Json
  | 0, _, _ => .error .depthExceeded
  | room + 1, name, bytes =>
    let fields := schema.fields name
    (decodeRecords (decodeMessage schema room) fields (bytes.length + 1) [] bytes).map fun out =>
      .object (fillAbsent fields out)

/-- Decodes a message of a full name. -/
def decode (schema : Schema) (name : String) (bytes : List UInt8) : Except DynamicFault Json :=
  schema.decodeMessage (maxDepth + 1) name bytes

end Schema

end ChainFeed
