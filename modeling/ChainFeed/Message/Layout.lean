import ChainFeed.Json.Basic
import ChainFeed.Text.Utf8
import ChainFeed.Wire.Basic

/-!
# Messages of fixed layout

A layout lists the fields of a message type, the types of messages inside it included. Records of
other fields are passed over, groups too. The last record of a single field counts, records of a
repeated field add up, and records of a single message field are merged into one message.

An embedded message is read from the bytes of the message around it: lengths inside it are checked
against all of these bytes, and that it ends where its own length says is noticed only behind each
of its records.

## Main definitions

- `ChainFeed.Layout`: a message type
- `ChainFeed.Layout.decode`: reading a message
- `ChainFeed.Layout.toJson`: a message as JSON
-/

namespace ChainFeed

/-- How often a field may stand in a message. -/
inductive Occurrence where
  | single
  | repeated
  deriving DecidableEq, Repr

mutual

/-- The type of a field. -/
inductive FieldType where
  | text
  | bytes
  | uint64
  | int32
  | message (layout : Layout)

/-- A message type: its name, and the fields with their numbers and names. -/
inductive Layout where
  | mk (name : String) (fields : List (Nat × String × Occurrence × FieldType))

end

/-- The value of a field. A message is the list of the values of its fields, in the order of its
layout. -/
inductive FieldValue where
  | text (value : String)
  | bytes (value : List UInt8)
  | uint64 (value : UInt64)
  | int32 (value : Int32)
  | message (fields : List FieldValue)
  /-- A single message that does not occur. -/
  | absent
  /-- A repeated field. -/
  | list (items : List FieldValue)
  deriving Inhabited

/-- A field of a layout. -/
abbrev LayoutField := Nat × String × Occurrence × FieldType

namespace Layout

/-- The name of a message type. -/
def name : Layout → String
  | .mk name _ => name

/-- The fields of a message type. -/
def fields : Layout → List LayoutField
  | .mk _ fields => fields

/-- The value of a field that does not occur. -/
def absentValue : Occurrence → FieldType → FieldValue
  | .repeated, _ => .list []
  | .single, .text => .text ""
  | .single, .bytes => .bytes []
  | .single, .uint64 => .uint64 0
  | .single, .int32 => .int32 0
  | .single, .message _ => .absent

/-- A message without records. -/
def empty (layout : Layout) : List FieldValue :=
  layout.fields.map fun (_, _, occurrence, type) => absentValue occurrence type

/-- The first field of a number, with its position. -/
def find? (number : Nat) (layout : Layout) : Option (Nat × LayoutField) :=
  (layout.fields.zipIdx.find? fun (field, _) => field.1 = number).map fun (field, i) => (i, field)

/-- A fault, and the message type and name of each field that was being read, the innermost
first. -/
structure PathFault where
  path : List (String × String)
  fault : Wire.Fault

/-- The text of a fault. -/
def PathFault.message (e : PathFault) : String :=
  Wire.faultLabel ++ String.join (e.path.map fun (message, field) =>
    message ++ "." ++ field ++ ": ") ++ e.fault.message

/-! ### Passing over -/

/-- Passes over the records of a group up to its end. -/
def skipGroup (skip : Nat → WireType → List UInt8 → Except Wire.Fault (List UInt8))
    (number : Nat) : (fuel : Nat) → List UInt8 → Except Wire.Fault (List UInt8)
  | 0, _ => .error .invalidVarint
  | fuel + 1, bytes =>
    match Wire.readKey bytes with
    | .error fault => .error fault
    | .ok ((inner, .endGroup), rest) =>
      if inner = number then .ok rest else .error .unexpectedEndGroup
    | .ok ((inner, wireType), rest) =>
      match skip inner wireType rest with
      | .error fault => .error fault
      | .ok rest => skipGroup skip number fuel rest

/-- Passes over a payload of at most `n` bytes. -/
def skipBytes (n : Nat) (bytes : List UInt8) : Except Wire.Fault (List UInt8) :=
  if n ≤ bytes.length then .ok (bytes.drop n) else .error .underflow

/-- Passes over the payload of an unknown field; groups may nest `room` deep. -/
def skip : (room number : Nat) → WireType → List UInt8 → Except Wire.Fault (List UInt8)
  | 0, _, _, _ => .error .recursionLimit
  | room + 1, number, wireType, bytes =>
    match wireType with
    | .varint => (Wire.readVarint bytes).map (·.2)
    | .thirtyTwoBit => skipBytes 4 bytes
    | .sixtyFourBit => skipBytes 8 bytes
    | .lengthDelimited =>
      match Wire.readVarint bytes with
      | .error fault => .error fault
      | .ok (n, rest) => skipBytes n rest
    | .startGroup => skipGroup (skip room) number (bytes.length + 1) bytes
    | .endGroup => .error .unexpectedEndGroup

/-! ### Reading -/

/-- Whether the payload has the shape that its field needs. -/
def expect (expected found : WireType) : Except Wire.Fault Unit :=
  if found = expected then .ok () else .error (.wireTypeMismatch found expected)

/-- A byte string behind its length. -/
def readBytes (bytes : List UInt8) : Except Wire.Fault (List UInt8 × List UInt8) :=
  match Wire.readVarint bytes with
  | .error fault => .error fault
  | .ok (n, rest) => (Wire.split? n rest).elim (.error .underflow) .ok

/-- The value of a field after one more record with value `new`. -/
def addRecord (occurrence : Occurrence) (old new : FieldValue) : FieldValue :=
  match occurrence, old with
  | .repeated, .list items => .list (items ++ [new])
  | _, _ => new

/-- The message that a record of a message field continues: the one that a single field already
has, or a new one. -/
def continued (occurrence : Occurrence) (layout : Layout) : FieldValue → List FieldValue
  | .message fields => if occurrence = .single then fields else layout.empty
  | _ => layout.empty

/-- Reads the payload of a known field; `embedded` reads a message behind its length. -/
def readField
    (embedded : Layout → List FieldValue → List UInt8 →
      Except PathFault (List FieldValue × List UInt8))
    (occurrence : Occurrence) (type : FieldType) (old : FieldValue) (wireType : WireType)
    (bytes : List UInt8) : Except PathFault (FieldValue × List UInt8) :=
  let plain (result : Except Wire.Fault (FieldValue × List UInt8)) :
      Except PathFault (FieldValue × List UInt8) := result.mapError (⟨[], ·⟩)
  match type with
  | .text => plain do
    expect .lengthDelimited wireType
    let (payload, rest) ← readBytes bytes
    match Utf8.decode? payload with
    | some s => return (.text s, rest)
    | none => throw .notUtf8
  | .bytes => plain do
    expect .lengthDelimited wireType
    let (payload, rest) ← readBytes bytes
    return (.bytes payload, rest)
  | .uint64 => plain do
    expect .varint wireType
    let (n, rest) ← Wire.readVarint bytes
    return (.uint64 n.toUInt64, rest)
  | .int32 => plain do
    expect .varint wireType
    let (n, rest) ← Wire.readVarint bytes
    return (.int32 (Wire.lowSigned 32 n).toInt32, rest)
  | .message layout =>
    match expect .lengthDelimited wireType with
    | .error fault => .error ⟨[], fault⟩
    | .ok () => (embedded layout (continued occurrence layout old) bytes).map fun (fields, rest) =>
      (.message fields, rest)

/-- Reads records until `limit` bytes or fewer are left. -/
def readRecords
    (embedded : Layout → List FieldValue → List UInt8 →
      Except PathFault (List FieldValue × List UInt8))
    (room : Nat) (layout : Layout) (limit : Nat) :
    (fuel : Nat) → List FieldValue → List UInt8 →
      Except PathFault (List FieldValue × List UInt8)
  | 0, values, bytes => .ok (values, bytes)
  | fuel + 1, values, bytes =>
    if bytes.length < limit then .error ⟨[], .lengthExceeded⟩
    else if bytes.length = limit then .ok (values, bytes)
    else
      match Wire.readKey bytes with
      | .error fault => .error ⟨[], fault⟩
      | .ok ((number, wireType), rest) =>
        match layout.find? number with
        | none =>
          match skip room number wireType rest with
          | .error fault => .error ⟨[], fault⟩
          | .ok rest => readRecords embedded room layout limit fuel values rest
        | some (i, _, name, occurrence, type) =>
          let old := values.getD i .absent
          match readField embedded occurrence type old wireType rest with
          | .error e => .error { e with path := e.path ++ [(layout.name, name)] }
          | .ok (new, rest) =>
            let value := addRecord occurrence old new
            readRecords embedded room layout limit fuel (values.set i value) rest

/-- Reads an embedded message behind its length; messages may nest `room` deep. -/
def readEmbedded : (room : Nat) → Layout → List FieldValue → List UInt8 →
    Except PathFault (List FieldValue × List UInt8)
  | 0, _, _, _ => .error ⟨[], .recursionLimit⟩
  | room + 1, layout, values, bytes =>
    match Wire.readVarint bytes with
    | .error fault => .error ⟨[], fault⟩
    | .ok (n, rest) =>
      if n ≤ rest.length then
        readRecords (readEmbedded room) room layout (rest.length - n) (rest.length + 1) values rest
      else .error ⟨[], .underflow⟩

/-- How deep messages and groups may nest. -/
def maxNesting : Nat :=
  100

/-- Reads a message. -/
def decode (layout : Layout) (bytes : List UInt8) : Except PathFault (List FieldValue) :=
  (readRecords (readEmbedded maxNesting) maxNesting layout 0 (bytes.length + 1) layout.empty
    bytes).map (·.1)

end Layout

/-! ### JSON -/

mutual

/-- A value of a field as JSON. -/
def FieldValue.toJson : FieldType → FieldValue → Json
  | .message layout, .message fields => Layout.toJson layout fields
  | type, .list items => .array (FieldValue.itemsToJson type items)
  | _, .text s => .string s
  | _, .bytes bs => .bytes bs
  | _, .uint64 n => .nat n.toNat
  | _, .int32 n => .int n.toInt
  | _, _ => .null

/-- The values of a repeated field as JSON. -/
def FieldValue.itemsToJson : FieldType → List FieldValue → List Json
  | _, [] => []
  | type, x :: xs => FieldValue.toJson type x :: FieldValue.itemsToJson type xs

/-- A message as JSON: an object of all its fields. -/
def Layout.toJson : Layout → List FieldValue → Json
  | .mk _ fields, values => .ofMembers (Layout.membersToJson fields values)

/-- The fields of a message as JSON. -/
def Layout.membersToJson : List LayoutField → List FieldValue → List (String × Json)
  | (_, name, _, type) :: fields, x :: xs =>
    (name, FieldValue.toJson type x) :: Layout.membersToJson fields xs
  | _, _ => []

end

end ChainFeed
