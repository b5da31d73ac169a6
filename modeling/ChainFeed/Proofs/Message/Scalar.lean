import ChainFeed.Message.Dynamic
import ChainFeed.Proofs.Text.Utf8
import ChainFeed.Proofs.Wire.Format

/-!
# Values without fields

Every kind but the messages has its values, each with its bytes and its JSON. A negative number of a
varint kind is written on sixty-four bits, also if its kind has thirty-two. The bytes of a value are
not unique, since varints may be padded.

## Main definitions

- `Scalar`: the values, with `Scalar.kind` and `Scalar.toJson`
- `Scalar.Written`: the bytes of a value
- `Scalar.zero?`: the value of a field that does not occur

## Main results

- `Scalar.Written.decodeValue_append`: the bytes of a value are read as its JSON
-/

namespace ChainFeed

open Wire

/-- A value of a kind that has no fields; a floating-point number is given by its bits. -/
inductive Scalar where
  | string (value : String)
  | bytes (value : List UInt8)
  | bool (value : Bool)
  | int32 (value : Int32)
  | int64 (value : Int64)
  | uint32 (value : UInt32)
  | uint64 (value : UInt64)
  | sint32 (value : Int32)
  | sint64 (value : Int64)
  | fixed32 (value : UInt32)
  | fixed64 (value : UInt64)
  | sfixed32 (value : Int32)
  | sfixed64 (value : Int64)
  | double (bits : UInt64)
  | float (bits : UInt32)
  | enum (value : Int32)
  deriving DecidableEq

namespace Scalar

/-- The kind of a value. -/
def kind : Scalar → FieldKind
  | .string _ => .string
  | .bytes _ => .bytes
  | .bool _ => .bool
  | .int32 _ => .int32
  | .int64 _ => .int64
  | .uint32 _ => .uint32
  | .uint64 _ => .uint64
  | .sint32 _ => .sint32
  | .sint64 _ => .sint64
  | .fixed32 _ => .fixed32
  | .fixed64 _ => .fixed64
  | .sfixed32 _ => .sfixed32
  | .sfixed64 _ => .sfixed64
  | .double _ => .double
  | .float _ => .float
  | .enum _ => .enum

/-- The JSON of a value; a number that is not finite has none but null. -/
def toJson : Scalar → Json
  | .string s => .string s
  | .bytes bs => .bytes bs
  | .bool b => .bool b
  | .int32 x | .sint32 x | .sfixed32 x | .enum x => .int x.toInt
  | .int64 x | .sint64 x | .sfixed64 x => .int x.toInt
  | .uint32 n | .fixed32 n => .nat n.toNat
  | .uint64 n | .fixed64 n => .nat n.toNat
  | .double bits => Schema.ofFloat ⟨bits⟩
  | .float bits => ((Binary64.widen? bits).map Schema.ofFloat).getD .null

/-- The value that a field of a kind has when it does not occur. -/
def zero? : FieldKind → Option Scalar
  | .string => some (.string "")
  | .bytes => some (.bytes [])
  | .bool => some (.bool false)
  | .int32 => some (.int32 0)
  | .int64 => some (.int64 0)
  | .uint32 => some (.uint32 0)
  | .uint64 => some (.uint64 0)
  | .sint32 => some (.sint32 0)
  | .sint64 => some (.sint64 0)
  | .fixed32 => some (.fixed32 0)
  | .fixed64 => some (.fixed64 0)
  | .sfixed32 => some (.sfixed32 0)
  | .sfixed64 => some (.sfixed64 0)
  | .double => some (.double 0)
  | .float => some (.float 0)
  | .enum => some (.enum 0)
  | .message => none

/-- The number that is written for a value; a signed number has all its sixty-four bits. -/
def number? : Scalar → Option Nat
  | .string _ | .bytes _ => none
  | .bool b => some b.toNat
  | .int32 x | .sfixed32 x | .enum x => some (signExtend x.toInt)
  | .int64 x | .sfixed64 x => some (signExtend x.toInt)
  | .uint32 n | .fixed32 n | .float n => some n.toNat
  | .uint64 n | .fixed64 n | .double n => some n.toNat
  | .sint32 x => some (zigzag x.toInt)
  | .sint64 x => some (zigzag x.toInt)

/-- The bytes that are written for a value behind their length. -/
def text? : Scalar → Option (List UInt8)
  | .string s => some (Utf8.encode s)
  | .bytes bs => some bs
  | _ => none

/-- The bytes of a value, without a key. -/
inductive Written (scalar : Scalar) : List UInt8 → Prop
  | varint {n : Nat} {written : List UInt8} (hshape : scalar.kind.wireType = .varint)
    (hnumber : scalar.number? = some n) (h : Varint n written) : Written scalar written
  | thirtyTwoBit {n : Nat} (hshape : scalar.kind.wireType = .thirtyTwoBit)
    (hnumber : scalar.number? = some n) : Written scalar (littleEndianBytes 4 n)
  | sixtyFourBit {n : Nat} (hshape : scalar.kind.wireType = .sixtyFourBit)
    (hnumber : scalar.number? = some n) : Written scalar (littleEndianBytes 8 n)
  | lengthDelimited {payload written : List UInt8} (htext : scalar.text? = some payload)
    (h : Delimited payload written) : Written scalar written

variable {kind : FieldKind} {scalar : Scalar}

theorem toJson_zero? (h : zero? kind = some scalar) : scalar.toJson = kind.absentValue := by
  cases kind <;> cases h <;> rfl

end Scalar

/-! ### Reading one value -/

namespace Schema

variable {nested : String → List UInt8 → Except DynamicFault Json} {field : SchemaField}
  {n : Nat} {payload written : List UInt8}

theorem readVarint_append (h : Varint n written) (rest : List UInt8) :
    readVarint (written ++ rest) = .ok (n, rest) := by
  rw [readVarint, varint?_append h]
  rfl

theorem readFixed_append (h : written.length = n) (rest : List UInt8) :
    readFixed n (written ++ rest) = .ok (written, rest) := by
  rw [readFixed, ← h, split?_append]
  rfl

theorem readDelimited_append (h : Delimited payload written) (rest : List UInt8) :
    readDelimited (written ++ rest) = .ok (payload, rest) := by
  obtain ⟨hlength⟩ := h
  rw [readDelimited, List.append_assoc, readVarint_append hlength]
  exact readFixed_append rfl rest

theorem decodeValue_varint (hshape : field.kind.wireType = .varint) (h : Varint n written)
    (rest : List UInt8) :
    decodeValue nested field (written ++ rest) = .ok (ofVarint field.kind n, rest) := by
  rw [decodeValue, hshape]
  dsimp only
  rw [readVarint_append h]
  rfl

theorem decodeValue_thirtyTwoBit (hshape : field.kind.wireType = .thirtyTwoBit)
    (h : written.length = 4) (rest : List UInt8) :
    decodeValue nested field (written ++ rest) = .ok (ofFixed field.kind written, rest) := by
  rw [decodeValue, hshape]
  dsimp only
  rw [readFixed_append h]
  rfl

theorem decodeValue_sixtyFourBit (hshape : field.kind.wireType = .sixtyFourBit)
    (h : written.length = 8) (rest : List UInt8) :
    decodeValue nested field (written ++ rest) = .ok (ofFixed field.kind written, rest) := by
  rw [decodeValue, hshape]
  dsimp only
  rw [readFixed_append h]
  rfl

theorem decodeValue_lengthDelimited (hshape : field.kind.wireType = .lengthDelimited)
    (h : Delimited payload written) (rest : List UInt8) :
    decodeValue nested field (written ++ rest) =
      (ofDelimited nested field payload).map (·, rest) := by
  rw [decodeValue, hshape]
  dsimp only
  rw [readDelimited_append h]

/-- A complete payload of an undeclared field is passed over. -/
theorem skip_append {wireType : WireType} (h : Payload wireType written) (rest : List UInt8) :
    skip wireType (written ++ rest) = .ok rest := by
  cases h with
  | varint h => rw [skip, readVarint_append h]; rfl
  | sixtyFourBit h => rw [skip, readFixed_append h]; rfl
  | thirtyTwoBit h => rw [skip, readFixed_append h]; rfl
  | lengthDelimited h => rw [skip, readDelimited_append h]; rfl

theorem isPacked_iff {wireType : WireType} : isPacked field wireType = true ↔
    field.repeated = true ∧ wireType = .lengthDelimited ∧
      field.kind.wireType ≠ .lengthDelimited := by
  simp [isPacked, and_assoc]

/-- A value whose own shape is a byte string is never taken for a chunk. -/
theorem isPacked_wireType_eq (field : SchemaField) :
    isPacked field field.kind.wireType = false := by
  rw [← Bool.not_eq_true, isPacked_iff]
  exact fun ⟨_, hwire, hshape⟩ => hshape hwire

end Schema

namespace Scalar

open Schema

variable {nested : String → List UInt8 → Except DynamicFault Json} {field : SchemaField}
  {scalar : Scalar} {written : List UInt8}

/-- The number of a varint kind is read as the value. -/
theorem ofVarint_number? {n : Nat} (hshape : scalar.kind.wireType = .varint)
    (hnumber : scalar.number? = some n) : ofVarint scalar.kind n = scalar.toJson := by
  cases scalar with
  -- small kinds are cut from sixty-four bits, which loses nothing of a value in range
  | bool b => cases hnumber; cases b <;> rfl
  | int32 x | enum x =>
    cases hnumber
    exact congrArg Json.int (lowSigned_signExtend_thirtyTwo x.le_toInt x.toInt_lt)
  | int64 x =>
    cases hnumber
    exact congrArg Json.int (lowSigned_signExtend_sixtyFour x.le_toInt x.toInt_lt)
  | uint32 n =>
    cases hnumber
    exact congrArg Json.nat (Nat.mod_eq_of_lt n.toNat_lt)
  | uint64 n => cases hnumber; rfl
  | sint32 x =>
    have hle := x.le_toInt
    have hlt := x.toInt_lt
    have hbmod : x.toInt.bmod 4294967296 = x.toInt := Int.bmod_eq_of_le (by omega) (by omega)
    cases hnumber
    simp only [kind, ofVarint, toJson, unzigzag_zigzag, hbmod]
  | sint64 x =>
    cases hnumber
    exact congrArg Json.int (unzigzag_zigzag x.toInt)
  | _ => cases hshape

/-- The bytes of a kind of four bytes are read as the value. -/
theorem ofFixed_thirtyTwoBit {n : Nat} (hshape : scalar.kind.wireType = .thirtyTwoBit)
    (hnumber : scalar.number? = some n) :
    ofFixed scalar.kind (littleEndianBytes 4 n) = scalar.toJson := by
  have hread := littleEndian_littleEndianBytes 4 n
  cases scalar with
  | fixed32 n =>
    cases hnumber
    have hlt : n.toNat < 256 ^ 4 := n.toNat_lt
    rw [Nat.mod_eq_of_lt hlt] at hread
    exact congrArg Json.nat hread
  | sfixed32 x =>
    cases hnumber
    rw [kind, ofFixed, toJson, hread, show 256 ^ 4 = 2 ^ 32 from rfl, lowSigned_mod,
      lowSigned_signExtend_thirtyTwo x.le_toInt x.toInt_lt]
  | float n =>
    cases hnumber
    have hlt : n.toNat < 256 ^ 4 := n.toNat_lt
    rw [Nat.mod_eq_of_lt hlt] at hread
    rw [kind, ofFixed, toJson, hread, show n.toNat.toUInt32 = n from UInt32.ofNat_toNat]
  | _ => cases hshape

/-- The bytes of a kind of eight bytes are read as the value. -/
theorem ofFixed_sixtyFourBit {n : Nat} (hshape : scalar.kind.wireType = .sixtyFourBit)
    (hnumber : scalar.number? = some n) :
    ofFixed scalar.kind (littleEndianBytes 8 n) = scalar.toJson := by
  have hread := littleEndian_littleEndianBytes 8 n
  cases scalar with
  | fixed64 n =>
    cases hnumber
    have hlt : n.toNat < 256 ^ 8 := n.toNat_lt
    rw [Nat.mod_eq_of_lt hlt] at hread
    exact congrArg Json.nat hread
  | sfixed64 x =>
    cases hnumber
    rw [kind, ofFixed, toJson, hread, show 256 ^ 8 = 2 ^ 64 from rfl, lowSigned_mod,
      lowSigned_signExtend_sixtyFour x.le_toInt x.toInt_lt]
  | double n =>
    cases hnumber
    have hlt : n.toNat < 256 ^ 8 := n.toNat_lt
    rw [Nat.mod_eq_of_lt hlt] at hread
    rw [kind, ofFixed, toJson, hread, show n.toNat.toUInt64 = n from UInt64.ofNat_toNat]
  | _ => cases hshape

/-- The bytes of a text or a byte string are read as the value. -/
theorem ofDelimited_text? {payload : List UInt8} (hkind : field.kind = scalar.kind)
    (htext : scalar.text? = some payload) :
    ofDelimited nested field payload = .ok scalar.toJson := by
  -- no message is among the values, so `nested` is not asked
  rw [ofDelimited, hkind]
  cases scalar with
  | string s =>
    cases htext
    simp only [kind, Utf8.decode?_encode]
    rfl
  | bytes bs => cases htext; rfl
  | _ => cases htext

/-- The bytes of a value are read as its JSON, whatever stands behind them. -/
theorem Written.decodeValue_append (h : scalar.Written written) (hkind : field.kind = scalar.kind)
    (rest : List UInt8) :
    decodeValue nested field (written ++ rest) = .ok (scalar.toJson, rest) := by
  cases h with
  | varint hshape hnumber h =>
    rw [← hkind] at hshape
    rw [decodeValue_varint hshape h, hkind, ofVarint_number? (hkind ▸ hshape) hnumber]
  | thirtyTwoBit hshape hnumber =>
    rw [← hkind] at hshape
    rw [decodeValue_thirtyTwoBit hshape (length_littleEndianBytes 4 _), hkind,
      ofFixed_thirtyTwoBit (hkind ▸ hshape) hnumber]
  | sixtyFourBit hshape hnumber =>
    rw [← hkind] at hshape
    rw [decodeValue_sixtyFourBit hshape (length_littleEndianBytes 8 _), hkind,
      ofFixed_sixtyFourBit (hkind ▸ hshape) hnumber]
  -- only texts and byte strings have something to write behind a length
  | lengthDelimited htext h =>
    have hshape : field.kind.wireType = .lengthDelimited := by
      rw [hkind]
      cases scalar <;> first | rfl | cases htext
    rw [decodeValue_lengthDelimited hshape h, ofDelimited_text? hkind htext]
    rfl

end Scalar

end ChainFeed
