import ChainFeed.Block.Tx
import ChainFeed.Proofs.Wire.Format

/-!
# Reading messages of fixed layout

An embedded message is read in place, from the bytes of the message around it, and records of a
single message field continue one message. Here reading is a relation between the fields before,
the bytes of some records, and the fields after them, in which an embedded message is read from its
own bytes. The reader follows it, whatever stands behind the bytes.

## Main definitions

- `FieldType.Reads`: the payload of a field that is no message
- `Layout.Reads`: the records of a message
- `Layout.Nests`: how deep messages nest in a layout

## Main results

- `Layout.Reads.readRecords_append`: the reader reads records as the relation says
- `Layout.Reads.decode_eq`: and so whole messages
- `Layout.Reads.append`: records behind other records continue them
-/

namespace ChainFeed

open Wire

variable {values final fields : List FieldValue} {bytes rest written payload : List UInt8}
  {room depth number i : Nat} {layout nested : Layout} {name : String} {occurrence : Occurrence}
  {type : FieldType} {value : FieldValue}

/-! ### The relation -/

/-- The shape of the payload of a field. -/
def FieldType.wireType : FieldType → WireType
  | .text | .bytes | .message _ => .lengthDelimited
  | .uint64 | .int32 => .varint

/-- The type of the messages of a message field. -/
def FieldType.nested? : FieldType → Option Layout
  | .message layout => some layout
  | _ => none

/-- The payload of a field that is no message, and its value. Numbers are cut to their width. -/
inductive FieldType.Reads : FieldType → FieldValue → List UInt8 → Prop
  | text {s : String} {payload written : List UInt8} (htext : Utf8.decode? payload = some s)
    (h : Delimited payload written) : Reads .text (.text s) written
  | bytes {payload written : List UInt8} (h : Delimited payload written) :
    Reads .bytes (.bytes payload) written
  | uint64 {n : Nat} {written : List UInt8} (h : Varint n written) :
    Reads .uint64 (.uint64 n.toUInt64) written
  | int32 {n : Nat} {written : List UInt8} (h : Varint n written) :
    Reads .int32 (.int32 (lowSigned 32 n).toInt32) written

namespace Layout

/-- The records of a message, which turn the fields `values` into `final`. -/
inductive Reads : Layout → List FieldValue → List UInt8 → List FieldValue → Prop
  | done {layout : Layout} {values : List FieldValue} : Reads layout values [] values
  | undeclared {layout : Layout} {values final : List FieldValue} {number : Nat}
    {wireType : WireType} {key written rest : List UInt8} (hfind : layout.find? number = none)
    (hkey : Key number wireType key) (h : Payload wireType written)
    (hrest : Reads layout values rest final) : Reads layout values (key ++ (written ++ rest)) final
  | value {layout : Layout} {values final : List FieldValue} {number i : Nat} {name : String}
    {occurrence : Occurrence} {type : FieldType} {new : FieldValue} {key written rest : List UInt8}
    (hfind : layout.find? number = some (i, number, name, occurrence, type))
    (hkey : Key number type.wireType key) (h : type.Reads new written)
    (hrest : Reads layout (values.set i (addRecord occurrence (values.getD i .absent) new)) rest
      final) : Reads layout values (key ++ (written ++ rest)) final
  | message {layout nested : Layout} {values final fields : List FieldValue} {number i : Nat}
    {name : String} {occurrence : Occurrence} {key payload written rest : List UInt8}
    (hfind : layout.find? number = some (i, number, name, occurrence, .message nested))
    (hkey : Key number .lengthDelimited key)
    (hpayload : Reads nested (continued occurrence nested (values.getD i .absent)) payload fields)
    (h : Delimited payload written)
    (hrest : Reads layout
      (values.set i (addRecord occurrence (values.getD i .absent) (.message fields))) rest final) :
    Reads layout values (key ++ (written ++ rest)) final

/-- At most `depth` levels of messages nest in a layout. -/
def Nests : (depth : Nat) → Layout → Bool
  | 0, layout => layout.fields.all fun (_, _, _, type) => type.nested?.isNone
  | depth + 1, layout => layout.fields.all fun (_, _, _, type) => type.nested?.all (Nests depth)

/-- Records behind others continue them. -/
theorem Reads.append {middle : List FieldValue} (h : layout.Reads values bytes middle)
    (hrest : layout.Reads middle rest final) : layout.Reads values (bytes ++ rest) final := by
  induction h with
  | done => exact hrest
  | undeclared hfind hkey h _ ih =>
    rw [List.append_assoc, List.append_assoc]
    exact .undeclared hfind hkey h (ih hrest)
  | value hfind hkey h _ ih =>
    rw [List.append_assoc, List.append_assoc]
    exact .value hfind hkey h (ih hrest)
  | message hfind hkey hpayload h _ _ ih =>
    rw [List.append_assoc, List.append_assoc]
    exact .message hfind hkey hpayload h (ih hrest)

/-! ### Fields -/

theorem find?_eq_some {found : Nat}
    (h : layout.find? number = some (i, found, name, occurrence, type)) :
    layout.fields[i]? = some (found, name, occurrence, type) := by
  rw [find?, Option.map_eq_some_iff] at h
  obtain ⟨⟨field, j⟩, hfind, heq⟩ := h
  obtain ⟨rfl, rfl⟩ := Prod.mk.inj heq
  exact List.mem_zipIdx_iff_getElem?.mp (List.mem_of_find?_eq_some hfind)

theorem nests_of_find? (h : layout.Nests depth)
    (hfind : layout.find? number = some (i, number, name, occurrence, .message nested)) :
    ∃ below, depth = below + 1 ∧ nested.Nests below := by
  have hmem := List.mem_of_getElem? (find?_eq_some hfind)
  cases depth with
  | zero => exact nomatch List.all_eq_true.mp h _ hmem
  | succ below => exact ⟨below, rfl, List.all_eq_true.mp h _ hmem⟩

/-! ### The reader -/

theorem readVarint_append {n : Nat} (h : Varint n written) (rest : List UInt8) :
    readVarint (written ++ rest) = .ok (n, rest) := by
  rw [readVarint, varint?_append h]
  rfl

theorem readBytes_append (h : Delimited payload written) (rest : List UInt8) :
    readBytes (written ++ rest) = .ok (payload, rest) := by
  obtain ⟨hlength⟩ := h
  rw [readBytes, List.append_assoc, readVarint_append hlength]
  dsimp only
  rw [split?_append]
  rfl

theorem skipBytes_append (rest : List UInt8) :
    skipBytes written.length (written ++ rest) = .ok rest := by
  rw [skipBytes, if_pos (by simp), List.drop_left' rfl]

/-- The payload of an unknown field is passed over. -/
theorem skip_append {wireType : WireType} (h : Payload wireType written) (hroom : 0 < room)
    (rest : List UInt8) : skip room number wireType (written ++ rest) = .ok rest := by
  obtain ⟨room, rfl⟩ := Nat.exists_eq_succ_of_ne_zero (Nat.ne_of_gt hroom)
  cases h with
  | varint h => rw [skip, readVarint_append h]; rfl
  | sixtyFourBit h => rw [skip, ← h, skipBytes_append]
  | thirtyTwoBit h => rw [skip, ← h, skipBytes_append]
  | lengthDelimited h =>
    obtain ⟨hlength⟩ := h
    rw [skip, List.append_assoc, readVarint_append hlength]
    exact skipBytes_append rest

theorem readField_append
    {embedded : Layout → List FieldValue → List UInt8 →
      Except PathFault (List FieldValue × List UInt8)}
    (h : type.Reads value written) (old : FieldValue) (rest : List UInt8) :
    readField embedded occurrence type old type.wireType (written ++ rest) = .ok (value, rest) := by
  cases h with
  | text htext h =>
    simp only [readField, FieldType.wireType, expect, if_pos, readBytes_append h, bind, Except.bind,
      htext]
    rfl
  | bytes h =>
    simp only [readField, FieldType.wireType, expect, if_pos, readBytes_append h]
    rfl
  | uint64 h =>
    simp only [readField, FieldType.wireType, expect, if_pos, readVarint_append h]
    rfl
  | int32 h =>
    simp only [readField, FieldType.wireType, expect, if_pos, readVarint_append h]
    rfl

theorem readEmbedded_append (h : Delimited payload written)
    (hread : readRecords (readEmbedded room) room layout rest.length ((payload ++ rest).length + 1)
      values (payload ++ rest) = .ok (final, rest)) :
    readEmbedded (room + 1) layout values (written ++ rest) = .ok (final, rest) := by
  obtain ⟨hlength⟩ := h
  rw [readEmbedded, List.append_assoc, readVarint_append hlength]
  dsimp only
  rw [if_pos (by simp), show (payload ++ rest).length - payload.length = rest.length by simp]
  exact hread

theorem length_lt_of_key {wireType : WireType} {key tail : List UInt8}
    (h : Key number wireType key) :
    rest.length < (key ++ (written ++ (tail ++ rest))).length := by
  have hpos := h.varint.length_pos
  simp only [List.length_append]
  omega

section Step

variable {embedded : Layout → List FieldValue → List UInt8 →
    Except PathFault (List FieldValue × List UInt8)} {wireType : WireType} {key after : List UInt8}
  {fuel limit : Nat} {new : FieldValue}

theorem readRecords_of_undeclared (hfind : layout.find? number = none)
    (hkey : Key number wireType key) (hlimit : limit < (key ++ after).length)
    (hskip : skip room number wireType after = .ok rest) :
    readRecords embedded room layout limit (fuel + 1) values (key ++ after) =
      readRecords embedded room layout limit fuel values rest := by
  rw [readRecords, if_neg (by omega), if_neg (by omega), readKey_append hkey]
  dsimp only
  rw [hfind]
  dsimp only
  rw [hskip]

theorem readRecords_of_declared
    (hfind : layout.find? number = some (i, number, name, occurrence, type))
    (hkey : Key number wireType key) (hlimit : limit < (key ++ after).length)
    (hfield : readField embedded occurrence type (values.getD i .absent) wireType after =
      .ok (new, rest)) :
    readRecords embedded room layout limit (fuel + 1) values (key ++ after) =
      readRecords embedded room layout limit fuel
        (values.set i (addRecord occurrence (values.getD i .absent) new)) rest := by
  rw [readRecords, if_neg (by omega), if_neg (by omega), readKey_append hkey]
  dsimp only
  rw [hfind]
  dsimp only
  rw [hfield]

end Step

/-- The reader reads records as the relation says, up to the bytes behind them. -/
theorem Reads.readRecords_append (h : layout.Reads values bytes final) (hnests : layout.Nests depth)
    (hroom : depth < room) {fuel : Nat} (hfuel : bytes.length < fuel) (rest : List UInt8) :
    readRecords (readEmbedded room) room layout rest.length fuel values (bytes ++ rest) =
      .ok (final, rest) := by
  -- each record takes at least one byte, so the fuel outlasts the records
  induction h generalizing depth room fuel rest with
  | done =>
    obtain ⟨fuel, rfl⟩ := Nat.exists_eq_succ_of_ne_zero (Nat.ne_of_gt hfuel)
    rw [List.nil_append, readRecords, if_neg (Nat.lt_irrefl _), if_pos rfl]
  | @undeclared layout values final number wireType key written tail hfind hkey h _ ih =>
    have hpos := hkey.varint.length_pos
    simp only [List.length_append] at hfuel
    obtain ⟨fuel, rfl⟩ : ∃ f, fuel = f + 1 := ⟨fuel - 1, by omega⟩
    rw [List.append_assoc, List.append_assoc,
      readRecords_of_undeclared hfind hkey (length_lt_of_key hkey)
        (skip_append h (Nat.zero_lt_of_lt hroom) _)]
    exact ih hnests hroom (by omega) rest
  | @value layout values final number i name occurrence type new key written tail
      hfind hkey h _ ih =>
    have hpos := hkey.varint.length_pos
    simp only [List.length_append] at hfuel
    obtain ⟨fuel, rfl⟩ : ∃ f, fuel = f + 1 := ⟨fuel - 1, by omega⟩
    rw [List.append_assoc, List.append_assoc,
      readRecords_of_declared hfind hkey (length_lt_of_key hkey) (readField_append h _ _)]
    exact ih hnests hroom (by omega) rest
  | @message layout nested values final fields number i name occurrence key payload written tail
      hfind hkey _ h _ ihpayload ih =>
    have hpos := hkey.varint.length_pos
    simp only [List.length_append] at hfuel
    obtain ⟨fuel, rfl⟩ : ∃ f, fuel = f + 1 := ⟨fuel - 1, by omega⟩
    obtain ⟨below, rfl, hbelow⟩ := nests_of_find? hnests hfind
    obtain ⟨room', rfl⟩ : ∃ r, room = r + 1 := ⟨room - 1, by omega⟩
    have hroom' : below < room' := by omega
    have hlength : payload.length < (payload ++ (tail ++ rest)).length + 1 := by
      simp only [List.length_append]
      omega
    have hread := readEmbedded_append h (ihpayload hbelow hroom' hlength (tail ++ rest))
    have hfield : readField (readEmbedded (room' + 1)) occurrence (.message nested)
        (values.getD i .absent) .lengthDelimited (written ++ (tail ++ rest)) =
          .ok (.message fields, tail ++ rest) := by
      simp only [readField, expect, if_pos, hread]
      rfl
    rw [List.append_assoc, List.append_assoc,
      readRecords_of_declared hfind hkey (length_lt_of_key hkey) hfield]
    exact ih hnests hroom (by omega) rest

/-- A whole message is read as the relation says, from a message without records. -/
theorem Reads.decode_eq (h : layout.Reads layout.empty bytes final) (hnests : layout.Nests depth)
    (hdepth : depth < maxNesting) : layout.decode bytes = .ok final := by
  have hread := h.readRecords_append hnests hdepth (Nat.lt_succ_self bytes.length) []
  rw [List.append_nil, List.length_nil] at hread
  rw [decode, hread]
  rfl

end Layout

end ChainFeed
