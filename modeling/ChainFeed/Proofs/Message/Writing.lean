import ChainFeed.Proofs.Message.Reading
import ChainFeed.Proofs.Text.Utf8

/-!
# Writing messages of fixed layout

A message is written as records that carry the values of its fields. Records of different fields may
be mixed, the values of a repeated field come in order, a single message has one record at most, of
any other single field the last record counts, and records of undeclared fields may stand anywhere,
in embedded messages, too. Whatever bytes a message is written as, it is read from them.

## Main definitions

- `FieldType.Writes`: the bytes of a value that is no message
- `Layout.Records`: records, with the values that they hold by the position of their field
- `Layout.Carries`: which values in records stand for which fields
- `Layout.Serializes`: the bytes of a message

## Main results

- `Layout.Records.reads`: records are read one after the other
- `Layout.Serializes.decode_eq`: decoding undoes writing
-/

namespace ChainFeed

open Wire

/-! ### Records -/

/-- The bytes of a value that is no message. Numbers may be padded; a negative one has all its
sixty-four bits. -/
inductive FieldType.Writes : FieldType → FieldValue → List UInt8 → Prop
  | text {s : String} {written : List UInt8} (h : Delimited (Utf8.encode s) written) :
    Writes .text (.text s) written
  | bytes {payload written : List UInt8} (h : Delimited payload written) :
    Writes .bytes (.bytes payload) written
  | uint64 {n : UInt64} {written : List UInt8} (h : Varint n.toNat written) :
    Writes .uint64 (.uint64 n) written
  | int32 {n : Int32} {written : List UInt8} (h : Varint (signExtend n.toInt) written) :
    Writes .int32 (.int32 n) written

theorem FieldType.Writes.reads {type : FieldType} {value : FieldValue} {written : List UInt8}
    (h : type.Writes value written) : type.Reads value written := by
  cases h with
  | text h => exact .text (Utf8.decode?_encode _) h
  | bytes h => exact .bytes h
  | @uint64 n _ h =>
    have hread := FieldType.Reads.uint64 h
    rwa [show n.toNat.toUInt64 = n from UInt64.ofNat_toNat] at hread
  | @int32 n _ h =>
    have hread := FieldType.Reads.int32 h
    rwa [lowSigned_signExtend_thirtyTwo n.le_toInt n.toInt_lt,
      show n.toInt.toInt32 = n from Int32.ofInt_toInt n] at hread

/-- The values that records hold for the field at a position, in order. -/
def itemsAt (i : Nat) (occurrences : List (Nat × FieldValue)) : List FieldValue :=
  (occurrences.filter fun occurrence => occurrence.1 = i).map (·.2)

/-- The values in records that stand for the value of a field. -/
inductive FieldValue.Carried : Occurrence → FieldType → List FieldValue → FieldValue → Prop
  | repeated {type : FieldType} {items : List FieldValue} :
    Carried .repeated type items (.list items)
  | absent {layout : Layout} : Carried .single (.message layout) [] .absent
  | message {layout : Layout} {item : FieldValue} : Carried .single (.message layout) [item] item
  | last {type : FieldType} {items : List FieldValue} (htype : type.nested? = none) :
    Carried .single type items (items.getLast?.getD (Layout.absentValue .single type))

namespace Layout

/-- The values in records that stand for the fields of a message. -/
structure Carries (layout : Layout) (occurrences : List (Nat × FieldValue))
    (values : List FieldValue) : Prop where
  length_eq : values.length = layout.fields.length
  carried : ∀ {i number : Nat} {name : String} {occurrence : Occurrence} {type : FieldType}
    {value : FieldValue}, layout.fields[i]? = some (number, name, occurrence, type) →
      values[i]? = some value → value.Carried occurrence type (itemsAt i occurrences)

/-- Records one behind the other, and the values that they hold. -/
inductive Records : Layout → List (Nat × FieldValue) → List UInt8 → Prop
  | nil {layout : Layout} : Records layout [] []
  | undeclared {layout : Layout} {occurrences : List (Nat × FieldValue)} {number : Nat}
    {wireType : WireType} {key written rest : List UInt8} (hfind : layout.find? number = none)
    (hkey : Key number wireType key) (h : Payload wireType written)
    (hrest : Records layout occurrences rest) :
    Records layout occurrences (key ++ (written ++ rest))
  | value {layout : Layout} {occurrences : List (Nat × FieldValue)} {number i : Nat} {name : String}
    {occurrence : Occurrence} {type : FieldType} {item : FieldValue}
    {key written rest : List UInt8}
    (hfind : layout.find? number = some (i, number, name, occurrence, type))
    (hkey : Key number type.wireType key) (h : type.Writes item written)
    (hrest : Records layout occurrences rest) :
    Records layout ((i, item) :: occurrences) (key ++ (written ++ rest))
  | message {layout nested : Layout} {occurrences inner : List (Nat × FieldValue)} {number i : Nat}
    {name : String} {occurrence : Occurrence} {fields : List FieldValue}
    {key payload written rest : List UInt8}
    (hfind : layout.find? number = some (i, number, name, occurrence, .message nested))
    (hkey : Key number .lengthDelimited key) (hinner : Records nested inner payload)
    (hcarries : nested.Carries inner fields) (h : Delimited payload written)
    (hrest : Records layout occurrences rest) :
    Records layout ((i, .message fields) :: occurrences) (key ++ (written ++ rest))

/-- The bytes of a message. -/
def Serializes (layout : Layout) (values : List FieldValue) (bytes : List UInt8) : Prop :=
  ∃ occurrences, layout.Records occurrences bytes ∧ layout.Carries occurrences values

/-! ### What records leave -/

/-- The fields of a message after one more record. -/
def put (layout : Layout) (values : List FieldValue) (new : Nat × FieldValue) : List FieldValue :=
  match layout.fields[new.1]? with
  | some (_, _, occurrence, _) =>
    values.set new.1 (addRecord occurrence (values.getD new.1 .absent) new.2)
  | none => values

section Put

variable {layout nested : Layout} {occurrences : List (Nat × FieldValue)}
  {values items fields : List FieldValue} {number i j : Nat} {name : String}
  {occurrence : Occurrence} {type : FieldType} {old new value : FieldValue}

theorem put_eq (h : layout.fields[i]? = some (number, name, occurrence, type)) :
    layout.put values (i, new) =
      values.set i (addRecord occurrence (values.getD i .absent) new) := by
  rw [put, h]

@[simp] theorem length_put (new : Nat × FieldValue) :
    (layout.put values new).length = values.length := by
  rw [put]
  split
  · exact List.length_set
  · rfl

@[simp] theorem length_foldl_put :
    (occurrences.foldl layout.put values).length = values.length := by
  induction occurrences generalizing values with
  | nil => rfl
  | cons occurrence occurrences ih => rw [List.foldl_cons, ih, length_put]

theorem getElem?_put_of_ne (h : j ≠ i) : (layout.put values (j, new))[i]? = values[i]? := by
  rw [put]
  split
  · exact List.getElem?_set_ne h
  · rfl

theorem itemsAt_cons_self :
    itemsAt i ((i, new) :: occurrences) = new :: itemsAt i occurrences := by
  rw [itemsAt, List.filter_cons_of_pos (by simp)]
  rfl

theorem itemsAt_cons_of_ne (h : j ≠ i) :
    itemsAt i ((j, new) :: occurrences) = itemsAt i occurrences := by
  rw [itemsAt, List.filter_cons_of_neg (by simpa using h)]
  rfl

/-- A field is made of the records at its position. -/
theorem getElem?_foldl_put (h : layout.fields[i]? = some (number, name, occurrence, type)) :
    (occurrences.foldl layout.put values)[i]? =
      values[i]?.map ((itemsAt i occurrences).foldl (addRecord occurrence)) := by
  induction occurrences generalizing values with
  | nil => exact Option.map_id'.symm
  | cons first occurrences ih =>
    obtain ⟨j, new⟩ := first
    rw [List.foldl_cons, ih]
    by_cases hij : j = i
    · obtain rfl := hij
      rw [itemsAt_cons_self, put_eq h, List.getElem?_set_self']
      cases hvalue : values[j]? with
      | none => rfl
      | some old => rw [List.getD, hvalue]; rfl
    · rw [itemsAt_cons_of_ne hij, getElem?_put_of_ne hij]

theorem addRecord_single : addRecord .single old new = new := by
  cases old <;> rfl

theorem foldl_addRecord_single :
    items.foldl (addRecord .single) old = items.getLast?.getD old := by
  induction items generalizing old with
  | nil => rfl
  | cons item items ih =>
    rw [List.foldl_cons, ih, addRecord_single, List.getLast?_cons]
    rfl

theorem foldl_addRecord_repeated (front : List FieldValue) :
    items.foldl (addRecord .repeated) (.list front) = .list (front ++ items) := by
  induction items generalizing front with
  | nil => rw [List.append_nil]; rfl
  | cons item items ih =>
    rw [List.foldl_cons]
    exact (ih (front ++ [item])).trans (by rw [List.append_assoc]; rfl)

theorem Carried.foldl_eq (h : value.Carried occurrence type items) :
    items.foldl (addRecord occurrence) (absentValue occurrence type) = value := by
  cases h with
  | repeated => exact foldl_addRecord_repeated []
  | absent => rfl
  | message => rfl
  | last => exact foldl_addRecord_single

/-- The records of a message leave the fields that they carry. -/
theorem Carries.foldl_put_eq (h : layout.Carries occurrences values) :
    occurrences.foldl layout.put layout.empty = values := by
  refine List.ext_getElem? fun i => ?_
  cases hfield : layout.fields[i]? with
  | none =>
    have hlength := List.getElem?_eq_none_iff.mp hfield
    rw [List.getElem?_eq_none_iff.mpr, List.getElem?_eq_none_iff.mpr]
    · rw [h.length_eq]
      exact hlength
    · rw [length_foldl_put, empty, List.length_map]
      exact hlength
  | some field =>
    obtain ⟨number, name, occurrence, type⟩ := field
    have hlt : i < values.length := by
      rw [h.length_eq]
      exact (List.getElem?_eq_some_iff.mp hfield).1
    have hvalue : values[i]? = some values[i] := List.getElem?_eq_getElem hlt
    rw [getElem?_foldl_put hfield, empty, List.getElem?_map, hfield, hvalue]
    exact congrArg some (Carried.foldl_eq (h.carried hfield hvalue))

end Put

/-! ### Reading records -/

section Read

variable {layout : Layout} {occurrences : List (Nat × FieldValue)}
  {values : List FieldValue} {bytes : List UInt8}

/-- Single messages come once at most, and not at all where there already is one. -/
def Fresh (layout : Layout) (occurrences : List (Nat × FieldValue)) (values : List FieldValue) :
    Prop :=
  ∀ {i number : Nat} {name : String} {nested : Layout},
    layout.fields[i]? = some (number, name, .single, .message nested) →
      itemsAt i occurrences = [] ∨
        values.getD i .absent = .absent ∧ (itemsAt i occurrences).length ≤ 1

/-- What is left of the records behind the first one is as fresh. -/
theorem Fresh.tail {i : Nat} {new : FieldValue}
    (h : layout.Fresh ((i, new) :: occurrences) values) :
    layout.Fresh occurrences (layout.put values (i, new)) := by
  intro j number name nested hfield
  by_cases hij : i = j
  · obtain rfl := hij
    left
    rcases h hfield with hnone | ⟨-, hlength⟩
    · rw [itemsAt_cons_self] at hnone
      cases hnone
    · rw [itemsAt_cons_self] at hlength
      exact List.length_eq_zero_iff.mp (Nat.le_zero.mp (Nat.le_of_succ_le_succ hlength))
  · have hitems := h hfield
    rw [itemsAt_cons_of_ne hij] at hitems
    rwa [List.getD, getElem?_put_of_ne hij]

/-- A record starts a message of its own if its field is repeated, or still without a message. -/
theorem Fresh.continued_eq {i number : Nat} {name : String} {occurrence : Occurrence}
    {nested : Layout} {new : FieldValue} (h : layout.Fresh ((i, new) :: occurrences) values)
    (hfield : layout.fields[i]? = some (number, name, occurrence, .message nested)) :
    continued occurrence nested (values.getD i .absent) = nested.empty := by
  cases occurrence with
  | repeated => cases values.getD i .absent <;> rfl
  | single =>
    rcases h hfield with hnone | ⟨habsent, -⟩
    · rw [itemsAt_cons_self] at hnone
      cases hnone
    · rw [habsent]
      rfl

/-- Before the first record there is no message yet. -/
theorem Carries.fresh (h : layout.Carries occurrences values) :
    layout.Fresh occurrences layout.empty := by
  intro i number name nested hfield
  have hlt : i < values.length := by
    rw [h.length_eq]
    exact (List.getElem?_eq_some_iff.mp hfield).1
  have hempty : layout.empty.getD i .absent = .absent := by
    rw [empty, List.getD, List.getElem?_map, hfield]
    rfl
  have hcarried := h.carried hfield (List.getElem?_eq_getElem hlt)
  generalize itemsAt i occurrences = items, values[i] = value at hcarried
  cases hcarried with
  | absent => exact .inl rfl
  | message => exact .inr ⟨hempty, Nat.le_refl 1⟩
  | last htype => cases htype

/-- Records are read one after the other. -/
theorem Records.reads (h : layout.Records occurrences bytes)
    (hfresh : layout.Fresh occurrences values) :
    layout.Reads values bytes (occurrences.foldl layout.put values) := by
  induction h generalizing values with
  | nil => exact .done
  | undeclared hfind hkey h _ ih => exact .undeclared hfind hkey h (ih hfresh)
  | value hfind hkey h _ ih =>
    have hrest := ih hfresh.tail
    rw [put_eq (find?_eq_some hfind)] at hrest
    rw [List.foldl_cons, put_eq (find?_eq_some hfind)]
    exact .value hfind hkey h.reads hrest
  | message hfind hkey _ hcarries h _ ihinner ih =>
    have hfield := find?_eq_some hfind
    have hpayload := ihinner hcarries.fresh
    rw [hcarries.foldl_put_eq, ← hfresh.continued_eq hfield] at hpayload
    have hrest := ih hfresh.tail
    rw [put_eq hfield] at hrest
    rw [List.foldl_cons, put_eq hfield]
    exact .message hfind hkey hpayload h hrest

theorem Serializes.reads (h : layout.Serializes values bytes) :
    layout.Reads layout.empty bytes values := by
  obtain ⟨occurrences, hrecords, hcarries⟩ := h
  have hreads := hrecords.reads hcarries.fresh
  rwa [hcarries.foldl_put_eq] at hreads

/-- A message is decoded from whatever bytes it is written as. -/
theorem Serializes.decode_eq {depth : Nat} (h : layout.Serializes values bytes)
    (hnests : layout.Nests depth) (hdepth : depth < maxNesting) :
    layout.decode bytes = .ok values :=
  h.reads.decode_eq hnests hdepth

end Read

end Layout

end ChainFeed
