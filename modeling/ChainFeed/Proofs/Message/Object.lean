import ChainFeed.Message.Layout
import ChainFeed.Proofs.Json.Members

/-!
# The object of a message

As JSON a message of fixed layout is an object with one member for each field. As long as the fields
differ in name, the value of each field stands under its name, and nothing under any other name.

## Main definitions

- `Layout.value?`: the value of a field by name

## Main results

- `Layout.get?_membersToJson`: what stands under the name of a field
- `Layout.get?_membersToJson_eq_none`: nothing stands under other names
- `Layout.value?_eq_some`: the value of a field is found by its name
-/

namespace ChainFeed

theorem FieldValue.itemsToJson_eq_map (type : FieldType) (items : List FieldValue) :
    itemsToJson type items = items.map (toJson type) := by
  induction items with
  | nil => rw [itemsToJson, List.map_nil]
  | cons item items ih => rw [itemsToJson, ih, List.map_cons]

namespace Layout

/-- The value of the field of a name. -/
def value? (layout : Layout) (name : String) (values : List FieldValue) : Option FieldValue :=
  ((layout.fields.zip values).find? fun (field, _) => field.2.1 = name).map (·.2)

variable {layout : Layout} {fields : List LayoutField} {values : List FieldValue} {number : Nat}
  {name : String} {occurrence : Occurrence} {type : FieldType} {value : FieldValue}

theorem toJson_eq (layout : Layout) (values : List FieldValue) :
    layout.toJson values = .ofMembers (membersToJson layout.fields values) := by
  cases layout with
  | mk => rw [toJson, Layout.fields]

/-- The members are named for the fields. -/
theorem map_fst_membersToJson_sublist :
    ((membersToJson fields values).map (·.1)).Sublist (fields.map fun field => field.2.1) := by
  induction fields generalizing values with
  | nil => simp [membersToJson]
  | cons field fields ih =>
    cases values with
    | nil => simp [membersToJson]
    | cons value values =>
      rw [membersToJson]
      exact ih.cons_cons _

theorem mem_membersToJson (h : ((number, name, occurrence, type), value) ∈ fields.zip values) :
    (name, value.toJson type) ∈ membersToJson fields values := by
  induction fields generalizing values with
  | nil => cases h
  | cons field fields ih =>
    cases values with
    | nil => cases h
    | cons head values =>
      rw [membersToJson]
      rcases List.mem_cons.mp h with heq | hrest
      · obtain ⟨rfl, rfl⟩ := Prod.mk.inj heq
        exact List.mem_cons_self
      · exact List.mem_cons_of_mem _ (ih hrest)

/-- The object of a message has the value of each field under its name. -/
theorem get?_membersToJson (hnames : (fields.map fun field => field.2.1).Nodup)
    (h : ((number, name, occurrence, type), value) ∈ fields.zip values) :
    (Members.ofList (membersToJson fields values)).get? name = some (value.toJson type) := by
  rw [Members.get?_ofList]
  refine Members.get?_of_mem_of_nodup ?_ (List.mem_reverse.mpr (mem_membersToJson h))
  rw [List.map_reverse, List.Nodup, List.pairwise_reverse]
  exact (hnames.sublist map_fst_membersToJson_sublist).imp Ne.symm

theorem get?_membersToJson_eq_none (h : ∀ field ∈ fields, field.2.1 ≠ name) :
    (Members.ofList (membersToJson fields values)).get? name = none := by
  rw [Members.get?_ofList, Members.get?_eq_none_iff]
  intro entry hentry
  have hmem := map_fst_membersToJson_sublist.subset
    (List.mem_map_of_mem (List.mem_reverse.mp hentry))
  obtain ⟨field, hfield, heq⟩ := List.mem_map.mp hmem
  exact heq ▸ h field hfield

end Layout

end ChainFeed
