import ChainFeed.Proofs.Json.Members
import ChainFeed.Proofs.Message.Serialization
import Mathlib.Data.List.Nodup

/-!
# Gathering the fields of a message

While a message is read, the values that have occurred stand under the names of their fields; at its
end the fields that did not occur get their default. What stands under a name depends only on the
occurrences of that field, in their order, and not on the other fields between them.

## Main definitions

- `Schema.add`, `Schema.gather`: the occurrences of fields as members

## Main results

- `Schema.get?_gather`: what stands under a field's name is gathered from its own occurrences
- `Schema.fillAbsent_gather`: the members of a message, once all its records are read
-/

namespace ChainFeed

/-! ### Occurrences of one field -/

section Occurrences

variable {α β : Type} {field other : SchemaField} {occurrences : List (SchemaField × α)}

@[simp] theorem occurrencesOf_nil : occurrencesOf field ([] : List (SchemaField × α)) = [] := rfl

theorem occurrencesOf_cons_self (value : α) :
    occurrencesOf field ((field, value) :: occurrences) =
      value :: occurrencesOf field occurrences := by
  simp [occurrencesOf]

theorem occurrencesOf_cons_of_ne (h : other ≠ field) (value : α) :
    occurrencesOf field ((other, value) :: occurrences) = occurrencesOf field occurrences := by
  simp [occurrencesOf, h]

theorem occurrencesOf_append (others : List (SchemaField × α)) :
    occurrencesOf field (occurrences ++ others) =
      occurrencesOf field occurrences ++ occurrencesOf field others := by
  simp only [occurrencesOf, List.filter_append, List.map_append]

theorem occurrencesOf_append_self (value : α) :
    occurrencesOf field (occurrences ++ [(field, value)]) =
      occurrencesOf field occurrences ++ [value] := by
  rw [occurrencesOf_append]
  simp [occurrencesOf]

theorem occurrencesOf_append_of_ne (h : other ≠ field) (value : α) :
    occurrencesOf field (occurrences ++ [(other, value)]) = occurrencesOf field occurrences := by
  rw [occurrencesOf_append]
  simp [occurrencesOf, h]

theorem mem_occurrencesOf {value : α} :
    value ∈ occurrencesOf field occurrences ↔ (field, value) ∈ occurrences := by
  simp [occurrencesOf]

theorem occurrencesOf_map (f : SchemaField → α → β) :
    occurrencesOf field (occurrences.map fun o => (o.1, f o.1 o.2)) =
      (occurrencesOf field occurrences).map (f field) := by
  induction occurrences with
  | nil => rfl
  | cons first rest ih =>
    obtain ⟨owner, value⟩ := first
    simp only [occurrencesOf] at ih ⊢
    rw [List.map_cons, List.filter_cons, List.filter_cons]
    by_cases howner : owner = field
    · simp only [howner, decide_true, if_true, List.map_cons, ih]
    · simp only [howner, decide_false, Bool.false_eq_true, if_false, ih]

end Occurrences

namespace Schema

variable {field : SchemaField} {fields : List SchemaField} {out : Members Json} {name : String}
  {value : Json} {values : List Json} {occurrences : List (SchemaField × Json)}

/-! ### Adding a value to an array -/

theorem get?_push_of_ne {key : String} (h : name ≠ key) :
    (push name value out).get? key = out.get? key := by
  unfold push
  split <;> exact Members.get?_insert_of_ne h

theorem get?_push_of_none (h : out.get? name = none) :
    (push name value out).get? name = some (.array [value]) := by
  rw [push, h]
  exact Members.get?_insert_self

theorem get?_push_of_array (h : out.get? name = some (.array values)) :
    (push name value out).get? name = some (.array (values ++ [value])) := by
  rw [push, h]
  exact Members.get?_insert_self

theorem sorted_push (h : out.Sorted) : (push name value out).Sorted := by
  unfold push
  split <;> exact Members.sorted_insert _ _ h

/-! ### Gathering occurrences -/

/-- Adds an occurrence: to the others of a repeated field, in place of them otherwise. -/
def add (out : Members Json) (occurrence : SchemaField × Json) : Members Json :=
  if occurrence.1.repeated then push occurrence.1.name occurrence.2 out
  else out.insert occurrence.1.name occurrence.2

/-- The members that a list of occurrences makes. -/
def gather (occurrences : List (SchemaField × Json)) : Members Json :=
  occurrences.foldl add []

theorem gather_append_singleton (occurrence : SchemaField × Json) :
    gather (occurrences ++ [occurrence]) = add (gather occurrences) occurrence := by
  rw [gather, List.foldl_append]
  rfl

theorem get?_add_of_ne {key : String} {occurrence : SchemaField × Json}
    (h : occurrence.1.name ≠ key) : (add out occurrence).get? key = out.get? key := by
  unfold add
  split
  · exact get?_push_of_ne h
  · exact Members.get?_insert_of_ne h

theorem sorted_add (occurrence : SchemaField × Json) (h : out.Sorted) :
    (add out occurrence).Sorted := by
  unfold add
  split
  · exact sorted_push h
  · exact Members.sorted_insert _ _ h

theorem sorted_gather (occurrences : List (SchemaField × Json)) : (gather occurrences).Sorted := by
  -- the last occurrence is added last
  induction occurrences using List.reverseRecOn with
  | nil => exact Members.sorted_nil
  | append_singleton occurrences occurrence ih =>
    rw [gather_append_singleton]
    exact sorted_add occurrence ih

theorem get?_gather_of_ne {key : String} (h : ∀ occurrence ∈ occurrences, occurrence.1.name ≠ key) :
    (gather occurrences).get? key = none := by
  induction occurrences using List.reverseRecOn with
  | nil => rfl
  | append_singleton occurrences occurrence ih =>
    have hlast : occurrence.1.name ≠ key := h occurrence (by simp)
    rw [gather_append_singleton, get?_add_of_ne hlast]
    exact ih fun earlier hearlier => h earlier (List.mem_append_left _ hearlier)

/-- What one more value of a field makes of the values before it. -/
theorem get?_add_self
    (h : out.get? field.name = if values = [] then none else some (field.collect values)) :
    (add out (field, value)).get? field.name = some (field.collect (values ++ [value])) := by
  unfold add
  dsimp only
  split
  -- a repeated field keeps the values before it, if there are any
  · rename_i hrepeated
    by_cases hvalues : values = []
    · rw [if_pos hvalues] at h
      rw [get?_push_of_none h, hvalues, SchemaField.collect, if_pos hrepeated]
      rfl
    · rw [if_neg hvalues, SchemaField.collect, if_pos hrepeated] at h
      rw [get?_push_of_array h, SchemaField.collect, if_pos hrepeated]
  -- of a single field the value takes the place of the one before
  · rename_i hsingle
    rw [Members.get?_insert_self, SchemaField.collect, if_neg hsingle, List.getLast?_concat,
      Option.getD_some]

/-- Under the name of a field stands what its own occurrences make, as long as no other field has
that name. -/
theorem get?_gather (h : ∀ occurrence ∈ occurrences,
    occurrence.1.name = field.name → occurrence.1 = field) :
    (gather occurrences).get? field.name =
      if occurrencesOf field occurrences = [] then none
      else some (field.collect (occurrencesOf field occurrences)) := by
  induction occurrences using List.reverseRecOn with
  | nil => rfl
  | append_singleton occurrences occurrence ih =>
    have ih := ih fun earlier hearlier => h earlier (List.mem_append_left _ hearlier)
    obtain ⟨owner, value⟩ := occurrence
    rw [gather_append_singleton]
    by_cases howner : owner = field
    · rw [howner, occurrencesOf_append_self, get?_add_self ih, if_neg (by simp)]
    · have hname : owner.name ≠ field.name := fun hname => howner (h (owner, value) (by simp) hname)
      rw [get?_add_of_ne hname, ih, occurrencesOf_append_of_ne howner]

/-! ### The fields that do not occur -/

theorem sorted_fillAbsent (fields : List SchemaField) (h : out.Sorted) :
    (fillAbsent fields out).Sorted := by
  unfold fillAbsent
  induction fields generalizing out with
  | nil => exact h
  | cons field fields ih =>
    rw [List.foldl_cons]
    split
    · exact ih h
    · exact ih (Members.sorted_insert _ _ h)

theorem get?_fillAbsent (fields : List SchemaField) (out : Members Json) (name : String) :
    (fillAbsent fields out).get? name = (out.get? name).or
      ((fields.find? fun field => field.name = name).map SchemaField.absentValue) := by
  unfold fillAbsent
  -- a default is put in at most once: the fields behind it find it there
  induction fields generalizing out with
  | nil => simp
  | cons field fields ih =>
    rw [List.foldl_cons, ih, List.find?_cons]
    by_cases hname : field.name = name
    · simp only [hname, decide_true, Option.map_some]
      cases hout : out.get? name with
      | none => simp [Members.contains, hout]
      | some found => simp [Members.contains, hout]
    · simp only [hname, decide_false]
      split
      · rfl
      · rw [Members.get?_insert_of_ne hname]

/-- A field is found by what tells it from the others. -/
theorem find?_of_mem_of_nodup {κ : Type} [DecidableEq κ] {key : SchemaField → κ}
    (hnodup : (fields.map key).Nodup) (h : field ∈ fields) :
    fields.find? (fun other => key other = key field) = some field := by
  obtain ⟨found, hfound⟩ :
      ∃ found, fields.find? (fun other => key other = key field) = some found :=
    Option.isSome_iff_exists.mp (List.find?_isSome.mpr ⟨field, h, by simp⟩)
  have hkey : key found = key field := by simpa using List.find?_some hfound
  rw [hfound, List.inj_on_of_nodup_map hnodup (List.mem_of_find?_eq_some hfound) h hkey]

theorem collect_nil (field : SchemaField) :
    field.collect [] = SchemaField.absentValue field := rfl

/-- The members of a message are, for each declared field, what its occurrences make. -/
theorem fillAbsent_gather (hnodup : (fields.map (·.name)).Nodup)
    (h : ∀ occurrence ∈ occurrences, occurrence.1 ∈ fields) :
    fillAbsent fields (gather occurrences) = Members.ofList (fields.map fun field =>
      (field.name, field.collect (occurrencesOf field occurrences))) := by
  -- both sides are sorted, so it is enough to compare what is found
  refine (sorted_fillAbsent fields (sorted_gather occurrences)).ext (Members.sorted_ofList _) ?_
  intro name
  rw [get?_fillAbsent, Members.get?_ofList]
  by_cases hname : ∃ field ∈ fields, field.name = name
  · obtain ⟨field, hfield, rfl⟩ := hname
    have hself : ∀ occurrence ∈ occurrences,
        occurrence.1.name = field.name → occurrence.1 = field := fun occurrence hmem =>
      List.inj_on_of_nodup_map hnodup (h occurrence hmem) hfield
    have hkeys : ((fields.map fun field => (field.name,
        field.collect (occurrencesOf field occurrences))).reverse.map (·.1)).Nodup := by
      rw [List.map_reverse, List.nodup_reverse, List.map_map]
      exact hnodup
    rw [get?_gather hself, find?_of_mem_of_nodup hnodup hfield, Members.get?_of_mem_of_nodup hkeys
      (List.mem_reverse.mpr (List.mem_map_of_mem hfield))]
    by_cases hempty : occurrencesOf field occurrences = []
    · rw [if_pos hempty, hempty, collect_nil]
      rfl
    · rw [if_neg hempty]
      rfl
  -- neither side has a name that is not declared
  · have hother : ∀ field ∈ fields, field.name ≠ name := fun field hfield heq =>
      hname ⟨field, hfield, heq⟩
    have hnone : fields.find? (fun field => field.name = name) = none :=
      List.find?_eq_none.mpr fun field hfield => by simpa using hother field hfield
    rw [get?_gather_of_ne fun occurrence hmem => hother occurrence.1 (h occurrence hmem), hnone,
      Option.map_none, Option.or_none, eq_comm, Members.get?_eq_none_iff]
    intro entry hentry
    obtain ⟨field, hfield, rfl⟩ := List.mem_map.mp (List.mem_reverse.mp hentry)
    exact hother field hfield

end Schema

end ChainFeed
