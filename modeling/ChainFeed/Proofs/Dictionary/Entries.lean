import ChainFeed.Dictionary.Query
import ChainFeed.Proofs.Except
import ChainFeed.Proofs.Json.Members
import ChainFeed.Proofs.Json.Printer

/-!
# The entries of a list of handlers

Entries that are written alike are the same entry, so that leaving out all but the first of them
loses none: the entries of a list of handlers are exactly the entries of its handlers, if all of
them have one.

## Main results

- `QueryEntry.text_injective`: different entries have different texts
- `QueryEntry.mem_ofHandlers_iff`: which entries there are
-/

namespace ChainFeed

theorem Matcher.name_injective {m n : Matcher} (h : m.name = n.name) : m = n := by
  cases m <;> cases n <;> first | rfl | exact absurd h (by decide)

/-- The members of an object, by which written structures are told apart. -/
theorem Json.get?_eq_of_ofMembers_eq {xs ys : List (String × Json)}
    (h : Json.ofMembers xs = Json.ofMembers ys) (name : String) :
    Members.get? name xs.reverse = Members.get? name ys.reverse := by
  rw [← Members.get?_ofList, ← Members.get?_ofList, Json.object.inj h]

theorem QueryCondition.toJson_injective {c d : QueryCondition} (h : c.toJson = d.toJson) :
    c = d := by
  -- all three members are found again in the object
  obtain ⟨field, value, matcher⟩ := c
  obtain ⟨field', value', matcher'⟩ := d
  have hfield := Json.get?_eq_of_ofMembers_eq h "field"
  have hvalue := Json.get?_eq_of_ofMembers_eq h "value"
  have hmatcher := Json.get?_eq_of_ofMembers_eq h "matcher"
  simp [Members.get?_cons] at hfield hvalue hmatcher
  rw [hfield, hvalue, Matcher.name_injective hmatcher]

namespace QueryEntry

variable {entry other : QueryEntry} {entries : List QueryEntry} {handlers : List Handler}

theorem toJson_injective (h : entry.toJson = other.toJson) : entry = other := by
  obtain ⟨entity, conditions⟩ := entry
  obtain ⟨entity', conditions'⟩ := other
  have hentity := Json.get?_eq_of_ofMembers_eq h "entity"
  have hconditions := Json.get?_eq_of_ofMembers_eq h "conditions"
  simp [Members.get?_cons] at hentity hconditions
  rw [hentity, List.map_injective_iff.mpr (fun _ _ => QueryCondition.toJson_injective) hconditions]

/-- Different entries have different texts. -/
theorem text_injective (h : entry.text = other.text) : entry = other :=
  toJson_injective (Json.render_injective h)

/-- Entries are left out only where the same entry stands before. -/
theorem mem_distinct_iff : entry ∈ distinct entries ↔ entry ∈ entries := by
  induction entries with
  | nil => rfl
  | cons first rest ih =>
    rw [distinct, List.mem_cons, List.mem_cons, List.mem_filter, ih]
    -- an entry is left out for its text, which is that of the same entry only
    by_cases heq : entry = first
    · exact iff_of_true (.inl heq) (.inl heq)
    · have hne : (entry.text != first.text) = true :=
        bne_iff_ne.mpr fun htext => heq (text_injective htext)
      rw [hne]
      simp only [and_true]

theorem mem_of_mapM_eq_some {α β : Type} {f : α → Option β} {xs : List α} {ys : List β}
    (h : xs.mapM f = some ys) {y : β} : y ∈ ys ↔ ∃ x ∈ xs, f x = some y := by
  have hall := mapM_eq_some_iff.mp h
  constructor
  · exact exists_of_mem_of_forall₂ hall
  · rintro ⟨x, hx, hy⟩
    obtain ⟨z, hz, hfound⟩ := exists_of_mem_of_forall₂ hall.flip hx
    obtain rfl : y = z := Option.some.inj (hy.symm.trans hfound)
    exact hz

/-- The entries of a list of handlers are the entries of the handlers, unless there are none. -/
theorem mem_ofHandlers_iff (h : ofHandlers handlers ≠ []) :
    entry ∈ ofHandlers handlers ↔ ∃ handler ∈ handlers, ofHandler? handler = some entry := by
  unfold ofHandlers at h ⊢
  cases hentries : handlers.mapM ofHandler? with
  | none =>
    rw [hentries] at h
    exact absurd rfl h
  | some entries => exact mem_distinct_iff.trans (mem_of_mapM_eq_some hentries)

end QueryEntry

end ChainFeed
