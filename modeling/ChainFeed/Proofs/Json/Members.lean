import ChainFeed.Json.Basic
import Mathlib.Data.List.Induction
import Mathlib.Data.String.Basic

/-!
# Members by name

Members are looked up by name, and a name that is put in anew replaces the one before. As long as
members are put in one by one they stay sorted, and sorted members with the same values under all
names are the same.

## Main definitions

- `ChainFeed.Members.Sorted`: each name stands before all greater ones, and once

## Main results

- `get?_insert`, `get?_ofList`: what is found after members were put in
- `sorted_insert`, `sorted_ofList`: members stay sorted
- `Sorted.ext`: sorted members are determined by what is found in them
- `Sorted.ofList_eq`: sorted members stay as they are when they are put in one by one
-/

namespace ChainFeed.Members

variable {α β : Type} {members others : Members α} {name key : String} {value : α}

/-! ### Looking up -/

@[simp] theorem get?_nil : get? name ([] : Members α) = none := rfl

theorem get?_cons (entry : String × α) :
    get? name (entry :: members) = if entry.1 = name then some entry.2 else get? name members := rfl

@[simp] theorem get?_cons_self (entry : String × α) :
    get? entry.1 (entry :: members) = some entry.2 := if_pos rfl

theorem get?_eq_lookup (name : String) (members : Members α) :
    members.get? name = List.lookup name members := by
  induction members with
  | nil => rfl
  | cons entry rest ih =>
    rw [get?_cons, List.lookup_cons, ih]
    by_cases hname : entry.1 = name
    · rw [if_pos hname, hname, beq_self_eq_true]
    · rw [if_neg hname, beq_false_of_ne (Ne.symm hname)]

theorem get?_eq_none_iff : members.get? name = none ↔ ∀ entry ∈ members, entry.1 ≠ name := by
  induction members with
  | nil => simp
  | cons entry rest ih =>
    rw [get?_cons, List.forall_mem_cons, ← ih]
    split
    · rename_i heq
      simp [heq]
    · rename_i hne
      simp [hne]

theorem contains_iff_mem : members.contains name = true ↔ name ∈ members.map (·.1) := by
  rw [contains, Option.isSome_iff_ne_none, ne_eq, get?_eq_none_iff]
  simp only [not_forall, not_not, List.mem_map]
  exact ⟨fun ⟨entry, hmem, heq⟩ => ⟨entry, hmem, heq⟩, fun ⟨entry, hmem, heq⟩ => ⟨entry, hmem, heq⟩⟩

/-- Names that are present at most once are found wherever they stand. -/
theorem get?_of_mem_of_nodup (hnodup : (members.map (·.1)).Nodup) (h : (name, value) ∈ members) :
    members.get? name = some value := by
  induction members with
  | nil => exact nomatch h
  | cons entry rest ih =>
    rw [List.map_cons, List.nodup_cons] at hnodup
    rw [get?_cons]
    rcases List.mem_cons.mp h with rfl | hrest
    · exact if_pos rfl
    · have hne : entry.1 ≠ name := by
        rintro rfl
        exact hnodup.1 (List.mem_map.mpr ⟨_, hrest, rfl⟩)
      rw [if_neg hne]
      exact ih hnodup.2 hrest

theorem mem_of_get?_eq_some (h : members.get? name = some value) : (name, value) ∈ members := by
  rw [get?_eq_lookup] at h
  obtain ⟨front, behind, rfl, -⟩ := List.lookup_eq_some_iff.mp h
  exact List.mem_append_right _ List.mem_cons_self

@[simp] theorem get?_append (members others : Members α) (name : String) :
    get? name (members ++ others) = (members.get? name).or (others.get? name) := by
  rw [get?_eq_lookup, get?_eq_lookup, get?_eq_lookup, List.lookup_append]

theorem get?_filter_of_ne (h : name ≠ key) (members : Members α) :
    get? name (members.filter fun entry => entry.1 ≠ key) = members.get? name := by
  induction members with
  | nil => rfl
  | cons entry rest ih =>
    by_cases hkey : entry.1 = key
    · have hne : entry.1 ≠ name := fun heq => h (heq.symm.trans hkey)
      rw [List.filter_cons_of_neg (by simpa using hkey), ih, get?_cons, if_neg hne]
    · rw [List.filter_cons_of_pos (by simpa using hkey), get?_cons, get?_cons, ih]

/-- Members of different names are found from the other end, too. -/
theorem get?_reverse (hnodup : (members.map (·.1)).Nodup) (name : String) :
    get? name members.reverse = members.get? name := by
  have hreverse : (members.reverse.map (·.1)).Nodup := by
    rw [List.map_reverse]
    exact List.pairwise_reverse.mpr (hnodup.imp Ne.symm)
  cases hget : members.get? name with
  | none =>
    rw [get?_eq_none_iff] at hget ⊢
    exact fun entry hentry => hget entry (List.mem_reverse.mp hentry)
  | some value =>
    have hmem := mem_of_get?_eq_some hget
    exact get?_of_mem_of_nodup hreverse (List.mem_reverse.mpr hmem)

/-! ### Putting in -/

theorem get?_insert :
    get? key (insert name value members) = if name = key then some value else get? key members := by
  induction members with
  | nil => rfl
  | cons entry rest ih =>
    obtain ⟨first, old⟩ := entry
    unfold insert
    split
    · rename_i heq
      subst heq
      rw [get?_cons, get?_cons]
      split
      · rfl
      · rfl
    · rename_i hne
      split
      · rfl
      · rw [get?_cons, get?_cons, ih]
        by_cases hfirst : first = key
        · have hname : name ≠ key := fun heq => hne (heq.trans hfirst.symm)
          rw [if_pos hfirst, if_pos hfirst, if_neg hname]
        · rw [if_neg hfirst, if_neg hfirst]

@[simp] theorem get?_insert_self : get? name (insert name value members) = some value := by
  rw [get?_insert, if_pos rfl]

theorem get?_insert_of_ne (h : name ≠ key) :
    get? key (insert name value members) = get? key members := by
  rw [get?_insert, if_neg h]

theorem ofList_append_singleton (entries : List (String × α)) (entry : String × α) :
    ofList (entries ++ [entry]) = insert entry.1 entry.2 (ofList entries) := by
  rw [ofList, List.foldl_append]
  rfl

/-- Of entries of one name the last one is found. -/
theorem get?_ofList (entries : List (String × α)) :
    (ofList entries).get? name = get? name entries.reverse := by
  -- entries are put in from the front, so the induction takes them from the back
  induction entries using List.reverseRecOn with
  | nil => rfl
  | append_singleton entries entry ih =>
    rw [ofList_append_singleton, get?_insert, ih, List.reverse_append]
    rfl

/-! ### Order -/

/-- Each name stands before all greater ones, and only once. -/
def Sorted (members : Members α) : Prop :=
  members.Pairwise fun a b => a.1 < b.1

instance Sorted.decidable (members : Members α) : Decidable members.Sorted :=
  inferInstanceAs (Decidable (members.Pairwise fun a b => a.1 < b.1))

theorem sorted_nil : Sorted ([] : Members α) := .nil

theorem mem_insert {entry : String × α} (h : entry ∈ insert name value members) :
    entry = (name, value) ∨ entry ∈ members := by
  induction members with
  | nil => exact .inl (List.mem_singleton.mp h)
  | cons first rest ih =>
    unfold insert at h
    split at h
    · exact (List.mem_cons.mp h).imp_right (List.mem_cons_of_mem _)
    · split at h
      · exact List.mem_cons.mp h
      · rcases List.mem_cons.mp h with rfl | hrest
        · exact .inr List.mem_cons_self
        · exact (ih hrest).imp_right (List.mem_cons_of_mem _)

theorem mem_of_mem_ofList {entries : List (String × α)} {entry : String × α}
    (h : entry ∈ ofList entries) : entry ∈ entries := by
  induction entries using List.reverseRecOn with
  | nil => exact absurd h List.not_mem_nil
  | append_singleton entries last ih =>
    rw [ofList_append_singleton] at h
    rcases mem_insert h with rfl | hmem
    · exact List.mem_append_right _ List.mem_cons_self
    · exact List.mem_append_left _ (ih hmem)

theorem sorted_insert (name : String) (value : α) (h : members.Sorted) :
    (insert name value members).Sorted := by
  induction members with
  | nil => exact List.pairwise_singleton _ _
  | cons first rest ih =>
    obtain ⟨hfirst, hrest⟩ := List.pairwise_cons.mp h
    unfold insert
    split
    · rename_i heq
      refine List.pairwise_cons.mpr ⟨fun entry hentry => ?_, hrest⟩
      rw [show name = first.1 from heq]
      exact hfirst entry hentry
    · rename_i hne
      split
      · rename_i hlt
        refine List.pairwise_cons.mpr ⟨fun entry hentry => ?_, h⟩
        rcases List.mem_cons.mp hentry with rfl | hentry
        · exact hlt
        · exact String.lt_trans hlt (hfirst entry hentry)
      -- the name stands behind the first one, and so does all that it is put among
      · rename_i hge
        refine List.pairwise_cons.mpr ⟨fun entry hentry => ?_, ih hrest⟩
        rcases mem_insert hentry with rfl | hentry
        · exact lt_of_le_of_ne (String.not_lt.mp hge) (Ne.symm hne)
        · exact hfirst entry hentry

theorem sorted_ofList (entries : List (String × α)) : (ofList entries).Sorted := by
  induction entries using List.reverseRecOn with
  | nil => exact sorted_nil
  | append_singleton entries entry ih =>
    rw [ofList_append_singleton]
    exact sorted_insert _ _ ih

/-- Names of sorted members are different. -/
theorem Sorted.nodup (h : members.Sorted) : (members.map (·.1)).Nodup :=
  List.pairwise_map.mpr (h.imp fun hlt => String.ne_of_lt hlt)

theorem Sorted.get?_eq_none_of_lt {first : String × α} (h : Sorted (first :: members))
    (hlt : name < first.1) : get? name (first :: members) = none := by
  obtain ⟨hfirst, -⟩ := List.pairwise_cons.mp h
  rw [get?_eq_none_iff]
  intro entry hentry
  rcases List.mem_cons.mp hentry with rfl | hentry
  · exact (String.ne_of_lt hlt).symm
  · exact (String.ne_of_lt (String.lt_trans hlt (hfirst entry hentry))).symm

theorem Sorted.get?_tail {first : String × α} (h : Sorted (first :: members)) :
    get? first.1 members = none := by
  rw [get?_eq_none_iff]
  intro entry hentry
  exact (String.ne_of_lt ((List.pairwise_cons.mp h).1 entry hentry)).symm

/-- Sorted members are determined by what is found in them. -/
theorem Sorted.ext (h : members.Sorted) (hothers : others.Sorted)
    (heq : ∀ name, members.get? name = others.get? name) : members = others := by
  induction members generalizing others with
  | nil =>
    cases others with
    | nil => rfl
    | cons first rest =>
      have hfirst := heq first.1
      rw [get?_cons_self] at hfirst
      exact nomatch hfirst
  | cons first rest ih =>
    cases others with
    | nil =>
      have hfirst := heq first.1
      rw [get?_cons_self] at hfirst
      exact nomatch hfirst
    | cons other tail =>
      have hfirst := heq first.1
      have hother := heq other.1
      rw [get?_cons_self] at hfirst hother
      -- Of two different first names the smaller one is missing on the other side.
      have hname : first.1 = other.1 := by
        rcases lt_trichotomy first.1 other.1 with hlt | heq | hgt
        · rw [hothers.get?_eq_none_of_lt hlt] at hfirst
          exact nomatch hfirst
        · exact heq
        · rw [h.get?_eq_none_of_lt hgt] at hother
          exact nomatch hother
      rw [get?_cons, if_pos hname.symm] at hfirst
      have hentry : first = other := Prod.ext hname (Option.some.inj hfirst)
      subst hentry
      have hrest : rest = tail := by
        refine ih (List.pairwise_cons.mp h).2 (List.pairwise_cons.mp hothers).2 fun name => ?_
        by_cases hsame : first.1 = name
        · rw [← hsame, h.get?_tail, hothers.get?_tail]
        · have hrest := heq name
          rwa [get?_cons, get?_cons, if_neg hsame, if_neg hsame] at hrest
      rw [hrest]

/-- Sorting leaves sorted members as they are. -/
theorem Sorted.ofList_eq (h : members.Sorted) : ofList members = members := by
  apply Sorted.ext (sorted_ofList members) h
  intro name
  rw [get?_ofList, get?_reverse h.nodup]

end ChainFeed.Members
