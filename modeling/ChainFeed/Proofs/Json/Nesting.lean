import ChainFeed.Proofs.Json.Containment

/-!
# Nested objects and paths

A value is nested along a path by wrapping it in one object for each segment, from the last segment
to the first, and a path is followed from its first segment to the last. The two are inverse: the
path leads back to the value, through objects that have no other member. A value that has something
at a path, and objects on the way to it, contains what is nested there.

## Main definitions

- `Json.segmentsFromEnd`: the segments of a path, the last one first
- `Json.Contains`: a value contains another one
- `Json.HasObjectsAlong`: nothing but objects on the way along a path
- `Json.Nests`: how nested objects and their path belong together

## Main results

- `splitChars_reverse`: text is divided from its end as it is from its front
- `Json.nest_eq_foldl`: objects are wrapped around a value from the end of the path
- `Json.nests_path`: a path leads through nested objects to their value, and only there
-/

namespace ChainFeed

/-! ### Dividing text from its end -/

section Splitting

variable {separator : Char} {cs : List Char} {parts : List (List Char)}

theorem splitChars_eq_splitOn (separator : Char) (cs : List Char) :
    splitChars separator cs = cs.splitOn separator := by
  induction cs with
  | nil => rfl
  | cons c cs ih =>
    rw [splitChars, ih, List.splitOn_cons_eq_if_modifyHead]
    by_cases hc : c = separator
    · simp [hc]
    · -- there is always a first part, to which the character belongs
      have hne := List.splitOn_ne_nil separator cs
      obtain ⟨first, others, hparts⟩ := List.exists_cons_of_ne_nil hne
      simp [hc, hparts]

/-- No part of a text has a separator in it. -/
theorem notMem_of_mem_splitChars {part : List Char} (h : part ∈ splitChars separator cs) :
    separator ∉ part := by
  induction cs generalizing part with
  | nil =>
    rw [List.mem_singleton.mp h]
    exact List.not_mem_nil
  | cons c cs ih =>
    rw [splitChars_eq_splitOn, List.splitOn_cons_eq_if_modifyHead, ← splitChars_eq_splitOn] at h
    by_cases hc : c = separator
    · rcases List.mem_cons.mp (by simpa [hc] using h) with rfl | hmem
      · exact List.not_mem_nil
      · exact ih hmem
    · cases hparts : splitChars separator cs with
      | nil => simp [hc, hparts] at h
      | cons first others =>
        rw [hparts] at ih
        rcases List.mem_cons.mp (by simpa [hc, hparts] using h) with rfl | hmem
        · intro hmem
          rcases List.mem_cons.mp hmem with heq | hmem
          · exact hc heq.symm
          · exact ih List.mem_cons_self hmem
        · exact ih (List.mem_cons_of_mem _ hmem)

/-- Joined parts are found again from the end, each of them turned around. -/
theorem splitOn_reverse_intercalate (hne : parts ≠ [])
    (hparts : ∀ part ∈ parts, separator ∉ part) :
    ([separator].intercalate parts).reverse.splitOn separator =
      (parts.map List.reverse).reverse := by
  induction parts with
  | nil => exact absurd rfl hne
  | cons part parts ih =>
    obtain ⟨hpart, hrest⟩ := List.forall_mem_cons.mp hparts
    have hlast : separator ∉ part.reverse := fun hmem => hpart (List.mem_reverse.mp hmem)
    cases parts with
    | nil => simp [List.splitOn_eq_singleton hlast]
    | cons next parts =>
      rw [List.intercalate_cons_cons, List.append_assoc, List.singleton_append, List.reverse_append,
        List.reverse_cons, List.append_assoc, List.singleton_append, List.splitOn_append_cons_self,
        ih (List.cons_ne_nil _ _) hrest, List.splitOn_eq_singleton hlast]
      exact List.reverse_cons.symm

/-- A text that is turned around has its parts turned around, in the opposite order. -/
theorem splitChars_reverse (separator : Char) (cs : List Char) :
    splitChars separator cs.reverse = ((splitChars separator cs).map List.reverse).reverse := by
  have hne : splitChars separator cs ≠ [] := by
    rw [splitChars_eq_splitOn]
    exact List.splitOn_ne_nil separator cs
  have h := splitOn_reverse_intercalate hne fun part => notMem_of_mem_splitChars
  rwa [splitChars_eq_splitOn separator cs, List.intercalate_splitOn, ← splitChars_eq_splitOn,
    ← splitChars_eq_splitOn] at h

end Splitting

namespace Json

variable {value payload inner : Json} {names front behind : List String} {path : String}

/-- The segments of a path, divided off from its end. -/
def segmentsFromEnd (path : String) : List String :=
  (splitChars '.' path.toList.reverse).map fun cs => String.ofList cs.reverse

theorem segmentsFromEnd_eq_reverse (path : String) :
    segmentsFromEnd path = (segments path).reverse := by
  rw [segmentsFromEnd, splitChars_reverse, segments, List.map_reverse, List.map_map]
  simp [Function.comp_def]

theorem nestSegments_eq_foldr (value : Json) (names : List String) :
    nestSegments value names = names.foldr (fun name inner => .object [(name, inner)]) value := by
  induction names with
  | nil => rfl
  | cons name names ih => rw [nestSegments, ih, List.foldr_cons]

/-- Objects are wrapped around a value from the end of the path. -/
theorem nest_eq_foldl (path : String) (value : Json) :
    nest path value =
      (segmentsFromEnd path).foldl (fun inner name => .object [(name, inner)]) value := by
  rw [segmentsFromEnd_eq_reverse, List.foldl_reverse, nest, nestSegments_eq_foldr]

/-! ### Following a path through nested objects -/

/-- The first names of nested objects lead to what is nested under the others. -/
theorem follow?_nestSegments_append (value : Json) (front behind : List String) :
    (nestSegments value (front ++ behind)).follow? front = some (nestSegments value behind) := by
  induction front with
  | nil => rfl
  | cons name front ih =>
    rw [List.cons_append, nestSegments, follow?, child?, Members.get?_cons, if_pos rfl]
    exact ih

/-- A path leads to what is nested along it. -/
theorem atPath?_nest (path : String) (value : Json) :
    (nest path value).atPath? path = some value := by
  have h := follow?_nestSegments_append value (segments path) []
  rwa [List.append_nil] at h

/-- Each object on the way along the path has the member that the path goes on with, and no
other. -/
theorem follow?_nest_of_eq_append {segment : String}
    (h : segments path = front ++ segment :: behind) :
    (nest path value).follow? front = some (.object [(segment, nestSegments value behind)]) := by
  rw [nest, h]
  exact follow?_nestSegments_append value front (segment :: behind)

/-! ### Containment -/

/-- A value contains itself, and an object contains each object of whose members it has the names,
with values that contain theirs. -/
inductive Contains : (whole part : Json) → Prop
  | refl (value : Json) : Contains value value
  | object {members parts : Members Json}
    (hnames : ∀ entry ∈ parts, members.contains entry.1 = true)
    (h : ∀ entry ∈ parts, ∀ found, members.get? entry.1 = some found → Contains found entry.2) :
    Contains (.object members) (.object parts)

/-- A value contains what is nested along names that lead through its objects to the same. -/
theorem contains_nestSegments (h : payload.followMembers? names = some value) :
    payload.Contains (nestSegments value names) := by
  induction names generalizing payload with
  | nil =>
    obtain rfl : payload = value := Option.some.inj h
    exact .refl payload
  | cons name names ih =>
    obtain ⟨next, hnext, hvalue⟩ := Option.bind_eq_some_iff.mp h
    cases payload with
    | object members =>
      have hget : Members.get? name members = some next := hnext
      apply Contains.object
      · intro entry hentry
        rw [List.mem_singleton.mp hentry, Members.contains, hget]
        rfl
      · intro entry hentry found hfound
        rw [List.mem_singleton.mp hentry] at hfound ⊢
        obtain rfl : next = found := Option.some.inj (hget.symm.trans hfound)
        exact ih hvalue
    | _ => cases hnext

/-- What names lead through, up to the last of them, are objects. -/
def HasObjectsAlong (payload : Json) (names : List String) : Prop :=
  ∀ front behind inner, names = front ++ behind → behind ≠ [] →
    payload.follow? front = some inner → ∃ members, inner = .object members

/-- Where there are only objects on the way, names lead through objects. -/
theorem followMembers?_eq_follow? (h : payload.HasObjectsAlong names) :
    payload.followMembers? names = payload.follow? names := by
  induction names generalizing payload with
  | nil => rfl
  | cons name names ih =>
    obtain ⟨members, rfl⟩ := h [] (name :: names) payload rfl (List.cons_ne_nil _ _) rfl
    rw [followMembers?, member?, follow?, child?]
    cases hnext : Members.get? name members with
    | none => rfl
    | some next =>
      apply ih
      intro front behind inner hnames hne hinner
      apply h (name :: front) behind inner (congrArg (name :: ·) hnames) hne
      rw [follow?, child?, hnext]
      exact hinner

/-- How the objects that are nested along a path and the path belong together. -/
structure Nests (path : String) (value : Json) : Prop where
  /-- The path leads back to the value. -/
  found : (nest path value).atPath? path = some value
  /-- On the way there are objects of one member each, with the next segment as its name. -/
  levels : ∀ front segment behind, segments path = front ++ segment :: behind →
    ∃ inner, (nest path value).follow? front = some (.object [(segment, inner)])
  /-- What has the value at the path, and only objects on the way, contains the nested objects. -/
  contained : ∀ payload : Json, payload.HasObjectsAlong (segments path) →
    payload.atPath? path = some value → payload.Contains (nest path value)
  /-- The objects are wrapped around the value from the end of the path. -/
  from_end : nest path value =
    (segmentsFromEnd path).foldl (fun inner name => .object [(name, inner)]) value

/-- Nesting along a path and following the path are inverse, whatever the path and the value. -/
theorem nests_path (path : String) (value : Json) : Nests path value where
  found := atPath?_nest path value
  levels front segment behind h := ⟨_, follow?_nest_of_eq_append h⟩
  contained payload hobjects hfound := by
    apply contains_nestSegments
    rw [followMembers?_eq_follow? hobjects]
    exact hfound
  from_end := nest_eq_foldl path value

/-- Segments may be empty, and digits are names like others. -/
example : nest ".0." .null = .object [("", .object [("0", .object [("", .null)])])] := by
  rfl

end Json

end ChainFeed
