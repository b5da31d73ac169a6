import ChainFeed.Filter.Basic
import ChainFeed.Proofs.Json.Reading

/-!
# Values that are sorted

The members of an object are sorted by name, and each name stands once. This is so in every value
that is read: an object is put together from the members of a text one by one. It is said here of a
value down to the objects inside it, and of what readers read by the parts that they are made of.

## Main definitions

- `Json.isSorted`: the members of each object in a value are sorted
- `Reader.Yields`, `Fields.Yields`: whatever is read has a property

## Main results

- `Json.isSorted_ofMembers`: an object that is put together from sorted values is sorted
- `Reader.yields_json`: values that are read are sorted
- `Reader.yields_members`, `Fields.Yields.seq`, `Reader.yields_record`, `Reader.yields_tagged`:
  what is read by a compound reader has what its parts have
-/

namespace ChainFeed

variable {α β τ : Type}

/-! ### Sorted values -/

namespace Json

mutual

/-- Whether the members of each object in a value are sorted. -/
def isSorted : Json → Bool
  | .array items => areSorted items
  | .object members => decide (Members.Sorted members) && membersAreSorted members
  | _ => true

/-- Whether the members of each object in the items of an array are sorted. -/
def areSorted : List Json → Bool
  | [] => true
  | x :: xs => x.isSorted && areSorted xs

/-- Whether the members of each object in the members of an object are sorted. -/
def membersAreSorted : List (String × Json) → Bool
  | [] => true
  | (_, x) :: xs => x.isSorted && membersAreSorted xs

end

variable {items : List Json} {members : Members Json}

theorem areSorted_iff : areSorted items = true ↔ ∀ item ∈ items, item.isSorted = true := by
  induction items with
  | nil => exact iff_of_true rfl fun _ h => absurd h List.not_mem_nil
  | cons first rest ih => rw [areSorted, Bool.and_eq_true, ih, List.forall_mem_cons]

theorem membersAreSorted_iff :
    membersAreSorted members = true ↔ ∀ member ∈ members, member.2.isSorted = true := by
  induction members with
  | nil => exact iff_of_true rfl fun _ h => absurd h List.not_mem_nil
  | cons first rest ih => rw [membersAreSorted, Bool.and_eq_true, ih, List.forall_mem_cons]

theorem isSorted_object_iff : (Json.object members).isSorted = true ↔
    members.Sorted ∧ ∀ member ∈ members, member.2.isSorted = true := by
  rw [isSorted, Bool.and_eq_true, decide_eq_true_iff, membersAreSorted_iff]

/-- An object that is put together from sorted values is sorted. -/
theorem isSorted_ofMembers {entries : List (String × Json)}
    (h : ∀ entry ∈ entries, entry.2.isSorted = true) : (ofMembers entries).isSorted = true :=
  isSorted_object_iff.mpr ⟨Members.sorted_ofList entries,
    fun entry hentry => h entry (Members.mem_of_mem_ofList hentry)⟩

end Json

/-! ### What readers read -/

namespace Reader

/-- Whatever is read has a property. -/
def Yields (reader : Reader α) (P : α → Prop) : Prop :=
  ∀ depth tree a, reader depth tree = .ok a → P a

mutual

/-- Values that are read are sorted. -/
theorem isSorted_of_json : (tree : Document) → ∀ depth value, json depth tree = .ok value →
    value.isSorted = true
  | .null, _, _, h | .bool _, _, _, h | .number (some _), _, _, h | .string (some _), _, _, h => by
    obtain rfl := Except.ok.inj h
    rfl
  | .number none, 0, _, h | .number none, _ + 1, _, h | .string none, 0, _, h
  | .string none, _ + 1, _, h | .broken, 0, _, h | .broken, _ + 1, _, h | .array _ _, 0, _, h
  | .object _ _, 0, _, h => nomatch h
  | .array trees closed, depth + 1, _, h => by
    rw [json] at h
    split at h
    · cases h
    · rename_i values hvalues
      split at h
      · obtain rfl := Except.ok.inj h
        exact areSorted_of_jsonItems trees depth values hvalues
      · cases h
  | .object trees closed, depth + 1, _, h => by
    rw [json] at h
    split at h
    · cases h
    · rename_i values hvalues
      split at h
      · -- in whatever order the members stand in the text, the object is put together from them
        obtain rfl := Except.ok.inj h
        exact Json.isSorted_ofMembers (isSorted_of_jsonEntries trees depth values hvalues)
      · cases h

theorem areSorted_of_jsonItems : (trees : List Document) → ∀ depth values,
    jsonItems depth trees = .ok values → Json.areSorted values = true
  | [], _, _, h => by
    obtain rfl := Except.ok.inj h
    rfl
  | tree :: trees, depth, _, h => by
    rw [jsonItems] at h
    split at h
    · cases h
    · rename_i value hvalue
      obtain ⟨values, hvalues, rfl⟩ := exists_of_map_eq_ok h
      rw [Json.areSorted, isSorted_of_json tree depth value hvalue,
        areSorted_of_jsonItems trees depth values hvalues]
      rfl

theorem isSorted_of_jsonEntries : (trees : List (Option String × Document)) → ∀ depth entries,
    jsonEntries depth trees = .ok entries → ∀ entry ∈ entries, entry.2.isSorted = true
  | [], _, _, h => by
    obtain rfl := Except.ok.inj h
    exact fun _ hmem => absurd hmem List.not_mem_nil
  | (none, _) :: _, _, _, h => nomatch h
  | (some key, tree) :: trees, depth, _, h => by
    rw [jsonEntries] at h
    split at h
    · cases h
    · rename_i value hvalue
      obtain ⟨entries, hentries, rfl⟩ := exists_of_map_eq_ok h
      exact List.forall_mem_cons.mpr ⟨isSorted_of_json tree depth value hvalue,
        isSorted_of_jsonEntries trees depth entries hentries⟩

end

variable {reader : Reader α} {P : α → Prop} {Q : β → Prop}

theorem yields_json : json.Yields fun value => value.isSorted = true :=
  fun depth tree value h => isSorted_of_json tree depth value h

theorem yields_true (reader : Reader α) : reader.Yields fun _ => True :=
  fun _ _ _ _ => trivial

theorem Yields.map (h : reader.Yields P) {f : α → β} (hf : ∀ a, P a → Q (f a)) :
    (reader.map f).Yields Q := by
  intro depth tree b hb
  obtain ⟨a, ha, rfl⟩ := exists_of_map_eq_ok hb
  exact hf a (h depth tree a ha)

theorem Yields.option (h : reader.Yields P) : reader.option.Yields fun x => ∀ a ∈ x, P a := by
  intro depth tree x hx a ha
  obtain rfl : x = some a := ha
  unfold Reader.option at hx
  split at hx
  · cases hx
  · obtain ⟨_, hread, heq⟩ := exists_of_map_eq_ok hx
    rw [← Option.some.inj heq]
    exact h _ _ _ hread

theorem forall_mem_of_entries {depth : Nat} {trees : List (Option String × Document)}
    {values : List (String × α)} (h : reader.Yields P)
    (hread : entries (reader depth) trees = .ok values) : ∀ entry ∈ values, P entry.2 := by
  induction trees generalizing values with
  | nil =>
    obtain rfl := Except.ok.inj hread
    exact fun _ hmem => absurd hmem List.not_mem_nil
  | cons member trees ih =>
    obtain ⟨name, tree⟩ := member
    cases name with
    | none => cases hread
    | some key =>
      rw [entries] at hread
      split at hread
      · cases hread
      · rename_i value hvalue
        obtain ⟨rest, hrest, rfl⟩ := exists_of_map_eq_ok hread
        exact List.forall_mem_cons.mpr ⟨h _ _ _ hvalue, ih hrest⟩

theorem yields_members (h : reader.Yields P) :
    (members reader).Yields fun values => values.Sorted ∧ ∀ entry ∈ values, P entry.2 := by
  intro depth tree values hread
  unfold members at hread
  split at hread
  · split at hread
    · cases hread
    · rename_i entries hentries
      split at hread
      · obtain rfl := Except.ok.inj hread
        exact ⟨Members.sorted_ofList entries, fun entry hentry =>
          forall_mem_of_entries h hentries entry (Members.mem_of_mem_ofList hentry)⟩
      · cases hread
  · cases hread

end Reader

namespace Fields

variable {reader : Reader α} {name : String} {P : α → Prop} {Q : β → Prop}

/-- Whatever is read from the members or from the items of a record has a property. -/
structure Yields (fields : Fields α) (P : α → Prop) : Prop where
  ofMembers : ∀ depth trees a, fields.ofMembers depth trees = .ok a → P a
  ofItems : ∀ depth trees a rest, fields.ofItems depth trees = .ok (a, rest) → P a

theorem Yields.seq {f : Fields (α → β)} {x : Fields α}
    (hf : f.Yields fun g => ∀ a, P a → Q (g a)) (hx : x.Yields P) : (f <*> x).Yields Q where
  ofMembers depth trees b h := by
    obtain ⟨g, a, hg, ha, rfl⟩ := exists_of_combine_eq_ok h
    exact hf.ofMembers _ _ _ hg _ (hx.ofMembers _ _ _ ha)
  ofItems depth trees b rest h := by
    replace h : (Fields.seq f x).ofItems depth trees = .ok (b, rest) := h
    simp only [Fields.seq] at h
    split at h
    · cases h
    · rename_i g middle hg
      split at h
      · cases h
      · rename_i a behind ha
        obtain ⟨rfl, -⟩ := Prod.mk.inj (Except.ok.inj h)
        exact hf.ofItems _ _ _ _ hg _ (hx.ofItems _ _ _ _ ha)

theorem yields_pure {a : α} (h : P a) : (Fields.pure a).Yields P where
  ofMembers _ _ _ heq := Except.ok.inj heq ▸ h
  ofItems _ _ _ _ heq := (Prod.mk.inj (Except.ok.inj heq)).1 ▸ h

theorem Yields.map {x : Fields α} {g : α → β} (hx : x.Yields P) (hg : ∀ a, P a → Q (g a)) :
    (g <$> x).Yields Q :=
  Yields.seq (yields_pure hg) hx

theorem yields_field {absent cut : Except ReadFault α} (h : reader.Yields P)
    (habsent : ∀ a, absent = .ok a → P a) (hcut : ∀ a, cut = .ok a → P a) :
    (field name absent cut reader).Yields P where
  ofMembers depth trees a hread := by
    simp only [field] at hread
    split at hread
    · exact habsent a (of_mapError_eq_ok hread)
    · split at hread
      · cases hread
      · rename_i hvalue _
        obtain rfl := Except.ok.inj hread
        exact h _ _ _ hvalue
      · cases hread
  ofItems depth trees a rest hread := by
    simp only [field] at hread
    split at hread
    · obtain ⟨value, hvalue, heq⟩ := exists_of_map_eq_ok hread
      rw [← (Prod.mk.inj heq).1]
      exact hcut value hvalue
    · obtain ⟨value, hvalue, heq⟩ := exists_of_map_eq_ok hread
      rw [← (Prod.mk.inj heq).1]
      exact h _ _ _ hvalue

theorem yields_required (h : reader.Yields P) : (required name reader).Yields P :=
  yields_field h nofun nofun

theorem yields_withDefault {default : α} (h : reader.Yields P) (hdefault : P default) :
    (withDefault name default reader).Yields P :=
  yields_field h (fun _ heq => Except.ok.inj heq ▸ hdefault)
    (fun _ heq => Except.ok.inj heq ▸ hdefault)

end Fields

namespace Reader

theorem yields_record {fields : Fields α} {P : α → Prop} (h : fields.Yields P) :
    (record fields).Yields P := by
  intro depth tree a hread
  unfold record at hread
  split at hread
  · rename_i members closed
    exact h.ofMembers _ _ _ (ofMembers_eq_ok_of_record hread)
  · split at hread
    · cases hread
    · rename_i value rest hvalue
      split at hread
      · obtain rfl := Except.ok.inj hread
        exact h.ofItems _ _ _ _ hvalue
      · cases hread
  · cases hread

/-- What is read as a tagged record is read by the reader of its tag. -/
theorem yields_tagged {tagName : String} {tag : Reader τ} {body : τ → Reader α} {P : α → Prop}
    (h : ∀ t, (body t).Yields P) : (tagged tagName tag body).Yields P := by
  intro depth tree a hread
  unfold tagged at hread
  -- as members of an object, as the items of an array, or as no record at all
  split at hread
  · split at hread
    · cases hread
    · split at hread
      · cases hread
      · cases hread
      · exact h _ _ _ _ hread
  · split at hread
    · cases hread
    · split at hread
      · cases hread
      · split at hread
        · cases hread
        · split at hread
          · exact h _ _ _ _ hread
          · cases hread
  · cases hread

end Reader

end ChainFeed
