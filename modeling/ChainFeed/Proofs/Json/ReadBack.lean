import ChainFeed.Proofs.Json.Order

/-!
# Values that are written and read back

A reader undoes a way of writing if it reads each value that is written, with room for the
containers that the value nests. A text nests at most so many containers as the reader of texts has
room for, but a value that was built may nest more of them. Objects that are read as any values have
their members sorted, so this is what a value needs to be read as itself.

## Main definitions

- `Json.depth`: how many containers a value nests
- `Reader.Inverts`: what is written is read back

## Main results

- `Reader.reads_json`: a sorted value is read as itself
- `Reader.inverts_members`, `Reader.inverts_list`, `Reader.inverts_record`: containers are read back
  if their parts are
-/

namespace ChainFeed

variable {α β : Type}

/-! ### Depth -/

namespace Json

mutual

/-- How many containers a value nests. -/
def depth : Json → Nat
  | .array items => itemsDepth items + 1
  | .object members => membersDepth members + 1
  | _ => 0

/-- How many containers the items of an array nest. -/
def itemsDepth : List Json → Nat
  | [] => 0
  | x :: xs => max x.depth (itemsDepth xs)

/-- How many containers the members of an object nest. -/
def membersDepth : List (String × Json) → Nat
  | [] => 0
  | (_, x) :: xs => max x.depth (membersDepth xs)

end

variable {items : List Json} {members : Members Json} {value : Json}

theorem depth_le_of_mem_items (h : value ∈ items) : value.depth ≤ itemsDepth items := by
  induction items with
  | nil => exact absurd h List.not_mem_nil
  | cons first rest ih =>
    rw [itemsDepth]
    rcases List.mem_cons.mp h with rfl | hrest
    · exact Nat.le_max_left _ _
    · exact (ih hrest).trans (Nat.le_max_right _ _)

theorem depth_le_of_mem_members {member : String × Json} (h : member ∈ members) :
    member.2.depth ≤ membersDepth members := by
  induction members with
  | nil => exact absurd h List.not_mem_nil
  | cons first rest ih =>
    rw [membersDepth]
    rcases List.mem_cons.mp h with rfl | hrest
    · exact Nat.le_max_left _ _
    · exact (ih hrest).trans (Nat.le_max_right _ _)

end Json

/-! ### Any values -/

namespace Reader

variable {reader : Reader α} {write : α → Json} {a : α} {value : Json}

mutual

/-- A sorted value is read as itself. -/
theorem reads_json : (value : Json) → value.isSorted = true →
    json.Reads value.depth value value
  | .null, _ | .bool _, _ | .number _, _ | .string _, _ => fun _ _ => rfl
  | .array items, h => by
    intro depth hdepth
    obtain ⟨inside, rfl, hinside⟩ := exists_room_inside hdepth
    rw [Document.ofJson, json, jsonItems_ofItems items h inside hinside]
    rfl
  | .object members, h => by
    -- the members that were read are put in one by one, which sorted ones stand
    intro depth hdepth
    obtain ⟨inside, rfl, hinside⟩ := exists_room_inside hdepth
    obtain ⟨hsorted, hmembers⟩ := Bool.and_eq_true_iff.mp h
    rw [Document.ofJson, json, jsonEntries_ofMembers members hmembers inside hinside]
    show Except.ok (Json.object (Members.ofList members)) = Except.ok (.object members)
    rw [(of_decide_eq_true hsorted).ofList_eq]

theorem jsonItems_ofItems : (items : List Json) → Json.areSorted items = true →
    ∀ depth, Json.itemsDepth items ≤ depth → jsonItems depth (Document.ofItems items) = .ok items
  | [], _, _, _ => rfl
  | item :: items, h, depth, hdepth => by
    obtain ⟨hfirst, hrest⟩ := Bool.and_eq_true_iff.mp h
    obtain ⟨hle, hle'⟩ := Nat.max_le.mp hdepth
    rw [Document.ofItems, jsonItems, reads_json item hfirst depth hle]
    simp only [jsonItems_ofItems items hrest depth hle']
    rfl

theorem jsonEntries_ofMembers : (members : List (String × Json)) →
    Json.membersAreSorted members = true → ∀ depth, Json.membersDepth members ≤ depth →
    jsonEntries depth (Document.ofMembers members) = .ok members
  | [], _, _, _ => rfl
  | (_, value) :: members, h, depth, hdepth => by
    obtain ⟨hfirst, hrest⟩ := Bool.and_eq_true_iff.mp h
    obtain ⟨hle, hle'⟩ := Nat.max_le.mp hdepth
    rw [Document.ofMembers, jsonEntries, reads_json value hfirst depth hle]
    simp only [jsonEntries_ofMembers members hrest depth hle']
    rfl

end

/-! ### What is written -/

/-- What is written is read back, with room for the containers that it nests, and it is sorted. -/
structure Inverts (reader : Reader α) (write : α → Json) (a : α) : Prop where
  reads : reader.Reads (write a).depth (write a) a
  sorted : (write a).isSorted = true

theorem inverts_json (h : value.isSorted = true) : json.Inverts id value :=
  ⟨reads_json value h, h⟩

theorem inverts_bool (b : Bool) : bool.Inverts .bool b :=
  ⟨reads_bool b, rfl⟩

theorem inverts_string (s : String) : string.Inverts .string s :=
  ⟨reads_string s, rfl⟩

theorem inverts_uint64 (n : UInt64) : uint64.Inverts (fun n => .nat n.toNat) n :=
  ⟨reads_uint64 n, rfl⟩

theorem inverts_symbol {ofName? : String → Option α} {name : α → String}
    (h : ofName? (name a) = some a) : (symbol ofName?).Inverts (fun a => .string (name a)) a := by
  refine ⟨fun depth _ => ?_, rfl⟩
  show (ofName? (name a)).elim (Except.error ReadFault.malformed) Except.ok = Except.ok a
  rw [h]
  rfl

theorem entries_ofMembers {k depth : Nat} {values : Members α} (hdepth : k ≤ depth)
    (h : ∀ entry ∈ values, reader.Reads k (write entry.2) entry.2) :
    entries (reader depth)
      (Document.ofMembers (values.map fun entry => (entry.1, write entry.2))) = .ok values := by
  induction values with
  | nil => rfl
  | cons first rest ih =>
    obtain ⟨hfirst, hrest⟩ := List.forall_mem_cons.mp h
    rw [List.map_cons, Document.ofMembers, entries, hfirst depth hdepth]
    simp only [ih hrest]
    rfl

/-- Sorted members are read back from an object. -/
theorem inverts_members {values : Members α} (hsorted : values.Sorted)
    (h : ∀ entry ∈ values, reader.Inverts write entry.2) :
    (members reader).Inverts
      (fun values => .object (values.map fun entry => (entry.1, write entry.2))) values where
  reads := by
    intro depth hdepth
    obtain ⟨inside, rfl, hinside⟩ := exists_room_inside hdepth
    have hread : ∀ entry ∈ values, reader.Reads inside (write entry.2) entry.2 := by
      intro entry hentry
      have hle : (write entry.2).depth ≤ inside :=
        (Json.depth_le_of_mem_members (List.mem_map_of_mem hentry)).trans hinside
      exact (h entry hentry).reads.mono hle
    rw [Document.ofJson, members, entries_ofMembers le_rfl hread]
    exact congrArg Except.ok hsorted.ofList_eq
  sorted := by
    refine Json.isSorted_object_iff.mpr ⟨List.pairwise_map.mpr hsorted, fun member hmember => ?_⟩
    obtain ⟨entry, hentry, rfl⟩ := List.mem_map.mp hmember
    exact (h entry hentry).sorted

/-- A list is read back from an array. -/
theorem inverts_list {as : List α} (h : ∀ a ∈ as, reader.Inverts write a) :
    (list reader).Inverts (fun as => .array (as.map write)) as where
  reads := by
    refine reads_list ?_
    rw [List.forall₂_map_right_iff]
    refine List.forall₂_same.mpr fun a ha => ?_
    exact (h a ha).reads.mono (Json.depth_le_of_mem_items (List.mem_map_of_mem ha))
  sorted := by
    refine Json.areSorted_iff.mpr fun item hitem => ?_
    obtain ⟨a, ha, rfl⟩ := List.mem_map.mp hitem
    exact (h a ha).sorted

end Reader

/-! ### Records -/

namespace Fields

variable {entries : List (String × Json)} {name : String} {reader : Reader α} {write : α → Json}
  {a : α}

/-- Fields are read back from the members that a record is written with. -/
def ReadsBack (fields : Fields α) (entries : List (String × Json)) (a : α) : Prop :=
  fields.Reads (Json.membersDepth (Members.ofList entries)) (Members.ofList entries) a

theorem ReadsBack.seq {f : Fields (α → β)} {x : Fields α} {g : α → β} (hf : f.ReadsBack entries g)
    (hx : x.ReadsBack entries a) : (f <*> x).ReadsBack entries (g a) :=
  Reads.seq hf hx

theorem ReadsBack.map {x : Fields α} (hx : x.ReadsBack entries a) (f : α → β) :
    (f <$> x).ReadsBack entries (f a) :=
  Reads.map hx f

/-- A field that is always written is read back from its member. -/
theorem readsBack_required (hget : Members.get? name entries.reverse = some (write a))
    (h : reader.Inverts write a) : (required name reader).ReadsBack entries a := by
  rw [← Members.get?_ofList] at hget
  have hle := Json.depth_le_of_mem_members (Members.mem_of_get?_eq_some hget)
  exact reads_required (Members.sorted_ofList entries).nodup hget (h.reads.mono hle)

/-- A field that is written only if it has a value is read from its member, if that cannot be taken
for null, or from nothing. -/
theorem reads_optional {members : Members Json} {k : Nat} {x : Option α}
    (hnodup : (members.map (·.1)).Nodup) (hget : members.get? name = x.map write)
    (h : ∀ a ∈ x, reader.Reads k (write a) a) (hne : ∀ a, write a ≠ .null) :
    (withDefault name none reader.option).Reads k members x := by
  refine reads_withDefault hnodup ?_
  rw [hget]
  cases x with
  | none => rfl
  | some a => exact (h a rfl).option (hne a)

theorem readsBack_optional {x : Option α}
    (hget : Members.get? name entries.reverse = x.map write)
    (h : ∀ a ∈ x, reader.Inverts write a) (hne : ∀ a, write a ≠ .null) :
    (withDefault name none reader.option).ReadsBack entries x := by
  rw [← Members.get?_ofList] at hget
  refine reads_optional (Members.sorted_ofList entries).nodup hget (fun a ha => ?_) hne
  obtain rfl : x = some a := ha
  have hle := Json.depth_le_of_mem_members (Members.mem_of_get?_eq_some hget)
  exact (h a rfl).reads.mono hle

end Fields

namespace Reader

/-- A record is read back from its fields. -/
theorem inverts_record {fields : Fields α} {write : α → Json} {a : α}
    {entries : List (String × Json)} (hwrite : write a = .ofMembers entries)
    (h : fields.ReadsBack entries a) (hsorted : ∀ entry ∈ entries, entry.2.isSorted = true) :
    (record fields).Inverts write a where
  reads := by
    rw [hwrite]
    exact reads_record h
  sorted := by
    rw [hwrite]
    exact Json.isSorted_ofMembers hsorted

end Reader

end ChainFeed
