import ChainFeed.Proofs.Json.Reading

/-!
# The parts that a record is read from

A record is written as an object or as an array. A field is read from the member of its name in the
one, and from the item at its place in the other; what is not there is read as the default.

## Main definitions

- `Json.part?`, `Json.without`: a part of a record, and the record without it
- `Reader.ofPart`: reading of a part that may be missing
- `Fields.ReadFrom`: the fields of a record are read from a value

## Main results

- `Fields.ReadFrom.exists_ofPart`: which part a field was read from
- `Reader.record_without`: a record is read without its last field
-/

namespace ChainFeed

variable {α β : Type} {depth place : Nat} {name : String}

/-- What a record has for a field: the member of its name, or the item at its place. -/
def Json.part? (place : Nat) (name : String) : Json → Option Json
  | .object members => Members.get? name members
  | .array items => items[place]?
  | _ => none

/-- A record without the field at a place, which is its last one if the record is an array. -/
def Json.without (place : Nat) (name : String) : Json → Json
  | .object members => .object (members.filter fun member => member.1 ≠ name)
  | .array items => .array (items.take place)
  | value => value

/-- Reads a part that may be missing. -/
def Reader.ofPart (depth : Nat) (default : α) (reader : Reader α) :
    Option Json → Except ReadFault α
  | none => .ok default
  | some value => reader depth (.ofJson value)

namespace Document

theorem ofItems_take (n : Nat) (items : List Json) :
    ofItems (items.take n) = (ofItems items).take n := by
  induction items generalizing n with
  | nil => rw [List.take_nil, ofItems, List.take_nil]
  | cons item items ih =>
    cases n with
    | zero => rfl
    | succ n => rw [List.take_succ_cons, ofItems, ih, ofItems, List.take_succ_cons]

theorem getElem?_ofItems (items : List Json) (i : Nat) :
    (ofItems items)[i]? = items[i]?.map ofJson := by
  induction items generalizing i with
  | nil => rfl
  | cons item items ih =>
    cases i with
    | zero => rfl
    | succ i => rw [ofItems, List.getElem?_cons_succ, ih, List.getElem?_cons_succ]

end Document

namespace Fields

variable {fields : Fields α} {reader : Reader α} {default : α} {f : Fields (α → β)} {x : Fields α}

/-! ### Items at the front of an array -/

/-- The fields of a record are those of the first `n` items of an array. -/
def Takes (n : Nat) (fields : Fields α) : Prop :=
  ∀ depth trees, fields.ofItems depth trees =
    (fields.ofItems depth (trees.take n)).map fun read => (read.1, trees.drop n)

theorem takes_pure (a : α) : (Fields.pure a).Takes 0 :=
  fun _ _ => rfl

theorem takes_field (name : String) (absent cut : Except ReadFault α) (reader : Reader α) :
    (field name absent cut reader).Takes 1 := by
  intro depth trees
  cases trees with
  | nil => cases cut <;> rfl
  | cons tree rest =>
    show (reader depth tree).map _ = ((reader depth tree).map _).map _
    cases reader depth tree <;> rfl

theorem ofItems_seq (f : Fields (α → β)) (x : Fields α) (depth : Nat) (trees : List Document) :
    (f <*> x).ofItems depth trees = f.ofItems depth trees >>= fun front =>
      (x.ofItems depth front.2).map fun back => (front.1 back.1, back.2) := by
  show (Fields.seq f x).ofItems depth trees = _
  rw [Fields.seq]
  dsimp only
  rcases f.ofItems depth trees with fault | ⟨g, rest⟩
  · rfl
  · dsimp only [bind, Except.bind]
    cases x.ofItems depth rest <;> rfl

theorem Takes.seq {m n : Nat} (hf : f.Takes m) (hx : x.Takes n) : (f <*> x).Takes (m + n) := by
  intro depth trees
  have htake : (trees.take (m + n)).take m = trees.take m := by
    rw [List.take_take, Nat.min_eq_left (Nat.le_add_right m n)]
  have hdrop : (trees.take (m + n)).drop m = (trees.drop m).take n := by
    rw [List.drop_take, Nat.add_sub_cancel_left]
  rw [ofItems_seq, ofItems_seq, hf depth trees, hf depth (trees.take (m + n)), htake, hdrop]
  cases f.ofItems depth (trees.take m) with
  | error fault => rfl
  | ok front =>
    show (x.ofItems depth (trees.drop m)).map _ =
      ((x.ofItems depth ((trees.drop m).take n)).map _).map _
    rw [hx depth (trees.drop m), List.drop_drop]
    cases x.ofItems depth ((trees.drop m).take n) <;> rfl

theorem Takes.map {n : Nat} (hx : x.Takes n) (g : α → β) : (g <$> x).Takes n := by
  have h := (takes_pure g).seq hx
  rwa [Nat.zero_add] at h

/-! ### Members of other names -/

/-- The fields of a record are read alike if there is no member of a name. -/
def Ignores (name : String) (fields : Fields α) : Prop :=
  ∀ ⦃depth : Nat⦄ ⦃members : Members Json⦄ ⦃a : α⦄,
    fields.ofMembers depth (Document.ofMembers members) = .ok a →
    fields.ofMembers depth (Document.ofMembers (members.filter fun m => m.1 ≠ name)) = .ok a

theorem ignores_pure (a : α) : (Fields.pure a).Ignores name :=
  fun _ _ _ h => h

/-- Places shift, but the members themselves do not change. -/
theorem map_snd_occurrences_filter {other : String} (hne : name ≠ other) (members : Members Json)
    (place place' : Nat) :
    (occurrences name place
      (Document.ofMembers (members.filter fun m => m.1 ≠ other))).map (·.2) =
      (occurrences name place' (Document.ofMembers members)).map (·.2) := by
  induction members generalizing place place' with
  | nil => rfl
  | cons entry rest ih =>
    obtain ⟨key, value⟩ := entry
    rw [List.filter_cons, Document.ofMembers, occurrences]
    by_cases hkey : key = other
    · have hother : some key ≠ some name := fun heq => hne (Option.some.inj (hkey ▸ heq)).symm
      rw [if_neg (by simpa using hkey), if_neg hother]
      exact ih _ _
    · rw [if_pos (by simpa using hkey), Document.ofMembers, occurrences]
      split
      · rw [List.map_cons, List.map_cons, ih (place + 1) (place' + 1)]
      · exact ih _ _

/-- What a field was read from. -/
theorem ofMembers_field_eq_ok_iff {absent cut : Except ReadFault α} {a : α}
    {trees : List (Option String × Document)} :
    (field name absent cut reader).ofMembers depth trees = .ok a ↔
      (occurrences name 0 trees).map (·.2) = [] ∧ absent = .ok a ∨
      ∃ tree, (occurrences name 0 trees).map (·.2) = [tree] ∧ reader depth tree = .ok a := by
  simp only [field]
  split
  · rename_i hnone
    rw [hnone]
    cases absent <;> simp [Except.mapError]
  · rename_i place tree others hsome
    rw [hsome]
    split
    · rename_i hread
      simp [hread]
    · rename_i hread
      simp [hread]
    · simp

theorem ignores_field {other : String} (hne : name ≠ other) (absent cut : Except ReadFault α)
    (reader : Reader α) : (field name absent cut reader).Ignores other := by
  intro depth members a h
  rw [ofMembers_field_eq_ok_iff] at h ⊢
  rwa [map_snd_occurrences_filter hne members 0 0]

theorem Ignores.seq (hf : f.Ignores name) (hx : x.Ignores name) : (f <*> x).Ignores name := by
  intro depth members b h
  obtain ⟨g, a, hg, ha, rfl⟩ := exists_of_combine_eq_ok h
  show combine (f.ofMembers depth _) (x.ofMembers depth _) = _
  rw [hf hg, hx ha]
  rfl

theorem Ignores.map (hx : x.Ignores name) (g : α → β) : (g <$> x).Ignores name :=
  (ignores_pure g).seq hx

/-! ### Fields of a value -/

/-- The fields of a record are read from a value; items behind them are left. -/
inductive ReadFrom (depth : Nat) (fields : Fields α) : Json → α → Prop
  | object {members : Members Json} {a : α}
    (h : fields.ofMembers depth (Document.ofMembers members) = .ok a) :
    ReadFrom depth fields (.object members) a
  | array {items : List Json} {a : α} {rest : List Document}
    (h : fields.ofItems depth (Document.ofItems items) = .ok (a, rest)) :
    ReadFrom depth fields (.array items) a

/-- The first of the members of a name is the one that is found. -/
theorem head?_map_snd_occurrences (name : String) (members : Members Json) (place : Nat) :
    ((occurrences name place (Document.ofMembers members)).map (·.2)).head? =
      (members.get? name).map .ofJson := by
  induction members generalizing place with
  | nil => rfl
  | cons entry rest ih =>
    obtain ⟨key, value⟩ := entry
    rw [Document.ofMembers, occurrences, Members.get?_cons]
    by_cases hkey : key = name
    · rw [if_pos (congrArg some hkey), if_pos hkey]
      rfl
    · rw [if_neg (by simpa using hkey), if_neg hkey, ih]

theorem ofPart_of_withDefault {members : Members Json} {a : α}
    (h : (withDefault name default reader).ofMembers depth (Document.ofMembers members) = .ok a) :
    reader.ofPart depth default (members.get? name) = .ok a := by
  have hhead := head?_map_snd_occurrences name members 0
  rcases ofMembers_field_eq_ok_iff.mp h with ⟨hnone, habsent⟩ | ⟨tree, htree, hread⟩
  · rw [hnone, List.head?_nil, eq_comm, Option.map_eq_none_iff] at hhead
    rw [hhead]
    exact habsent
  · rw [htree, List.head?_cons, eq_comm, Option.map_eq_some_iff] at hhead
    obtain ⟨value, hvalue, rfl⟩ := hhead
    rw [hvalue]
    exact hread

theorem exists_of_ofItems_seq {trees rest : List Document} {b : β}
    (h : (f <*> x).ofItems depth trees = .ok (b, rest)) :
    ∃ g a middle, f.ofItems depth trees = .ok (g, middle) ∧
      x.ofItems depth middle = .ok (a, rest) ∧ b = g a := by
  rw [ofItems_seq] at h
  obtain ⟨⟨g, middle⟩, hg, h⟩ := exists_of_bind_eq_ok h
  obtain ⟨⟨a, after⟩, ha, heq⟩ := exists_of_map_eq_ok h
  obtain ⟨rfl, rfl⟩ := Prod.mk.inj heq
  exact ⟨g, a, middle, hg, ha, rfl⟩

theorem Takes.eq_drop {n : Nat} (hf : fields.Takes n) {trees rest : List Document} {a : α}
    (h : fields.ofItems depth trees = .ok (a, rest)) : rest = trees.drop n := by
  rw [hf depth trees] at h
  obtain ⟨read, -, heq⟩ := exists_of_map_eq_ok h
  exact (Prod.mk.inj heq).2.symm

/-- The last of some fields was read from its part, and the others were read from the value. -/
theorem ReadFrom.exists_ofPart {n : Nat} {value : Json} {b : β} (hf : f.Takes n)
    (h : (f <*> withDefault name default reader).ReadFrom depth value b) :
    ∃ g a, f.ReadFrom depth value g ∧
      reader.ofPart depth default (value.part? n name) = .ok a ∧ b = g a := by
  cases h with
  | object h =>
    obtain ⟨g, a, hg, ha, rfl⟩ := exists_of_combine_eq_ok h
    exact ⟨g, a, .object hg, ofPart_of_withDefault ha, rfl⟩
  | @array items _ rest h =>
    obtain ⟨g, a, middle, hg, ha, rfl⟩ := exists_of_ofItems_seq h
    refine ⟨g, a, .array hg, ?_, rfl⟩
    have hhead : middle.head? = items[n]?.map .ofJson := by
      rw [hf.eq_drop hg, List.head?_drop, Document.getElem?_ofItems]
    cases hitem : items[n]? with
    | none =>
      rw [hitem, Option.map_none, List.head?_eq_none_iff] at hhead
      subst hhead
      obtain ⟨rfl, -⟩ := Prod.mk.inj (Except.ok.inj ha)
      simp only [Json.part?, hitem]
      rfl
    | some value =>
      rw [hitem, Option.map_some] at hhead
      obtain ⟨after, rfl⟩ : ∃ after, middle = .ofJson value :: after :=
        List.head?_eq_some_iff.mp hhead
      obtain ⟨a', hread, heq⟩ := exists_of_map_eq_ok ha
      obtain ⟨rfl, -⟩ := Prod.mk.inj heq
      simp only [Json.part?, hitem]
      exact hread

theorem ReadFrom.exists_of_map {g : α → β} {value : Json} {b : β}
    (h : (g <$> x).ReadFrom depth value b) : ∃ a, x.ReadFrom depth value a ∧ b = g a := by
  cases h with
  | object h =>
    obtain ⟨_, a, hg, ha, rfl⟩ := exists_of_combine_eq_ok h
    obtain rfl := Except.ok.inj hg
    exact ⟨a, .object ha, rfl⟩
  | array h =>
    obtain ⟨_, a, _, hg, ha, rfl⟩ := exists_of_ofItems_seq h
    obtain ⟨rfl, rfl⟩ := Prod.mk.inj (Except.ok.inj hg)
    exact ⟨a, .array ha, rfl⟩

end Fields

namespace Reader

variable {fields : Fields α} {reader : Reader α} {default : α} {f : Fields (α → β)} {value : Json}

theorem option_eq_ok_none_iff {tree : Document} :
    option reader depth tree = .ok none ↔ tree = .null := by
  cases tree with
  | null => exact iff_of_true rfl rfl
  | _ =>
    refine iff_of_false (fun h => ?_) nofun
    obtain ⟨_, -, heq⟩ := exists_of_map_eq_ok h
    cases heq

/-- A record is read from an object or an array, and all items of an array are used. -/
theorem record_ofJson_eq_ok_iff {a : α} :
    record fields (depth + 1) (.ofJson value) = .ok a ↔
      (∃ members, value = .object members ∧
        fields.ofMembers depth (Document.ofMembers members) = .ok a) ∨
      ∃ items, value = .array items ∧
        fields.ofItems depth (Document.ofItems items) = .ok (a, []) := by
  constructor
  · intro h
    cases value with
    | object members => exact .inl ⟨members, rfl, ofMembers_eq_ok_of_record h⟩
    | array items =>
      refine .inr ⟨items, rfl, ?_⟩
      simp only [Document.ofJson, record] at h
      split at h
      · cases h
      · rename_i b rest hread
        split at h
        · rename_i hrest
          obtain rfl := Except.ok.inj h
          rw [hread, List.isEmpty_iff.mp (Bool.and_eq_true_iff.mp hrest).1]
        · cases h
    | _ => cases h
  · rintro (⟨members, rfl, h⟩ | ⟨items, rfl, h⟩)
    · simp only [Document.ofJson, record, outlineFault, strayFault?_eq_none, h]
      rfl
    · simp only [Document.ofJson, record, h]
      rfl

theorem readFrom_of_record {a : α} (h : record fields (depth + 1) (.ofJson value) = .ok a) :
    fields.ReadFrom depth value a := by
  rcases record_ofJson_eq_ok_iff.mp h with ⟨members, rfl, hread⟩ | ⟨items, rfl, hread⟩
  · exact .object hread
  · exact .array hread

/-- Without its last field a record is read with the default in place of that field. -/
theorem record_without {n : Nat} {b : β} (htakes : f.Takes n) (hignores : f.Ignores name)
    (h : record (f <*> .withDefault name default reader) (depth + 1) (.ofJson value) = .ok b) :
    ∃ g a, f.ReadFrom depth value g ∧ b = g a ∧
      record (f <*> .withDefault name default reader) (depth + 1)
        (.ofJson (value.without n name)) = .ok (g default) := by
  rcases record_ofJson_eq_ok_iff.mp h with ⟨members, rfl, hread⟩ | ⟨items, rfl, hread⟩
  · obtain ⟨g, a, hg, ha, rfl⟩ := Fields.exists_of_combine_eq_ok hread
    refine ⟨g, a, .object hg, rfl, record_ofJson_eq_ok_iff.mpr (.inl ⟨_, rfl, ?_⟩)⟩
    have hmissing : (Fields.withDefault name default reader).ofMembers depth
        (Document.ofMembers (members.filter fun m => m.1 ≠ name)) = .ok default := by
      have hnone : Members.get? name (members.filter fun m => m.1 ≠ name) = none :=
        Members.get?_eq_none_iff.mpr fun m hm => of_decide_eq_true (List.mem_filter.mp hm).2
      simp only [Fields.withDefault, Fields.field, Fields.occurrences_eq_nil hnone]
      rfl
    show Fields.combine (f.ofMembers depth _) (Fields.ofMembers _ depth _) = _
    rw [hignores hg, hmissing]
    rfl
  · obtain ⟨g, a, middle, hg, ha, rfl⟩ := Fields.exists_of_ofItems_seq hread
    refine ⟨g, a, .array hg, rfl, record_ofJson_eq_ok_iff.mpr (.inr ⟨_, rfl, ?_⟩)⟩
    -- the items before the last field are read as they were, and none are left
    have hfront : f.ofItems depth (Document.ofItems (items.take n)) = .ok (g, []) := by
      rw [Document.ofItems_take]
      rw [htakes] at hg
      obtain ⟨⟨g', rest⟩, hg', heq⟩ := exists_of_map_eq_ok hg
      obtain ⟨rfl, -⟩ := Prod.mk.inj heq
      rw [hg', htakes.eq_drop hg', List.drop_take_self]
    rw [Fields.ofItems_seq, hfront]
    rfl

end Reader

end ChainFeed
