import ChainFeed.Json.Reader
import ChainFeed.Proofs.Except
import ChainFeed.Proofs.Json.Members
import ChainFeed.Proofs.Json.Printer

/-!
# Values that a reader reads

A reader meets the faults of a text in their order. A value without faults is simpler: it is read
part by part, whatever the order of its members, and members that a record does not know do not
matter. Reading such a value needs room for as many nested containers as the reader descends into.

## Main definitions

- `Reader.Reads`: a value is read as something, with room for some containers
- `Reader.ReadsMember`: the same of a member, which may be missing
- `Fields.Reads`: the same of the fields of a record

## Main results

- `Reader.reads_list`, `Fields.reads_required`, `Fields.reads_withDefault`, `Reader.reads_record`:
  containers are read from their parts
-/

namespace ChainFeed

variable {α β : Type} {members : Members Json} {k : Nat}

/-- A container takes the room of one, and leaves the rest to what is inside it. -/
theorem exists_room_inside {depth : Nat} (h : k + 1 ≤ depth) :
    ∃ inside, depth = inside + 1 ∧ k ≤ inside :=
  ⟨depth - 1, by omega, by omega⟩

/-! ### Trees of values -/

namespace Document

mutual

/-- The tree of a value is complete. -/
theorem isWhole_ofJson : (value : Json) → (ofJson value).isWhole = true
  | .null | .bool _ | .number _ | .string _ => rfl
  | .array items => areWhole_ofItems items
  | .object members => membersAreWhole_ofMembers members

theorem areWhole_ofItems : (items : List Json) → areWhole (ofItems items) = true
  | [] => rfl
  | item :: items => by
    rw [ofItems, areWhole, isWhole_ofJson item, areWhole_ofItems items]
    rfl

theorem membersAreWhole_ofMembers : (members : Members Json) →
    membersAreWhole (ofMembers members) = true
  | [] => rfl
  | (_, value) :: members => by
    rw [ofMembers, membersAreWhole, isWhole_ofJson value, membersAreWhole_ofMembers members]
    rfl

end

end Document

/-! ### Leaves and lists -/

namespace Reader

variable {reader : Reader α} {value : Json} {a : α}

/-- A text is read as its characters are. -/
theorem ofText_render
    (h : (reader.ofText (value.chars.flatMap Utf8.encodeChar)).toOption = some a) :
    reader.ofText (Utf8.encode value.render) = .ok a := by
  rw [Json.encode_render]
  exact eq_ok_of_toOption_eq h

/-- A value is read as `a` if there is room for `k` containers. -/
def Reads (k : Nat) (reader : Reader α) (value : Json) (a : α) : Prop :=
  ∀ depth, k ≤ depth → reader depth (.ofJson value) = .ok a

/-- A member is read as `a`, or it is missing and `a` stands for that. -/
def ReadsMember (k : Nat) (default : α) (reader : Reader α) (member : Option Json) (a : α) : Prop :=
  match member with
  | some value => reader.Reads k value a
  | none => a = default

theorem Reads.mono {l : Nat} (h : reader.Reads k value a) (hle : k ≤ l) : reader.Reads l value a :=
  fun depth hdepth => h depth (Nat.le_trans hle hdepth)

theorem Reads.ofJson (h : reader.Reads k value a) (hk : k ≤ maxDepth) :
    reader.ofJson value = .ok a :=
  h maxDepth hk

theorem Reads.map {f : α → β} {b : β} (h : reader.Reads k value a) (hf : f a = b) :
    (reader.map f).Reads k value b := by
  intro depth hdepth
  rw [Reader.map, h depth hdepth, ← hf]
  rfl

theorem Reads.filterMap {f : α → Option β} {b : β} (h : reader.Reads k value a)
    (hf : f a = some b) : (reader.filterMap f).Reads k value b := by
  intro depth hdepth
  rw [Reader.filterMap, h depth hdepth]
  simp only [hf]

theorem reads_bool (b : Bool) : bool.Reads k (.bool b) b :=
  fun _ _ => rfl

theorem reads_string (s : String) : string.Reads k (.string s) s :=
  fun _ _ => rfl

theorem reads_integer {low high n : Int} (hlow : low ≤ n) (hhigh : n ≤ high) :
    (integer low high).Reads k (.int n) n := by
  intro depth _
  show (if (decide (low ≤ n) && decide (n ≤ high)) = true then .ok n else _) = Except.ok n
  rw [decide_eq_true hlow, decide_eq_true hhigh]
  rfl

theorem reads_uint64 (n : UInt64) : uint64.Reads k (.int n.toNat) n := by
  have hread : (integer 0 18446744073709551615).Reads k (.int n.toNat) n.toNat :=
    reads_integer (Int.natCast_nonneg _) (by have := n.toNat_lt; omega)
  exact hread.map UInt64.ofNat_toNat

theorem reads_uint32 (n : UInt32) : uint32.Reads k (.int n.toNat) n := by
  have hread : (integer 0 4294967295).Reads k (.int n.toNat) n.toNat :=
    reads_integer (Int.natCast_nonneg _) (by have := n.toNat_lt; omega)
  exact hread.map UInt32.ofNat_toNat

theorem reads_int64 (n : Int64) : int64.Reads k (.int n.toInt) n := by
  have hread :
      (integer (-9223372036854775808) 9223372036854775807).Reads k (.int n.toInt) n.toInt :=
    reads_integer n.le_toInt (Int.le_of_lt_add_one n.toInt_lt)
  exact hread.map (Int64.ofInt_toInt n)

theorem reads_option_null : (option reader).Reads k .null none :=
  fun _ _ => rfl

theorem Reads.option (h : reader.Reads k value a) (hne : value ≠ .null) :
    reader.option.Reads k value (some a) := by
  intro depth hdepth
  have hread : reader depth (.ofJson value) = .ok a := h depth hdepth
  cases value with
  | null => exact absurd rfl hne
  | _ => exact congrArg (Except.map some) hread

theorem reads_orNull_null (default : α) : (orNull default reader).Reads k .null default :=
  reads_option_null.map rfl

theorem Reads.orNull (h : reader.Reads k value a) (hne : value ≠ .null) (default : α) :
    (orNull default reader).Reads k value a :=
  (h.option hne).map rfl

theorem items_ofItems {depth : Nat} {values : List Json} {as : List α} (hdepth : k ≤ depth)
    (h : List.Forall₂ (fun a value => reader.Reads k value a) as values) :
    items (reader depth) (Document.ofItems values) = .ok as := by
  induction h with
  | nil => rfl
  | cons hhead _ ih => rw [Document.ofItems, items, hhead depth hdepth]; simp only [ih]; rfl

/-- A list is read from its items. -/
theorem reads_list {values : List Json} {as : List α}
    (h : List.Forall₂ (fun a value => reader.Reads k value a) as values) :
    (list reader).Reads (k + 1) (.array values) as := by
  intro depth hdepth
  obtain ⟨inside, rfl, hinside⟩ := exists_room_inside hdepth
  rw [Document.ofJson, list, items_ofItems hinside h]
  rfl

/-- What was read of trees was read of each of them. -/
theorem forall₂_of_items {reader : Document → Except ReadFault α} {trees : List Document}
    {values : List α} (h : items reader trees = .ok values) :
    List.Forall₂ (fun tree value => reader tree = .ok value) trees values := by
  induction trees generalizing values with
  | nil =>
    obtain rfl : [] = values := Except.ok.inj h
    exact .nil
  | cons tree trees ih =>
    rw [items] at h
    split at h
    · cases h
    · rename_i value hvalue
      obtain ⟨rest, hrest, rfl⟩ := exists_of_map_eq_ok h
      exact .cons hvalue (ih hrest)

/-- What was read as a list is a closed array. -/
theorem exists_array_of_list {depth : Nat} {tree : Document} {values : List α}
    (h : list reader (depth + 1) tree = .ok values) :
    ∃ trees, tree = .array trees true ∧
      List.Forall₂ (fun tree value => reader depth tree = .ok value) trees values := by
  unfold list at h
  split at h
  · rename_i inner trees closed hdepth
    obtain rfl : depth = inner := Nat.succ.inj hdepth
    split at h
    · cases h
    · rename_i items hitems
      split at h
      · rename_i hclosed
        obtain rfl := Except.ok.inj h
        exact ⟨trees, by rw [hclosed], forall₂_of_items hitems⟩
      · cases h
  · cases h

/-- A text was read if its tree was, and nothing but blanks stands behind it. -/
theorem of_ofText_eq_ok {text : List UInt8} (h : reader.ofText text = .ok a) :
    reader maxDepth (Document.scan text).1 = .ok a := by
  unfold ofText at h
  dsimp only at h
  split at h
  · cases h
  · rename_i hread _
    split at h
    · rw [hread, Except.ok.inj h]
    · cases h
  · cases h

end Reader

/-! ### Records -/

namespace Fields

variable {name : String} {reader : Reader α} {value : Json} {a : α}

/-- The fields of a record are read from members as `a` if there is room for `k` containers. -/
def Reads (k : Nat) (fields : Fields α) (members : Members Json) (a : α) : Prop :=
  ∀ depth, k ≤ depth → fields.ofMembers depth (Document.ofMembers members) = .ok a

theorem Reads.seq {f : Fields (α → β)} {x : Fields α} {g : α → β} (hf : f.Reads k members g)
    (hx : x.Reads k members a) : (f <*> x).Reads k members (g a) := by
  intro depth hdepth
  show combine (f.ofMembers depth _) (x.ofMembers depth _) = .ok (g a)
  rw [hf depth hdepth, hx depth hdepth]
  rfl

theorem Reads.map {x : Fields α} (hx : x.Reads k members a) (f : α → β) :
    (f <$> x).Reads k members (f a) :=
  Reads.seq (fun _ _ => rfl : (Fields.pure f).Reads k members f) hx

theorem occurrences_eq_nil_of_forall {trees : List (Option String × Document)}
    (h : ∀ member ∈ trees, member.1 ≠ some name) (place : Nat) :
    occurrences name place trees = [] := by
  induction trees generalizing place with
  | nil => rfl
  | cons member trees ih =>
    obtain ⟨hne, hrest⟩ := List.forall_mem_cons.mp h
    rw [occurrences, if_neg hne]
    exact ih hrest _

theorem occurrences_eq_nil (h : members.get? name = none) (place : Nat) :
    occurrences name place (Document.ofMembers members) = [] := by
  induction members generalizing place with
  | nil => rfl
  | cons entry rest ih =>
    obtain ⟨hne, hrest⟩ := List.forall_mem_cons.mp (Members.get?_eq_none_iff.mp h)
    rw [Document.ofMembers, occurrences, if_neg (by simpa using hne)]
    exact ih (Members.get?_eq_none_iff.mpr hrest) _

/-- A name that no two members share occurs once, at the place of its member. -/
theorem occurrences_eq_singleton (hnodup : (members.map (·.1)).Nodup)
    (h : members.get? name = some value) (start : Nat) :
    ∃ place, members[place]? = some (name, value) ∧
      occurrences name start (Document.ofMembers members) =
        [(start + place, Document.ofJson value)] := by
  induction members generalizing start with
  | nil => exact nomatch h
  | cons entry rest ih =>
    rw [List.map_cons, List.nodup_cons] at hnodup
    rw [Members.get?_cons] at h
    rw [Document.ofMembers, occurrences]
    split at h
    · rename_i heq
      obtain rfl := Option.some.inj h
      have hrest : Members.get? name rest = none := by
        refine Members.get?_eq_none_iff.mpr fun other hother hsame => hnodup.1 ?_
        exact List.mem_map.mpr ⟨other, hother, hsame.trans heq.symm⟩
      rw [if_pos (congrArg some heq), occurrences_eq_nil hrest]
      exact ⟨0, congrArg some (Prod.ext heq rfl), rfl⟩
    · rename_i hne
      rw [if_neg (by simpa using hne)]
      obtain ⟨place, hplace, hoccurrences⟩ := ih hnodup.2 h (start + 1)
      refine ⟨place + 1, hplace, ?_⟩
      rw [hoccurrences, Nat.add_assoc, Nat.add_comm 1]

theorem reads_field {absent cut : Except ReadFault α} (hnodup : (members.map (·.1)).Nodup)
    (h : members.get? name = some value) (hread : reader.Reads k value a) :
    (field name absent cut reader).Reads k members a := by
  intro depth hdepth
  obtain ⟨place, -, hplace⟩ := occurrences_eq_singleton hnodup h 0
  simp only [field, hplace, hread depth hdepth]

/-- A field that must be there is read from the member of its name. -/
theorem reads_required (hnodup : (members.map (·.1)).Nodup) (h : members.get? name = some value)
    (hread : reader.Reads k value a) : (required name reader).Reads k members a :=
  reads_field hnodup h hread

/-- A field that may be missing is read from the member of its name, or from nothing. -/
theorem reads_withDefault {default : α} (hnodup : (members.map (·.1)).Nodup)
    (h : reader.ReadsMember k default (members.get? name) a) :
    (withDefault name default reader).Reads k members a := by
  cases hget : members.get? name with
  | some value =>
    rw [hget] at h
    exact reads_field hnodup hget h
  | none =>
    rw [hget] at h
    intro depth _
    simp only [withDefault, field, occurrences_eq_nil hget]
    exact congrArg Except.ok (Eq.symm h)

/-! #### What fields were read from -/

theorem exists_of_combine_eq_ok {f : Except PlacedFault (α → β)} {x : Except PlacedFault α} {b : β}
    (h : combine f x = .ok b) : ∃ g a, f = .ok g ∧ x = .ok a ∧ b = g a := by
  unfold combine at h
  split at h
  · exact ⟨_, _, rfl, rfl, (Except.ok.inj h).symm⟩
  · cases h
  · cases h
  · cases h

/-- What two fields make was read from members that each of them reads. -/
theorem exists_of_ofMembers_pair {γ : Type} {f : α → β → γ} {x : Fields α} {y : Fields β}
    {depth : Nat} {trees : List (Option String × Document)} {c : γ}
    (h : (f <$> x <*> y).ofMembers depth trees = .ok c) :
    ∃ a b, x.ofMembers depth trees = .ok a ∧ y.ofMembers depth trees = .ok b ∧ c = f a b := by
  obtain ⟨g, b, hg, hb, rfl⟩ := exists_of_combine_eq_ok h
  obtain ⟨_, a, hf, ha, rfl⟩ := exists_of_combine_eq_ok hg
  obtain rfl := Except.ok.inj hf
  exact ⟨a, b, ha, hb, rfl⟩

theorem eq_of_withDefault_of_forall {default : α} {depth : Nat}
    {trees : List (Option String × Document)} (h : ∀ member ∈ trees, member.1 ≠ some name)
    (hread : (withDefault name default reader).ofMembers depth trees = .ok a) : a = default := by
  rw [withDefault, field] at hread
  dsimp only at hread
  rw [occurrences_eq_nil_of_forall h] at hread
  exact (Except.ok.inj hread).symm

end Fields

namespace Reader

/-- What was read as a record was read from its members. -/
theorem ofMembers_eq_ok_of_record {fields : Fields α} {depth : Nat} {closed : Bool} {a : α}
    {trees : List (Option String × Document)}
    (h : record fields (depth + 1) (.object trees closed) = .ok a) :
    fields.ofMembers depth trees = .ok a := by
  rw [record] at h
  split at h
  · rename_i value hvalue
    obtain ⟨g, b, hg, hb, rfl⟩ := Fields.exists_of_combine_eq_ok hvalue
    obtain ⟨_, -, rfl⟩ := exists_of_map_eq_ok hg
    rw [hb, ← Except.ok.inj h]
    rfl
  · cases h

theorem strayFault?_eq_none (names : List String) (place : Nat) :
    strayFault? names place (Document.ofMembers members) = none := by
  induction members generalizing place with
  | nil => rfl
  | cons entry rest ih =>
    rw [Document.ofMembers, strayFault?, Document.isWhole_ofJson, Bool.or_true, if_pos rfl]
    exact ih _

/-- A record is read from its fields; other members do not matter. -/
theorem reads_record {fields : Fields α} {a : α} (h : fields.Reads k members a) :
    (record fields).Reads (k + 1) (.object members) a := by
  intro depth hdepth
  obtain ⟨inside, rfl, hinside⟩ := exists_room_inside hdepth
  rw [Document.ofJson, record, h inside hinside, outlineFault, strayFault?_eq_none]
  rfl

end Reader

end ChainFeed
