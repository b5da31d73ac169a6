import ChainFeed.Proofs.Json.Parts
import Mathlib.Data.List.Forall2
import Mathlib.Logic.Relator

/-!
# Values that are read alike

Two values are read alike if both are read as related things, or both are refused with the same
fault. Of several faults in a record the first one counts, so objects are compared member by member,
in the order of names: members that only one of them has may shift the others, but they do not
change which fault is the first.

## Main definitions

- `Agree`: two results are related values, or related faults
- `Reader.Alike`, `Reader.AlikePart`, `Fields.Alike`: values, parts and members are read alike
- `SamePlace`: places of the members of two objects that correspond

## Main results

- `SamePlace.le_iff`: places that correspond have the same order
- `Reader.alike_list`, `Fields.Alike.seq`, `Fields.alike_required`, `Fields.alike_withDefault`,
  `Reader.alike_record`: containers are read alike if their parts are
-/

namespace ChainFeed

variable {ε ε' α β : Type} {k : Nat}

/-- Two results agree: they are values that are related, or faults that are. -/
inductive Agree (F : ε → ε → Prop) (E : α → α → Prop) : Except ε α → Except ε α → Prop
  | ok {a b : α} (h : E a b) : Agree F E (.ok a) (.ok b)
  | error {e e' : ε} (h : F e e') : Agree F E (.error e) (.error e')

namespace Agree

variable {F : ε → ε → Prop} {E : α → α → Prop} {x y : Except ε α}

theorem refl (hF : ∀ e, F e e) (hE : ∀ a, E a a) (x : Except ε α) : Agree F E x x := by
  cases x with
  | error e => exact .error (hF e)
  | ok a => exact .ok (hE a)

theorem map {E' : β → β → Prop} {f g : α → β} (h : Agree F E x y)
    (hf : ∀ a b, E a b → E' (f a) (g b)) : Agree F E' (x.map f) (y.map g) := by
  cases h with
  | ok h => exact .ok (hf _ _ h)
  | error h => exact .error h

theorem imp {E' : α → α → Prop} (h : Agree F E x y) (hE : ∀ a b, E a b → E' a b) :
    Agree F E' x y := by
  cases h with
  | ok h => exact .ok (hE _ _ h)
  | error h => exact .error h

theorem mapError {F' : ε' → ε' → Prop} {f g : ε → ε'} (h : Agree F E x y)
    (hf : ∀ e e', F e e' → F' (f e) (g e')) : Agree F' E (x.mapError f) (y.mapError g) := by
  cases h with
  | ok h => exact .ok h
  | error h => exact .error (hf _ _ h)

theorem cases_eq (h : Agree F E x y) :
    (∃ a b, x = .ok a ∧ y = .ok b ∧ E a b) ∨
      ∃ e e', x = .error e ∧ y = .error e' ∧ F e e' := by
  cases h with
  | ok h => exact .inl ⟨_, _, rfl, rfl, h⟩
  | error h => exact .inr ⟨_, _, rfl, rfl, h⟩

theorem eq {x y : Except ε α} (h : Agree Eq Eq x y) : x = y := by
  cases h with
  | ok h => rw [h]
  | error h => rw [h]

end Agree

namespace Reader

variable {E : α → α → Prop} {reader : Reader α} {v w : Json} {m m' : Option Json} {default : α}

/-- Two values are read alike if there is room for `k` containers. -/
def Alike (k : Nat) (E : α → α → Prop) (reader : Reader α) (v w : Json) : Prop :=
  ∀ depth, k ≤ depth → Agree Eq E (reader depth (.ofJson v)) (reader depth (.ofJson w))

/-- Two parts that may be missing are read alike. -/
def AlikePart (k : Nat) (E : α → α → Prop) (default : α) (reader : Reader α)
    (m m' : Option Json) : Prop :=
  ∀ depth, k ≤ depth → Agree Eq E (reader.ofPart depth default m) (reader.ofPart depth default m')

theorem Alike.refl (hE : ∀ a, E a a) (v : Json) : reader.Alike k E v v :=
  fun _ _ => .refl (fun _ => rfl) hE _

theorem Alike.mono {l : Nat} (h : reader.Alike k E v w) (hle : k ≤ l) : reader.Alike l E v w :=
  fun depth hdepth => h depth (Nat.le_trans hle hdepth)

theorem AlikePart.refl (hE : ∀ a, E a a) (m : Option Json) : reader.AlikePart k E default m m :=
  fun _ _ => .refl (fun _ => rfl) hE _

theorem Alike.part (h : reader.Alike k E v w) : reader.AlikePart k E default (some v) (some w) :=
  h

theorem ReadsMember.ofPart {a : α} (h : reader.ReadsMember k default m a) {depth : Nat}
    (hdepth : k ≤ depth) : reader.ofPart depth default m = .ok a := by
  cases m with
  | none => exact congrArg Except.ok (Eq.symm h)
  | some v => exact h depth hdepth

theorem alikePart_of_reads {a b : α} (h : reader.ReadsMember k default m a)
    (h' : reader.ReadsMember k default m' b) (hE : E a b) :
    reader.AlikePart k E default m m' := by
  intro depth hdepth
  rw [h.ofPart hdepth, h'.ofPart hdepth]
  exact .ok hE

theorem option_of_ne_null {u : Json} (h : u ≠ .null) (depth : Nat) :
    option reader depth (.ofJson u) = (reader depth (.ofJson u)).map some := by
  cases u with
  | null => exact absurd rfl h
  | _ => rfl

theorem Alike.option (h : reader.Alike k E v w) (hv : v ≠ .null) (hw : w ≠ .null) :
    reader.option.Alike k (Option.Rel E) v w := by
  intro depth hdepth
  rw [option_of_ne_null hv, option_of_ne_null hw]
  exact (h depth hdepth).map fun _ _ => .some

theorem agree_items {depth : Nat} {vs ws : List Json} (hdepth : k ≤ depth)
    (h : List.Forall₂ (reader.Alike k E) vs ws) :
    Agree Eq (List.Forall₂ E) (items (reader depth) (Document.ofItems vs))
      (items (reader depth) (Document.ofItems ws)) := by
  induction h with
  | nil => exact .ok .nil
  | @cons v w vs ws hhead _ ih =>
    rw [Document.ofItems, Document.ofItems, items, items]
    rcases (hhead depth hdepth).cases_eq with ⟨a, b, hv, hw, h⟩ | ⟨e, e', hv, hw, rfl⟩
    · rw [hv, hw]
      exact ih.map fun _ _ => .cons h
    · rw [hv, hw]
      exact .error rfl

theorem alike_list {vs ws : List Json} (h : List.Forall₂ (reader.Alike k E) vs ws) :
    (list reader).Alike (k + 1) (List.Forall₂ E) (.array vs) (.array ws) := by
  intro depth hdepth
  obtain ⟨inside, rfl, hinside⟩ := exists_room_inside hdepth
  rw [Document.ofJson, Document.ofJson, list, list]
  rcases (agree_items hinside h).cases_eq with
    ⟨as, bs, hv, hw, h⟩ | ⟨e, e', hv, hw, rfl⟩
  · rw [hv, hw]
    exact .ok h
  · rw [hv, hw]
    exact .error rfl

end Reader

/-! ### Members of objects -/

section Members

variable {ms ns : Members Json} {p q p' q' : Nat} {name : String}

/-- Places of two objects correspond: there are members of one name, or both are behind the last
member, where fields are missed. -/
def SamePlace (ms ns : Members Json) (p q : Nat) : Prop :=
  (p = ms.length + 1 ∧ q = ns.length + 1) ∨
    ∃ name v w, ms[p]? = some (name, v) ∧ ns[q]? = some (name, w)

/-- The order of places is that of names. -/
theorem Members.Sorted.lt_iff {other : String} {v w : Json} (h : ms.Sorted)
    (hp : ms[p]? = some (name, v)) (hq : ms[q]? = some (other, w)) : p < q ↔ name < other := by
  have hlt {p q : Nat} {name other : String} {v w : Json} (hp : ms[p]? = some (name, v))
      (hq : ms[q]? = some (other, w)) (hpq : p < q) : name < other := by
    obtain ⟨hp', hpv⟩ := List.getElem?_eq_some_iff.mp hp
    obtain ⟨hq', hqw⟩ := List.getElem?_eq_some_iff.mp hq
    have hnames := List.pairwise_iff_getElem.mp h p q hp' hq' hpq
    rwa [hpv, hqw] at hnames
  refine ⟨hlt hp hq, fun hnames => ?_⟩
  rcases Nat.lt_trichotomy p q with hpq | rfl | hpq
  · exact hpq
  · rw [hp] at hq
    obtain rfl := (Prod.mk.inj (Option.some.inj hq)).1
    exact absurd hnames (String.lt_irrefl name)
  · exact absurd (hlt hq hp hpq) (String.lt_asymm hnames)

/-- Places that correspond have the same order, because members are sorted. -/
theorem SamePlace.le_iff (hms : ms.Sorted) (hns : ns.Sorted) (h : SamePlace ms ns p q)
    (h' : SamePlace ms ns p' q') : p ≤ p' ↔ q ≤ q' := by
  have hlength {xs : Members Json} {i : Nat} {entry : String × Json} (hi : xs[i]? = some entry) :
      i < xs.length := (List.getElem?_eq_some_iff.mp hi).1
  -- a fault of a field that is missed stands behind all members
  rcases h with ⟨rfl, rfl⟩ | ⟨name, v, w, hp, hq⟩ <;>
    rcases h' with ⟨rfl, rfl⟩ | ⟨other, v', w', hp', hq'⟩
  · exact iff_of_true le_rfl le_rfl
  · have := hlength hp'
    have := hlength hq'
    exact iff_of_false (by omega) (by omega)
  · have := hlength hp
    have := hlength hq
    exact iff_of_true (by omega) (by omega)
  · rw [← Nat.not_lt, ← Nat.not_lt, hms.lt_iff hp' hp, hns.lt_iff hq' hq]

/-- One fault at places that correspond. -/
def SameFault (ms ns : Members Json) (e e' : PlacedFault) : Prop :=
  e.fault = e'.fault ∧ SamePlace ms ns e.place e'.place

namespace Fields

variable {E : α → α → Prop} {reader : Reader α} {default : α} {f : Fields (α → β)} {x : Fields α}

/-- The fields of a record are read alike from two objects, if there is room for `k` containers. -/
def Alike (k : Nat) (E : α → α → Prop) (fields : Fields α) (ms ns : Members Json) : Prop :=
  ∀ depth, k ≤ depth → Agree (SameFault ms ns) E
    (fields.ofMembers depth (Document.ofMembers ms))
    (fields.ofMembers depth (Document.ofMembers ns))

/-- If both parts have a fault, the first one is the same in both objects. -/
theorem Alike.seq {E' : β → β → Prop} (hms : ms.Sorted) (hns : ns.Sorted)
    (hf : f.Alike k (Relator.LiftFun E E') ms ns) (hx : x.Alike k E ms ns) :
    (f <*> x).Alike k E' ms ns := by
  intro depth hdepth
  show Agree _ _ (combine (f.ofMembers depth _) (x.ofMembers depth _))
    (combine (f.ofMembers depth _) (x.ofMembers depth _))
  rcases (hf depth hdepth).cases_eq with ⟨g, g', hg, hg', hE⟩ | ⟨e, e', hg, hg', he⟩ <;>
    rcases (hx depth hdepth).cases_eq with ⟨a, b, ha, hb, hab⟩ | ⟨i, i', ha, hb, hi⟩ <;>
    rw [hg, hg', ha, hb]
  · exact .ok (hE hab)
  · exact .error hi
  · exact .error he
  -- the faults of both parts compete, and the same one comes first in both objects
  · have hle := he.2.le_iff hms hns hi.2
    simp only [combine, hle]
    split
    · exact .error he
    · exact .error hi

theorem Alike.map {E' : β → β → Prop} {g : α → β} (hms : ms.Sorted) (hns : ns.Sorted)
    (hx : x.Alike k E ms ns) (hg : Relator.LiftFun E E' g g) : (g <$> x).Alike k E' ms ns :=
  Alike.seq hms hns (f := Fields.pure g) (fun _ _ => .ok hg) hx

theorem Alike.seq_eq (hms : ms.Sorted) (hns : ns.Sorted) (hf : f.Alike k Eq ms ns)
    (hx : x.Alike k Eq ms ns) : (f <*> x).Alike k Eq ms ns := by
  have hlift : f.Alike k (Relator.LiftFun Eq Eq) ms ns := by
    intro depth hdepth
    rcases (hf depth hdepth).cases_eq with ⟨g, _, hg, hg', rfl⟩ | ⟨e, e', hg, hg', he⟩
    · rw [hg, hg']
      exact .ok fun _ _ => congrArg g
    · rw [hg, hg']
      exact .error he
  exact hlift.seq hms hns hx

theorem Alike.map_eq (hms : ms.Sorted) (hns : ns.Sorted) (hx : x.Alike k Eq ms ns) (g : α → β) :
    (g <$> x).Alike k Eq ms ns :=
  hx.map hms hns fun _ _ => congrArg g

theorem length_ofMembers (ms : Members Json) : (Document.ofMembers ms).length = ms.length := by
  induction ms with
  | nil => rfl
  | cons entry rest ih => rw [Document.ofMembers, List.length_cons, ih, List.length_cons]

/-- A field is read from its member, and its fault stands there. -/
theorem exists_ofMembers_field {absent cut : Except ReadFault α} {v : Json} (hms : ms.Sorted)
    (h : ms.get? name = some v) : ∃ place, ms[place]? = some (name, v) ∧ ∀ depth,
      (field name absent cut reader).ofMembers depth (Document.ofMembers ms) =
        (reader depth (.ofJson v)).mapError fun fault => ⟨place, fault⟩ := by
  obtain ⟨place, hplace, hoccurrences⟩ := occurrences_eq_singleton hms.nodup h 0
  refine ⟨place, hplace, fun depth => ?_⟩
  simp only [field, hoccurrences, Nat.zero_add]
  cases reader depth (.ofJson v) <;> rfl

theorem ofMembers_field_of_none {absent cut : Except ReadFault α} (h : ms.get? name = none)
    (depth : Nat) : (field name absent cut reader).ofMembers depth (Document.ofMembers ms) =
      absent.mapError fun fault => ⟨ms.length + 1, fault⟩ := by
  simp only [field, occurrences_eq_nil h, length_ofMembers]

theorem alike_field_of_some {absent cut : Except ReadFault α} {v w : Json} (hms : ms.Sorted)
    (hns : ns.Sorted) (hv : ms.get? name = some v) (hw : ns.get? name = some w)
    (h : reader.Alike k E v w) : (field name absent cut reader).Alike k E ms ns := by
  obtain ⟨p, hp, hread⟩ := exists_ofMembers_field hms hv
  obtain ⟨q, hq, hread'⟩ := exists_ofMembers_field hns hw
  intro depth hdepth
  rw [hread, hread']
  exact (h depth hdepth).mapError fun _ _ heq => ⟨heq, .inr ⟨name, v, w, hp, hq⟩⟩

/-- A field that must be there is read alike from two members, or missed in both objects. -/
theorem alike_required (hms : ms.Sorted) (hns : ns.Sorted) (hE : ∀ a, E a a)
    (h : ms.get? name = ns.get? name ∨ ∃ v w, ms.get? name = some v ∧ ns.get? name = some w ∧
      reader.Alike k E v w) : (required name reader).Alike k E ms ns := by
  rcases h with heq | ⟨v, w, hv, hw, h⟩
  · cases hget : ns.get? name with
    | some v => exact alike_field_of_some hms hns (heq.trans hget) hget (.refl hE v)
    | none =>
      intro depth _
      rw [required, ofMembers_field_of_none (heq.trans hget), ofMembers_field_of_none hget]
      exact .error ⟨rfl, .inl ⟨rfl, rfl⟩⟩
  · exact alike_field_of_some hms hns hv hw h

/-- A field that may be missing is read from its part. -/
theorem ofMembers_withDefault_of_ok {a : α} {depth : Nat} (hms : ms.Sorted)
    (h : reader.ofPart depth default (ms.get? name) = .ok a) :
    (withDefault name default reader).ofMembers depth (Document.ofMembers ms) = .ok a := by
  cases hget : ms.get? name with
  | none =>
    rw [hget] at h
    rw [withDefault, ofMembers_field_of_none hget]
    exact congrArg Except.ok (Except.ok.inj h)
  | some v =>
    obtain ⟨place, -, hread⟩ := exists_ofMembers_field hms hget
    rw [hget] at h
    rw [withDefault, hread, show reader depth (.ofJson v) = .ok a from h]
    rfl

/-- A field that may be missing is read alike from parts that are. -/
theorem alike_withDefault (hms : ms.Sorted) (hns : ns.Sorted)
    (h : reader.AlikePart k E default (ms.get? name) (ns.get? name)) :
    (withDefault name default reader).Alike k E ms ns := by
  intro depth hdepth
  rcases (h depth hdepth).cases_eq with ⟨a, b, ha, hb, hab⟩ | ⟨e, e', hv, hw, he⟩
  · rw [ofMembers_withDefault_of_ok hms ha, ofMembers_withDefault_of_ok hns hb]
    exact .ok hab
  -- what is missing has no fault, so both members are there
  · cases hms' : ms.get? name with
    | none =>
      rw [hms'] at hv
      cases hv
    | some v =>
      cases hns' : ns.get? name with
      | none =>
        rw [hns'] at hw
        cases hw
      | some w =>
        rw [hms', hns'] at h
        exact alike_field_of_some hms hns hms' hns' h depth hdepth

end Fields

/-- Records are read alike if their fields are. -/
theorem Reader.alike_record {E : α → α → Prop} {fields : Fields α} (h : fields.Alike k E ms ns) :
    (record fields).Alike (k + 1) E (.object ms) (.object ns) := by
  intro depth hdepth
  -- the object itself takes the room of one container
  obtain ⟨inside, rfl, hinside⟩ := exists_room_inside hdepth
  rw [Document.ofJson, Document.ofJson, record, record, outlineFault, outlineFault,
    strayFault?_eq_none, strayFault?_eq_none]
  rcases (h inside hinside).cases_eq with
    ⟨a, b, hv, hw, h⟩ | ⟨e, e', hv, hw, h⟩
  · rw [hv, hw]
    exact .ok h
  · rw [hv, hw]
    exact .error h.1

end Members

end ChainFeed
