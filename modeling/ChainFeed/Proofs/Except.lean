import Mathlib.Data.List.Forall2

/-!
# Successful steps

A sequence of steps succeeds only if each step of it does. These lemmas take a successful result
apart into the results it was made from.
-/

namespace ChainFeed

variable {ε ε' α β : Type}

theorem exists_of_bind_eq_ok {x : Except ε α} {f : α → Except ε β} {b : β}
    (h : x >>= f = .ok b) : ∃ a, x = .ok a ∧ f a = .ok b := by
  cases x with
  | error e => cases h
  | ok a => exact ⟨a, rfl, h⟩

theorem exists_of_map_eq_ok {x : Except ε α} {f : α → β} {b : β} (h : x.map f = .ok b) :
    ∃ a, x = .ok a ∧ f a = b := by
  cases x with
  | error e => cases h
  | ok a => exact ⟨a, rfl, Except.ok.inj h⟩

theorem map_eq_ok_iff {x : Except ε α} {f : α → β} {b : β} :
    x.map f = .ok b ↔ ∃ a, x = .ok a ∧ f a = b := by
  constructor
  · exact exists_of_map_eq_ok
  · rintro ⟨a, rfl, rfl⟩
    rfl

theorem map_eq_error_iff {x : Except ε α} {f : α → β} {e : ε} :
    x.map f = .error e ↔ x = .error e := by
  cases x with
  | error fault => exact ⟨fun h => congrArg Except.error (Except.error.inj h), fun h => h ▸ rfl⟩
  | ok a => exact ⟨nofun, nofun⟩

theorem mapError_error (f : ε → ε') (e : ε) :
    (Except.error e : Except ε α).mapError f = .error (f e) := rfl

theorem of_mapError_eq_ok {f : ε → ε'} {x : Except ε α} {a : α} (h : x.mapError f = .ok a) :
    x = .ok a := by
  cases x with
  | error e => cases h
  | ok b => exact congrArg Except.ok (Except.ok.inj h)

/-- A missing value is the only error of a step that may miss one. -/
theorem eq_some_of_elim_eq_ok {x : Option α} {e : ε} {a : α}
    (h : x.elim (Except.error e) Except.ok = .ok a) : x = some a := by
  cases x with
  | none => cases h
  | some b => exact congrArg some (Except.ok.inj h)

/-- A list of steps succeeds if each of them does. -/
theorem mapM_eq_ok_iff {f : α → Except ε β} {xs : List α} {ys : List β} :
    xs.mapM f = .ok ys ↔ List.Forall₂ (fun x y => f x = .ok y) xs ys := by
  constructor
  · intro h
    induction xs generalizing ys with
    | nil =>
      obtain rfl : [] = ys := Except.ok.inj h
      exact .nil
    | cons x xs ih =>
      rw [List.mapM_cons] at h
      obtain ⟨b, hb, h⟩ := exists_of_bind_eq_ok h
      obtain ⟨bs, hbs, h⟩ := exists_of_bind_eq_ok h
      obtain rfl : b :: bs = ys := Except.ok.inj h
      exact .cons hb (ih hbs)
  · intro h
    induction h with
    | nil => rfl
    | cons hfirst _ ih =>
      rw [List.mapM_cons, hfirst, ih]
      rfl

/-- A list of steps fails as the first of them that fails. -/
theorem mapM_eq_error_iff {f : α → Except ε β} {xs : List α} {e : ε} :
    xs.mapM f = .error e ↔ ∃ front x behind, xs = front ++ x :: behind ∧
      (∀ earlier ∈ front, ∃ y, f earlier = .ok y) ∧ f x = .error e := by
  induction xs with
  | nil =>
    constructor
    · intro h
      cases h
    · rintro ⟨front, x, behind, hsplit, -⟩
      have hne := List.append_ne_nil_of_right_ne_nil front (List.cons_ne_nil x behind)
      exact absurd hsplit hne.symm
  | cons first rest ih =>
    rw [List.mapM_cons]
    cases hfirst : f first with
    | error fault =>
      constructor
      · intro h
        exact ⟨[], first, rest, rfl, fun _ hmem => absurd hmem List.not_mem_nil,
          hfirst.trans (congrArg Except.error (Except.error.inj h))⟩
      -- nothing can be in front of a first step that fails
      · rintro ⟨front, x, behind, hsplit, hfront, hx⟩
        cases front with
        | nil =>
          obtain ⟨rfl, -⟩ := List.cons.inj hsplit
          exact congrArg Except.error (Except.error.inj (hfirst.symm.trans hx))
        | cons y front =>
          obtain ⟨rfl, -⟩ := List.cons.inj hsplit
          obtain ⟨_, hy⟩ := hfront _ (List.mem_cons_self ..)
          cases hfirst.symm.trans hy
    | ok b =>
      have hrest : (do let bs ← rest.mapM f; pure (b :: bs)) = .error e ↔
          rest.mapM f = .error e := by
        cases rest.mapM f with
        | error fault => exact Iff.rfl
        | ok bs => exact ⟨nofun, nofun⟩
      refine hrest.trans (ih.trans ⟨?_, ?_⟩)
      · rintro ⟨front, x, behind, rfl, hfront, hx⟩
        exact ⟨first :: front, x, behind, rfl, List.forall_mem_cons.mpr ⟨⟨b, hfirst⟩, hfront⟩, hx⟩
      · rintro ⟨front, x, behind, hsplit, hfront, hx⟩
        cases front with
        | nil =>
          obtain ⟨rfl, -⟩ := List.cons.inj hsplit
          cases hfirst.symm.trans hx
        | cons y front =>
          obtain ⟨rfl, rfl⟩ := List.cons.inj hsplit
          exact ⟨front, x, behind, rfl, (List.forall_mem_cons.mp hfront).2, hx⟩

/-- A list of steps that may miss a value has all values if none is missing. -/
theorem mapM_eq_some_iff {f : α → Option β} {xs : List α} {ys : List β} :
    xs.mapM f = some ys ↔ List.Forall₂ (fun x y => f x = some y) xs ys := by
  constructor
  · intro h
    induction xs generalizing ys with
    | nil =>
      obtain rfl : [] = ys := Option.some.inj h
      exact .nil
    | cons x xs ih =>
      rw [List.mapM_cons] at h
      obtain ⟨b, hb, h⟩ := Option.bind_eq_some_iff.mp h
      obtain ⟨bs, hbs, h⟩ := Option.bind_eq_some_iff.mp h
      obtain rfl : b :: bs = ys := Option.some.inj h
      exact .cons hb (ih hbs)
  · intro h
    induction h with
    | nil => rfl
    | cons hfirst _ ih =>
      rw [List.mapM_cons, hfirst, ih]
      rfl

/-- What each element of a list is related to makes a list that is related to it. -/
theorem exists_forall₂_of_forall {R : α → β → Prop} {xs : List α} (h : ∀ x ∈ xs, ∃ y, R x y) :
    ∃ ys, List.Forall₂ R xs ys := by
  induction xs with
  | nil => exact ⟨[], .nil⟩
  | cons x xs ih =>
    obtain ⟨⟨y, hy⟩, hrest⟩ := List.forall_mem_cons.mp h
    obtain ⟨ys, hys⟩ := ih hrest
    exact ⟨y :: ys, .cons hy hys⟩

theorem exists_of_mem_of_forall₂ {R : α → β → Prop} {xs : List α} {ys : List β}
    (h : List.Forall₂ R xs ys) {y : β} (hy : y ∈ ys) : ∃ x ∈ xs, R x y := by
  obtain ⟨i, hi, rfl⟩ := List.getElem_of_mem hy
  have hi' : i < xs.length := h.length_eq ▸ hi
  exact ⟨xs[i], List.getElem_mem hi', h.get hi' hi⟩

theorem eq_ok_of_toOption_eq {x : Except ε α} {a : α} (h : x.toOption = some a) : x = .ok a := by
  cases x with
  | error e => cases h
  | ok b => exact congrArg Except.ok (Option.some.inj h)

end ChainFeed
