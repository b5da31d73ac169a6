import Mathlib.Data.List.Basic

/-!
# Stable sorting

A list is the stable sort of another by a key if its keys do not decrease and the elements of each
key are those of the other list in the order in which they stand there. There is only one such list,
so whatever sorts stably gives the same as sorting by merging.

## Main definitions

- `StableSort`: a list is the stable sort of another

## Main results

- `StableSort.eq_mergeSort`: there is one stable sort
- `StableSort.filter`: elements may as well be left out before sorting as after it
-/

namespace ChainFeed

variable {α : Type} {key : α → Nat} {xs ys zs : List α} {k : Nat}

/-- Keys do not decrease, and the elements of each key stand as they stood. -/
structure StableSort (key : α → Nat) (xs ys : List α) : Prop where
  sorted : ys.Pairwise fun a b => key a ≤ key b
  stable : ∀ k, ys.filter (key · = k) = xs.filter (key · = k)

theorem mem_iff_of_filter_key_eq (h : ∀ k, ys.filter (key · = k) = zs.filter (key · = k)) (a : α) :
    a ∈ ys ↔ a ∈ zs := by
  have hkey := congrArg (a ∈ ·) (h (key a))
  simpa using hkey

/-- Sorted lists that agree on each key agree. -/
theorem eq_of_filter_key_eq (hys : ys.Pairwise fun a b => key a ≤ key b)
    (hzs : zs.Pairwise fun a b => key a ≤ key b)
    (h : ∀ k, ys.filter (key · = k) = zs.filter (key · = k)) : ys = zs := by
  have hmem := mem_iff_of_filter_key_eq h
  induction ys generalizing zs with
  | nil => exact (List.eq_nil_iff_forall_not_mem.mpr fun a ha => nomatch (hmem a).mpr ha).symm
  | cons y ys ih =>
    cases zs with
    | nil => exact absurd ((hmem y).mp List.mem_cons_self) List.not_mem_nil
    | cons z zs =>
      obtain ⟨hy, hys⟩ := List.pairwise_cons.mp hys
      obtain ⟨hz, hzs'⟩ := List.pairwise_cons.mp hzs
      -- each of the two heads has the least key of all
      have hle : key y ≤ key z := by
        rcases List.mem_cons.mp ((hmem z).mpr List.mem_cons_self) with heq | hmem
        · exact Nat.le_of_eq (congrArg key heq.symm)
        · exact hy z hmem
      have hge : key z ≤ key y := by
        rcases List.mem_cons.mp ((hmem y).mp List.mem_cons_self) with heq | hmem
        · exact Nat.le_of_eq (congrArg key heq.symm)
        · exact hz y hmem
      have hkey : key z = key y := Nat.le_antisymm hge hle
      have hhead := h (key y)
      rw [List.filter_cons_of_pos (by simp), List.filter_cons_of_pos (by simpa using hkey)] at hhead
      obtain ⟨rfl, htail⟩ := List.cons.inj hhead
      have hrest (k : Nat) : ys.filter (key · = k) = zs.filter (key · = k) := by
        by_cases hk : key y = k
        · rw [← hk]
          exact htail
        · have hall := h k
          rwa [List.filter_cons_of_neg (by simpa using hk),
            List.filter_cons_of_neg (by simpa using hk)] at hall
      rw [ih hys hzs' hrest (mem_iff_of_filter_key_eq hrest)]

theorem stableSort_mergeSort (key : α → Nat) (xs : List α) :
    StableSort key xs (xs.mergeSort fun a b => key a ≤ key b) := by
  have htrans (a b c : α) (hab : decide (key a ≤ key b) = true)
      (hbc : decide (key b ≤ key c) = true) : decide (key a ≤ key c) = true :=
    decide_eq_true (Nat.le_trans (of_decide_eq_true hab) (of_decide_eq_true hbc))
  have htotal (a b : α) : (decide (key a ≤ key b) || decide (key b ≤ key a)) = true := by
    rcases Nat.le_total (key a) (key b) with h | h <;> simp [h]
  refine ⟨(List.pairwise_mergeSort htrans htotal xs).imp of_decide_eq_true, fun k => ?_⟩
  -- the elements of one key are sorted already, so they keep their order
  have hsame : (xs.filter (key · = k)).Pairwise fun a b => decide (key a ≤ key b) = true := by
    refine List.pairwise_of_forall_mem_list fun a ha b hb => decide_eq_true ?_
    have hka : key a = k := of_decide_eq_true (List.mem_filter.mp ha).2
    have hkb : key b = k := of_decide_eq_true (List.mem_filter.mp hb).2
    exact Nat.le_of_eq (hka.trans hkb.symm)
  have hsub := (List.sublist_mergeSort htrans htotal hsame List.filter_sublist).filter (key · = k)
  have hperm := (List.mergeSort_perm xs fun a b => decide (key a ≤ key b)).filter (key · = k)
  simp only [List.filter_filter, Bool.and_self] at hsub
  exact (hsub.eq_of_length hperm.length_eq.symm).symm

namespace StableSort

/-- The stable sort is the one by merging. -/
theorem eq_mergeSort (h : StableSort key xs ys) : ys = xs.mergeSort fun a b => key a ≤ key b := by
  have hmerge := stableSort_mergeSort key xs
  exact eq_of_filter_key_eq h.sorted hmerge.sorted fun k =>
    (h.stable k).trans (hmerge.stable k).symm

/-- Elements may as well be left out before sorting as after it. -/
theorem filter (h : StableSort key xs ys) (p : α → Bool) :
    StableSort key (xs.filter p) (ys.filter p) where
  sorted := h.sorted.filter p
  stable k := by
    rw [List.filter_comm, h.stable, List.filter_comm]

/-- Elements that have the same key stand as they stood. -/
theorem filter_eq (h : StableSort key xs ys) {p : α → Bool} (hp : ∀ a, p a = true → key a = k) :
    ys.filter p = xs.filter p := by
  have hkey (zs : List α) : (zs.filter (key · = k)).filter p = zs.filter p := by
    rw [List.filter_filter]
    refine List.filter_congr fun a _ => ?_
    cases hpa : p a with
    | false => rfl
    | true => simp [hp a hpa]
  rw [← hkey ys, h.stable, hkey]

end StableSort

end ChainFeed
