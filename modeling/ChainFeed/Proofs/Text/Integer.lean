import ChainFeed.Text.Integer
import Mathlib.Data.Nat.Digits.Defs

/-!
# Numerals and back

Reading undoes writing: the numeral of an integer is read as that integer, if it lies in the range
of the type that is read. Zeros in front of a numeral do not count.

## Main results

- `digits?_eq`: digits are read as the number that they denote
- `digits?_toDigits`: the digits of a number are read as that number
- `unsigned?_toString`, `signed?_toString`: so are whole numerals
- `uint64?_toString`, `uint32?_toString`, `int64?_toString`: and words
-/

namespace ChainFeed.Integer

/-! ### Digits -/

theorem digit?_of_isDigit {c : Char} (h : c.isDigit = true) : digit? c = some (c.toNat - 48) := by
  rw [Char.isDigit, Bool.and_eq_true, decide_eq_true_eq, decide_eq_true_eq] at h
  exact if_pos (Bool.and_eq_true_iff.mpr ⟨decide_eq_true h.1, decide_eq_true h.2⟩)

theorem digit?_eq_none {c : Char} (h : c.isDigit = false) : digit? c = none := by
  rw [Char.isDigit, Bool.and_eq_false_iff, decide_eq_false_iff_not, decide_eq_false_iff_not] at h
  refine if_neg fun hdigit => ?_
  obtain ⟨hlow, hhigh⟩ := Bool.and_eq_true_iff.mp hdigit
  exact h.elim (· (of_decide_eq_true hlow)) (· (of_decide_eq_true hhigh))

theorem digitsFrom?_eq {cs : List Char} (h : ∀ c ∈ cs, c.isDigit = true) (acc : Nat) :
    digitsFrom? acc cs = some (Nat.ofDigitChars 10 cs acc) := by
  induction cs generalizing acc with
  | nil => rfl
  | cons c cs ih =>
    rw [List.forall_mem_cons] at h
    rw [digitsFrom?, digit?_of_isDigit h.1]
    dsimp only
    rw [ih h.2, Nat.ofDigitChars_cons, Nat.mul_comm]
    rfl

/-- Digits are read as the number that they denote. -/
theorem digits?_eq {cs : List Char} (h : ∀ c ∈ cs, c.isDigit = true) (hne : cs ≠ []) :
    digits? cs = some (Nat.ofDigitChars 10 cs 0) := by
  cases cs with
  | nil => exact absurd rfl hne
  | cons c cs => exact digitsFrom?_eq h 0

theorem isDigit_of_mem_toDigits {n : Nat} {c : Char} (h : c ∈ Nat.toDigits 10 n) :
    c.isDigit = true :=
  Nat.isDigit_of_mem_toDigits (by decide) (by decide) h

/-- The digits of a number are read as that number. -/
theorem digits?_toDigits (n : Nat) : digits? (Nat.toDigits 10 n) = some n := by
  rw [digits?_eq (fun _ => isDigit_of_mem_toDigits) Nat.toDigits_ne_nil,
    Nat.ofDigitChars_ten_toDigits]

/-! ### Numerals -/

theorem toList_toString (n : Int) :
    (toString n).toList = (if 0 ≤ n then [] else ['-']) ++ Nat.toDigits 10 n.natAbs := by
  rw [Int.toString_eq_repr, Int.repr_eq_if]
  split
  · rw [Nat.toList_repr, show n.toNat = n.natAbs by omega, List.nil_append]
  · rw [String.toList_append, Nat.toList_repr, show (-n).toNat = n.natAbs by omega]
    rfl

/-- The digits of a number start with no sign. -/
theorem toDigits_eq_cons (n : Nat) : ∃ c cs, Nat.toDigits 10 n = c :: cs ∧ c ≠ '+' ∧ c ≠ '-' := by
  obtain ⟨c, cs, hcs⟩ := List.exists_cons_of_ne_nil (Nat.toDigits_ne_nil (n := n) (b := 10))
  have hdigit : c.isDigit = true := isDigit_of_mem_toDigits (hcs ▸ List.mem_cons_self)
  refine ⟨c, cs, hcs, ?_, ?_⟩ <;> rintro rfl <;> exact absurd hdigit (by decide)

theorem unsigned?_toString {limit n : Nat} (h : n ≤ limit) :
    unsigned? limit (toString n) = some n := by
  obtain ⟨c, cs, hcs, hplus, -⟩ := toDigits_eq_cons n
  have hlist : (toString n).toList = c :: cs := Nat.toList_repr.trans hcs
  have hread : digits? (c :: cs) = some n := hcs ▸ digits?_toDigits n
  rw [unsigned?, hlist]
  split
  · rename_i heq
    exact absurd (List.cons.inj heq).1 hplus
  · simp [hread, h]

theorem signed?_toString {low high n : Int} (hlow : low ≤ n) (hhigh : n ≤ high) :
    signed? low high (toString n) = some n := by
  obtain ⟨c, cs, hcs, hplus, hminus⟩ := toDigits_eq_cons n.natAbs
  have hread : digits? (c :: cs) = some n.natAbs := hcs ▸ digits?_toDigits n.natAbs
  have hlist := toList_toString n
  rw [hcs] at hlist
  rw [signed?, hlist]
  by_cases hnonneg : 0 ≤ n
  · rw [if_pos hnonneg, List.nil_append]
    -- without a sign in front, the digits are all there is
    split
    · rename_i heq
      exact absurd (List.cons.inj heq).1 hplus
    · rename_i heq
      exact absurd (List.cons.inj heq).1 hminus
    · have habs : Int.ofNat n.natAbs = n := Int.natAbs_of_nonneg hnonneg
      rw [hread, Option.map_some, habs]
      simp [hlow, hhigh]
  · rw [if_neg hnonneg, List.singleton_append]
    have habs : -(n.natAbs : Int) = n := by omega
    simp only [hread]
    show Option.filter _ (some (-(n.natAbs : Int))) = some n
    rw [habs]
    simp [hlow, hhigh]

theorem toString_natCast (n : Nat) : toString (n : Int) = toString n := rfl

theorem uint64?_toString (n : UInt64) : uint64? (toString (n.toNat : Int)) = some n := by
  rw [uint64?, toString_natCast, unsigned?_toString (Nat.le_of_lt_succ n.toNat_lt)]
  exact congrArg some UInt64.ofNat_toNat

theorem uint32?_toString (n : UInt32) : uint32? (toString (n.toNat : Int)) = some n := by
  rw [uint32?, toString_natCast, unsigned?_toString (Nat.le_of_lt_succ n.toNat_lt)]
  exact congrArg some UInt32.ofNat_toNat

theorem int64?_toString (n : Int64) : int64? (toString n.toInt) = some n := by
  have hlow : -9223372036854775808 ≤ n.toInt := n.le_toInt
  have hhigh : n.toInt ≤ 9223372036854775807 := Int.le_of_lt_add_one n.toInt_lt
  rw [int64?, signed?_toString hlow hhigh]
  exact congrArg some (Int64.ofInt_toInt n)

end ChainFeed.Integer
