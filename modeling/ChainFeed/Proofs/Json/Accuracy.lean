import ChainFeed.Proofs.Decimal.Rounding
import ChainFeed.Proofs.Json.Numeral
import Mathlib.Tactic.SplitIfs

/-!
# How accurately number literals are read

A literal denotes a rational number. It is read as that number if it is a word of sixty-four bits
written without fraction and exponent. In all other cases it is read as a floating-point number that
is four roundings away at most: digits that do not fit the significand are cut off, the significand
and the power of ten are each rounded, and so is their product. Only below the numbers of interest
can all accuracy be lost.

Two literals that are read as equal numbers therefore denote numbers that are close to each other,
but not always the same.

## Main definitions

- `Number.Literal.value`: the rational number that a literal denotes
- `Number.tiny`: below this nothing is said

## Main results

- `Number.Literal.float?_accurate`: floating-point readings are four roundings away
- `Number.Literal.near_of_sameValue`: equal readings are those of close numbers
-/

namespace ChainFeed.Number

open Binary64 (Near shrink shrink_pos shrink_le_one leastNormal)

variable {digits : List Nat} {significand k fuel : Nat} {exponent : Int} {x y : Binary64}

/-! ### What literals denote -/

/-- Digits behind those of a number. -/
def appendDigits (start : Nat) (digits : List Nat) : Nat :=
  digits.foldl (fun n d => n * 10 + d) start

/-- The power of ten that the exponent of a literal stands for. -/
def Literal.power (literal : Literal) : Int :=
  match literal.exponent with
  | some (true, digits) => -(ofDigits digits : Int)
  | some (false, digits) => ofDigits digits
  | none => 0

/-- The absolute value of the number that a literal denotes. -/
def Literal.size (literal : Literal) : ℚ :=
  let digits := literal.fraction.getD []
  ofDigits (literal.whole ++ digits) * 10 ^ (literal.power - digits.length)

/-- The number that a literal denotes. -/
def Literal.value (literal : Literal) : ℚ :=
  if literal.negative then -literal.size else literal.size

/-- The digits of a literal are digits. -/
structure Literal.Wellformed (literal : Literal) : Prop where
  whole : Canonical literal.whole
  fraction : ∀ d ∈ literal.fraction.getD [], d < 10

namespace Literal

variable {literal : Literal} {a b : Int}

theorem size_nonneg (literal : Literal) : 0 ≤ literal.size := by
  unfold size
  positivity

theorem abs_value (literal : Literal) : |literal.value| = literal.size := by
  unfold value
  split
  · rw [abs_neg, abs_of_nonneg literal.size_nonneg]
  · exact abs_of_nonneg literal.size_nonneg

/-- Without fraction and exponent a literal denotes what its digits do. -/
theorem size_of_whole (hfraction : literal.fraction = none) (hexponent : literal.exponent = none) :
    literal.size = ofDigits literal.whole := by
  rw [size, power, hfraction, hexponent]
  simp

theorem lt_ten_of_scanFraction {bytes rest : List UInt8} {fraction : Option (List Nat)}
    (h : scanFraction bytes = some (fraction, rest)) : ∀ d ∈ fraction.getD [], d < 10 := by
  unfold scanFraction at h
  split at h
  · rename_i bytes
    have hdigits : ∀ d ∈ (scanDigits bytes).1, d < 10 := fun d => lt_ten_of_mem_scanDigits
    split at h
    · cases h
    · rename_i digits rest' _ heq
      rw [heq] at hdigits
      cases h
      exact hdigits
  · cases h
    exact fun d hd => absurd hd List.not_mem_nil

/-- What is scanned has digits in the places of digits. -/
theorem wellformed_of_scan {bytes rest : List UInt8} (h : scan bytes = some (literal, rest)) :
    literal.Wellformed := by
  have hparts : ∃ negative bytes, scanParts negative bytes = some (literal, rest) := by
    by_cases hminus : ∃ rest, bytes = 0x2D :: rest
    · obtain ⟨rest, rfl⟩ := hminus
      exact ⟨_, _, h⟩
    · rw [scan_of_ne fun rest heq => hminus ⟨rest, heq⟩] at h
      exact ⟨_, _, h⟩
  obtain ⟨negative, bytes, hparts⟩ := hparts
  obtain ⟨⟨whole, bytes'⟩, hwhole, hparts⟩ := Option.bind_eq_some_iff.mp hparts
  obtain ⟨⟨fraction, bytes''⟩, hfraction, hparts⟩ := Option.bind_eq_some_iff.mp hparts
  obtain ⟨⟨exponent, bytes'''⟩, hexponent, hparts⟩ := Option.bind_eq_some_iff.mp hparts
  cases hparts
  exact ⟨canonical_of_scanWhole hwhole, lt_ten_of_scanFraction hfraction⟩

theorem wellformed_ofInt (a : Int) : (ofInt a).Wellformed :=
  ⟨(canonical_digitsOf _).1, fun _ hd => absurd hd List.not_mem_nil⟩

/-- Without fraction and exponent a literal denotes an integer. -/
theorem value_of_whole (hfraction : literal.fraction = none) (hexponent : literal.exponent = none) :
    literal.value = ((if literal.negative then -(ofDigits literal.whole : Int)
      else ofDigits literal.whole : Int) : ℚ) := by
  rw [value, size_of_whole hfraction hexponent]
  split <;> simp

theorem value_ofInt (a : Int) : (ofInt a).value = a := by
  rw [value_of_whole rfl rfl, ofInt, ofDigits_digitsOf]
  congr 1
  dsimp only
  split
  · rename_i hneg
    have := of_decide_eq_true hneg
    omega
  · rename_i hneg
    have : ¬ a < 0 := by simpa using hneg
    omega

/-- A literal that is read as an integer denotes that integer. -/
theorem value_of_value?_integer (h : literal.value? = some (.integer b)) : literal.value = b := by
  have hfloat : literal.float?.map Number.float ≠ some (.integer b) := by
    cases literal.float? <;> simp
  unfold value? at h
  split at h
  · rename_i hfraction hexponent
    rw [value_of_whole hfraction hexponent]
    dsimp only at h
    split_ifs at h ⊢ with hnegative
    · exact absurd h hfloat
    · cases h
      rfl
    · cases h
      rfl
    · exact absurd h hfloat
  · exact absurd h hfloat

/-- A literal without fraction and exponent is the one of the integer that it denotes, or minus
zero. -/
theorem eq_ofInt_or (h : literal.Wellformed) (hfraction : literal.fraction = none)
    (hexponent : literal.exponent = none) (hvalue : literal.value = a) :
    literal = ofInt a ∨ (a = 0 ∧ literal = ⟨true, [0], none, none⟩) := by
  obtain ⟨negative, whole, fraction, exponent⟩ := literal
  obtain rfl : fraction = none := hfraction
  obtain rfl : exponent = none := hexponent
  rw [value_of_whole rfl rfl, Int.cast_inj] at hvalue
  have hdigits : whole = digitsOf (ofDigits whole) := (digitsOf_ofDigits h.whole).symm
  dsimp only at hvalue
  generalize ofDigits whole = k at *
  subst hdigits
  cases negative with
  | false =>
    obtain rfl : (k : Int) = a := hvalue
    left
    simp [ofInt]
  | true =>
    obtain rfl : -(k : Int) = a := hvalue
    rcases Nat.eq_zero_or_pos k with rfl | hpos
    · exact .inr ⟨rfl, rfl⟩
    · left
      simp [ofInt, hpos]

end Literal

/-! ### Gathering digits -/

theorem appendDigits_append (start : Nat) (first second : List Nat) :
    appendDigits start (first ++ second) = appendDigits (appendDigits start first) second :=
  List.foldl_append

/-- Digits fill the gap to the next number. -/
theorem appendDigits_between (h : ∀ d ∈ digits, d < 10) (start : Nat) :
    start * 10 ^ digits.length ≤ appendDigits start digits ∧
      appendDigits start digits < (start + 1) * 10 ^ digits.length := by
  induction digits generalizing start with
  | nil => simp [appendDigits]
  | cons d digits ih =>
    have hd : d < 10 := h d List.mem_cons_self
    obtain ⟨hlow, hhigh⟩ := ih (fun e he => h e (List.mem_cons_of_mem _ he)) (start * 10 + d)
    rw [appendDigits, List.foldl_cons, ← appendDigits, List.length_cons, Nat.pow_succ]
    generalize 10 ^ digits.length = power at *
    constructor
    · nlinarith
    · nlinarith

/-- The same with a power of ten on all sides. -/
theorem appendDigits_scaled (h : ∀ d ∈ digits, d < 10) (start : Nat) (exponent : Int) :
    (start * 10 ^ exponent : ℚ) ≤ appendDigits start digits * 10 ^ (exponent - digits.length) ∧
      (appendDigits start digits * 10 ^ (exponent - digits.length) : ℚ) ≤
        start * 10 ^ exponent + 10 ^ exponent := by
  obtain ⟨hlow, hhigh⟩ := appendDigits_between h start
  have hsplit : (10 : ℚ) ^ exponent = 10 ^ digits.length * 10 ^ (exponent - digits.length) := by
    rw [← zpow_natCast, ← zpow_add₀ (by norm_num)]
    congr 1
    omega
  have hpos : (0 : ℚ) < 10 ^ (exponent - digits.length) := by positivity
  have hlow' : (start * 10 ^ digits.length : ℚ) ≤ appendDigits start digits := by
    exact_mod_cast hlow
  have hhigh' : (appendDigits start digits : ℚ) ≤ (start + 1) * 10 ^ digits.length := by
    exact_mod_cast hhigh.le
  rw [hsplit]
  generalize (10 : ℚ) ^ (exponent - digits.length) = unit at *
  constructor
  · calc (start * (10 ^ digits.length * unit) : ℚ) = start * 10 ^ digits.length * unit := by ring
      _ ≤ appendDigits start digits * unit := mul_le_mul_of_nonneg_right hlow' hpos.le
  · calc (appendDigits start digits * unit : ℚ) ≤ (start + 1) * 10 ^ digits.length * unit :=
        mul_le_mul_of_nonneg_right hhigh' hpos.le
      _ = start * (10 ^ digits.length * unit) + 10 ^ digits.length * unit := by ring

/-- Digits are gathered up to some place. If any are left over, the significand is large. -/
theorem gather_spec (h : ∀ d ∈ digits, d < 10) {start : Nat}
    (hstart : start < 18446744073709551616) :
    ∃ front back, digits = front ++ back ∧
      gather start digits = (appendDigits start front, back.length) ∧
      appendDigits start front < 18446744073709551616 ∧
      (back = [] ∨ 2 ^ 60 ≤ appendDigits start front) := by
  induction digits generalizing start with
  | nil => exact ⟨[], [], rfl, rfl, hstart, .inl rfl⟩
  | cons d digits ih =>
    have hd : d < 10 := h d List.mem_cons_self
    rw [gather]
    split
    · rename_i hfits
      obtain ⟨front, back, hdigits, hgather, hlt, hfull⟩ :=
        ih (fun e he => h e (List.mem_cons_of_mem _ he)) hfits
      exact ⟨d :: front, back, by rw [hdigits, List.cons_append], hgather, hlt, hfull⟩
    · refine ⟨[], d :: digits, rfl, rfl, hstart, .inr ?_⟩
      show 2 ^ 60 ≤ start
      omega

/-- Behind a large number it makes no difference which digits follow. -/
theorem near_of_digits {start : Nat} (hstart : 2 ^ 60 ≤ start) {first second : List Nat}
    (hfirst : ∀ d ∈ first, d < 10) (hsecond : ∀ d ∈ second, d < 10) (exponent : Int) :
    Near 1 (appendDigits start first * 10 ^ (exponent - first.length))
      (appendDigits start second * 10 ^ (exponent - second.length)) := by
  obtain ⟨hlow, hhigh⟩ := appendDigits_scaled hfirst start exponent
  obtain ⟨hlow', hhigh'⟩ := appendDigits_scaled hsecond start exponent
  have hcast : (2 ^ 60 : ℚ) ≤ start := by exact_mod_cast hstart
  refine Binary64.near_of_window ?_ hlow hhigh hlow' hhigh'
  rw [mul_comm]
  exact mul_le_mul_of_nonneg_right hcast (by positivity)

/-- A floating-point reading starts from a significand and an exponent that are as good as the
literal but for digits that were cut off. -/
theorem Literal.exists_gathered {literal : Literal} (h : literal.Wellformed) :
    ∃ significand exponent, significand < 18446744073709551616 ∧
      literal.float? = (scaleByTen 4 (.ofNat significand) exponent).map
        (fun x => if literal.negative then x.neg else x) ∧
      Near 1 (significand * 10 ^ exponent) literal.size := by
  obtain ⟨front, back, hwhole, hgather, hlt, hfull⟩ :=
    gather_spec h.whole.lt_ten (show 0 < 18446744073709551616 by decide)
  obtain ⟨front', back', hfraction, hgather', hlt', hfull'⟩ :=
    gather_spec h.fraction hlt
  have hback : ∀ d ∈ back, d < 10 := fun d hd =>
    h.whole.lt_ten d (hwhole ▸ List.mem_append_right _ hd)
  have hfront' : ∀ d ∈ front', d < 10 := fun d hd =>
    h.fraction d (hfraction ▸ List.mem_append_left _ hd)
  have hback' : ∀ d ∈ back', d < 10 := fun d hd =>
    h.fraction d (hfraction ▸ List.mem_append_right _ hd)
  refine ⟨appendDigits (appendDigits 0 front) front',
    back.length - front'.length + literal.power, hlt', ?_, ?_⟩
  · unfold float? power
    rw [hgather]
    dsimp only
    rw [hgather', hfraction, List.length_append]
    dsimp only
    rw [Nat.add_sub_cancel]
    cases literal.negative
    · rw [if_neg Bool.false_ne_true]
      exact (congrFun Option.map_id _).symm
    · rfl
  · have hsize : literal.size = appendDigits (appendDigits 0 front) (back ++ front' ++ back') *
        10 ^ (back.length + literal.power - (back ++ front' ++ back').length) := by
      rw [size, hfraction, hwhole, ofDigits, ← appendDigits, List.append_assoc,
        appendDigits_append 0 front, ← List.append_assoc]
      congr 2
      simp only [List.length_append]
      omega
    rw [hsize]
    generalize appendDigits 0 front = start at *
    rcases hfull with rfl | hfull
    -- the digits before the point fit, and perhaps those behind it
    · rw [List.nil_append, appendDigits_append, List.length_append]
      generalize appendDigits start front' = significand at *
      rcases hfull' with rfl | hfull'
      · have hexponent : (([] : List Nat).length : Int) - front'.length + literal.power =
            ([] : List Nat).length + literal.power -
              (front'.length + ([] : List Nat).length : Nat) := by
          simp only [List.length_nil]
          omega
        rw [hexponent]
        exact (Near.refl _).mono (Nat.zero_le 1) (by positivity) (by positivity)
      · have hnone : ∀ d ∈ ([] : List Nat), d < 10 := fun d hd => absurd hd List.not_mem_nil
        have hnear := near_of_digits hfull' hnone hback' (literal.power - front'.length)
        have hfirst : (([] : List Nat).length : Int) - front'.length + literal.power =
            literal.power - front'.length - ([] : List Nat).length := by
          simp only [List.length_nil]
          omega
        have hsecond : (([] : List Nat).length : Int) + literal.power -
            (front'.length + back'.length : Nat) =
            literal.power - front'.length - back'.length := by
          simp only [List.length_nil]
          omega
        rw [hfirst, hsecond]
        exact hnear
    -- a digit behind the point may be gathered though one before it did not fit
    · have hall : ∀ d ∈ back ++ front' ++ back', d < 10 := by
        intro d hd
        rcases List.mem_append.mp hd with hd | hd
        · exact (List.mem_append.mp hd).elim (hback d) (hfront' d)
        · exact hback' d hd
      have hnear := near_of_digits hfull hfront' hall (back.length + literal.power)
      convert hnear using 3
      omega

/-! ### Scaling -/

/-- Far below every number of interest. -/
def tiny : ℚ :=
  1 / 10 ^ 200

theorem tiny_pos : 0 < tiny := by
  unfold tiny
  positivity

theorem leastNormal_le_tiny : leastNormal ≤ tiny / 4 := by
  have h : 4503599627370496 * (10 ^ 200 * 4) ≤ 2 ^ 1074 := by decide +kernel
  rw [leastNormal, tiny, div_div, div_le_div_iff₀ (by positivity) (by positivity), one_mul]
  exact_mod_cast h

theorem near_ofNat (h : significand < 18446744073709551616) :
    Near 1 (Binary64.ofNat significand).size significand :=
  Binary64.near_ofRatio_one (Binary64.isFinite_ofRatio Nat.one_pos
    (h.trans_le (by decide +kernel)))

theorem pow_ten_lt (hk : k < 308) : 10 ^ k < 1 * 2 ^ 1023 := by
  rw [Nat.one_mul]
  calc 10 ^ k ≤ 10 ^ 307 := Nat.pow_le_pow_right (by decide) (Nat.le_of_lt_succ hk)
    _ < 2 ^ 1023 := by decide +kernel

theorem isFinite_powerOfTen (hk : k ≤ 308) : (powerOfTen k).isFinite = true := by
  rcases Nat.lt_or_eq_of_le hk with hlt | rfl
  · exact Binary64.isFinite_ofRatio Nat.one_pos (pow_ten_lt hlt)
  -- the greatest one has the greatest exponent, and the bound is too rough for it
  · decide +kernel

theorem near_powerOfTen (hk : k ≤ 308) : Near 1 (powerOfTen k).size (10 ^ k) := by
  have hnear := Binary64.near_ofRatio_one (isFinite_powerOfTen hk)
  rw [Nat.pow_eq, Nat.cast_pow, Nat.cast_ofNat] at hnear
  exact hnear

theorem half_le_shrink_pow (hk : k ≤ 8) : 1 / 2 ≤ shrink ^ k := by
  refine le_trans ?_ (pow_le_pow_of_le_one shrink_pos.le shrink_le_one hk)
  norm_num [shrink]

/-- What is near to a small number is at most twice as large. -/
theorem le_of_near {a b bound : ℚ} (h : Near k a b) (hk : k ≤ 8) (hbound : 0 ≤ bound)
    (ha : a ≤ bound) : b ≤ 2 * bound := by
  have hhalf := half_le_shrink_pow hk
  have hle := h.1
  by_contra hlt
  nlinarith

/-- A rounded number is near to what the ratio is near to, or tiny. -/
theorem near_of_rounds {a b : ℚ} (h : x.Rounds a) (hab : Near 2 a b) :
    Near 3 x.size b ∨ (x.size ≤ tiny ∧ b ≤ tiny) := by
  have hleast := leastNormal_le_tiny
  have hpos := tiny_pos
  rcases h with hnear | ⟨hsize, ha⟩
  · exact .inl (hnear.trans hab)
  · have hb := le_of_near hab (by decide) hpos.le (ha.trans (hleast.trans (by linarith)))
    have hb' := le_of_near hab (by decide) (by linarith : 0 ≤ tiny / 4) (ha.trans hleast)
    exact .inr ⟨by linarith, by linarith⟩

theorem half_le_size_powerOfTen (hk : k ≤ 308) : 10 ^ k / 2 ≤ (powerOfTen k).size := by
  have hle := le_of_near (near_powerOfTen hk) (by decide) (Binary64.size_nonneg _) le_rfl
  linarith

/-- Division by a power of ten makes a number that is not too large tiny. -/
theorem size_div_le (hk : k ≤ 308) (h : x.size ≤ tiny * 10 ^ k / 8) :
    (x.div (powerOfTen k)).size ≤ tiny := by
  have hpow : (0 : ℚ) < 10 ^ k := by positivity
  have hpos := tiny_pos
  have hhalf := half_le_size_powerOfTen hk
  have hsize : 0 < (powerOfTen k).size := by linarith
  have hratio : x.size / (powerOfTen k).size ≤ tiny / 4 := by
    rw [div_le_iff₀ hsize]
    nlinarith
  have hlt : x.size < (powerOfTen k).size * 2 ^ 1023 := by
    have hsmall : tiny ≤ 1 := by
      rw [tiny, div_le_one (by positivity)]
      exact one_le_pow₀ (by norm_num)
    calc x.size ≤ tiny * 10 ^ k / 8 := h
      _ ≤ 10 ^ k / 8 := by have := mul_le_of_le_one_left hpow.le hsmall; linarith
      _ < (powerOfTen k).size := by linarith
      _ ≤ (powerOfTen k).size * 2 ^ 1023 :=
        le_mul_of_one_le_right hsize.le (one_le_pow₀ (by norm_num))
  rcases Binary64.rounds_div hsize hlt with hnear | ⟨hleast, -⟩
  · have := le_of_near hnear.symm (by decide) (by linarith) hratio
    linarith
  · have := leastNormal_le_tiny
    linarith

/-- What scaling comes to: one multiplication, one division, zero as it was, or one division and the
rest of the scaling. -/
theorem scaleByTen_cases (h : scaleByTen (fuel + 1) x exponent = some y) :
    (∃ k : Nat, k ≤ 308 ∧ exponent = k ∧ (x.mul (powerOfTen k)).isFinite = true ∧
        y = x.mul (powerOfTen k)) ∨
      (∃ k : Nat, k ≤ 308 ∧ 1 ≤ k ∧ exponent = -(k : Int) ∧ y = x.div (powerOfTen k)) ∨
      (x.isZero = true ∧ y = x) ∨
      (exponent < -308 ∧
        scaleByTen fuel (x.div (powerOfTen 308)) (exponent + 308) = some y) := by
  rw [scaleByTen] at h
  split at h
  · rename_i hone
    split at h
    · rename_i hsign
      dsimp only at h
      split at h
      · rename_i hfinite
        exact .inl ⟨_, hone, by omega, hfinite, (Option.some.inj h).symm⟩
      · cases h
    · rename_i hsign
      exact .inr (.inl ⟨_, hone, by omega, by omega, (Option.some.inj h).symm⟩)
  · rename_i hone
    split at h
    · rename_i hzero
      exact .inr (.inr (.inl ⟨hzero, (Option.some.inj h).symm⟩))
    · split at h
      · cases h
      · exact .inr (.inr (.inr ⟨by omega, h⟩))

theorem isNegative_powerOfTen (k : Nat) : (powerOfTen k).isNegative = false :=
  Binary64.isNegative_ofRatio _ _ _

theorem isNegative_scaleByTen (hx : x.isNegative = false)
    (h : scaleByTen fuel x exponent = some y) : y.isNegative = false := by
  induction fuel generalizing x exponent with
  | zero =>
    obtain rfl := Option.some.inj h
    exact hx
  | succ fuel ih =>
    have hdiv (k : Nat) : (x.div (powerOfTen k)).isNegative = false := by
      rw [Binary64.isNegative_div, hx, isNegative_powerOfTen]
      rfl
    rcases scaleByTen_cases h with ⟨k, -, -, -, rfl⟩ | ⟨k, -, -, -, rfl⟩ | ⟨-, rfl⟩ | ⟨-, hrest⟩
    · rw [Binary64.isNegative_mul, hx, isNegative_powerOfTen]
      rfl
    · exact hdiv k
    · exact hx
    · exact ih (hdiv 308) hrest

/-- A tiny number stays tiny when it is scaled down. -/
theorem size_scaleByTen_le (hexponent : exponent < 0) (hx : x.size ≤ tiny)
    (h : scaleByTen fuel x exponent = some y) : y.size ≤ tiny := by
  induction fuel generalizing x exponent with
  | zero =>
    obtain rfl := Option.some.inj h
    exact hx
  | succ fuel ih =>
    have hdiv : ∀ k ≤ 308, 1 ≤ k → (x.div (powerOfTen k)).size ≤ tiny := by
      intro k hk hk'
      refine size_div_le hk (hx.trans ?_)
      have hten : (10 : ℚ) ≤ 10 ^ k := le_self_pow₀ (by norm_num) (by omega)
      have hpos := tiny_pos
      nlinarith
    rcases scaleByTen_cases h with ⟨k, -, hk, -⟩ | ⟨k, hk, hk', -, rfl⟩ | ⟨-, rfl⟩ | ⟨hlow, hrest⟩
    · omega
    · exact hdiv k hk hk'
    · exact hx
    · exact ih (by omega) (hdiv 308 le_rfl (by decide)) hrest

/-- A significand is scaled in two roundings after its own, unless the result is tiny. -/
theorem near_scaleByTen (hsignificand : significand < 18446744073709551616)
    (h : scaleByTen (fuel + 1) (.ofNat significand) exponent = some y) :
    Near 3 y.size (significand * 10 ^ exponent) ∨
      (y.size ≤ tiny ∧ (significand * 10 ^ exponent : ℚ) ≤ tiny) := by
  have hx := near_ofNat hsignificand
  have hxnonneg := (Binary64.ofNat significand).size_nonneg
  have hnonneg : (0 : ℚ) ≤ significand := Nat.cast_nonneg _
  have hlarge : (significand : ℚ) ≤ 10 ^ 20 := by
    exact_mod_cast hsignificand.le.trans (by decide)
  have hxlarge := le_of_near hx.symm (by decide) (by positivity) hlarge
  generalize Binary64.ofNat significand = x at *
  rcases scaleByTen_cases h with ⟨k, hk, rfl, hfinite, rfl⟩ | ⟨k, hk, -, rfl, rfl⟩ |
    ⟨hzero, rfl⟩ | ⟨hlow, hrest⟩
  · rw [zpow_natCast]
    exact near_of_rounds (Binary64.rounds_mul hfinite)
      (hx.mul (near_powerOfTen hk) hxnonneg hnonneg (Binary64.size_nonneg _) (by positivity))
  · have hp := near_powerOfTen hk
    have hpos : 0 < (powerOfTen k).size := hp.pos (by positivity)
    rw [zpow_neg, zpow_natCast, ← div_eq_mul_inv]
    refine near_of_rounds (Binary64.rounds_div hpos ?_)
      (hx.div hp hxnonneg hnonneg hpos (by positivity))
    have hhalf := half_le_size_powerOfTen hk
    have hone : (1 : ℚ) ≤ 10 ^ k := one_le_pow₀ (by norm_num)
    calc x.size ≤ 2 * 10 ^ 20 := hxlarge
      _ < 1 / 2 * 2 ^ 80 := by norm_num
      _ ≤ (powerOfTen k).size * 2 ^ 1023 := mul_le_mul (by linarith)
        (pow_le_pow_right₀ (by norm_num) (by decide)) (by positivity) hpos.le
  · rw [Binary64.size_of_isZero hzero] at hx ⊢
    have hle := le_of_near hx (by decide) le_rfl le_rfl
    have hsignificand : (significand : ℚ) = 0 := by linarith
    rw [hsignificand, zero_mul]
    exact .inl ((Near.refl 0).mono (Nat.zero_le 3) le_rfl le_rfl)
  · refine .inr ⟨size_scaleByTen_le (by omega) (size_div_le le_rfl ?_) hrest, ?_⟩
    · calc x.size ≤ 2 * 10 ^ 20 := hxlarge
        _ ≤ 10 ^ 108 / 8 := by norm_num
        _ = tiny * 10 ^ 308 / 8 := by
          rw [tiny, show 308 = 200 + 108 from rfl, pow_add, ← mul_assoc,
            one_div_mul_cancel (by positivity), one_mul]
    · have hpower : (10 : ℚ) ^ exponent ≤ 10 ^ (-220 : Int) :=
        zpow_le_zpow_right₀ (by norm_num) (by omega)
      calc (significand * 10 ^ exponent : ℚ) ≤ 10 ^ 20 * 10 ^ (-220 : Int) :=
          mul_le_mul hlarge hpower (by positivity) (by positivity)
        _ = tiny := by
          rw [tiny, ← zpow_natCast, ← zpow_add₀ (by norm_num), one_div, ← zpow_natCast, ← zpow_neg]
          rfl

/-! ### Readings -/

/-- A floating-point number is an accurate reading of a literal. -/
structure Literal.Accurate (literal : Literal) (x : Binary64) : Prop where
  size : Near 4 x.size literal.size ∨ (x.size ≤ tiny ∧ literal.size ≤ 2 * tiny)
  sign : x.isNegative = literal.negative

namespace Literal

variable {literal other : Literal} {m n : Number}

theorem float?_accurate (h : literal.Wellformed) (hfloat : literal.float? = some x) :
    literal.Accurate x := by
  obtain ⟨significand, exponent, hlt, heq, hnear⟩ := exists_gathered h
  rw [heq, Option.map_eq_some_iff] at hfloat
  obtain ⟨y, hscale, rfl⟩ := hfloat
  have hnegative : y.isNegative = false :=
    isNegative_scaleByTen (Binary64.isNegative_ofRatio _ _ _) hscale
  constructor
  · have hsize : (if literal.negative then y.neg else y).size = y.size := by
      split
      · exact y.size_neg
      · rfl
    rw [hsize]
    refine (near_scaleByTen hlt hscale).imp (fun hy => hy.trans hnear) fun hy => ?_
    exact ⟨hy.1, le_of_near hnear (by decide) tiny_pos.le hy.2⟩
  · cases literal.negative
    · exact hnegative
    · rw [if_pos rfl, y.isNegative_neg, hnegative]
      rfl

theorem integer_accurate {b : Int} (hsize : literal.size = b.natAbs)
    (hsign : decide (b < 0) = literal.negative) (hb : b.natAbs < 18446744073709551616) :
    literal.Accurate (.ofInt b) := by
  have hfinite : (Binary64.ofRatio (decide (b < 0)) b.natAbs 1).isFinite = true :=
    Binary64.isFinite_ofRatio Nat.one_pos (hb.trans_le (by decide +kernel))
  constructor
  · rw [hsize]
    exact .inl ((Binary64.near_ofRatio_one hfinite).mono (by decide) (Binary64.size_nonneg _)
      (Nat.cast_nonneg _))
  · rw [← hsign]
    exact Binary64.isNegative_ofRatio _ _ _

/-- Whatever a literal is read as, rounded to floating point it is accurate. -/
theorem value?_accurate (h : literal.Wellformed) (hvalue : literal.value? = some n) :
    literal.Accurate n.toBinary64 := by
  have hfloat : literal.float?.map Number.float = some n → literal.Accurate n.toBinary64 := by
    intro hfloat
    obtain ⟨x, hx, rfl⟩ := Option.map_eq_some_iff.mp hfloat
    exact float?_accurate h hx
  unfold value? at hvalue
  split at hvalue
  · rename_i hfraction hexponent
    have hsize := size_of_whole hfraction hexponent
    dsimp only at hvalue
    split_ifs at hvalue with hnegative hfar hfits
    · exact hfloat hvalue
    · rw [Bool.or_eq_true, decide_eq_true_iff, decide_eq_true_iff] at hfar
      obtain rfl := Option.some.inj hvalue
      refine integer_accurate (by rw [hsize, Int.natAbs_neg, Int.natAbs_natCast]) ?_ (by omega)
      rw [hnegative, decide_eq_true_iff]
      omega
    · obtain rfl := Option.some.inj hvalue
      refine integer_accurate (by rw [hsize, Int.natAbs_natCast]) ?_ (by omega)
      rw [Bool.eq_false_iff.mpr hnegative, decide_eq_false_iff_not]
      omega
    · exact hfloat hvalue
  · exact hfloat hvalue

end Literal

theorem sameValue_refl (n : Number) : n.sameValue n = true := by
  cases n <;> simp [sameValue, toBinary64, Binary64.same]

/-- Numbers of equal value are equal after rounding. -/
theorem same_of_sameValue {m n : Number} (h : m.sameValue n = true) :
    m.toBinary64.same n.toBinary64 = true := by
  unfold sameValue at h
  split at h
  · obtain rfl := of_decide_eq_true h
    simp [Binary64.same]
  · exact h

namespace Literal

variable {literal other : Literal} {m n : Number}

/-- Eight roundings are less than one part in two to the forty-nine. -/
theorem abs_sub_le_of_near {a b : ℚ} (h : Near 8 a b) : |b - a| ≤ a / 2 ^ 49 := by
  obtain ⟨hb, ha⟩ := h
  rw [shrink] at ha hb
  rw [abs_le]
  constructor <;> linarith

/-- The reading of a number of interest is near to it. -/
theorem Accurate.near (h : literal.Accurate x) (hx : tiny < x.size) :
    Near 4 x.size literal.size :=
  h.size.resolve_right fun hsmall => absurd hsmall.1 (not_le.mpr hx)

theorem Accurate.size_le (h : literal.Accurate x) (hx : x.size ≤ tiny) :
    literal.size ≤ 2 * tiny :=
  h.size.elim (fun hnear => le_of_near hnear (by decide) tiny_pos.le hx) And.right

/-- Literals that are read as equal numbers denote numbers that are close to each other. -/
theorem near_of_sameValue (h : literal.Wellformed) (h' : other.Wellformed)
    (hvalue : literal.value? = some m) (hvalue' : other.value? = some n)
    (hsame : m.sameValue n = true) :
    |other.value - literal.value| ≤ |literal.value| / 2 ^ 49 + 4 * tiny := by
  have haccurate := value?_accurate h hvalue
  have haccurate' := value?_accurate h' hvalue'
  obtain ⟨heq, hsigns⟩ := Binary64.of_same (same_of_sameValue hsame)
  have hpos := tiny_pos
  have habs := abs_value literal
  have habs' := abs_value other
  have hnonneg := literal.size_nonneg
  rcases le_or_gt m.toBinary64.size tiny with hsmall | hlarge
  · have hle := haccurate.size_le hsmall
    have hle' := haccurate'.size_le (heq ▸ hsmall)
    have hsub := abs_sub other.value literal.value
    have hdiv : 0 ≤ |literal.value| / 2 ^ 49 := by positivity
    linarith
  · have hnear := (haccurate.near hlarge).symm.trans (heq ▸ haccurate'.near (heq ▸ hlarge))
    have hclose := abs_sub_le_of_near hnear
    -- numbers of interest are not zero, so their signs are the same
    have hsign : literal.negative = other.negative := by
      rw [← haccurate.sign, ← haccurate'.sign]
      exact hsigns.resolve_right (hpos.trans hlarge).ne'
    have hsub : |other.value - literal.value| = |other.size - literal.size| := by
      rw [value, value, hsign]
      split
      · rw [neg_sub_neg, abs_sub_comm]
      · rfl
    rw [hsub, habs]
    linarith

end Literal

end ChainFeed.Number
