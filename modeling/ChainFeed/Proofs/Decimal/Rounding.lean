import ChainFeed.Decimal.Binary64
import Mathlib.Algebra.Order.Field.Power
import Mathlib.Data.Rat.Cast.Order
import Mathlib.Tactic.Linarith
import Mathlib.Tactic.NormNum
import Mathlib.Tactic.Positivity
import Mathlib.Tactic.Ring

/-!
# What rounding loses

A rounded ratio differs from the ratio by one part in two to the fifty-three at most, unless it is
so small that its significand has lost bits. Errors of that kind are counted: two rational numbers
are near by some number of roundings, and the roundings of factors add up in a product.

## Main definitions

- `Binary64.size`: the absolute value of a number
- `Binary64.Near`: two rational numbers are apart by a number of roundings

## Main results

- `Binary64.size_ofMagnitude`: what the bits of a number denote
- `Binary64.rounds_ofRatio`: a ratio is rounded once
-/

namespace ChainFeed.Binary64

variable {num den scale n m k : Nat} {negative : Bool} {a b c d : ℚ} {x y : Binary64}

/-! ### Being near -/

/-- What is left of a number at least when it is rounded. -/
def shrink : ℚ :=
  1 - 1 / 2 ^ 53

theorem shrink_pos : 0 < shrink := by
  norm_num [shrink]

theorem shrink_le_one : shrink ≤ 1 := by
  norm_num [shrink]

/-- Two numbers are apart by `n` roundings at most. -/
def Near (n : Nat) (a b : ℚ) : Prop :=
  b * shrink ^ n ≤ a ∧ a * shrink ^ n ≤ b

namespace Near

theorem refl (a : ℚ) : Near 0 a a := by
  simp [Near]

theorem symm (h : Near n a b) : Near n b a :=
  ⟨h.2, h.1⟩

theorem mono (h : Near n a b) (hnm : n ≤ m) (ha : 0 ≤ a) (hb : 0 ≤ b) : Near m a b := by
  have hpow : shrink ^ m ≤ shrink ^ n := pow_le_pow_of_le_one shrink_pos.le shrink_le_one hnm
  exact ⟨(mul_le_mul_of_nonneg_left hpow hb).trans h.1,
    (mul_le_mul_of_nonneg_left hpow ha).trans h.2⟩

theorem trans (hab : Near m a b) (hbc : Near n b c) : Near (m + n) a c := by
  have hm : 0 ≤ shrink ^ m := pow_nonneg shrink_pos.le m
  have hn : 0 ≤ shrink ^ n := pow_nonneg shrink_pos.le n
  constructor
  · calc c * shrink ^ (m + n) = c * shrink ^ n * shrink ^ m := by ring
      _ ≤ b * shrink ^ m := mul_le_mul_of_nonneg_right hbc.1 hm
      _ ≤ a := hab.1
  · calc a * shrink ^ (m + n) = a * shrink ^ m * shrink ^ n := by ring
      _ ≤ b * shrink ^ n := mul_le_mul_of_nonneg_right hab.2 hn
      _ ≤ c := hbc.2

/-- The roundings of factors add up. -/
theorem mul (hab : Near m a b) (hcd : Near n c d) (ha : 0 ≤ a) (hb : 0 ≤ b) (hc : 0 ≤ c)
    (hd : 0 ≤ d) : Near (m + n) (a * c) (b * d) := by
  have hn : 0 ≤ shrink ^ n := pow_nonneg shrink_pos.le n
  constructor
  · calc b * d * shrink ^ (m + n) = b * shrink ^ m * (d * shrink ^ n) := by ring
      _ ≤ a * c := mul_le_mul hab.1 hcd.1 (mul_nonneg hd hn) ha
  · calc a * c * shrink ^ (m + n) = a * shrink ^ m * (c * shrink ^ n) := by ring
      _ ≤ b * d := mul_le_mul hab.2 hcd.2 (mul_nonneg hc hn) hb

theorem inv (h : Near n a b) (ha : 0 < a) (hb : 0 < b) : Near n a⁻¹ b⁻¹ := by
  constructor
  · rw [inv_mul_eq_div, div_le_iff₀ hb, ← div_eq_inv_mul, le_div_iff₀ ha, mul_comm]
    exact h.2
  · rw [inv_mul_eq_div, div_le_iff₀ ha, ← div_eq_inv_mul, le_div_iff₀ hb, mul_comm]
    exact h.1

theorem div (hab : Near m a b) (hcd : Near n c d) (ha : 0 ≤ a) (hb : 0 ≤ b) (hc : 0 < c)
    (hd : 0 < d) : Near (m + n) (a / c) (b / d) := by
  rw [div_eq_mul_inv, div_eq_mul_inv]
  exact hab.mul (hcd.inv hc hd) ha hb (inv_nonneg.mpr hc.le) (inv_nonneg.mpr hd.le)

theorem pos (h : Near n a b) (hb : 0 < b) : 0 < a :=
  (mul_pos hb (pow_pos shrink_pos n)).trans_le h.1

end Near

/-- Numbers are near if both lie in a short interval. -/
theorem near_of_window {low width : ℚ} (hwidth : width * 2 ^ 60 ≤ low) (ha : low ≤ a)
    (ha' : a ≤ low + width) (hb : low ≤ b) (hb' : b ≤ low + width) : Near 1 a b := by
  have hlow : (low + width) * shrink ^ 1 ≤ low := by
    rw [shrink, pow_one]
    linarith
  have hshrink : 0 ≤ shrink ^ 1 := pow_nonneg shrink_pos.le 1
  exact ⟨(mul_le_mul_of_nonneg_right hb' hshrink).trans (hlow.trans ha),
    (mul_le_mul_of_nonneg_right ha' hshrink).trans (hlow.trans hb)⟩

/-! ### Sizes -/

/-- A ratio in units of a power of two. -/
theorem div_eq_in_units {total k : Nat} (h : num * Nat.pow 2 k = total) (den : Nat) :
    (num / den : ℚ) = total / (den * 2 ^ k) := by
  rw [← h, Nat.cast_mul, Nat.pow_eq, Nat.cast_pow, Nat.cast_ofNat,
    mul_div_mul_right _ _ (by positivity)]

/-- A product in units of a power of two. -/
theorem mul_eq_in_units (m n : Nat) {k l : Nat} (h : k + k = l) :
    (m / 2 ^ k : ℚ) * (n / 2 ^ k) = (m * n : Nat) / (Nat.pow 2 l : Nat) := by
  rw [div_mul_div_comm, ← pow_add, h, Nat.cast_mul, Nat.pow_eq, Nat.cast_pow, Nat.cast_ofNat]

/-- The absolute value of a finite number. -/
def size (x : Binary64) : ℚ :=
  (x.significand * 2 ^ x.scale : Nat) / 2 ^ 1074

theorem size_nonneg (x : Binary64) : 0 ≤ x.size := by
  unfold size
  positivity

theorem toNat_ofMagnitude (negative : Bool) (magnitude : Nat) :
    (ofMagnitude negative magnitude).bits.toNat =
      (if negative then 9223372036854775808 else 0) + min magnitude 9218868437227405312 := by
  have hmin : min magnitude 9218868437227405312 ≤ 9218868437227405312 := min_le_right _ _
  unfold ofMagnitude
  generalize min magnitude 9218868437227405312 = capped at *
  cases negative
  · have hbits : capped.toUInt64.toNat = capped :=
      UInt64.toNat_ofNat_of_lt' (show capped < 18446744073709551616 by omega)
    simpa using hbits
  · have hbits : (capped + 9223372036854775808).toUInt64.toNat = capped + 9223372036854775808 :=
      UInt64.toNat_ofNat_of_lt' (show capped + 9223372036854775808 < 18446744073709551616 by omega)
    simpa [Nat.add_comm] using hbits

theorem magnitude_ofMagnitude (negative : Bool) (magnitude : Nat) :
    (ofMagnitude negative magnitude).magnitude = min magnitude 9218868437227405312 := by
  have hmin : min magnitude 9218868437227405312 ≤ 9218868437227405312 := min_le_right _ _
  rw [Binary64.magnitude, toNat_ofMagnitude]
  split <;> omega

theorem isNegative_ofMagnitude (negative : Bool) (magnitude : Nat) :
    (ofMagnitude negative magnitude).isNegative = negative := by
  have hmin : min magnitude 9218868437227405312 ≤ 9218868437227405312 := min_le_right _ _
  rw [isNegative, toNat_ofMagnitude]
  cases negative <;> simp

theorem isFinite_ofMagnitude_iff {magnitude : Nat} :
    (ofMagnitude negative magnitude).isFinite = true ↔ magnitude < 9218868437227405312 := by
  rw [isFinite, decide_eq_true_iff, exponentBits, magnitude_ofMagnitude]
  omega

/-- A significand may be carried to the next exponent. -/
theorem size_ofMagnitude (hfinite : scale * 4503599627370496 + n < 9218868437227405312)
    (hle : n ≤ 9007199254740992) (hge : 4503599627370496 ≤ n ∨ scale = 0) :
    (ofMagnitude negative (scale * 4503599627370496 + n)).size =
      (n * 2 ^ scale : Nat) / 2 ^ 1074 := by
  have hmagnitude : (ofMagnitude negative (scale * 4503599627370496 + n)).magnitude =
      scale * 4503599627370496 + n := by
    rw [magnitude_ofMagnitude, min_eq_left hfinite.le]
  rw [size, significand, Binary64.scale, fraction, exponentBits, hmagnitude]
  congr 2
  -- below the least normal number, at full significands, and at the carry
  rcases Nat.lt_or_ge n 4503599627370496 with hlt | hge'
  · obtain rfl : scale = 0 := hge.resolve_left (by omega)
    rw [show (0 * 4503599627370496 + n) / 4503599627370496 = 0 by omega,
      show (0 * 4503599627370496 + n) % 4503599627370496 = n by omega]
    rfl
  · rcases Nat.lt_or_eq_of_le hle with hlt | rfl
    · rw [show (scale * 4503599627370496 + n) / 4503599627370496 = scale + 1 by omega,
        show (scale * 4503599627370496 + n) % 4503599627370496 = n - 4503599627370496 by omega,
        if_neg (Nat.succ_ne_zero scale), Nat.sub_add_cancel hge', Nat.add_sub_cancel]
    · have hdiv : (scale * 4503599627370496 + 9007199254740992) / 4503599627370496 = scale + 2 := by
        omega
      rw [hdiv,
        show (scale * 4503599627370496 + 9007199254740992) % 4503599627370496 = 0 by omega,
        if_neg (Nat.succ_ne_zero _), show scale + 2 - 1 = scale + 1 by omega, Nat.pow_succ]
      ring

/-- The least number of which the significand has all its bits. -/
def leastNormal : ℚ :=
  4503599627370496 / 2 ^ 1074

/-- A number is what a ratio is rounded to, unless both are smaller than numbers with full
significands. -/
def Rounds (x : Binary64) (a : ℚ) : Prop :=
  Near 1 x.size a ∨ (x.size ≤ leastNormal ∧ a ≤ leastNormal)

/-! ### One rounding -/

theorem roundRatio_spec (num : Nat) (hden : 0 < den) :
    2 * num ≤ 2 * (roundRatio num den * den) + den ∧
      2 * (roundRatio num den * den) ≤ 2 * num + den := by
  have hsum : num / den * den + num % den = num := Nat.div_add_mod' num den
  have hmod := Nat.mod_lt num hden
  unfold roundRatio
  dsimp only
  -- quotient and remainder are variables from here on, their products atoms to `omega`
  generalize num % den = r at *
  generalize num / den = q at *
  have hsucc : (q + 1) * den = q * den + den := by ring
  split
  · omega
  · split
    · omega
    · split <;> omega

/-- Rounding does not go past a natural number. -/
theorem roundRatio_le (hden : 0 < den) (h : num ≤ n * den) : roundRatio num den ≤ n := by
  obtain ⟨-, hhigh⟩ := roundRatio_spec num hden
  by_contra hlt
  have hsucc := Nat.mul_le_mul_right den (Nat.succ_le_of_lt (Nat.not_le.mp hlt))
  rw [Nat.succ_mul] at hsucc
  omega

theorem le_roundRatio (hden : 0 < den) (h : n * den ≤ num) : n ≤ roundRatio num den := by
  obtain ⟨hlow, -⟩ := roundRatio_spec num hden
  by_contra hlt
  have hsucc := Nat.mul_le_mul_right den (Nat.succ_le_of_lt (Nat.not_le.mp hlt))
  rw [Nat.succ_mul] at hsucc
  omega

/-- A ratio has between two to the fifty-two and two to the fifty-three steps of its grid, or fewer
if the grid is the one of the least numbers. -/
theorem step_spec (total : Nat) (hden : 0 < den) :
    let scale := Nat.log2 (total / den) - 52
    total ≤ 9007199254740992 * (den * Nat.pow 2 scale) ∧
      (4503599627370496 * (den * Nat.pow 2 scale) ≤ total ∨
        (scale = 0 ∧ total ≤ 4503599627370496 * den)) := by
  dsimp only
  have hupper : total / den < 2 ^ (Nat.log2 (total / den) + 1) := Nat.lt_log2_self
  rw [Nat.div_lt_iff_lt_mul hden] at hupper
  by_cases hnormal : 52 ≤ Nat.log2 (total / den)
  · have hne : total / den ≠ 0 := by
      intro hzero
      rw [hzero] at hnormal
      exact absurd hnormal (by decide)
    have hlower : 2 ^ Nat.log2 (total / den) ≤ total / den := Nat.log2_self_le hne
    rw [Nat.le_div_iff_mul_le hden] at hlower
    obtain ⟨scale, hscale⟩ := Nat.exists_eq_add_of_le hnormal
    have hpow : (2 : Nat) ^ (52 + scale) * den = 4503599627370496 * (den * Nat.pow 2 scale) := by
      rw [Nat.pow_add, Nat.pow_eq]
      ring
    rw [hscale] at hlower hupper ⊢
    rw [Nat.add_sub_cancel_left, ← hpow]
    rw [Nat.pow_succ, Nat.mul_right_comm, hpow] at hupper
    exact ⟨by omega, .inl hlower⟩
  -- a smaller exponent than the least one there is
  · have hscale : Nat.log2 (total / den) - 52 = 0 := by omega
    have hbound : 2 ^ (Nat.log2 (total / den) + 1) ≤ 2 ^ 52 :=
      Nat.pow_le_pow_right (by decide) (by omega)
    have htotal : total ≤ 4503599627370496 * den :=
      hupper.le.trans (Nat.mul_le_mul_right den hbound)
    rw [hscale, Nat.pow_eq, Nat.pow_zero, Nat.mul_one]
    exact ⟨by omega, .inr ⟨rfl, htotal⟩⟩

/-- The significand that a ratio is rounded to: it has fifty-three bits, or is carried to the next
exponent, or lies on the grid of the least numbers. -/
theorem grid_spec (total : Nat) (hden : 0 < den) :
    let scale := Nat.log2 (total / den) - 52
    let n := roundRatio total (den * Nat.pow 2 scale)
    n ≤ 9007199254740992 ∧
      ((4503599627370496 ≤ n ∧ 4503599627370496 * (den * Nat.pow 2 scale) ≤ total) ∨
        (scale = 0 ∧ n ≤ 4503599627370496 ∧ total ≤ 4503599627370496 * den)) := by
  have hstep : 0 < den * Nat.pow 2 (Nat.log2 (total / den) - 52) :=
    Nat.mul_pos hden (Nat.pow_pos (by decide))
  obtain ⟨hhigh, hcases⟩ := step_spec total hden
  dsimp only at hcases ⊢
  refine ⟨roundRatio_le hstep hhigh, ?_⟩
  rcases hcases with hnormal | ⟨hscale, hsmall⟩
  · exact .inl ⟨le_roundRatio hstep hnormal, hnormal⟩
  · have hone : den * Nat.pow 2 0 = den := Nat.mul_one den
    rw [hscale, hone]
    exact .inr ⟨rfl, roundRatio_le hden hsmall, hsmall⟩

theorem isNegative_ofRatio (negative : Bool) (num den : Nat) :
    (ofRatio negative num den).isNegative = negative := by
  unfold ofRatio
  split
  · cases negative <;> rfl
  · exact isNegative_ofMagnitude _ _

theorem size_zero (negative : Bool) : (zero negative).size = 0 := by
  cases negative <;> simp [size, significand, exponentBits, fraction, magnitude, zero]

/-- Errors of half a step are small beside as many steps as a full significand counts. -/
theorem near_of_step {low total step : ℚ} (hstep : 4503599627370496 * step ≤ total)
    (hlow : 2 * total ≤ 2 * low + step) (hhigh : 2 * low ≤ 2 * total + step) :
    Near 1 low total := by
  rw [Near, pow_one, shrink]
  constructor <;> linarith

/-- The significand of a ratio is near to the total that it was rounded from, or both are small. -/
theorem near_or_le_of_grid {total scale : Nat} {unit : ℚ} (hunit : 0 < unit)
    (hlow : 2 * total ≤ 2 * (n * (den * Nat.pow 2 scale)) + den * Nat.pow 2 scale)
    (hhigh : 2 * (n * (den * Nat.pow 2 scale)) ≤ 2 * total + den * Nat.pow 2 scale)
    (hcases : (4503599627370496 ≤ n ∧ 4503599627370496 * (den * Nat.pow 2 scale) ≤ total) ∨
      (scale = 0 ∧ n ≤ 4503599627370496 ∧ total ≤ 4503599627370496 * den)) :
    Near 1 ((n * (den * Nat.pow 2 scale) : Nat) / unit) (total / unit) ∨
      ((n * (den * Nat.pow 2 scale) : Nat) / unit ≤ (4503599627370496 * den : Nat) / unit ∧
        total / unit ≤ (4503599627370496 * den : Nat) / unit) := by
  -- a full significand is off by half a step at most; others count steps of the least numbers
  rcases hcases with ⟨-, hbig⟩ | ⟨rfl, hn, hsmall⟩
  · refine .inl (Near.div (m := 1) (n := 0) ?_ (.refl _) (by positivity) (by positivity) hunit
      hunit)
    generalize den * Nat.pow 2 scale = step at *
    have hbig' : (4503599627370496 * step : ℚ) ≤ total := by exact_mod_cast hbig
    refine near_of_step hbig' ?_ ?_
    · exact_mod_cast hlow
    · exact_mod_cast hhigh
  · rw [div_le_div_iff_of_pos_right hunit, div_le_div_iff_of_pos_right hunit]
    refine .inr ⟨?_, by exact_mod_cast hsmall⟩
    rw [Nat.pow_eq, Nat.pow_zero, Nat.mul_one]
    exact_mod_cast Nat.mul_le_mul_right den hn

/-- A ratio is rounded once. -/
theorem rounds_ofRatio (hden : 0 < den) (hfinite : (ofRatio negative num den).isFinite = true) :
    (ofRatio negative num den).Rounds (num / den) := by
  unfold ofRatio leadingBit at hfinite ⊢
  by_cases hnum : num = 0
  · rw [if_pos hnum, hnum]
    exact .inl (by simp [size_zero, Near])
  · rw [if_neg hnum] at hfinite ⊢
    -- in units of the least positive number, times the denominator
    generalize htotal : num * Nat.pow 2 1074 = total at hfinite ⊢
    have hvalue := div_eq_in_units htotal den
    have hunit : (0 : ℚ) < den * 2 ^ 1074 := by positivity
    have hgrid := grid_spec total hden
    have hstep : 0 < den * Nat.pow 2 (Nat.log2 (total / den) - 52) :=
      Nat.mul_pos hden (Nat.pow_pos (by decide))
    obtain ⟨hlow, hhigh⟩ := roundRatio_spec total hstep
    dsimp only at hfinite hgrid ⊢
    generalize Nat.log2 (total / den) - 52 = scale at hfinite hgrid hlow hhigh ⊢
    generalize roundRatio _ _ = n at hfinite hgrid hlow hhigh ⊢
    obtain ⟨hle, hcases⟩ := hgrid
    have hsize : (ofMagnitude negative (scale * 4503599627370496 + n)).size =
        (n * (den * Nat.pow 2 scale) : Nat) / (den * 2 ^ 1074 : ℚ) := by
      rw [size_ofMagnitude (isFinite_ofMagnitude_iff.mp hfinite) hle
        (hcases.imp And.left And.left), show n * (den * Nat.pow 2 scale) = den * (n * 2 ^ scale) by
          rw [Nat.pow_eq]; ring, Nat.cast_mul den, mul_div_mul_left _ _ (by positivity)]
    have hleast : leastNormal = (4503599627370496 * den : Nat) / (den * 2 ^ 1074 : ℚ) := by
      rw [leastNormal, Nat.mul_comm, Nat.cast_mul, mul_div_mul_left _ _ (by positivity)]
      norm_num
    rw [Rounds, hsize, hleast, hvalue]
    exact near_or_le_of_grid hunit hlow hhigh hcases

theorem log2_div_lt (hden : 0 < den) (h : num < den * 2 ^ m) (hk : m + k = n) (hn : 0 < n) :
    Nat.log2 (num * Nat.pow 2 k / den) < n := by
  by_cases hzero : num * Nat.pow 2 k / den = 0
  · rw [hzero, Nat.log2_zero]
    exact hn
  · rw [Nat.log2_lt hzero, Nat.div_lt_iff_lt_mul hden]
    calc num * 2 ^ k < den * 2 ^ m * 2 ^ k :=
        Nat.mul_lt_mul_of_pos_right h (Nat.pow_pos (by decide))
      _ = 2 ^ n * den := by rw [Nat.mul_assoc, ← Nat.pow_add, hk, Nat.mul_comm]

/-- A ratio that is not too large is rounded to a finite number. -/
theorem isFinite_ofRatio (hden : 0 < den) (h : num < den * 2 ^ 1023) :
    (ofRatio negative num den).isFinite = true := by
  have hlog : leadingBit num den < 2097 := by
    apply log2_div_lt hden h rfl (by decide)
  unfold ofRatio leadingBit at *
  split
  · cases negative <;> rfl
  · generalize num * Nat.pow 2 1074 = total at hlog ⊢
    have hn := (grid_spec total hden).1
    dsimp only at hn ⊢
    rw [isFinite_ofMagnitude_iff]
    generalize Nat.log2 (total / den) = bit at *
    omega

/-! ### Operations -/

theorem leastNormal_lt_one : leastNormal < 1 := by
  rw [leastNormal, div_lt_one (by positivity)]
  calc (4503599627370496 : ℚ) < 2 ^ 53 := by norm_num
    _ ≤ 2 ^ 1074 := pow_le_pow_right₀ (by norm_num) (by norm_num)

/-- An integer is rounded once. -/
theorem near_ofRatio_one (hfinite : (ofRatio negative num 1).isFinite = true) :
    Near 1 (ofRatio negative num 1).size num := by
  have hrounds := rounds_ofRatio Nat.one_pos hfinite
  rw [Nat.cast_one, div_one] at hrounds
  rcases Nat.eq_zero_or_pos num with rfl | hpos
  · rw [ofRatio, if_pos rfl, size_zero]
    simp [Near]
  · refine hrounds.resolve_right fun h => ?_
    have hone : (1 : ℚ) ≤ num := by exact_mod_cast hpos
    exact absurd (h.2.trans_lt leastNormal_lt_one) (not_lt.mpr hone)

/-- A product in units of a power of two is rounded once. -/
theorem rounds_ofRatio_mul {left right : Nat} (h : k + k = n)
    (hfinite : (ofRatio negative (left * right) (Nat.pow 2 n)).isFinite = true) :
    (ofRatio negative (left * right) (Nat.pow 2 n)).Rounds
      (left / 2 ^ k * (right / 2 ^ k)) := by
  rw [mul_eq_in_units left right h]
  exact rounds_ofRatio (Nat.pow_pos (by decide)) hfinite

theorem rounds_mul (hfinite : (x.mul y).isFinite = true) :
    (x.mul y).Rounds (x.size * y.size) := by
  -- the powers of two are matched as they are written, and never computed
  unfold mul at hfinite ⊢
  apply rounds_ofRatio_mul (k := 1074) ?_ hfinite
  rfl

theorem rounds_div (hy : 0 < y.size) (h : x.size < y.size * 2 ^ 1023) :
    (x.div y).Rounds (x.size / y.size) := by
  have hunit : (0 : ℚ) < 2 ^ 1074 := by positivity
  have hden : 0 < y.significand * Nat.pow 2 y.scale := by
    rw [size, div_pos_iff_of_pos_right hunit] at hy
    exact_mod_cast hy
  have hnum : x.significand * Nat.pow 2 x.scale < y.significand * Nat.pow 2 y.scale * 2 ^ 1023 := by
    rw [size, size, div_mul_eq_mul_div, div_lt_div_iff_of_pos_right hunit] at h
    exact_mod_cast h
  have hfinite : (x.div y).isFinite = true := isFinite_ofRatio hden hnum
  have hrounds := rounds_ofRatio hden hfinite
  rw [size, size, div_div_div_cancel_right₀ hunit.ne']
  exact hrounds

theorem isNegative_mul : (x.mul y).isNegative = (x.isNegative != y.isNegative) :=
  isNegative_ofRatio _ _ _

theorem isNegative_div : (x.div y).isNegative = (x.isNegative != y.isNegative) :=
  isNegative_ofRatio _ _ _

/-! ### Signs and equality -/

/-- The other sign is the other value of the highest bit. -/
theorem toNat_neg (x : Binary64) :
    x.neg.bits.toNat = if x.isNegative then x.bits.toNat - 9223372036854775808
      else x.bits.toNat + 9223372036854775808 := by
  have hlt := x.bits.toNat_lt
  have hxor : x.neg.bits.toNat = x.bits.toNat ^^^ 9223372036854775808 := UInt64.toNat_xor _ _
  have hdiv : x.neg.bits.toNat / 2 ^ 63 = x.bits.toNat / 2 ^ 63 ^^^ 1 := by
    rw [hxor]
    exact Nat.xor_div_two_pow
  have hmod : x.neg.bits.toNat % 2 ^ 63 = x.bits.toNat % 2 ^ 63 := by
    rw [hxor]
    exact Nat.xor_mod_two_pow.trans (Nat.xor_zero _)
  by_cases hnegative : 9223372036854775808 ≤ x.bits.toNat
  · rw [isNegative, if_pos (decide_eq_true hnegative)]
    rw [show x.bits.toNat / 2 ^ 63 = 1 by omega, Nat.xor_self] at hdiv
    omega
  · rw [isNegative, if_neg (by simpa using hnegative)]
    rw [show x.bits.toNat / 2 ^ 63 = 0 by omega, Nat.zero_xor] at hdiv
    omega

theorem isNegative_neg (x : Binary64) : x.neg.isNegative = !x.isNegative := by
  have hlt := x.bits.toNat_lt
  rw [isNegative, toNat_neg]
  by_cases hnegative : x.isNegative = true
  · rw [if_pos hnegative, hnegative, Bool.not_true, decide_eq_false_iff_not]
    omega
  · rw [if_neg hnegative, Bool.eq_false_iff.mpr hnegative, Bool.not_false, decide_eq_true_iff]
    omega

theorem size_neg (x : Binary64) : x.neg.size = x.size := by
  have hmagnitude : x.neg.magnitude = x.magnitude := by
    rw [magnitude, magnitude, toNat_neg, isNegative]
    split
    · rename_i hnegative
      have := of_decide_eq_true hnegative
      omega
    · omega
  unfold size significand Binary64.scale fraction exponentBits
  rw [hmagnitude]

theorem size_of_isZero (h : x.isZero = true) : x.size = 0 := by
  have hzero : x.magnitude = 0 := of_decide_eq_true h
  simp [size, significand, exponentBits, fraction, hzero]

/-- Equal numbers have one size, and one sign unless they are zeros. -/
theorem of_same (h : x.same y = true) :
    x.size = y.size ∧ (x.isNegative = y.isNegative ∨ x.size = 0) := by
  rw [same, Bool.or_eq_true, decide_eq_true_iff, Bool.and_eq_true] at h
  rcases h with hbits | ⟨hx, hy⟩
  · obtain rfl : x = y := by
      cases x
      cases y
      exact congrArg mk hbits
    exact ⟨rfl, .inl rfl⟩
  · rw [size_of_isZero hx, size_of_isZero hy]
    exact ⟨rfl, .inr rfl⟩

end ChainFeed.Binary64
