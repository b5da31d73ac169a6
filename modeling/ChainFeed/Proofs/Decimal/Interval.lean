import ChainFeed.Decimal.Shortest
import Mathlib.Algebra.Order.Field.Power
import Mathlib.Data.Rat.Cast.Order
import Mathlib.Tactic.Linarith
import Mathlib.Tactic.Positivity
import Mathlib.Tactic.Ring

/-!
# The interval of a floating-point number

The intervals of the numbers of one sign follow each other without overlap: each begins where the
one before it ends, and of the two only the one with an even significand has the common end. A
decimal is found for every number, since the points of a grid of seventeen digits lie closer to each
other than the ends of the interval.

Infinite and undefined numbers are treated by their bits as the finite ones are, so that nothing
here has to leave them out.

## Main definitions

- `Interval.ofMagnitude`: the interval by the bits below the sign
- `Interval.Holds`: the rational points of an interval

## Main results

- `Interval.magnitude_unique`: a point lies in one interval only
- `holds_decimal`: the decimal of a number lies in its interval
-/

namespace ChainFeed.Shortest

/-- The interval of the number with the given exponent and fraction bits. -/
def Interval.ofParts (exponent fraction : Nat) : Interval :=
  let m := if exponent = 0 then fraction else fraction + 4503599627370496
  let step := Nat.pow 2 (exponent - 1)
  let half := if fraction = 0 && 1 < exponent then 1 else 2
  ⟨(4 * m - half) * step, 4 * m * step, (4 * m + 2) * step, 4 * Nat.pow 2 1074, m % 2 = 0⟩

/-- The interval of the number with the given bits below the sign. -/
def Interval.ofMagnitude (magnitude : Nat) : Interval :=
  .ofParts (magnitude / 4503599627370496) (magnitude % 4503599627370496)

theorem interval_eq (x : Binary64) : interval x = .ofMagnitude x.magnitude := rfl

/-- Where a rational number lies in an interval. -/
def Interval.Holds (i : Interval) (q : ℚ) : Prop :=
  if i.closed then (i.low : ℚ) ≤ q * i.unit ∧ q * i.unit ≤ i.high
  else (i.low : ℚ) < q * i.unit ∧ q * i.unit < i.high

/-- The rational number that a decimal is. -/
def Decimal.value (d : Decimal) : ℚ :=
  d.digits * 10 ^ d.exponent

theorem Interval.contains_iff (i : Interval) (n : Nat) (e : Int) :
    i.contains n e = true ↔ i.Holds (Decimal.value ⟨n, e⟩) := by
  -- both sides of a comparison are multiplied by a power of ten to get rid of fractions
  have hgrow : (0 : ℚ) < 10 ^ (-e).toNat := by positivity
  have hpower : (10 : ℚ) ^ e * 10 ^ (-e).toNat = 10 ^ e.toNat := by
    rcases Int.le_total 0 e with h | h
    · obtain ⟨k, rfl⟩ := Int.eq_ofNat_of_zero_le h
      simp
    · obtain ⟨k, hk⟩ := Int.eq_ofNat_of_zero_le (Int.neg_nonneg_of_nonpos h)
      obtain rfl : e = -(k : Int) := by omega
      simp
  have hscaled : (Decimal.value ⟨n, e⟩ * i.unit) * 10 ^ (-e).toNat =
      ((n * 10 ^ e.toNat * i.unit : Nat) : ℚ) := by
    push_cast
    rw [Decimal.value, ← hpower]
    ring
  have hle (a : Nat) : a * 10 ^ (-e).toNat ≤ n * 10 ^ e.toNat * i.unit ↔
      (a : ℚ) ≤ Decimal.value ⟨n, e⟩ * i.unit := by
    rw [← mul_le_mul_iff_left₀ hgrow, hscaled, ← Nat.cast_le (α := ℚ)]
    push_cast
    rfl
  have hge (a : Nat) : n * 10 ^ e.toNat * i.unit ≤ a * 10 ^ (-e).toNat ↔
      Decimal.value ⟨n, e⟩ * i.unit ≤ (a : ℚ) := by
    rw [← mul_le_mul_iff_left₀ hgrow, hscaled, ← Nat.cast_le (α := ℚ)]
    push_cast
    rfl
  -- closed and open intervals differ only in how strict the comparisons are
  unfold contains Holds
  simp only [Nat.pow_eq]
  split
  · rw [Bool.and_eq_true, decide_eq_true_eq, decide_eq_true_eq, hle, hge]
  · rw [Bool.and_eq_true, decide_eq_true_eq, decide_eq_true_eq, ← not_le, ← not_le, hge, hle,
      not_le, not_le]

/-! ### Neighbours -/

namespace Interval

variable {a b exponent fraction magnitude : Nat} {q : ℚ}

theorem high_eq_low_succ_fraction :
    (ofParts exponent fraction).high = (ofParts exponent (fraction + 1)).low := by
  -- the next fraction is not zero, so its lower half is never the short one
  have hhalf : (if decide (fraction + 1 = 0) && decide (1 < exponent) then 1 else 2) = 2 := by simp
  unfold ofParts
  dsimp only
  rw [hhalf]
  congr 1
  split <;> omega

/-- Below a power of two the grid is twice as fine, and the interval above it has a smaller lower
half. -/
theorem high_eq_low_succ_exponent :
    (ofParts exponent 4503599627370495).high = (ofParts (exponent + 1) 0).low := by
  unfold ofParts
  dsimp only
  -- the numbers of exponent zero lie on the same grid as those of exponent one
  rcases Nat.eq_zero_or_pos exponent with rfl | hpos
  · rfl
  · obtain ⟨e, rfl⟩ : ∃ e, exponent = e + 1 := ⟨_, (Nat.succ_pred hpos.ne').symm⟩
    have hhalf : (if decide (0 = 0) && decide (1 < e + 1 + 1) then 1 else 2) = 1 := by simp
    rw [hhalf, if_neg (Nat.succ_ne_zero _), if_neg (Nat.succ_ne_zero _), Nat.pow_eq, Nat.pow_eq,
      show e + 1 + 1 - 1 = e + 1 by omega, show e + 1 - 1 = e by omega, Nat.pow_succ]
    ring

/-- The bits behind the last fraction of an exponent are the first of the next exponent. -/
theorem ofMagnitude_succ (magnitude : Nat) :
    (∃ exponent fraction, ofMagnitude magnitude = ofParts exponent fraction ∧
      ofMagnitude (magnitude + 1) = ofParts exponent (fraction + 1)) ∨
    (∃ exponent, ofMagnitude magnitude = ofParts exponent 4503599627370495 ∧
      ofMagnitude (magnitude + 1) = ofParts (exponent + 1) 0) := by
  have hdiv := Nat.div_add_mod magnitude 4503599627370496
  by_cases hlast : magnitude % 4503599627370496 = 4503599627370495
  · refine .inr ⟨magnitude / 4503599627370496, ?_, ?_⟩
    · rw [ofMagnitude, hlast]
    · rw [ofMagnitude]
      congr 1 <;> omega
  · refine .inl ⟨magnitude / 4503599627370496, magnitude % 4503599627370496, rfl, ?_⟩
    rw [ofMagnitude]
    congr 1 <;> omega

/-- Each interval begins where the one before it ends. -/
theorem high_eq_low_succ (magnitude : Nat) :
    (ofMagnitude magnitude).high = (ofMagnitude (magnitude + 1)).low := by
  rcases ofMagnitude_succ magnitude with ⟨exponent, fraction, h, hsucc⟩ | ⟨exponent, h, hsucc⟩
  · rw [h, hsucc, high_eq_low_succ_fraction]
  · rw [h, hsucc, high_eq_low_succ_exponent]

/-- Of two neighbours one has the common end. -/
theorem closed_succ (magnitude : Nat) :
    (ofMagnitude (magnitude + 1)).closed = !(ofMagnitude magnitude).closed := by
  rcases ofMagnitude_succ magnitude with ⟨exponent, fraction, h, hsucc⟩ | ⟨exponent, h, hsucc⟩
  · rw [h, hsucc, Bool.eq_iff_iff]
    simp only [ofParts, decide_eq_true_eq, Bool.not_eq_true', decide_eq_false_iff_not]
    split <;> omega
  · rw [h, hsucc, Bool.eq_iff_iff]
    simp only [ofParts, decide_eq_true_eq, Bool.not_eq_true', decide_eq_false_iff_not]
    split <;> split <;> omega

theorem low_lt_high (magnitude : Nat) :
    (ofMagnitude magnitude).low < (ofMagnitude magnitude).high := by
  -- both ends are multiples of the step
  have hstep : 0 < Nat.pow 2 (magnitude / 4503599627370496 - 1) := Nat.pow_pos (by decide)
  exact Nat.mul_lt_mul_of_pos_right (by split <;> omega) hstep

theorem high_le_low (h : a < b) : (ofMagnitude a).high ≤ (ofMagnitude b).low := by
  induction b, h using Nat.le_induction with
  | base => exact (high_eq_low_succ a).le
  | succ b _ ih => exact ih.trans ((low_lt_high b).le.trans (high_eq_low_succ b).le)

theorem high_lt_low (h : a + 1 < b) : (ofMagnitude a).high < (ofMagnitude b).low := by
  rw [high_eq_low_succ]
  exact (low_lt_high (a + 1)).trans_le (high_le_low h)

theorem Holds.le {i : Interval} (h : i.Holds q) :
    (i.low : ℚ) ≤ q * i.unit ∧ q * i.unit ≤ i.high := by
  unfold Holds at h
  split at h
  · exact h
  · exact ⟨h.1.le, h.2.le⟩

/-- Intervals do not overlap. -/
theorem not_holds_of_lt (hlt : a < b) (ha : (ofMagnitude a).Holds q) :
    ¬ (ofMagnitude b).Holds q := by
  intro hb
  have hunit : (ofMagnitude a).unit = (ofMagnitude b).unit := rfl
  obtain ⟨-, hhigh⟩ := ha.le
  obtain ⟨hlow, -⟩ := hb.le
  rw [hunit] at hhigh
  rcases Nat.lt_or_eq_of_le hlt with hfar | rfl
  · have hgap : ((ofMagnitude a).high : ℚ) < (ofMagnitude b).low :=
      Nat.cast_lt.mpr (high_lt_low hfar)
    linarith
  · -- Neighbours have one point in common, and one of them is open there.
    have hend : ((ofMagnitude a).high : ℚ) = (ofMagnitude (a + 1)).low := by rw [high_eq_low_succ]
    unfold Holds at ha hb
    rw [closed_succ] at hb
    cases hclosed : (ofMagnitude a).closed with
    | true =>
      rw [hclosed] at hb
      have := hb.1
      linarith
    | false =>
      rw [hclosed, hunit] at ha
      have := ha.2
      linarith

/-- A point lies in one interval only. -/
theorem magnitude_unique (ha : (ofMagnitude a).Holds q) (hb : (ofMagnitude b).Holds q) : a = b := by
  rcases Nat.lt_trichotomy a b with hlt | heq | hlt
  · exact absurd hb (not_holds_of_lt hlt ha)
  · exact heq
  · exact absurd ha (not_holds_of_lt hlt hb)

/-! ### The grid of seventeen digits -/

theorem contains_of_lt {i : Interval} {n : Nat} {e : Int}
    (hlow : i.low * 10 ^ (-e).toNat < n * (i.unit * 10 ^ e.toNat))
    (hhigh : n * (i.unit * 10 ^ e.toNat) < i.high * 10 ^ (-e).toNat) :
    i.contains n e = true := by
  have hscaled : n * (i.unit * 10 ^ e.toNat) = n * 10 ^ e.toNat * i.unit := by ring
  rw [hscaled] at hlow hhigh
  unfold contains
  simp only [Nat.pow_eq]
  split
  · rw [Bool.and_eq_true, decide_eq_true_eq, decide_eq_true_eq]
    exact ⟨hlow.le, hhigh.le⟩
  · rw [Bool.and_eq_true, decide_eq_true_eq, decide_eq_true_eq]
    exact ⟨hlow, hhigh⟩

/-- The nearer multiple of `den` is at most half of it away from `num`. -/
theorem nearest_between {num den low high : Nat} {isBelow : Bool}
    (hisBelow : isBelow = (decide (2 * (num % den) < den) ||
      (decide (2 * (num % den) = den) && decide (num / den % 2 = 0))))
    (hden : 0 < den) (hlow : den < 2 * (num - low)) (hhigh : den < 2 * (high - num)) :
    low < (if isBelow then num / den else num / den + 1) * den ∧
      (if isBelow then num / den else num / den + 1) * den < high := by
  have hsum : num / den * den + num % den = num := Nat.div_add_mod' num den
  have hmod := Nat.mod_lt num hden
  -- quotient and remainder are variables from here on, their products atoms to `omega`
  generalize num % den = r at *
  generalize num / den = below at *
  cases isBelow with
  | true =>
    have hr : 2 * r ≤ den := by
      rcases (Bool.or_eq_true _ _).mp hisBelow.symm with h | h
      · exact (of_decide_eq_true h).le
      · exact (of_decide_eq_true (Bool.and_eq_true_iff.mp h).1).le
    simp only [if_true]
    omega
  | false =>
    have hr : den ≤ 2 * r :=
      not_lt.mp (of_decide_eq_false (Bool.or_eq_false_iff.mp hisBelow.symm).1)
    simp only [Bool.false_eq_true, if_false, Nat.add_mul, Nat.one_mul]
    omega

/-- If the steps of a grid are shorter than twice the way to either end, the nearer neighbour on the
grid lies in the interval. -/
theorem onGrid_isSome {i : Interval} {e : Int} (hunit : 0 < i.unit)
    (hlow : i.unit * 10 ^ e.toNat < 2 * ((i.value - i.low) * 10 ^ (-e).toNat))
    (hhigh : i.unit * 10 ^ e.toNat < 2 * ((i.high - i.value) * 10 ^ (-e).toNat)) :
    ∃ n, i.onGrid e = some n := by
  have hden : 0 < i.unit * 10 ^ e.toNat := Nat.mul_pos hunit (Nat.pow_pos (by decide))
  rw [Nat.sub_mul] at hlow hhigh
  obtain ⟨hbelow, habove⟩ := nearest_between rfl hden hlow hhigh
  unfold onGrid
  simp only [Nat.pow_eq]
  rw [if_pos (contains_of_lt hbelow habove)]
  exact ⟨_, rfl⟩

/-- Either end of an interval is farther from the value than the value times ten to minus
seventeen: the significand has fewer than sixteen digits. -/
theorem value_lt (hpos : 0 < magnitude) :
    (ofMagnitude magnitude).value <
        10 ^ 16 * (2 * ((ofMagnitude magnitude).value - (ofMagnitude magnitude).low)) ∧
      (ofMagnitude magnitude).value <
        10 ^ 16 * (2 * ((ofMagnitude magnitude).high - (ofMagnitude magnitude).value)) := by
  have hdiv := Nat.div_add_mod magnitude 4503599627370496
  have hmod := Nat.mod_lt magnitude (show 0 < 4503599627370496 by decide)
  unfold ofMagnitude ofParts
  dsimp only
  -- from here on only the bounds of both parts are needed
  generalize magnitude % 4503599627370496 = fraction at *
  generalize magnitude / 4503599627370496 = exponent at *
  have hstep : 0 < Nat.pow 2 (exponent - 1) := Nat.pow_pos (by decide)
  generalize Nat.pow 2 (exponent - 1) = step at *
  -- The lower half is the short one only above a power of two, which is the least significand.
  obtain ⟨m, half, hm, hhalf, hle, hlt⟩ : ∃ m half,
      (if exponent = 0 then fraction else fraction + 4503599627370496) = m ∧
      (if decide (fraction = 0) && decide (1 < exponent) then 1 else 2) = half ∧
      half ≤ 4 * m ∧ 4 * m < 10 ^ 16 * (2 * half) ∧ 4 * m < 10 ^ 16 * 4 := by
    refine ⟨_, _, rfl, rfl, ?_⟩
    by_cases hshort : fraction = 0 ∧ 1 < exponent
    · obtain ⟨rfl, hexponent⟩ := hshort
      have hhalf : (decide (0 = 0) && decide (1 < exponent)) = true := by simp [hexponent]
      rw [if_neg (by omega : ¬ exponent = 0), if_pos hhalf]
      omega
    · have hhalf : ¬ (decide (fraction = 0) && decide (1 < exponent)) = true := by
        simpa using hshort
      rw [if_neg hhalf]
      split <;> omega
  rw [hm, hhalf, ← Nat.sub_mul, ← Nat.sub_mul, show 4 * m - (4 * m - half) = half by omega,
    show 4 * m + 2 - 4 * m = 2 by omega]
  constructor
  · calc 4 * m * step < 10 ^ 16 * (2 * half) * step := Nat.mul_lt_mul_of_pos_right hlt.1 hstep
      _ = 10 ^ 16 * (2 * (half * step)) := by ring
  · calc 4 * m * step < 10 ^ 16 * 4 * step := Nat.mul_lt_mul_of_pos_right hlt.2 hstep
      _ = 10 ^ 16 * (2 * (2 * step)) := by ring

theorem unit_eq (magnitude : Nat) : (ofMagnitude magnitude).unit = 4 * Nat.pow 2 1074 := by
  simp only [ofMagnitude, ofParts]

theorem unit_pos (magnitude : Nat) : 0 < (ofMagnitude magnitude).unit := by
  rw [unit_eq]
  decide +kernel

/-- The least positive number is above ten to minus 331. -/
theorem unit_le (hpos : 0 < magnitude) :
    (ofMagnitude magnitude).unit ≤ (ofMagnitude magnitude).value * 10 ^ 331 := by
  have hpower : 4 * Nat.pow 2 1074 ≤ 4 * 10 ^ 331 := by decide +kernel
  have hdiv := Nat.div_add_mod magnitude 4503599627370496
  -- the value is a multiple of four, and not zero
  have hvalue : 4 ≤ (ofMagnitude magnitude).value := by
    unfold ofMagnitude ofParts
    dsimp only
    refine le_trans ?_ (Nat.le_mul_of_pos_right _ (Nat.pow_pos (by decide)))
    split <;> omega
  rw [unit_eq]
  exact hpower.trans (Nat.mul_le_mul_right _ hvalue)

/-- Seventeen digits are enough to meet the interval. -/
theorem onGrid_isSome_of_pow_le {k : Int} (hpos : 0 < magnitude)
    (hk : 10 ^ k.toNat * (ofMagnitude magnitude).unit ≤
      (ofMagnitude magnitude).value * 10 ^ (-k).toNat) :
    ∃ n, (ofMagnitude magnitude).onGrid (k - 16) = some n := by
  obtain ⟨hlow, hhigh⟩ := value_lt hpos
  have hunit := unit_pos magnitude
  generalize ofMagnitude magnitude = i at *
  have hgrow : 0 < 10 ^ (-(k - 16)).toNat := Nat.pow_pos (by decide)
  -- of `k` and `-k` one is cut off at zero, so the powers are moved to both sides
  have hpowers : 10 ^ (k - 16).toNat * 10 ^ 16 * 10 ^ (-k).toNat =
      10 ^ k.toNat * 10 ^ (-(k - 16)).toNat := by
    rw [← Nat.pow_add, ← Nat.pow_add, ← Nat.pow_add]
    congr 1
    omega
  have hstep : i.unit * 10 ^ (k - 16).toNat * 10 ^ 16 ≤ i.value * 10 ^ (-(k - 16)).toNat := by
    refine Nat.le_of_mul_le_mul_right ?_ (show 0 < 10 ^ (-k).toNat from Nat.pow_pos (by decide))
    calc i.unit * 10 ^ (k - 16).toNat * 10 ^ 16 * 10 ^ (-k).toNat
        = i.unit * (10 ^ (k - 16).toNat * 10 ^ 16 * 10 ^ (-k).toNat) := by ring
      _ = 10 ^ k.toNat * i.unit * 10 ^ (-(k - 16)).toNat := by rw [hpowers]; ring
      _ ≤ i.value * 10 ^ (-k).toNat * 10 ^ (-(k - 16)).toNat := Nat.mul_le_mul_right _ hk
      _ = i.value * 10 ^ (-(k - 16)).toNat * 10 ^ (-k).toNat := by ring
  -- either half of the interval is wider than half a step
  have hshort {width : Nat} (h : i.value < 10 ^ 16 * (2 * width)) :
      i.unit * 10 ^ (k - 16).toNat < 2 * (width * 10 ^ (-(k - 16)).toNat) := by
    refine Nat.lt_of_mul_lt_mul_right (a := 10 ^ 16) ?_
    calc i.unit * 10 ^ (k - 16).toNat * 10 ^ 16 ≤ i.value * 10 ^ (-(k - 16)).toNat := hstep
      _ < 10 ^ 16 * (2 * width) * 10 ^ (-(k - 16)).toNat := Nat.mul_lt_mul_of_pos_right h hgrow
      _ = 2 * (width * 10 ^ (-(k - 16)).toNat) * 10 ^ 16 := by ring
  exact onGrid_isSome hunit (hshort hlow) (hshort hhigh)

theorem contains_of_onGrid {i : Interval} {e : Int} {n : Nat} (h : i.onGrid e = some n) :
    i.contains n e = true := by
  -- whichever neighbour is chosen has been checked
  have hchoice (near far : Nat) (h : (if i.contains near e then some near
      else if i.contains far e then some far else none) = some n) : i.contains n e = true := by
    split at h
    · cases h
      assumption
    · split at h
      · cases h
        assumption
      · exact nomatch h
  exact hchoice _ _ h

end Interval

/-! ### The search -/

theorem leadingPower_spec {fuel : Nat} {k : Int} {value unit : Nat}
    (h : 10 ^ (k - fuel).toNat * unit ≤ value * 10 ^ (-(k - fuel)).toNat) :
    10 ^ (leadingPower fuel k value unit).toNat * unit ≤
      value * 10 ^ (-(leadingPower fuel k value unit)).toNat := by
  -- the lowest power that is tried satisfies the bound by assumption
  induction fuel generalizing k with
  | zero => simpa [leadingPower] using h
  | succ fuel ih =>
    unfold leadingPower
    simp only [Nat.pow_eq]
    split
    · assumption
    · refine ih ?_
      rwa [show k - 1 - (fuel : Int) = k - (fuel + 1 : Nat) by omega]

/-- The search ends at the latest at the grid of `last + 1` digits, if there is a point on that. -/
theorem holds_search {i : Interval} {power : Int} {last n : Nat}
    (hlast : i.onGrid (power - last) = some n) {fuel digits : Nat} (hdigits : 0 < digits)
    (hfuel : digits + fuel = last + 1) : i.Holds (search i power (fuel + 1) digits).value := by
  -- without fuel left the grid is the last one
  induction fuel generalizing digits with
  | zero =>
    have hgrid : i.onGrid (power - (digits - 1 : Nat)) = some n := by
      rwa [show digits - 1 = last by omega]
    unfold search
    dsimp only
    rw [hgrid]
    exact (i.contains_iff n _).mp (Interval.contains_of_onGrid hgrid)
  | succ fuel ih =>
    unfold search
    dsimp only
    cases hgrid : i.onGrid (power - (digits - 1 : Nat)) with
    | none => exact ih (Nat.succ_pos _) (by omega)
    | some m => exact (i.contains_iff m _).mp (Interval.contains_of_onGrid hgrid)

theorem value_trim (fuel : Nat) (d : Decimal) : (d.trim fuel).value = d.value := by
  induction fuel generalizing d with
  | zero => rfl
  | succ fuel ih =>
    unfold Decimal.trim
    split
    · rename_i hzero
      have hten : d.digits = d.digits / 10 * 10 := by
        have := of_decide_eq_true (Bool.and_eq_true_iff.mp hzero).1
        omega
      have hcast : (d.digits : ℚ) = (d.digits / 10 : Nat) * 10 := by exact_mod_cast hten
      rw [ih, Decimal.value, Decimal.value, hcast, zpow_add_one₀ (by norm_num)]
      ring
    · rfl

/-- The decimal of a number lies in its interval. -/
theorem holds_decimal {x : Binary64} (hx : x.isZero = false) :
    (Interval.ofMagnitude x.magnitude).Holds (decimal x).value := by
  have hpos : 0 < x.magnitude := Nat.pos_of_ne_zero (of_decide_eq_false hx)
  -- 640 steps down from 309 reach minus 331, below the least number
  have hpower : 10 ^ (leadingPower 640 309 (interval x).value (interval x).unit).toNat *
      (interval x).unit ≤ (interval x).value *
        10 ^ (-(leadingPower 640 309 (interval x).value (interval x).unit)).toNat := by
    refine leadingPower_spec ?_
    rw [interval_eq, show ((309 : Int) - (640 : Nat)).toNat = 0 from rfl,
      show (-((309 : Int) - (640 : Nat))).toNat = 331 from rfl, Nat.pow_zero, Nat.one_mul]
    exact Interval.unit_le hpos
  obtain ⟨n, hn⟩ := Interval.onGrid_isSome_of_pow_le hpos hpower
  unfold decimal
  dsimp only
  rw [value_trim]
  exact holds_search hn Nat.one_pos rfl

end ChainFeed.Shortest
