import ChainFeed.Proofs.Decimal.Rounding

/-!
# Ratios that need no rounding

A ratio that lies on its grid is its own rounding. Every number of thirty-two bits is such a ratio:
its twenty-four significant bits fit into fifty-three, and its exponents are far from the limits of
sixty-four bits.

## Main definitions

- `Single.size`: the absolute value of a number of thirty-two bits

## Main results

- `Binary64.size_ofRatio`: a ratio on its grid is not rounded
- `Binary64.widen?_eq_some`: numbers of thirty-two bits keep sign and size
-/

namespace ChainFeed

/-! ### Numbers of thirty-two bits -/

namespace Single

variable {bits : UInt32}

/-- Whether the sign bit is set. -/
def isNegative (bits : UInt32) : Bool :=
  2147483648 ≤ bits.toNat

/-- The eight exponent bits. -/
def exponentBits (bits : UInt32) : Nat :=
  bits.toNat / 8388608 % 256

/-- Neither infinite nor undefined. -/
def isFinite (bits : UInt32) : Bool :=
  exponentBits bits < 255

/-- The significand, with its leading bit unless the number is subnormal. -/
def significand (bits : UInt32) : Nat :=
  if exponentBits bits = 0 then bits.toNat % 8388608 else bits.toNat % 8388608 + 8388608

/-- The absolute value of a finite number. -/
def size (bits : UInt32) : ℚ :=
  (significand bits * 2 ^ (exponentBits bits - 1) : Nat) / 2 ^ 149

theorem significand_lt (bits : UInt32) : significand bits < 2 ^ 24 := by
  have := Nat.mod_lt bits.toNat (show 0 < 8388608 by decide)
  unfold significand
  split <;> omega

theorem exponentBits_lt (bits : UInt32) : exponentBits bits < 256 :=
  Nat.mod_lt _ (by decide)

end Single

namespace Binary64

variable {num den : Nat} {negative : Bool}

theorem roundRatio_mul (n : Nat) (hden : 0 < den) : roundRatio (n * den) den = n :=
  Nat.le_antisymm (roundRatio_le hden le_rfl) (le_roundRatio hden le_rfl)

/-- A ratio that is a whole number of steps of its grid is not rounded. -/
theorem size_ofRatio (hden : 0 < den) (hfinite : (ofRatio negative num den).isFinite = true)
    (hgrid : den * Nat.pow 2 (leadingBit num den - 52) ∣ num * Nat.pow 2 1074) :
    (ofRatio negative num den).size = num / den := by
  unfold ofRatio leadingBit at *
  by_cases hnum : num = 0
  · rw [if_pos hnum, hnum, size_zero, Nat.cast_zero, zero_div]
  · rw [if_neg hnum] at hfinite ⊢
    generalize htotal : num * Nat.pow 2 1074 = total at hfinite hgrid ⊢
    rw [div_eq_in_units htotal den]
    have hspec := grid_spec total hden
    dsimp only at hfinite hspec ⊢
    generalize Nat.log2 (total / den) - 52 = scale at hfinite hgrid hspec ⊢
    obtain ⟨n, rfl⟩ := hgrid
    have hstep : 0 < den * Nat.pow 2 scale := Nat.mul_pos hden (Nat.pow_pos (by decide))
    have hround := roundRatio_mul n hstep
    rw [Nat.mul_comm n] at hround
    rw [hround] at hfinite hspec ⊢
    obtain ⟨hle, hcases⟩ := hspec
    rw [size_ofMagnitude (isFinite_ofMagnitude_iff.mp hfinite) hle (hcases.imp And.left And.left),
      Nat.pow_eq, Nat.mul_assoc, Nat.mul_comm (2 ^ scale), Nat.cast_mul den,
      mul_div_mul_left _ _ (by positivity)]

theorem short_lt {m k a b : Nat} (hm : m < 2 ^ 53) (hk : 53 + k ≤ a + b) :
    m * Nat.pow 2 k < Nat.pow 2 a * 2 ^ b :=
  calc m * 2 ^ k < 2 ^ 53 * 2 ^ k := Nat.mul_lt_mul_of_pos_right hm (Nat.pow_pos (by decide))
    _ = 2 ^ (53 + k) := (Nat.pow_add _ _ _).symm
    _ ≤ 2 ^ (a + b) := Nat.pow_le_pow_right (by decide) hk
    _ = 2 ^ a * 2 ^ b := Nat.pow_add _ _ _

/-- The grid of a short significand is as fine as its own power of two. -/
theorem log2_sub_le {m e : Nat} (hm : m < 2 ^ 53) : Nat.log2 (m * 2 ^ e) - 52 ≤ e := by
  by_cases hzero : m = 0
  · rw [hzero, Nat.zero_mul, Nat.log2_zero, Nat.zero_sub]
    exact Nat.zero_le e
  · have hne : m * 2 ^ e ≠ 0 := Nat.mul_ne_zero hzero (Nat.pow_pos (by decide)).ne'
    have hlog : Nat.log2 (m * 2 ^ e) < 53 + e := by
      rw [Nat.log2_lt hne, Nat.pow_add]
      exact Nat.mul_lt_mul_of_pos_right hm (Nat.pow_pos (by decide))
    omega

/-- A short significand is not rounded, as long as its power of two is in range. -/
theorem size_ofRatio_of_short {m k a b : Nat} (hm : m < 2 ^ 53) (hk : 53 + k ≤ a + 1023)
    (hb : a + b = 1074) :
    (ofRatio negative (m * Nat.pow 2 k) (Nat.pow 2 a)).size = (m * 2 ^ k : Nat) / 2 ^ a := by
  have hden : 0 < Nat.pow 2 a := Nat.pow_pos (by decide)
  -- the ratio counts steps of the least positive number
  have htotal : m * Nat.pow 2 k * Nat.pow 2 1074 = m * 2 ^ (k + b) * Nat.pow 2 a := by
    rw [← hb]
    simp only [Nat.pow_eq, Nat.pow_add]
    ring
  have hleading : leadingBit (m * Nat.pow 2 k) (Nat.pow 2 a) - 52 ≤ k + b := by
    rw [leadingBit, htotal, Nat.mul_div_cancel _ hden]
    exact log2_sub_le hm
  rw [size_ofRatio hden (isFinite_ofRatio hden (short_lt hm hk))]
  · simp only [Nat.pow_eq, Nat.cast_pow, Nat.cast_ofNat]
  · obtain ⟨more, hmore⟩ := Nat.exists_eq_add_of_le hleading
    rw [htotal, hmore, Nat.pow_add]
    simp only [Nat.pow_eq]
    exact ⟨m * 2 ^ more, by ring⟩

theorem widen?_eq_none {bits : UInt32} (h : Single.isFinite bits = false) :
    widen? bits = none := by
  have hlt := Single.exponentBits_lt bits
  have hall : Single.exponentBits bits = 255 := by
    rw [Single.isFinite, decide_eq_false_iff_not] at h
    omega
  exact if_pos hall

/-- A finite number of thirty-two bits has a number of sixty-four bits of its sign and size. -/
theorem widen?_eq_some {bits : UInt32} (h : Single.isFinite bits = true) :
    ∃ x, widen? bits = some x ∧ x.isFinite = true ∧ x.isNegative = Single.isNegative bits ∧
      x.size = Single.size bits := by
  have hexponent : Single.exponentBits bits < 255 := of_decide_eq_true h
  have hshort : Single.significand bits < 2 ^ 53 :=
    (Single.significand_lt bits).trans (by decide)
  have hwiden : widen? bits = some (ofRatio (Single.isNegative bits)
      (Single.significand bits * Nat.pow 2 (Single.exponentBits bits - 1)) (Nat.pow 2 149)) := by
    have hne : Single.exponentBits bits ≠ 255 := hexponent.ne
    unfold Single.exponentBits at hne
    unfold widen? Single.significand Single.exponentBits
    dsimp only
    rw [if_neg hne]
    -- a subnormal number has the power of the least normal ones
    split
    · rename_i hzero
      rw [hzero, show Nat.pow 2 (0 - 1) = 1 from rfl, Nat.mul_one]
      rfl
    · rfl
  have hden : 0 < Nat.pow 2 149 := Nat.pow_pos (by decide)
  refine ⟨_, hwiden, isFinite_ofRatio hden (short_lt hshort (by omega)),
    isNegative_ofRatio _ _ _, ?_⟩
  exact size_ofRatio_of_short hshort (by omega) (show 149 + 925 = 1074 from rfl)

end Binary64

end ChainFeed
