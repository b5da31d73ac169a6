import ChainFeed.Proofs.Decimal.Interval
import Mathlib.Tactic.NormNum

/-!
# Texts of floating-point numbers

The text of a number tells its sign, and its digits, point and exponent a decimal in the interval of
the number. Intervals do not overlap, so numbers with one text are one number.

## Main definitions

- `Decimal.ofChars`: the decimal that is written in a text

## Main results

- `value_ofChars_layout`: what is laid out can be read back
- `render_injective`: different numbers have different texts
-/

namespace ChainFeed.Shortest

/-! ### Digits -/

/-- The characters of a natural number. -/
def AllDigits (cs : List Char) : Prop :=
  ∀ c ∈ cs, c.isDigit = true

theorem allDigits_toDigits (n : Nat) : AllDigits (Nat.toDigits 10 n) :=
  fun _ hc => Nat.isDigit_of_mem_toDigits (by decide) (by decide) hc

theorem AllDigits.append {cs ds : List Char} (h : AllDigits cs) (h' : AllDigits ds) :
    AllDigits (cs ++ ds) := fun c hc =>
  (List.mem_append.mp hc).elim (h c) (h' c)

theorem AllDigits.ne {cs : List Char} {c d : Char} (h : AllDigits cs) (hc : c ∈ cs)
    (hd : d.isDigit = false) : c ≠ d := by
  rintro rfl
  rw [h c hc] at hd
  exact absurd hd Bool.noConfusion

theorem allDigits_replicate_zero (n : Nat) : AllDigits (List.replicate n '0') := by
  intro c hc
  rw [(List.mem_replicate.mp hc).2]
  rfl

/-! ### Reading a decimal -/

/-- The exponent behind the digits of a decimal, if there is one. -/
def exponentOf : List Char → Int
  | 'e' :: '+' :: digits => Nat.ofDigitChars 10 digits 0
  | 'e' :: '-' :: digits => -(Nat.ofDigitChars 10 digits 0 : Int)
  | _ => 0

/-- The decimal that is written in a text without a sign. -/
def Decimal.ofChars (cs : List Char) : Decimal :=
  let mantissa := cs.takeWhile (· != 'e')
  let whole := mantissa.takeWhile (· != '.')
  let fraction := (mantissa.dropWhile (· != '.')).tail
  ⟨Nat.ofDigitChars 10 (whole ++ fraction) 0,
    exponentOf (cs.dropWhile (· != 'e')) - fraction.length⟩

section Parts

variable {whole fraction tail : List Char}

/-- What may follow the digits: nothing, or an exponent. -/
def IsTail (tail : List Char) : Prop :=
  tail = [] ∨ ∃ rest, tail = 'e' :: rest

theorem takeWhile_append_tail {cs : List Char} (hcs : ∀ c ∈ cs, c ≠ 'e') (htail : IsTail tail) :
    (cs ++ tail).takeWhile (· != 'e') = cs ∧ (cs ++ tail).dropWhile (· != 'e') = tail := by
  have hall : ∀ c ∈ cs, (c != 'e') = true := fun c hc => bne_iff_ne.mpr (hcs c hc)
  rw [List.takeWhile_append_of_pos hall, List.dropWhile_append_of_pos hall]
  rcases htail with rfl | ⟨rest, rfl⟩ <;> simp

theorem ofChars_point (hwhole : AllDigits whole) (hfraction : AllDigits fraction)
    (htail : IsTail tail) :
    Decimal.ofChars (whole ++ '.' :: fraction ++ tail) =
      ⟨Nat.ofDigitChars 10 (whole ++ fraction) 0, exponentOf tail - fraction.length⟩ := by
  -- the mantissa has no exponent in it, and the whole part no point
  have hmantissa : ∀ c ∈ whole ++ '.' :: fraction, c ≠ 'e' := by
    intro c hc
    rcases List.mem_append.mp hc with hc | hc
    · exact hwhole.ne hc rfl
    · rcases List.mem_cons.mp hc with rfl | hc
      · decide
      · exact hfraction.ne hc rfl
  have hpoint : ∀ c ∈ whole, (c != '.') = true := fun c hc => bne_iff_ne.mpr (hwhole.ne hc rfl)
  obtain ⟨htake, hdrop⟩ := takeWhile_append_tail hmantissa htail
  unfold Decimal.ofChars
  rw [htake, hdrop]
  dsimp only
  rw [List.takeWhile_append_of_pos hpoint, List.dropWhile_append_of_pos hpoint]
  simp

theorem ofChars_whole (hwhole : AllDigits whole) (htail : IsTail tail) :
    Decimal.ofChars (whole ++ tail) = ⟨Nat.ofDigitChars 10 whole 0, exponentOf tail⟩ := by
  have hmantissa : ∀ c ∈ whole, c ≠ 'e' := fun c hc => hwhole.ne hc rfl
  have hpoint : ∀ c ∈ whole, (c != '.') = true := fun c hc => bne_iff_ne.mpr (hwhole.ne hc rfl)
  obtain ⟨htake, hdrop⟩ := takeWhile_append_tail hmantissa htail
  unfold Decimal.ofChars
  rw [htake, hdrop]
  dsimp only
  rw [← List.append_nil whole, List.takeWhile_append_of_pos hpoint,
    List.dropWhile_append_of_pos hpoint]
  simp

end Parts

/-! ### Layouts -/

/-- An exponent is written with its sign if it is far enough from zero to be written at all. -/
theorem exponentOf_toString {point : Int} (h : point ≤ -5 ∨ 16 < point) :
    exponentOf ('e' :: (if 0 < point then ['+'] else []) ++ (toString (point - 1)).toList) =
      point - 1 := by
  rw [Int.toString_eq_repr, Int.repr_eq_if]
  -- a negative exponent brings its own sign, a positive one is given one
  rcases h with h | h
  · rw [if_neg (by omega), if_neg (by omega), String.toList_append, Nat.toList_repr]
    show -((Nat.ofDigitChars 10 (Nat.toDigits 10 _) 0 : Nat) : Int) = _
    rw [Nat.ofDigitChars_ten_toDigits]
    omega
  · rw [if_pos (by omega), if_pos (by omega), Nat.toList_repr]
    show ((Nat.ofDigitChars 10 (Nat.toDigits 10 _) 0 : Nat) : Int) = _
    rw [Nat.ofDigitChars_ten_toDigits]
    omega

theorem Decimal.value_mul_ten (n k : Nat) (e : Int) :
    Decimal.value ⟨n * 10 ^ k, e⟩ = Decimal.value ⟨n, e + k⟩ := by
  simp only [Decimal.value]
  rw [zpow_add₀ (by norm_num), zpow_natCast]
  push_cast
  ring

/-- Digits that are laid out with a point can be read back. -/
theorem value_ofChars_layout {text : List Char} (hdigits : AllDigits text) (hne : text ≠ [])
    (point : Int) :
    (Decimal.ofChars (layout text point)).value =
      Decimal.value ⟨Nat.ofDigitChars 10 text 0, point - text.length⟩ := by
  have hzero (n : Nat) := allDigits_replicate_zero n
  unfold layout
  split
  · rename_i hrange
    have hpos : 0 < point ∧ point ≤ 16 := by simpa using hrange
    split
    · -- Zeros fill the place up to the point.
      rename_i hlength
      have hread := ofChars_point (hdigits.append (hzero (point.toNat - text.length))) (hzero 1)
        (.inl rfl)
      have hnumber : Nat.ofDigitChars 10
            (text ++ List.replicate (point.toNat - text.length) '0' ++ List.replicate 1 '0') 0 =
          Nat.ofDigitChars 10 text 0 * 10 ^ (point.toNat - text.length + 1) := by
        rw [Nat.ofDigitChars_append, Nat.ofDigitChars_append, Nat.ofDigitChars_replicate_zero,
          Nat.ofDigitChars_replicate_zero]
        ring
      rw [hnumber, List.append_nil] at hread
      rw [show ['.', '0'] = '.' :: List.replicate 1 '0' from rfl, hread, Decimal.value_mul_ten]
      congr 2
      simp [exponentOf]
      omega
    · -- The point stands between the digits.
      rename_i hlength
      have htake : AllDigits (text.take point.toNat) :=
        fun c hc => hdigits c (List.mem_of_mem_take hc)
      have hdrop : AllDigits (text.drop point.toNat) :=
        fun c hc => hdigits c (List.mem_of_mem_drop hc)
      have hread := ofChars_point htake hdrop (.inl rfl)
      rw [List.append_nil, List.take_append_drop] at hread
      rw [hread]
      congr 2
      simp [exponentOf]
      omega
  · split
    · -- Zeros stand between the point and the digits.
      rename_i hrange
      have hneg : -5 < point ∧ point ≤ 0 := by simpa using hrange
      have hread := ofChars_point (hzero 1) ((hzero (-point).toNat).append hdigits) (.inl rfl)
      have hnumber : Nat.ofDigitChars 10
            (List.replicate 1 '0' ++ (List.replicate (-point).toNat '0' ++ text)) 0 =
          Nat.ofDigitChars 10 text 0 := by
        rw [Nat.ofDigitChars_append, Nat.ofDigitChars_append, Nat.ofDigitChars_replicate_zero,
          Nat.ofDigitChars_replicate_zero, Nat.mul_zero]
      rw [hnumber, List.append_nil] at hread
      rw [show '0' :: '.' :: List.replicate (-point).toNat '0' ++ text =
        List.replicate 1 '0' ++ '.' :: (List.replicate (-point).toNat '0' ++ text) from rfl, hread]
      congr 2
      simp [exponentOf]
      omega
    · -- An exponent follows the digits.
      rename_i hrange hrange'
      have hfar : point ≤ -5 ∨ 16 < point := by
        simp at hrange hrange'
        omega
      have hexponent := exponentOf_toString hfar
      have htail : IsTail ('e' :: (if 0 < point then ['+'] else []) ++
        (toString (point - 1)).toList) := .inr ⟨_, rfl⟩
      match text, hne with
      | [d], _ =>
        dsimp only
        rw [List.append_assoc, ofChars_whole hdigits htail, hexponent]
        simp
      | d :: next :: rest, _ =>
        have hfirst : AllDigits [d] := fun c hc =>
          hdigits c (List.mem_cons.mpr (.inl (List.mem_singleton.mp hc)))
        have hrest : AllDigits (next :: rest) := fun c hc => hdigits c (List.mem_cons_of_mem d hc)
        dsimp only
        have hsplit : d :: '.' :: next :: rest = [d] ++ '.' :: (next :: rest) := rfl
        rw [List.append_assoc, hsplit,
          ofChars_point hfirst hrest htail, hexponent]
        congr 2
        simp
        omega

/-! ### Texts -/

/-- The text of a number without its sign. -/
def unsigned (x : Binary64) : List Char :=
  if x.isZero then ['0', '.', '0']
  else
    let text := Nat.toDigits 10 (decimal x).digits
    layout text ((decimal x).exponent + text.length)

theorem toList_render (x : Binary64) :
    (render x).toList = (if x.isNegative then ['-'] else []) ++ unsigned x := by
  unfold render unsigned
  dsimp only
  split
  · rw [String.toList_ofList]
  · rw [String.toList_ofList]

theorem layout_head {text : List Char} (hdigits : AllDigits text) (hne : text ≠ []) (point : Int) :
    ∃ c rest, layout text point = c :: rest ∧ c.isDigit = true := by
  obtain ⟨d, rest, rfl⟩ := List.exists_cons_of_ne_nil hne
  have hd : d.isDigit = true := hdigits d (List.mem_cons_self ..)
  unfold layout
  split
  · rename_i hrange
    have hpos : 0 < point ∧ point ≤ 16 := by simpa using hrange
    obtain ⟨n, hn⟩ : ∃ n, point.toNat = n + 1 := ⟨point.toNat - 1, by omega⟩
    split
    · exact ⟨d, _, rfl, hd⟩
    · rw [hn]
      exact ⟨d, _, rfl, hd⟩
  · split
    · exact ⟨'0', _, rfl, rfl⟩
    · cases rest <;> exact ⟨d, _, rfl, hd⟩

theorem unsigned_head (x : Binary64) : ∃ c rest, unsigned x = c :: rest ∧ c.isDigit = true := by
  unfold unsigned
  split
  · exact ⟨'0', _, rfl, rfl⟩
  · exact layout_head (allDigits_toDigits _) Nat.toDigits_ne_nil _

theorem value_unsigned (x : Binary64) : (Decimal.ofChars (unsigned x)).value =
    if x.isZero then 0 else (decimal x).value := by
  unfold unsigned
  split
  · show ((0 : Nat) : ℚ) * _ = 0
    rw [Nat.cast_zero, zero_mul]
  · dsimp only
    rw [value_ofChars_layout (allDigits_toDigits _) Nat.toDigits_ne_nil,
      Nat.ofDigitChars_ten_toDigits, Int.add_sub_cancel]

/-- No number but zero has zero in its interval. -/
theorem value_decimal_ne_zero {x : Binary64} (hx : x.isZero = false) : (decimal x).value ≠ 0 := by
  intro hzero
  have hpos : 0 < x.magnitude := Nat.pos_of_ne_zero (of_decide_eq_false hx)
  have hlow : 0 < (Interval.ofMagnitude x.magnitude).low :=
    Nat.lt_of_lt_of_le (Nat.zero_lt_of_lt (Interval.low_lt_high 0)) (Interval.high_le_low hpos)
  have hle := (holds_decimal hx).le.1
  rw [hzero, zero_mul] at hle
  exact absurd (Nat.cast_pos.mpr hlow) (not_lt.mpr hle)

theorem magnitude_eq_of_unsigned_eq {x y : Binary64} (h : unsigned x = unsigned y) :
    x.magnitude = y.magnitude := by
  have hvalue : (if x.isZero then 0 else (decimal x).value) =
      if y.isZero then 0 else (decimal y).value := by
    rw [← value_unsigned, ← value_unsigned, h]
  -- zero is laid out apart from the others, and is told from them by its value
  cases hx : x.isZero <;> cases hy : y.isZero <;>
    simp only [hx, hy, Bool.false_eq_true, if_true, if_false] at hvalue
  · have hholds := holds_decimal hx
    rw [hvalue] at hholds
    exact Interval.magnitude_unique hholds (holds_decimal hy)
  · exact absurd hvalue (value_decimal_ne_zero hx)
  · exact absurd hvalue.symm (value_decimal_ne_zero hy)
  · rw [of_decide_eq_true hx, of_decide_eq_true hy]

theorem eq_of_isNegative_of_magnitude {x y : Binary64} (hsign : x.isNegative = y.isNegative)
    (hmagnitude : x.magnitude = y.magnitude) : x = y := by
  obtain ⟨a⟩ := x
  obtain ⟨b⟩ := y
  have ha := a.toNat_lt
  have hb := b.toNat_lt
  -- the sign is the highest bit, the magnitude all others
  have hiff := decide_eq_decide.mp hsign
  unfold Binary64.magnitude at hmagnitude
  dsimp only at hiff hmagnitude
  congr 1
  exact UInt64.toNat_inj.mp (by omega)

/-- Different numbers have different texts. -/
theorem render_injective {x y : Binary64} (h : render x = render y) : x = y := by
  have hchars := congrArg String.toList h
  rw [toList_render, toList_render] at hchars
  obtain ⟨c, rest, hc, hdigit⟩ := unsigned_head x
  obtain ⟨d, rest', hd, hdigit'⟩ := unsigned_head y
  -- a text with a sign cannot begin with a digit
  have hminus : ('-').isDigit = false := rfl
  rw [hc, hd] at hchars
  cases hx : x.isNegative <;> cases hy : y.isNegative <;>
    simp only [hx, hy, Bool.false_eq_true, if_true, if_false, List.nil_append, List.cons_append,
      List.cons.injEq, true_and] at hchars
  · refine eq_of_isNegative_of_magnitude (hx.trans hy.symm) (magnitude_eq_of_unsigned_eq ?_)
    rw [hc, hd, hchars.1, hchars.2]
  · rw [hchars.1, hminus] at hdigit
    exact absurd hdigit Bool.noConfusion
  · rw [← hchars.1, hminus] at hdigit'
    exact absurd hdigit' Bool.noConfusion
  · refine eq_of_isNegative_of_magnitude (hx.trans hy.symm) (magnitude_eq_of_unsigned_eq ?_)
    rw [hc, hd, hchars.1, hchars.2]

end ChainFeed.Shortest
