import ChainFeed.Proofs.Filter.Integers
import ChainFeed.Proofs.Json.Accuracy

/-!
# Integers beside number literals

The value of a filter may be any number literal, and a payload may carry an integer of any length.
The two are compared as they are read. As long as both are words, that is exact. Otherwise both are
rounded to floating point, so that an integer matches other numbers too, though only such as are
close to it; and a literal with a fraction or an exponent may miss the integer that it denotes,
since it is rounded in more than one step.

## Main definitions

- `Json.Writes`: a value carries an integer of any length
- `Json.Comparison`: how an integer compares with a literal

## Main results

- `Json.matchesFilterValue_iff_sameValue`: what is compared are readings
- `Json.comparison_of_writes`: what a match says of the numbers
- `Json.passes_other_amount`: a match and a miss that are wrong
-/

namespace ChainFeed

open Number (IsWord Literal)

variable {actual : Json} {a b : Int} {m n : Number} {literal : Literal} {text : List UInt8}

/-! ### Comparison -/

/-- A JSON value carries an integer of any length: as the number that its numeral is read as, or as
the numeral itself. -/
inductive Json.Writes : Json → Int → Prop
  | number {m : Number} {a : Int} (h : Number.ofBytes? (Utf8.encode (toString a)) = some m) :
    Writes (.number m) a
  | numeral (a : Int) : Writes (.string (toString a)) a

namespace Json

/-- What is compared are readings. -/
theorem matchesFilterValue_iff_sameValue (h : actual.Writes a) :
    actual.matchesFilterValue (.number n) = true ↔
      ∃ m, (Literal.ofInt a).value? = some m ∧ m.sameValue n = true := by
  have hread : Number.ofBytes? (Utf8.encode (toString a)) = (Literal.ofInt a).value? := by
    rw [Number.ofBytes?, Literal.scan_toString]
  cases h with
  | number h =>
    rw [hread] at h
    rw [h, matchesFilterValue]
    simp
  | numeral =>
    rw [matchesFilterValue, hread]
    cases (Literal.ofInt a).value? <;> simp

theorem Writes.matches_of_eq (h : actual.Writes a) (hvalue : (Literal.ofInt a).value? = some n) :
    actual.matchesFilterValue (.number n) = true :=
  (matchesFilterValue_iff_sameValue h).mpr ⟨n, hvalue, n.sameValue_refl⟩

/-- The value of a payload that carries `a` beside that of a filter, which is written as a literal
and read as `n`. -/
structure Comparison (actual : Json) (a : Int) (literal : Literal) (n : Number) : Prop where
  /-- What is compared are the numbers that the numeral and the literal are read as. -/
  read : actual.matchesFilterValue (.number n) = true ↔
    ∃ m, (Literal.ofInt a).value? = some m ∧ m.sameValue n = true
  /-- Words match exactly if they are the same. -/
  word : IsWord a → ∀ b, n = .integer b →
    (actual.matchesFilterValue (.number n) = true ↔ literal.value = a)
  /-- An integer that is written without fraction and exponent is never missed. -/
  complete : literal.fraction = none → literal.exponent = none → literal.value = a →
    actual.matchesFilterValue (.number n) = true
  /-- What matches is close. -/
  close : actual.matchesFilterValue (.number n) = true →
    |literal.value - a| ≤ |(a : ℚ)| / 2 ^ 49 + 4 / 10 ^ 200
  /-- A small integer matches no other integer. -/
  small : |a| < 2 ^ 48 → ∀ b : Int, literal.value = b →
    actual.matchesFilterValue (.number n) = true → b = a
  /-- A message that passes a filter through the literal carries a number close to it. -/
  passes : ∀ (session : Session) (message : Message) (filter : MessageFilter) (payload : Json)
    (path : String), session.Coherent → message ∈ session.pair.messages →
    (path, .number n) ∈ filter.values.getD [] →
    session.registry.decode message.typeUrl message.value = .ok payload →
    payload.atPath? path = some actual → (session.acceptsMessage (some filter) message).1 = true →
    |literal.value - a| ≤ |(a : ℚ)| / 2 ^ 49 + 4 / 10 ^ 200

theorem Writes.close (h : actual.Writes a) (hliteral : literal.Wellformed)
    (hvalue : literal.value? = some n) (hmatches : actual.matchesFilterValue (.number n) = true) :
    |literal.value - a| ≤ |(a : ℚ)| / 2 ^ 49 + 4 / 10 ^ 200 := by
  obtain ⟨m, hm, hsame⟩ := (matchesFilterValue_iff_sameValue h).mp hmatches
  have hnear := Literal.near_of_sameValue (Literal.wellformed_ofInt a) hliteral hm hvalue hsame
  rw [Literal.value_ofInt, Number.tiny, mul_one_div] at hnear
  exact hnear

/-- An integer that is close to a small one is that one. -/
theorem eq_of_close (ha : |a| < 2 ^ 48)
    (hclose : |(b : ℚ) - a| ≤ |(a : ℚ)| / 2 ^ 49 + 4 / 10 ^ 200) : b = a := by
  have habs : |(a : ℚ)| < 2 ^ 48 := by exact_mod_cast ha
  have hrest : (4 / 10 ^ 200 : ℚ) < 1 / 2 := by
    rw [div_lt_div_iff₀ (by positivity) (by norm_num)]
    calc (4 * 2 : ℚ) < 1 * 10 ^ 1 := by norm_num
      _ ≤ 1 * 10 ^ 200 := mul_le_mul_of_nonneg_left
        (pow_le_pow_right₀ (by norm_num) (by decide)) zero_le_one
  have hlt : |(b : ℚ) - a| < 1 := by
    have hhalf : |(a : ℚ)| / 2 ^ 49 < 1 / 2 := by
      rw [div_lt_iff₀ (by norm_num)]
      linarith
    linarith
  have hlt' : |b - a| < 1 := by exact_mod_cast hlt
  have := Int.abs_lt_one_iff.mp hlt'
  omega

/-- Whatever integer a payload carries and whatever literal a filter has, a match is exact between
words, and otherwise one of rounded numbers. -/
theorem comparison_of_writes (h : actual.Writes a) (hscan : Literal.scan text = some (literal, []))
    (hvalue : literal.value? = some n) : Comparison actual a literal n := by
  have hliteral := Literal.wellformed_of_scan hscan
  have hclose := h.close hliteral hvalue
  exact {
    read := matchesFilterValue_iff_sameValue h
    word := by
      rintro hword b rfl
      rw [matchesFilterValue_iff_sameValue h, Literal.value?_ofInt hword,
        Literal.value_of_value?_integer hvalue, Int.cast_inj]
      constructor
      · rintro ⟨m, hm, hsame⟩
        obtain rfl := Option.some.inj hm
        exact (of_decide_eq_true hsame).symm
      · rintro rfl
        exact ⟨_, rfl, Number.sameValue_refl _⟩
    complete := by
      intro hfraction hexponent hdenotes
      rcases Literal.eq_ofInt_or hliteral hfraction hexponent hdenotes with rfl | ⟨rfl, rfl⟩
      · exact h.matches_of_eq hvalue
      -- minus zero is read as a floating-point number
      · have hzero : (⟨true, [0], none, none⟩ : Literal).value? =
            some (.float (.zero true)) := by decide +kernel
        rw [hzero] at hvalue
        obtain rfl := Option.some.inj hvalue
        exact (matchesFilterValue_iff_sameValue h).mpr
          ⟨.integer 0, Literal.value?_ofInt (by decide), by decide +kernel⟩
    close := hclose
    small := fun ha b hb hmatches => eq_of_close ha (hb ▸ hclose hmatches)
    passes := by
      intro session message filter payload path hsession hmessage hentry hpayload hpath haccepts
      obtain ⟨-, haccepted⟩ := (hsession.acceptsMessage_iff hmessage).mp haccepts
      have hneeds : filter.needsPayload = true := by
        rw [MessageFilter.needsPayload, Bool.or_eq_true]
        left
        cases hvalues : filter.values.getD [] with
        | nil =>
          rw [hvalues] at hentry
          exact absurd hentry List.not_mem_nil
        | cons => rfl
      obtain ⟨other, hother, hall⟩ := haccepted hneeds
      rw [hpayload] at hother
      obtain rfl := Except.ok.inj hother
      have hvalue : filter.acceptsPayload payload = true := hall
      rw [MessageFilter.acceptsPayload, Bool.and_eq_true] at hvalue
      have hmatches : MessageFilter.hasValue payload path (.number n) = true :=
        List.all_eq_true.mp hvalue.1 _ hentry
      unfold MessageFilter.hasValue at hmatches
      rw [hpath] at hmatches
      exact hclose hmatches }

/-! ### A match and a miss that are wrong -/

/-- Two to the sixty-four, the least number that is no word any more. -/
def beyondWords : Number :=
  .float ⟨4895412794951729152⟩

theorem value?_beyondWords : (Literal.ofInt 18446744073709551616).value? = some beyondWords := by
  decide +kernel

/-- A payload with one more than the literal matches, and has a number close to it. -/
theorem comparison_beyondWords :
    Writes (.string (toString (18446744073709551617 : Int))) 18446744073709551617 ∧
      Literal.scan (Utf8.encode (toString (18446744073709551616 : Int))) =
        some (.ofInt 18446744073709551616, []) ∧
      (Literal.ofInt 18446744073709551616).value? = some beyondWords ∧
      |(Literal.ofInt 18446744073709551616).value - (18446744073709551617 : Int)| ≤
        |((18446744073709551617 : Int) : ℚ)| / 2 ^ 49 + 4 / 10 ^ 200 := by
  have hwrites : Writes (.string (toString (18446744073709551617 : Int))) 18446744073709551617 :=
    .numeral _
  have hscan := Literal.scan_toString 18446744073709551616
  have hmatches : (Json.string (toString (18446744073709551617 : Int))).matchesFilterValue
      (.number beyondWords) = true := by decide +kernel
  exact ⟨hwrites, hscan, value?_beyondWords,
    (comparison_of_writes hwrites hscan value?_beyondWords).close hmatches⟩

/-- Ten times 9007199254741001, with an exponent. -/
def tenfold : Literal :=
  ⟨false, [9, 0, 0, 7, 1, 9, 9, 2, 5, 4, 7, 4, 1, 0, 0, 1], none, some (false, [1])⟩

theorem value_tenfold : tenfold.value = (90071992547410010 : Int) := by
  norm_num [tenfold, Literal.value, Literal.size, Literal.power, Number.ofDigits]

/-- A filter lets another amount pass, and misses the one it names. -/
theorem passes_other_amount :
    -- an amount that is one more than the literal
    ((Literal.ofInt 18446744073709551616).value? = some beyondWords ∧
      (Literal.ofInt 18446744073709551616).value ≠ (18446744073709551617 : Int) ∧
      MessageFilter.acceptsPayload
        ⟨"/t.Transfer", some [("amount", .number beyondWords)], none, none⟩
        (.object [("amount", .string "18446744073709551617")]) = true) ∧
    -- an amount that is the same as the literal
    (Literal.scan (Utf8.encode "9007199254741001e1") = some (tenfold, []) ∧
      tenfold.value = (90071992547410010 : Int) ∧
      ∃ n, tenfold.value? = some n ∧
        (Json.int 90071992547410010).matchesFilterValue (.number n) = false) := by
  refine ⟨⟨value?_beyondWords, ?_, by decide +kernel⟩, by rfl, value_tenfold,
    .float ⟨4860509897839607813⟩, by decide +kernel, by decide +kernel⟩
  rw [Literal.value_ofInt]
  norm_num

end Json

end ChainFeed
