import ChainFeed.Proofs.Text.Integer
import ChainFeed.Proofs.Time.Calendar
import ChainFeed.Time.Rfc3339

/-!
# Written times and back

RFC 3339 has years of four digits and leaves it to the writer how many digits the second has behind
its point. Every such form of an instant is read as that instant.

## Main definitions

- `Instant.IsOrdinary`: instants of years with four digits, outside of leap seconds
- `Instant.Spelled`: the texts that stand for an instant

## Main results

- `Instant.parse?_of_spelled`: each of them is read as the instant
- `Instant.spelled_render`: the written form is one of them
-/

namespace ChainFeed.Instant

/-! ### Forms -/

/-- A year of four digits, and a second of its own. -/
structure IsOrdinary (t : Instant) : Prop where
  year_nonneg : 0 ≤ (Date.ofDays (t.seconds / 86400)).year
  year_le : (Date.ofDays (t.seconds / 86400)).year ≤ 9999
  nanos_lt : t.nanos < 1000000000

/-- A fraction of a second with its point, in a number of digits; none without digits. -/
def pointed (places nanos : Nat) : List Char :=
  if places = 0 then [] else '.' :: padded places (nanos / 10 ^ (9 - places))

/-- The form of an instant with a number of digits behind the point of the second. -/
def charsWith (places : Nat) (t : Instant) : List Char :=
  let secondOfDay := (t.seconds % 86400).toNat
  dateChars (Date.ofDays (t.seconds / 86400)) ++ 'T' :: (padded 2 (secondOfDay / 3600) ++
    ':' :: (padded 2 (secondOfDay / 60 % 60) ++ ':' :: (padded 2 (secondOfDay % 60) ++
      (pointed places t.nanos ++ ['Z']))))

/-- The texts that stand for an instant: as many digits of the second as it takes, or more. -/
def Spelled (t : Instant) (s : String) : Prop :=
  ∃ places ≤ 9, t.nanos % 10 ^ (9 - places) = 0 ∧ s.toList = charsWith places t

/-! ### Numbers of a given width -/

section Padded

variable {width n : Nat} {rest : List Char}

theorem isDigit_of_mem_padded {c : Char} (h : c ∈ padded width n) : c.isDigit = true := by
  rcases List.mem_append.mp h with hzero | hdigit
  · rw [(List.mem_replicate.mp hzero).2]
    rfl
  · exact Integer.isDigit_of_mem_toDigits hdigit

theorem padded_ne_nil : padded width n ≠ [] :=
  List.append_ne_nil_of_right_ne_nil _ Nat.toDigits_ne_nil

/-- A number starts with a digit. -/
theorem padded_eq_cons (width n : Nat) :
    ∃ c cs, padded width n = c :: cs ∧ c.isDigit = true := by
  obtain ⟨c, cs, hcs⟩ := List.exists_cons_of_ne_nil (padded_ne_nil : padded width n ≠ [])
  exact ⟨c, cs, hcs, isDigit_of_mem_padded (hcs ▸ List.mem_cons_self)⟩

theorem length_padded (hwidth : 0 < width) (h : n < 10 ^ width) :
    (padded width n).length = width := by
  have hlength := (Nat.length_toDigits_le_iff (by decide) hwidth).mpr h
  rw [padded, List.length_append, List.length_replicate]
  omega

theorem digits?_padded : Integer.digits? (padded width n) = some n := by
  -- zeros in front leave nothing to carry over
  have hzeros (k : Nat) : Nat.ofDigitChars 10 (List.replicate k '0') 0 = 0 := by
    induction k with
    | zero => rfl
    | succ k ih =>
      rw [List.replicate_succ, Nat.ofDigitChars_cons]
      exact ih
  rw [Integer.digits?_eq (fun _ => isDigit_of_mem_padded) padded_ne_nil, padded,
    Nat.ofDigitChars_append, hzeros, Nat.ofDigitChars_ten_toDigits]

theorem isBlank_of_isDigit {c : Char} (h : c.isDigit = true) : isBlank c = false := by
  rw [Char.isDigit, Bool.and_eq_true, decide_eq_true_eq, decide_eq_true_eq] at h
  have hlow : 48 ≤ c.toNat := h.1
  have hhigh : c.toNat ≤ 57 := h.2
  simp only [isBlank, Bool.or_eq_false_iff, Bool.and_eq_false_iff, decide_eq_false_iff_not]
  omega

/-- No digit is blank, so that there is nothing to drop in front of a number. -/
theorem trimFront_padded : trimFront (padded width n ++ rest) = padded width n ++ rest := by
  obtain ⟨c, cs, hcs, hdigit⟩ := padded_eq_cons width n
  rw [hcs, List.cons_append, trimFront, List.dropWhile_cons, isBlank_of_isDigit hdigit]
  rfl

/-- A number ends where its width does, or where no digit stands. -/
theorem scanNumber_padded {limit : Nat} (hwidth : 0 < width) (h : n < 10 ^ width)
    (hlimit : limit = width ∨ width ≤ limit ∧ ∃ c cs, rest = c :: cs ∧ c.isDigit = false) :
    scanNumber limit (padded width n ++ rest) = some (n, rest) := by
  have hlength := length_padded hwidth h
  have hall : ∀ c ∈ padded width n, (Integer.digit? c).isSome = true := fun c hc => by
    rw [Integer.digit?_of_isDigit (isDigit_of_mem_padded hc)]
    rfl
  have hle : width ≤ limit := hlimit.elim (fun h => Nat.le_of_eq h.symm) And.left
  have hend : (rest.take (limit - width)).takeWhile (fun c => (Integer.digit? c).isSome) = [] := by
    rcases hlimit with rfl | ⟨-, c, cs, rfl, hc⟩
    · rw [Nat.sub_self, List.take_zero, List.takeWhile_nil]
    · cases limit - width with
      | zero => rfl
      | succ k => rw [List.take_succ_cons, List.takeWhile_cons, Integer.digit?_eq_none hc]; rfl
  have htake : ((padded width n ++ rest).take limit).takeWhile
      (fun c => (Integer.digit? c).isSome) = padded width n := by
    rw [List.take_append, hlength, List.take_of_length_le (hlength.trans_le hle),
      List.takeWhile_append_of_pos hall, hend, List.append_nil]
  rw [scanNumber, htake, digits?_padded, Option.map_some, List.drop_left]

/-- A field of two digits. -/
theorem scanField_padded {low high : Nat} (hlow : low ≤ n) (hhigh : n ≤ high) (h : n < 100) :
    scanField low high (padded 2 n ++ rest) = some (n, rest) := by
  rw [scanField, trimFront_padded, scanNumber_padded (by decide) h (.inl rfl)]
  simp [hlow, hhigh]

end Padded

/-! ### Parts of a written time -/

theorem scanMark_cons {mark : Char} {cs : List Char} (h : isBlank mark = false) :
    scanMark mark (mark :: cs) = some cs := by
  rw [scanMark, trimFront, List.dropWhile_cons, h]
  exact if_pos rfl

theorem scanYear_yearChars {year : Int} {rest : List Char} (h : 0 ≤ year) (h' : year ≤ 9999) :
    scanYear (yearChars year ++ rest) = some (year, rest) := by
  rw [yearChars, if_neg (by omega), if_neg (by omega), scanYear, trimFront_padded]
  obtain ⟨c, cs, hcs, hdigit⟩ := padded_eq_cons 4 year.natAbs
  have hnumber : scanNumber 4 (padded 4 year.natAbs ++ rest) = some (year.natAbs, rest) :=
    scanNumber_padded (by decide) (by omega) (.inl rfl)
  rw [hcs, List.cons_append] at hnumber ⊢
  split
  · rename_i heq
    rw [(List.cons.inj heq).1] at hdigit
    exact absurd hdigit (by decide)
  · rename_i heq
    rw [(List.cons.inj heq).1] at hdigit
    exact absurd hdigit (by decide)
  · rw [hnumber]
    exact congrArg (fun year => some (year, rest)) (Int.natAbs_of_nonneg h)

/-- A day that its month has is read from its form. -/
theorem scanDate_dateChars {date : Date} {rest : List Char} (hyear : 0 ≤ date.year)
    (hyear' : date.year ≤ 9999) (hvalid : date.isValid = true) :
    scanDate (dateChars date ++ rest) = some (date, rest) := by
  have hfields := hvalid
  simp only [Date.isValid, Bool.and_eq_true, decide_eq_true_eq] at hfields
  obtain ⟨⟨⟨hmonth, hmonth'⟩, hday⟩, hday'⟩ := hfields
  have hday'' : date.day ≤ 31 := by
    refine hday'.trans ?_
    rw [Date.daysInMonth]
    split_ifs <;> decide
  simp only [scanDate, dateChars, List.append_assoc, List.cons_append, Option.bind_eq_bind,
    scanYear_yearChars hyear hyear', Option.bind_some,
    scanMark_cons (show isBlank '-' = false from rfl),
    scanField_padded hmonth hmonth' (show date.month < 100 by omega),
    scanField_padded hday hday'' (show date.day < 100 by omega), hvalid, if_true]
  rfl

/-- The digits of a second, however many zeros end them. -/
theorem scanFraction_pointed {places nanos : Nat} (hplaces : places ≤ 9) (h : nanos < 1000000000)
    (hzeros : nanos % 10 ^ (9 - places) = 0) (rest : List Char) :
    scanFraction (pointed places nanos ++ 'Z' :: rest) = some (nanos, 'Z' :: rest) := by
  by_cases hnone : places = 0
  · subst hnone
    have : nanos = 0 := by simpa [Nat.mod_eq_of_lt h] using hzeros
    rw [pointed, if_pos rfl, this]
    rfl
  · have hpow : 10 ^ places * 10 ^ (9 - places) = 1000000000 := by
      rw [← Nat.pow_add, Nat.add_sub_cancel' hplaces]
    have hdigits : nanos / 10 ^ (9 - places) < 10 ^ places :=
      Nat.div_lt_of_lt_mul (by rw [Nat.mul_comm, hpow]; exact h)
    have hlength := length_padded (Nat.pos_of_ne_zero hnone) hdigits
    have hnumber : scanNumber 9 (padded places (nanos / 10 ^ (9 - places)) ++ 'Z' :: rest) =
        some (nanos / 10 ^ (9 - places), 'Z' :: rest) :=
      scanNumber_padded (Nat.pos_of_ne_zero hnone) hdigits (.inr ⟨hplaces, 'Z', rest, rfl, rfl⟩)
    rw [pointed, if_neg hnone, List.cons_append, scanFraction, hnumber]
    have hcount : (padded places (nanos / 10 ^ (9 - places)) ++ 'Z' :: rest).length -
        ('Z' :: rest).length = places := by
      rw [List.length_append, hlength, Nat.add_sub_cancel]
    have hwhole : nanos / 10 ^ (9 - places) * 10 ^ (9 - places) = nanos :=
      Nat.div_mul_cancel (Nat.dvd_of_mod_eq_zero hzeros)
    simp only [Option.bind_eq_bind, Option.bind_some, hcount]
    exact congrArg (fun n => some (n, 'Z' :: rest)) hwhole

/-! ### Whole times -/

variable {t : Instant}

theorem scanClock_clockChars {places second nanos : Nat} (hsecond : second < 86400)
    (hplaces : places ≤ 9) (h : nanos < 1000000000) (hzeros : nanos % 10 ^ (9 - places) = 0) :
    scanClock (padded 2 (second / 3600) ++ ':' :: (padded 2 (second / 60 % 60) ++
      ':' :: (padded 2 (second % 60) ++ (pointed places nanos ++ ['Z'])))) =
      some ((second, nanos), ['Z']) := by
  have hmark : isBlank ':' = false := rfl
  simp only [scanClock, Option.bind_eq_bind, Option.bind_some, scanMark_cons hmark,
    scanField_padded (Nat.zero_le (second / 3600)) (show second / 3600 ≤ 23 by omega) (by omega),
    scanField_padded (Nat.zero_le (second / 60 % 60)) (show second / 60 % 60 ≤ 59 by omega)
      (by omega),
    scanField_padded (Nat.zero_le (second % 60)) (show second % 60 ≤ 60 by omega) (by omega),
    scanFraction_pointed hplaces h hzeros]
  rw [if_neg (by omega)]
  have hsum : second / 3600 * 3600 + second / 60 % 60 * 60 + second % 60 = second := by omega
  rw [hsum]
  rfl

/-- Years of four digits lie within the limits. -/
theorem IsOrdinary.inRange (h : t.IsOrdinary) : t.inRange = true := by
  have hfirst : firstSecond ≤ -62167219200 := by decide
  have hlast : 253402300799 ≤ lastSecond := by decide
  suffices hdays : -719528 ≤ t.seconds / 86400 ∧ t.seconds / 86400 ≤ 2932896 by
    rw [Instant.inRange, Bool.and_eq_true, decide_eq_true_eq, decide_eq_true_eq]
    omega
  have hvalid := Date.isValid_ofDays (t.seconds / 86400)
  have hdays := Date.toDays_ofDays (t.seconds / 86400)
  obtain ⟨hlow, hhigh, -⟩ := h
  generalize Date.ofDays (t.seconds / 86400) = date at hlow hhigh hdays hvalid
  obtain ⟨year, month, day⟩ := date
  simp only [Date.isValid, Bool.and_eq_true, decide_eq_true_eq] at hvalid
  obtain ⟨⟨⟨hmonth, hmonth'⟩, hday⟩, hday'⟩ := hvalid
  have hday'' : day ≤ 31 := by
    refine hday'.trans ?_
    rw [Date.daysInMonth]
    split_ifs <;> decide
  dsimp only at hlow hhigh
  simp only [Date.toDays] at hdays
  split at hdays <;> omega

/-- Every form of an instant is read as that instant. -/
theorem parse?_of_spelled {s : String} (ht : t.IsOrdinary) (hs : t.Spelled s) :
    parse? s = some t := by
  obtain ⟨places, hplaces, hzeros, hlist⟩ := hs
  have hday := Date.isValid_ofDays (t.seconds / 86400)
  have hclock := scanClock_clockChars (show (t.seconds % 86400).toNat < 86400 by omega) hplaces
    ht.nanos_lt hzeros
  have hseconds : Date.toDays (Date.ofDays (t.seconds / 86400)) * 86400 +
      ((t.seconds % 86400).toNat : Int) = t.seconds := by
    rw [Date.toDays_ofDays]
    omega
  have hrange := ht.inRange
  rw [parse?, parseChars?, hlist, charsWith]
  simp only [scanDate_dateChars ht.year_nonneg ht.year_le hday, Option.bind_eq_bind,
    Option.bind_some]
  rw [if_pos (show isDateEnd 'T' = true from rfl), hclock, Option.bind_some]
  -- the offset is none, so that the instant is where its date and its time of day put it
  show (if (true && Instant.inRange ⟨_, _⟩ && Instant.inRange ⟨_ - 0, _⟩) = true then
    some (Instant.mk (_ - 0) _) else none) = some t
  rw [hseconds, Int.sub_zero, hrange]
  rfl

/-- The written form of an instant is a form of it. -/
theorem spelled_render (ht : t.IsOrdinary) : t.Spelled t.render := by
  have hleap : ¬ 1000000000 ≤ t.nanos := Nat.not_le.mpr ht.nanos_lt
  have hform (places : Nat) (h : fractionChars t.nanos = pointed places t.nanos) :
      t.render.toList = charsWith places t := by
    simp [render, chars, charsWith, hleap, h]
  by_cases hnone : t.nanos = 0
  · exact ⟨0, by decide, by rw [hnone]; rfl, hform 0 (by rw [fractionChars, if_pos hnone]; rfl)⟩
  by_cases hmilli : t.nanos % 1000000 = 0
  · exact ⟨3, by decide, hmilli, hform 3 (by rw [fractionChars, if_neg hnone, if_pos hmilli]; rfl)⟩
  by_cases hmicro : t.nanos % 1000 = 0
  · exact ⟨6, by decide, hmicro,
      hform 6 (by rw [fractionChars, if_neg hnone, if_neg hmilli, if_pos hmicro]; rfl)⟩
  · refine ⟨9, Nat.le_refl 9, Nat.mod_one _, hform 9 ?_⟩
    rw [fractionChars, if_neg hnone, if_neg hmilli, if_neg hmicro]
    simp [pointed]

end ChainFeed.Instant
