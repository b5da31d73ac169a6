import ChainFeed.Time.Calendar

/-!
# Dates and day numbers

The date of a day number has that day number, and it is a day that its month has. Both follow from
where a day stands in its era of 400 years: every era has the same 146097 days, a year of it has 365
of them, and one day more if it ends with a leap day.

## Main definitions

- `Date.ofParts`: the date of a day of a year of an era

## Main results

- `Date.exists_parts`: where a day stands
- `Date.toDays_ofDays`, `Date.isValid_ofDays`
-/

namespace ChainFeed.Date

/-! ### Days of an era -/

/-- A day of an era by its century, its group of four years, its year there and its day of that
year. Only the last year of a group has a leap day, and the last group of a century has one only in
the last century. -/
structure EraDay (day century group year dayOfYear : Int) : Prop where
  eq : day = 36524 * century + 1461 * group + 365 * year + dayOfYear
  century_nonneg : 0 ≤ century
  century_le : century ≤ 3
  group_nonneg : 0 ≤ group
  group_le : group ≤ 24
  year_nonneg : 0 ≤ year
  year_le : year ≤ 3
  dayOfYear_nonneg : 0 ≤ dayOfYear
  dayOfYear_le : dayOfYear ≤ 364 ∨ dayOfYear = 365 ∧ year = 3 ∧ (group < 24 ∨ century = 3)

theorem exists_eraDay {day : Int} (h : 0 ≤ day) (h' : day < 146097) :
    ∃ century group year dayOfYear, EraDay day century group year dayOfYear := by
  -- the last day of an era and of a group are the fifth and 366th of their kinds
  obtain ⟨century, hcentury⟩ : ∃ century, century = if day = 146096 then 3 else day / 36524 :=
    ⟨_, rfl⟩
  obtain ⟨inCentury, hinCentury⟩ : ∃ inCentury, inCentury = day - 36524 * century := ⟨_, rfl⟩
  obtain ⟨inGroup, hinGroup⟩ : ∃ inGroup, inGroup = inCentury - 1461 * (inCentury / 1461) :=
    ⟨_, rfl⟩
  obtain ⟨year, hyear⟩ : ∃ year, year = if inGroup = 1460 then 3 else inGroup / 365 := ⟨_, rfl⟩
  refine ⟨century, inCentury / 1461, year, inGroup - 365 * year, ?_⟩
  split at hcentury <;> split at hyear <;> constructor <;> omega

section EraDay

variable {day century group year dayOfYear : Int}

theorem EraDay.yearOfEra_eq (h : EraDay day century group year dayOfYear) :
    (day - day / 1460 + day / 36524 - day / 146096) / 365 = 100 * century + 4 * group + year := by
  obtain ⟨heq, hc, hc', hg, hg', hy, hy', hd, hd'⟩ := h
  have hspan : 36524 * century ≤ day ∧
      (day < 36524 * (century + 1) ∨ day = 146096 ∧ century = 3) := by omega
  have hcenturies : day / 36524 - day / 146096 = century := by
    obtain ⟨hlow, hhigh | ⟨rfl, rfl⟩⟩ := hspan
    · clear heq hd'
      omega
    · rfl
  -- one leap day a group, and perhaps the one of the group that the day is in
  have hleaps : day / 1460 = 25 * century + group +
      if 1460 ≤ 24 * century + group + 365 * year + dayOfYear then 1 else 0 := by
    split <;> omega
  split at hleaps <;> omega

/-- The days of the era before the year. -/
theorem EraDay.daysBefore_eq (h : EraDay day century group year dayOfYear) :
    365 * (100 * century + 4 * group + year) + (100 * century + 4 * group + year) / 4 -
      (100 * century + 4 * group + year) / 100 = day - dayOfYear := by
  obtain ⟨heq, hc, hc', hg, hg', hy, hy', -, -⟩ := h
  omega

theorem EraDay.isLeapYear (h : EraDay day century group year 365) (era : Int) :
    isLeapYear (100 * century + 4 * group + year + era * 400 + 1) = true := by
  have hleap : year = 3 ∧ (group < 24 ∨ century = 3) := by
    have := h.dayOfYear_le
    omega
  obtain ⟨-, hc, hc', hg, hg', -, -, -, -⟩ := h
  rw [Date.isLeapYear, Bool.and_eq_true, Bool.or_eq_true]
  simp only [decide_eq_true_eq, bne_iff_ne]
  omega

end EraDay

/-! ### Dates -/

/-- The date of a day of a year of an era; the year starts with March. -/
def ofParts (era year day : Int) : Date :=
  let month := (5 * day + 2) / 153
  let dayOfMonth := day - (153 * month + 2) / 5 + 1
  if month < 10 then ⟨year + era * 400, (month + 3).toNat, dayOfMonth.toNat⟩
  else ⟨year + era * 400 + 1, (month - 9).toNat, dayOfMonth.toNat⟩

variable {era year day : Int}

theorem toDays_ofParts (hyear : 0 ≤ year) (hyear' : year < 400) (hday : 0 ≤ day)
    (hday' : day ≤ 365) :
    (ofParts era year day).toDays =
      era * 146097 + (365 * year + year / 4 - year / 100 + day) - 719468 := by
  unfold ofParts toDays
  -- January and February belong to the year that started before
  dsimp only
  split
  · dsimp only
    rw [if_neg (by omega), if_neg (by omega)]
    omega
  · dsimp only
    rw [if_pos (by omega), if_pos (by omega)]
    omega

/-- What makes a date of the calendar, in integers. -/
theorem isValid_of_le {year : Int} {month day : Nat} (hmonth : 1 ≤ month) (hmonth' : month ≤ 12)
    (hday : 1 ≤ day) (hday' : day ≤ daysInMonth year month) :
    (Date.mk year month day).isValid = true := by
  simp [isValid, hmonth, hmonth', hday, hday']

theorem isValid_ofParts (hday : 0 ≤ day)
    (hday' : day ≤ 364 ∨ day = 365 ∧ isLeapYear (year + era * 400 + 1) = true) :
    (ofParts era year day).isValid = true := by
  unfold ofParts
  generalize hmonth : (5 * day + 2) / 153 = month
  have hlow : (153 * month + 2) / 5 ≤ day := by omega
  dsimp only
  split
  · refine isValid_of_le (by omega) (by omega) (by omega) ?_
    -- March to December have 31 days, but for four of them
    obtain rfl | rfl | rfl | rfl | hlong : month = 1 ∨ month = 3 ∨ month = 6 ∨ month = 8 ∨
        ((month + 3).toNat ≠ 4 ∧ (month + 3).toNat ≠ 6 ∧ (month + 3).toNat ≠ 9 ∧
          (month + 3).toNat ≠ 11) := by omega
    iterate 4
      · show (day - _ + 1).toNat ≤ 30
        omega
    · rw [daysInMonth, if_neg (by omega), if_neg (by simpa [and_assoc] using hlong)]
      omega
  · refine isValid_of_le (by omega) (by omega) (by omega) ?_
    obtain rfl | rfl : month = 10 ∨ month = 11 := by omega
    · show (day - _ + 1).toNat ≤ 31
      omega
    -- February has a 29th day if the year is a leap year
    · show (day - _ + 1).toNat ≤ if isLeapYear (year + era * 400 + 1) = true then 29 else 28
      rcases hday' with hday' | ⟨rfl, hleap⟩
      · split <;> omega
      · rw [if_pos hleap]
        decide

/-- Where a day stands, and the date that this gives. -/
theorem exists_parts (days : Int) :
    ∃ era year day : Int, 0 ≤ year ∧ year < 400 ∧ 0 ≤ day ∧
      (day ≤ 364 ∨ day = 365 ∧ isLeapYear (year + era * 400 + 1) = true) ∧
      days = era * 146097 + (365 * year + year / 4 - year / 100 + day) - 719468 ∧
      ofDays days = ofParts era year day := by
  obtain ⟨century, group, year, dayOfYear, hparts⟩ :=
    exists_eraDay (show 0 ≤ (days + 719468) % 146097 by omega) (by omega)
  refine ⟨(days + 719468) / 146097, 100 * century + 4 * group + year, dayOfYear, ?_, ?_,
    hparts.dayOfYear_nonneg, ?_, ?_, ?_⟩
  · have := hparts.century_nonneg
    have := hparts.group_nonneg
    have := hparts.year_nonneg
    omega
  · have := hparts.century_le
    have := hparts.group_le
    have := hparts.year_le
    omega
  · refine hparts.dayOfYear_le.imp_right fun ⟨hlast, _⟩ => ⟨hlast, ?_⟩
    subst hlast
    exact hparts.isLeapYear _
  · rw [hparts.daysBefore_eq]
    omega
  · have hday : (days + 719468) % 146097 - (365 * (100 * century + 4 * group + year) +
        (100 * century + 4 * group + year) / 4 - (100 * century + 4 * group + year) / 100) =
        dayOfYear := by
      rw [hparts.daysBefore_eq]
      omega
    simp only [ofDays, ofParts, hparts.yearOfEra_eq, hday]

/-- The date of a day number has that day number. -/
theorem toDays_ofDays (days : Int) : (ofDays days).toDays = days := by
  obtain ⟨era, year, day, hyear, hyear', hday, hday', hdays, hof⟩ := exists_parts days
  rw [hof, toDays_ofParts hyear hyear' hday (by omega), hdays]

/-- The date of a day number is a day that its month has. -/
theorem isValid_ofDays (days : Int) : (ofDays days).isValid = true := by
  obtain ⟨era, year, day, -, -, hday, hday', -, hof⟩ := exists_parts days
  rw [hof]
  exact isValid_ofParts hday hday'

end ChainFeed.Date
