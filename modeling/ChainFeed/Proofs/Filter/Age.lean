import ChainFeed.Filter.Match
import Mathlib.Data.UInt

/-!
# The age of a block

A block filter sets a limit to the age of blocks, in seconds. The limit is turned into the earliest
time that is young enough, and there is no such time if the limit is no span of time, or reaches
back beyond the first instant. Neither happens to a limit that some instant exceeds, so that the
verdict is the one of exact arithmetic on nanoseconds.

## Main definitions

- `Instant.IsRegular`: instants within the limits, outside of leap seconds
- `Instant.nanoseconds`: the place of an instant on the line of integers

## Main results

- `BlockFilter.exceedsLimit_iff`: which blocks are too old
- `BlockFilter.accepts_exactly`: which blocks a filter accepts
-/

namespace ChainFeed

/-! ### Instants as integers -/

namespace Instant

variable {s t : Instant} {seconds : Nat}

/-- An instant that there is, with a second of its own. -/
structure IsRegular (t : Instant) : Prop where
  first_le : firstSecond ≤ t.seconds
  le_last : t.seconds ≤ lastSecond
  nanos_lt : t.nanos < 1000000000

/-- The nanoseconds from the start of 1970. -/
def nanoseconds (t : Instant) : Int :=
  t.seconds * 1000000000 + t.nanos

theorem before_iff (hs : s.IsRegular) (ht : t.IsRegular) :
    s.before t = true ↔ s.nanoseconds < t.nanoseconds := by
  have := hs.nanos_lt
  have := ht.nanos_lt
  simp only [before, nanoseconds, Bool.or_eq_true, Bool.and_eq_true, decide_eq_true_eq]
  omega

/-- Going back from a second of its own leaves the fraction as it is. -/
theorem earlier?_eq (ht : t.IsRegular) :
    t.earlier? seconds =
      if firstSecond ≤ t.seconds - seconds then some ⟨t.seconds - seconds, t.nanos⟩ else none := by
  have hnanos : ¬ 1000000000 ≤ t.nanos := Nat.not_le.mpr ht.nanos_lt
  have hlast : t.seconds - seconds ≤ lastSecond :=
    (Int.sub_le_self _ (Int.natCast_nonneg _)).trans ht.le_last
  simp [earlier?, inRange, hnanos, hlast]

/-- All instants lie within one span of time. -/
theorem lastSecond_sub_firstSecond : lastSecond - firstSecond < BlockFilter.maxSpan := by
  decide

end Instant

/-! ### Verdicts -/

namespace BlockFilter

variable {filter : BlockFilter} {time now : Instant}

/-- A limit that is no span of time, or reaches back too far, is kept by every instant. -/
theorem exceedsLimit_iff (htime : time.IsRegular) (hnow : now.IsRegular) :
    (filter.cutoff? now).any time.before = true ↔ ∃ seconds, filter.lookBackSecs = some seconds ∧
      seconds.toNat * 1000000000 < now.nanoseconds - time.nanoseconds := by
  cases hlimit : filter.lookBackSecs with
  | none => simp [cutoff?, hlimit]
  | some seconds =>
    have hspan := Instant.lastSecond_sub_firstSecond
    have hfirst := htime.first_le
    have hlast := hnow.le_last
    have htimeNanos := htime.nanos_lt
    have hnowNanos := hnow.nanos_lt
    simp only [Option.some.injEq, exists_eq_left']
    by_cases hmax : seconds.toNat ≤ maxSpan
    · by_cases hback : Instant.firstSecond ≤ now.seconds - seconds.toNat
      · have hcutoff : Instant.IsRegular ⟨now.seconds - seconds.toNat, now.nanos⟩ :=
          ⟨hback, (Int.sub_le_self _ (Int.natCast_nonneg _)).trans hlast, hnowNanos⟩
        rw [cutoff?, hlimit, Option.filter_some, if_pos (decide_eq_true hmax), Option.bind_some,
          Instant.earlier?_eq hnow, if_pos hback, Option.any_some,
          Instant.before_iff htime hcutoff]
        simp only [Instant.nanoseconds]
        omega
      -- the limit lies before the first instant, and no block does
      · rw [cutoff?, hlimit, Option.filter_some, if_pos (decide_eq_true hmax), Option.bind_some,
          Instant.earlier?_eq hnow, if_neg hback]
        simp only [Option.any_none, Bool.false_eq_true, false_iff, Instant.nanoseconds]
        omega
    -- the limit is longer than all the time there is
    · rw [cutoff?, hlimit, Option.filter_some, if_neg (by simpa using hmax)]
      simp only [Option.bind_none, Option.any_none, Bool.false_eq_true, false_iff,
        Instant.nanoseconds]
      omega

theorem divisible_iff {height : UInt64} :
    (filter.modulo.all fun modulo => modulo != 0 && height % modulo = 0) = true ↔
      ∀ modulo, filter.modulo = some modulo → modulo ≠ 0 ∧ modulo.toNat ∣ height.toNat := by
  cases filter.modulo with
  | none => simp
  | some modulo =>
    have hmod : height % modulo = 0 ↔ modulo.toNat ∣ height.toNat := by
      rw [← UInt64.toNat_inj, UInt64.toNat_mod, UInt64.toNat_zero, Nat.dvd_iff_mod_eq_zero]
    simp [hmod]

theorem accepts_iff {height : UInt64} (htime : time.IsRegular) (hnow : now.IsRegular) :
    filter.accepts height time now = true ↔
      (∀ seconds, filter.lookBackSecs = some seconds →
        now.nanoseconds - time.nanoseconds ≤ seconds.toNat * 1000000000) ∧
      ∀ modulo, filter.modulo = some modulo → modulo ≠ 0 ∧ modulo.toNat ∣ height.toNat := by
  rw [accepts, Bool.and_eq_true, divisible_iff, Bool.not_eq_true', ← Bool.not_eq_true,
    exceedsLimit_iff htime hnow]
  simp only [not_exists, not_and, not_lt]

/-- A filter accepts the blocks of exactly the heights that its modulus divides and of exactly the
ages, in nanoseconds, up to its limit. A block from the future has every age that is asked for, and
a longer limit keeps all blocks of a shorter one. -/
theorem accepts_exactly (filter : BlockFilter) (block : Block)
    (htime : block.header.time.IsRegular) (hnow : now.IsRegular) :
    (acceptsWith (some filter) block.height block.header.time now = true ↔
      (∀ seconds, filter.lookBackSecs = some seconds →
        now.nanoseconds - block.header.time.nanoseconds ≤ seconds.toNat * 1000000000) ∧
      ∀ modulo, filter.modulo = some modulo →
        modulo ≠ 0 ∧ modulo.toNat ∣ block.height.toNat) ∧
    (now.nanoseconds ≤ block.header.time.nanoseconds →
      acceptsWith (some filter) block.height block.header.time now =
        acceptsWith (some { filter with lookBackSecs := none }) block.height block.header.time
          now) ∧
    ∀ shorter longer, shorter ≤ longer →
      acceptsWith (some { filter with lookBackSecs := some shorter }) block.height
        block.header.time now = true →
      acceptsWith (some { filter with lookBackSecs := some longer }) block.height
        block.header.time now = true := by
  simp only [acceptsWith, Option.all_some]
  refine ⟨accepts_iff htime hnow, fun hfuture => ?_, fun shorter longer hle haccepts => ?_⟩
  · have hyoung (seconds : UInt64) :
        now.nanoseconds - block.header.time.nanoseconds ≤ seconds.toNat * 1000000000 := by
      omega
    rw [Bool.eq_iff_iff, accepts_iff htime hnow, accepts_iff htime hnow]
    simp [hyoung]
  · obtain ⟨hyoung, hdivides⟩ := (accepts_iff htime hnow).mp haccepts
    refine (accepts_iff htime hnow).mpr ⟨fun seconds hseconds => ?_, hdivides⟩
    obtain rfl : longer = seconds := Option.some.inj hseconds
    have hshorter := hyoung shorter rfl
    have hnat : shorter.toNat ≤ longer.toNat := UInt64.le_iff_toNat_le.mp hle
    omega

/-- A block at the first instant of all. -/
def firstBlock : Block :=
  ⟨"", ⟨⟨11, 0⟩, "chain", 30, ⟨Instant.firstSecond, 0⟩, none, "", "", ""⟩, []⟩

/-- At the last instant the first block is within the longest limit. It is too old for a limit that
falls short of its age by a fraction of a second. -/
theorem accepts_exactly_firstBlock :
    firstBlock.header.time.IsRegular ∧ Instant.IsRegular ⟨Instant.lastSecond, 999999999⟩ ∧
    acceptsWith (some ⟨some 10, some 18446744073709551615⟩) firstBlock.height
      firstBlock.header.time ⟨Instant.lastSecond, 999999999⟩ = true ∧
    acceptsWith (some ⟨some 10, some 16544868105599⟩) firstBlock.height
      firstBlock.header.time ⟨Instant.lastSecond, 999999999⟩ = false := by
  have hfirst : firstBlock.header.time.IsRegular := ⟨by decide, by decide, by decide⟩
  have hlast : Instant.IsRegular ⟨Instant.lastSecond, 999999999⟩ :=
    ⟨by decide, by decide, by decide⟩
  refine ⟨hfirst, hlast, ?_, ?_⟩
  · refine (accepts_exactly _ firstBlock hfirst hlast).1.mpr ⟨fun seconds hseconds => ?_,
      fun modulo hmodulo => ?_⟩
    · obtain rfl := Option.some.inj hseconds
      decide
    · obtain rfl := Option.some.inj hmodulo
      decide
  · rw [← Bool.not_eq_true, (accepts_exactly _ firstBlock hfirst hlast).1]
    intro haccepts
    exact absurd (haccepts.1 _ rfl) (by decide)

end BlockFilter

end ChainFeed
