import ChainFeed.Proofs.Archive.Run
import Mathlib.Tactic.SplitIfs

/-!
# Archives that only grow

The archive of a chain is written behind its end: bundles are numbered from zero in the order of
their heights, and a bundle that has been finalized stays as it is. Questions to such an archive are
put one after the other, and any of them may fail, whatever the reason. Between two questions the
archive may grow.

The bundle of a height is determined by the finalized bundles alone, since their ranges are
disjoint. The search by halving finds that bundle or establishes that there is none, unless a
question fails.

## Main definitions

- `ChainFeed.Archive.Growing`: an archive that only grows
- `ChainFeed.Archive.Growing.source`: the questions it answers, some of which fail
- `ChainFeed.Archive.Growing.covering?`: the bundle of a height, found without a search

## Main results

- `Growing.covers_unique`: at most one bundle covers a height
- `Growing.search_outcome`: what the search by halving comes to
-/

namespace ChainFeed.Archive

variable {α : Type}

/-- An archive that only grows. Moments count the questions put to it. -/
structure Growing where
  /-- The number of the newest finalized bundle at each moment. -/
  newest : Nat → UInt64
  newest_mono : ∀ {now later}, now ≤ later → newest now ≤ newest later
  /-- There is always a number behind the newest one. -/
  newest_lt : ∀ now, newest now < 18446744073709551615
  /-- What is known of a bundle, once it is finalized. -/
  bundle : UInt64 → Bundle
  /-- What is said of a bundle before that. -/
  preliminary : Nat → UInt64 → Except ArchiveError Bundle
  /-- The data of a bundle. -/
  stored : Bundle → List UInt8
  /-- The heights that a bundle covers. -/
  range : UInt64 → HeightRange
  heightRange_bundle : ∀ {id now}, id ≤ newest now → (bundle id).heightRange = .ok (range id)
  first_le_last : ∀ {id now}, id ≤ newest now → (range id).first ≤ (range id).last
  last_lt_first : ∀ {id now}, id < newest now → (range id).last < (range (id + 1)).first

/-- An archive of one bundle that gets a second one, with a gap between them. -/
instance : Inhabited Growing where
  default := {
    newest := fun now => if now = 0 then 0 else 1
    newest_mono := by
      intro now later h
      split <;> split <;> grind
    newest_lt := fun now => by split <;> decide
    bundle := fun id =>
      if id = 0 then ⟨0, "", 0, 0, "1", "10", ""⟩ else ⟨1, "", 0, 0, "12", "30", ""⟩
    preliminary := fun _ id => .error (.bundleNotFound id)
    stored := fun _ => Utf8.encode "[]"
    range := fun id => if id = 0 then ⟨1, 10⟩ else ⟨12, 30⟩
    heightRange_bundle := by
      intro id now h
      split <;> rfl
    first_le_last := by
      intro id now h
      split <;> decide
    last_lt_first := by
      intro id now h
      -- only the first bundle ever has one behind it
      have hzero : id = 0 := by
        split at h <;> grind
      subst hzero
      decide }

/-- Whether a height lies in a range, as two comparisons. -/
theorem HeightRange.contains_iff {range : HeightRange} {height : UInt64} :
    range.contains height = true ↔ range.first ≤ height ∧ height ≤ range.last := by
  simp [HeightRange.contains]

/-- A number up to that of a bundle is the number of a bundle. -/
theorem toNat_toUInt64_of_le {n : Nat} (id : UInt64) (h : n ≤ id.toNat) :
    n.toUInt64.toNat = n := by
  have hlt := id.toNat_lt
  exact UInt64.toNat_ofNat_of_lt' (show n < 18446744073709551616 by omega)

/-- A question that fails if there is an outage at its moment. -/
def answer (outages : Nat → Option ArchiveError) (result : Nat → Except ArchiveError α) :
    ExceptT ArchiveError (StateM Nat) α :=
  ExceptT.mk fun now => ((outages now).elim (result now) .error, now + 1)

theorem reply_answer (outages : Nat → Option ArchiveError) (result : Nat → Except ArchiveError α)
    (now : Nat) :
    reply (answer outages result) now = ((outages now).elim (result now) .error, now + 1) := rfl

namespace Growing

/-- The questions that a growing archive answers but for outages. -/
def source (archive : Growing) (outages : Nat → Option ArchiveError) : Source (StateM Nat) where
  latestBundleId := answer outages fun now => .ok (archive.newest now)
  finalizedBundle id := answer outages fun now =>
    if id ≤ archive.newest now then .ok (archive.bundle id) else archive.preliminary now id
  retrieve bundle := answer outages fun _ => .ok (archive.stored bundle)

variable {archive : Growing} {outages : Nat → Option ArchiveError} {height i j id : UInt64}
  {now low count : Nat}

theorem reply_latestBundleId :
    reply (archive.source outages).latestBundleId now =
      ((outages now).elim (.ok (archive.newest now)) .error, now + 1) := rfl

theorem reply_finalizedBundle (h : id ≤ archive.newest now) :
    reply ((archive.source outages).finalizedBundle id) now =
      ((outages now).elim (.ok (archive.bundle id)) .error, now + 1) := by
  simp [source, reply_answer, h]

theorem reply_retrieve {bundle : Bundle} :
    reply ((archive.source outages).retrieve bundle) now =
      ((outages now).elim (.ok (archive.stored bundle)) .error, now + 1) := rfl

/-- Whether a bundle covers a height. -/
def Covers (archive : Growing) (id height : UInt64) : Prop :=
  (archive.range id).first ≤ height ∧ height ≤ (archive.range id).last

theorem covers_iff_contains :
    archive.Covers id height ↔ (archive.range id).contains height = true :=
  HeightRange.contains_iff.symm

/-! ### The order of bundles -/

/-- A bundle ends before each later one starts. -/
theorem last_lt_first_of_lt (hij : i < j) (hj : j ≤ archive.newest now) :
    (archive.range i).last < (archive.range j).first := by
  -- by the number of bundles between the two
  obtain ⟨n, hn⟩ : ∃ n, j.toNat = i.toNat + 1 + n :=
    ⟨j.toNat - (i.toNat + 1), by have := UInt64.lt_iff_toNat_lt.mp hij; omega⟩
  induction n generalizing i with
  | zero =>
    have hsucc : j = i + 1 := by
      apply UInt64.toNat_inj.mp
      have := j.toNat_lt
      rw [UInt64.toNat_add, UInt64.toNat_one]
      omega
    subst hsucc
    exact archive.last_lt_first (show i < archive.newest now by grind)
  | succ n ih =>
    have hnext : (i + 1).toNat = i.toNat + 1 := by
      have := j.toNat_lt
      rw [UInt64.toNat_add, UInt64.toNat_one]
      omega
    have hlt : i + 1 < j := UInt64.lt_iff_toNat_lt.mpr (by omega)
    have hgap : (archive.range i).last < (archive.range (i + 1)).first :=
      archive.last_lt_first (show i < archive.newest now by grind)
    have hwithin : (archive.range (i + 1)).first ≤ (archive.range (i + 1)).last :=
      archive.first_le_last (show i + 1 ≤ archive.newest now by grind)
    have hrest := ih hlt (by omega)
    grind

/-- At most one bundle covers a height. -/
theorem covers_unique (hi : i ≤ archive.newest now) (hj : j ≤ archive.newest now)
    (hci : archive.Covers i height) (hcj : archive.Covers j height) : i = j := by
  obtain ⟨hfi, hli⟩ := hci
  obtain ⟨hfj, hlj⟩ := hcj
  by_cases hij : i < j
  · have := last_lt_first_of_lt hij hj
    grind
  · by_cases hji : j < i
    · have := last_lt_first_of_lt hji hi
      grind
    · grind

/-- A height before a bundle lies in no later bundle either. -/
theorem not_covers_of_lt_first (hij : i ≤ j) (hj : j ≤ archive.newest now)
    (hlt : height < (archive.range i).first) : ¬ archive.Covers j height := by
  rintro ⟨hfj, -⟩
  by_cases heq : i = j
  · subst heq
    grind
  · have hgap := last_lt_first_of_lt (by grind : i < j) hj
    have hwithin := archive.first_le_last (show i ≤ archive.newest now by grind)
    grind

/-- A height behind a bundle lies in no earlier bundle either. -/
theorem not_covers_of_last_lt (hij : i ≤ j) (hj : j ≤ archive.newest now)
    (hlt : (archive.range j).last < height) : ¬ archive.Covers i height := by
  rintro ⟨-, hli⟩
  by_cases heq : i = j
  · subst heq
    grind
  · have hgap := last_lt_first_of_lt (by grind : i < j) hj
    have hwithin := archive.first_le_last hj
    grind

/-! ### The bundle of a height -/

/-- The finalized bundle that covers a height, looked for among all of them. -/
def covering? (archive : Growing) (now : Nat) (height : UInt64) : Option UInt64 :=
  ((List.range ((archive.newest now).toNat + 1)).map Nat.toUInt64).find? fun id =>
    (archive.range id).contains height

theorem covers_of_covering? (h : archive.covering? now height = some id) :
    id ≤ archive.newest now ∧ archive.Covers id height := by
  unfold covering? at h
  obtain ⟨n, hn, rfl⟩ := List.mem_map.mp (List.mem_of_find?_eq_some h)
  refine ⟨?_, covers_iff_contains.mpr (by simpa using List.find?_some h)⟩
  have hle : n ≤ (archive.newest now).toNat := Nat.le_of_lt_succ (List.mem_range.mp hn)
  rw [UInt64.le_iff_toNat_le, toNat_toUInt64_of_le _ hle]
  exact hle

theorem covering?_eq_none_iff :
    archive.covering? now height = none ↔
      ∀ id, id ≤ archive.newest now → ¬ archive.Covers id height := by
  constructor
  · intro hnone id hid hcovers
    refine List.find?_eq_none.mp hnone id (List.mem_map.mpr ⟨id.toNat, ?_, ?_⟩)
      (covers_iff_contains.mp hcovers)
    · have := UInt64.le_iff_toNat_le.mp hid
      exact List.mem_range.mpr (by omega)
    · exact UInt64.ofNat_toNat
  · intro hnone
    cases hfound : archive.covering? now height with
    | none => rfl
    | some id =>
      obtain ⟨hid, hcovers⟩ := covers_of_covering? hfound
      exact absurd hcovers (hnone id hid)

theorem covering?_eq_some_iff :
    archive.covering? now height = some id ↔
      id ≤ archive.newest now ∧ archive.Covers id height := by
  refine ⟨covers_of_covering?, fun ⟨hid, hcovers⟩ => ?_⟩
  cases hfound : archive.covering? now height with
  | none => exact absurd hcovers (covering?_eq_none_iff.mp hfound id hid)
  | some other =>
    obtain ⟨hother, hcoversOther⟩ := covers_of_covering? hfound
    rw [covers_unique hother hid hcoversOther hcovers]

/-! ### The search -/

/-- What the search among `count` bundles from number `low` on may come to: an outage, the certainty
that none of them covers the height, or one that does. -/
inductive Searched (archive : Growing) (outages : Nat → Option ArchiveError) (height : UInt64)
    (low count now : Nat) : Except ArchiveError (Option Found) × Nat → Prop
  | failed {e : ArchiveError} {later : Nat} (hlater : now ≤ later)
      (outage : ∃ moment, outages moment = some e) :
      Searched archive outages height low count now (.error e, later)
  | missed {later : Nat} (hlater : now ≤ later)
      (hnone : ∀ id : UInt64, low ≤ id.toNat → id.toNat < low + count →
        ¬ archive.Covers id height) :
      Searched archive outages height low count now (.ok none, later)
  | found {id : UInt64} {later : Nat} (hlater : now ≤ later) (hlow : low ≤ id.toNat)
      (hhigh : id.toNat < low + count) (hcovers : archive.Covers id height) :
      Searched archive outages height low count now
        (.ok (some ⟨id, archive.range id, archive.bundle id⟩), later)

/-- What a search finds in a part of the bundles, it finds in all of them if the height lies in none
of the others. -/
theorem Searched.widen {part : Except ArchiveError (Option Found) × Nat} {low' count' now' : Nat}
    (h : Searched archive outages height low' count' now' part) (hnow : now ≤ now')
    (hlow : low ≤ low') (hhigh : low' + count' ≤ low + count)
    (hothers : ∀ id : UInt64, low ≤ id.toNat → id.toNat < low + count → archive.Covers id height →
      low' ≤ id.toNat ∧ id.toNat < low' + count') :
    Searched archive outages height low count now part := by
  cases h with
  | failed hlater outage => exact .failed (Nat.le_trans hnow hlater) outage
  | missed hlater hnone =>
    refine .missed (Nat.le_trans hnow hlater) fun id hid hid' hcovers => ?_
    obtain ⟨hid, hid'⟩ := hothers id hid hid' hcovers
    exact hnone id hid hid' hcovers
  | found hlater hid hid' hcovers =>
    exact .found (Nat.le_trans hnow hlater) (Nat.le_trans hlow hid)
      (Nat.lt_of_lt_of_le hid' hhigh) hcovers

/-- The search by halving among finalized bundles. -/
theorem search_outcome (hfinal : low + count ≤ (archive.newest now).toNat + 1) :
    Searched archive outages height low count now
      (reply (search (archive.source outages) height low count) now) := by
  -- Both halves are smaller, but neither is the predecessor of `count`.
  induction count using Nat.strongRecOn generalizing low now with
  | ind count ih =>
    cases count with
    | zero =>
      rw [reply_search_zero]
      exact .missed (Nat.le_refl _) fun id hlow hhigh => absurd hhigh (by omega)
    | succ n =>
      -- numbers of bundles stay below `2 ^ 64`, so the one in the middle is itself
      have hmid : (low + n / 2).toUInt64.toNat = low + n / 2 :=
        toNat_toUInt64_of_le (archive.newest now) (by omega)
      have hnewest : (low + n / 2).toUInt64 ≤ archive.newest now :=
        UInt64.le_iff_toNat_le.mpr (by omega)
      have hfinal' : (archive.newest now).toNat ≤ (archive.newest (now + 1)).toNat :=
        UInt64.le_iff_toNat_le.mp (archive.newest_mono (Nat.le_succ now))
      have hfinalized : ∀ id : UInt64, id.toNat < low + (n + 1) → id ≤ archive.newest now :=
        fun id hid => UInt64.le_iff_toNat_le.mpr (by omega)
      generalize hid : (low + n / 2).toUInt64 = id at hmid hnewest
      rw [reply_search_succ, hid, reply_finalizedBundle hnewest]
      cases hout : outages now with
      | some e => exact .failed (Nat.le_succ now) ⟨now, hout⟩
      | none =>
        simp only [Option.elim, archive.heightRange_bundle hnewest]
        -- the bundle covers the height, lies behind it, or lies before it
        split_ifs with hcontains hbefore
        · exact .found (Nat.le_succ now) (by omega) (by omega) (covers_iff_contains.mpr hcontains)
        · refine (ih (n / 2) (by omega) (by omega)).widen (Nat.le_succ now) (Nat.le_refl _)
            (by omega) ?_
          intro other hlow hhigh hcovers
          refine ⟨hlow, Nat.lt_of_not_le fun hle => ?_⟩
          exact not_covers_of_lt_first (UInt64.le_iff_toNat_le.mpr (by omega))
            (hfinalized other hhigh) hbefore hcovers
        · have hbehind : (archive.range id).last < height := by
            rw [← covers_iff_contains, Covers] at hcontains
            grind
          refine (ih (n - n / 2) (by omega) (by omega)).widen (Nat.le_succ now) (by omega)
            (by omega) ?_
          intro other hlow hhigh hcovers
          refine ⟨Nat.lt_of_not_le fun hle => ?_, by omega⟩
          exact not_covers_of_last_lt (UInt64.le_iff_toNat_le.mpr (by omega)) hnewest hbehind
            hcovers

end Growing

end ChainFeed.Archive
