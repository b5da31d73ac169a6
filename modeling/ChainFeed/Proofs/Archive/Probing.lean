import ChainFeed.Archive.Rest
import ChainFeed.Proofs.Archive.Serving
import ChainFeed.Proofs.Json.Reading
import Mathlib.Tactic.SplitIfs

/-!
# The questions of a search

The search by halving asks about one bundle in each turn and goes on with a part of the numbers on
one side of it, whatever it is told. So it ends after as many questions as it takes to halve the
numbers to nothing, and asks about no bundle twice, even of an archive whose answers contradict each
other. What it returns was checked against the height.

Numbers of bundles are words of 64 bits. As long as the newest bundle has a number behind it, no sum
or difference of the search leaves the words: a search that gives up as soon as one does comes to
the same.

## Main definitions

- `Source.noting`: an archive that notes the bundles it is asked about
- `Probes`: the numbers that a search may ask about
- `searchBetween`, `locateBetween`: the search with words for numbers
- `Probing`: what locating a bundle asks and comes to

## Main results

- `reply_search_noting`: what a search asks
- `of_search_eq_some`: what a search returns
- `reply_searchBetween`: the search with words comes to the same
- `exec_locate_noting`: what locating a bundle asks
- `locate_probing`: all of it for locating a bundle
-/

namespace ChainFeed.Archive

variable {σ : Type} {source : Source (StateM σ)} {height : UInt64} {low count : Nat} {s : σ}

/-! ### Noting the questions -/

/-- An archive that notes the number of each bundle it is asked about. -/
def Source.noting (source : Source (StateM σ)) : Source (StateM (σ × List UInt64)) :=
  { source.ofFirst with
    finalizedBundle := fun id => ExceptT.mk fun (s, asked) =>
      let (answer, s) := reply (source.finalizedBundle id) s
      (answer, s, asked ++ [id]) }

theorem reply_latestBundleId_noting (asked : List UInt64) :
    reply source.noting.latestBundleId (s, asked) =
      ((reply source.latestBundleId s).1, (reply source.latestBundleId s).2, asked) := rfl

theorem reply_finalizedBundle_noting (id : UInt64) (asked : List UInt64) :
    reply (source.noting.finalizedBundle id) (s, asked) =
      ((reply (source.finalizedBundle id) s).1, (reply (source.finalizedBundle id) s).2,
        asked ++ [id]) := rfl

/-- Numbers that a search among `count` bundles from number `low` on may ask about: they lie among
these, none stands twice, and there are no more than halvings that leave nothing of `count`. -/
structure Probes (low count : Nat) (ids : List UInt64) : Prop where
  nodup : ids.Nodup
  within : ∀ id ∈ ids, low ≤ id.toNat ∧ id.toNat < low + count
  length_le : ∀ k, count < 2 ^ k → ids.length ≤ k

theorem Probes.nil (low count : Nat) : Probes low count [] where
  nodup := List.nodup_nil
  within _ h := absurd h List.not_mem_nil
  length_le _ _ := Nat.zero_le _

/-- A search may ask about one number and go on with at most half of them on one side of it. -/
theorem Probes.cons {id : UInt64} {ids : List UInt64} {low' count' : Nat}
    (h : Probes low' count' ids) (hid : low ≤ id.toNat ∧ id.toNat < low + count)
    (hpart : low ≤ low' ∧ low' + count' ≤ low + count)
    (hside : id.toNat < low' ∨ low' + count' ≤ id.toNat) (hhalf : 2 * count' ≤ count) :
    Probes low count (id :: ids) where
  nodup := by
    refine List.nodup_cons.mpr ⟨fun hmem => ?_, h.nodup⟩
    have := h.within id hmem
    omega
  within other hother := by
    rcases List.mem_cons.mp hother with rfl | hmem
    · exact hid
    · have := h.within other hmem
      omega
  length_le k hk := by
    -- there is at least one number, so at least one halving
    obtain ⟨k, rfl⟩ : ∃ j, k = j + 1 := by
      cases k with
      | zero => rw [Nat.pow_zero] at hk; omega
      | succ k => exact ⟨k, rfl⟩
    rw [Nat.pow_succ] at hk
    exact Nat.succ_le_succ (h.length_le k (by omega))

/-- A search asks about numbers as it may, and noting them changes nothing else. -/
theorem reply_search_noting (source : Source (StateM σ)) (height : UInt64) (low count : Nat)
    (s : σ) (asked : List UInt64) (hwords : low + count ≤ 18446744073709551616) :
    ∃ ids, Probes low count ids ∧
      reply (search source.noting height low count) (s, asked) =
        ((reply (search source height low count) s).1,
          (reply (search source height low count) s).2, asked ++ ids) := by
  -- both halves are smaller, but neither is the predecessor of `count`
  induction count using Nat.strongRecOn generalizing low s asked with
  | ind count ih =>
    cases count with
    | zero =>
      refine ⟨[], .nil low 0, ?_⟩
      rw [reply_search_zero, reply_search_zero, List.append_nil]
    | succ n =>
      have hmid : (low + n / 2).toUInt64.toNat = low + n / 2 :=
        UInt64.toNat_ofNat_of_lt' (show low + n / 2 < 18446744073709551616 by omega)
      rw [reply_search_succ, reply_search_succ, reply_finalizedBundle_noting]
      generalize (low + n / 2).toUInt64 = id at hmid
      -- if the search ends with this question, it was the only one
      have hlast : Probes low (n + 1) [id] :=
        (Probes.nil low 0).cons (by omega) (by omega) (by omega) (by omega)
      rcases reply (source.finalizedBundle id) s with ⟨e | bundle, s'⟩
      · exact ⟨[id], hlast, rfl⟩
      · dsimp only
        cases bundle.heightRange with
        | error e => exact ⟨[id], hlast, rfl⟩
        | ok range =>
          dsimp only
          split_ifs with hcontains hbefore
          · exact ⟨[id], hlast, rfl⟩
          · obtain ⟨ids, hids, heq⟩ :=
              ih (n / 2) (by omega) low s' (asked ++ [id]) (by omega)
            refine ⟨id :: ids, hids.cons (by omega) (by omega) (by omega) (by omega), ?_⟩
            rw [heq, List.append_assoc, List.singleton_append]
          · obtain ⟨ids, hids, heq⟩ :=
              ih (n - n / 2) (by omega) (low + n / 2 + 1) s' (asked ++ [id]) (by omega)
            refine ⟨id :: ids, hids.cons (by omega) (by omega) (by omega) (by omega), ?_⟩
            rw [heq, List.append_assoc, List.singleton_append]

/-- What a search returns has one of the numbers that were searched, and what is known of it covers
the height. -/
theorem of_search_eq_some (source : Source (StateM σ)) (height : UInt64) (low count : Nat) (s : σ)
    {found : Found} (hwords : low + count ≤ 18446744073709551616)
    (h : (reply (search source height low count) s).1 = .ok (some found)) :
    (low ≤ found.id.toNat ∧ found.id.toNat < low + count) ∧
      found.bundle.heightRange = .ok found.range ∧ found.range.contains height = true := by
  induction count using Nat.strongRecOn generalizing low s with
  | ind count ih =>
    cases count with
    | zero =>
      rw [reply_search_zero] at h
      cases h
    | succ n =>
      have hmid : (low + n / 2).toUInt64.toNat = low + n / 2 :=
        UInt64.toNat_ofNat_of_lt' (show low + n / 2 < 18446744073709551616 by omega)
      rw [reply_search_succ] at h
      generalize (low + n / 2).toUInt64 = id at hmid h
      generalize reply (source.finalizedBundle id) s = answer at h
      obtain ⟨e | bundle, s'⟩ := answer
      · cases h
      · dsimp only at h
        cases hrange : bundle.heightRange with
        | error e =>
          rw [hrange] at h
          cases h
        | ok range =>
          rw [hrange] at h
          dsimp only at h
          split_ifs at h with hcontains hbefore
          · cases h
            exact ⟨by dsimp only; omega, hrange, hcontains⟩
          · obtain ⟨hid, hfound⟩ := ih (n / 2) (by omega) low s' (by omega) h
            exact ⟨by omega, hfound⟩
          · obtain ⟨hid, hfound⟩ := ih (n - n / 2) (by omega) (low + n / 2 + 1) s' (by omega) h
            exact ⟨by omega, hfound⟩

/-- Numbers from that of one bundle to that of another are words. -/
theorem words_between (bound latest : UInt64) :
    bound.toNat + (latest.toNat + 1 - bound.toNat) ≤ 18446744073709551616 := by
  have hlast := latest.toNat_lt
  have hfirst := bound.toNat_lt
  omega

/-- What a search up to a bundle returns does not lie before its bound. -/
theorem of_search_from_eq_some (source : Source (StateM σ)) (height bound latest : UInt64) (s : σ)
    (found : Found)
    (h : (reply (search source height bound.toNat (latest.toNat + 1 - bound.toNat)) s).1 =
      .ok (some found)) :
    bound ≤ found.id ∧ found.bundle.heightRange = .ok found.range ∧
      found.range.contains height = true := by
  obtain ⟨⟨hle, -⟩, hfound⟩ := of_search_eq_some source height _ _ s (words_between bound latest) h
  exact ⟨UInt64.le_iff_toNat_le.mpr hle, hfound⟩

/-! ### Words for numbers -/

/-- The sum of two words, if it is a word. -/
def sum? (a b : UInt64) : Option UInt64 :=
  if a.toNat + b.toNat < 18446744073709551616 then some (a + b) else none

/-- The difference of two words, if it is a word. -/
def difference? (a b : UInt64) : Option UInt64 :=
  if b ≤ a then some (a - b) else none

/-- The word in the middle between two. -/
def middle? (low high : UInt64) : Option UInt64 :=
  (difference? high low).bind fun width => sum? low (width / 2)

theorem toNat_of_sum? {a b c : UInt64} (h : sum? a b = some c) : c.toNat = a.toNat + b.toNat := by
  unfold sum? at h
  split_ifs at h with hlt
  obtain rfl := Option.some.inj h
  rw [UInt64.toNat_add]
  exact Nat.mod_eq_of_lt hlt

theorem toNat_of_difference? {a b c : UInt64} (h : difference? a b = some c) :
    c.toNat = a.toNat - b.toNat ∧ b.toNat ≤ a.toNat := by
  unfold difference? at h
  split_ifs at h with hle
  obtain rfl := Option.some.inj h
  exact ⟨UInt64.toNat_sub_of_le a b hle, UInt64.le_iff_toNat_le.mp hle⟩

theorem toNat_of_middle? {low high id : UInt64} (h : middle? low high = some id) :
    id.toNat = low.toNat + (high.toNat - low.toNat) / 2 ∧ low.toNat ≤ high.toNat := by
  obtain ⟨width, hwidth, hsum⟩ := Option.bind_eq_some_iff.mp h
  obtain ⟨hwidth, hle⟩ := toNat_of_difference? hwidth
  have hid := toNat_of_sum? hsum
  rw [UInt64.toNat_div, hwidth] at hid
  exact ⟨hid, hle⟩

section Between

variable {m : Type → Type} [Monad m]

/-- The search among the bundles from number `low` to number `high`, with words for numbers. It
gives up, with `none`, as soon as a sum or a difference is no word. -/
def searchBetween (source : Source m) (height low high : UInt64) :
    ExceptT ArchiveError m (Option (Option Found)) :=
  if low ≤ high then
    match _hid : middle? low high with
    | none => return none
    | some id => do
      let bundle ← source.finalizedBundle id
      let range ← bundle.heightRange
      if range.contains height then return some (some ⟨id, range, bundle⟩)
      else if height < range.first then
        match _hbelow : difference? id 1 with
        | some below => searchBetween source height low below
        -- no bundle stands before the first one
        | none => return some none
      else
        match _habove : sum? id 1 with
        | some above => searchBetween source height above high
        | none => return none
  else return some none
termination_by high.toNat + 1 - low.toNat
decreasing_by
  all_goals
    obtain ⟨hmid, hle⟩ := toNat_of_middle? _hid
  · have := toNat_of_difference? _hbelow
    rw [UInt64.toNat_one] at this
    omega
  · have := toNat_of_sum? _habove
    rw [UInt64.toNat_one] at this
    omega

/-- The bundle that covers a height, with words for numbers. -/
def locateBetween (source : Source m) (height : UInt64) : Fetch m (Option Bundle) := do
  modify (Fetcher.restartBefore height)
  let latest ← ask source.latestBundleId
  match ← ask (searchBetween source height (← get).lowerBound latest) with
  | some (some found) =>
    modify (Fetcher.advance found.id found.range)
    return some found.bundle
  | some none => throw (.bundleNotFound height)
  | none => return none

end Between

theorem sum?_eq_some {a b : UInt64} (h : a.toNat + b.toNat < 18446744073709551616) :
    ∃ c, sum? a b = some c :=
  ⟨a + b, if_pos h⟩

theorem difference?_eq_some {a b : UInt64} (h : b.toNat ≤ a.toNat) :
    ∃ c, difference? a b = some c :=
  ⟨a - b, if_pos (UInt64.le_iff_toNat_le.mpr h)⟩

theorem middle?_eq_some {low high : UInt64} (h : low.toNat ≤ high.toNat) :
    ∃ id, middle? low high = some id := by
  obtain ⟨width, hwidth⟩ := difference?_eq_some h
  have hlt := high.toNat_lt
  obtain ⟨id, hid⟩ := sum?_eq_some (a := low) (b := width / 2) (by
    rw [UInt64.toNat_div, (toNat_of_difference? hwidth).1, show UInt64.toNat 2 = 2 from rfl]
    omega)
  exact ⟨id, Option.bind_eq_some_iff.mpr ⟨width, hwidth, hid⟩⟩

theorem reply_searchBetween_of_lt {low high : UInt64} (h : high < low) :
    reply (searchBetween source height low high) s = (.ok (some none), s) := by
  rw [searchBetween, if_neg (UInt64.not_le.mpr h), reply_pure]

theorem reply_searchBetween_of_le {low high id : UInt64} (h : low ≤ high)
    (hid : middle? low high = some id) :
    reply (searchBetween source height low high) s =
      match reply (source.finalizedBundle id) s with
      | (.error e, s) => (.error e, s)
      | (.ok bundle, s) =>
        match bundle.heightRange with
        | .error e => (.error e, s)
        | .ok range =>
          if range.contains height then (.ok (some (some ⟨id, range, bundle⟩)), s)
          else if height < range.first then
            (difference? id 1).elim (.ok (some none), s) fun below =>
              reply (searchBetween source height low below) s
          else
            (sum? id 1).elim (.ok none, s) fun above =>
              reply (searchBetween source height above high) s := by
  rw [searchBetween, if_pos h]
  -- the search computes the middle itself, and it is the given one
  split
  · rename_i hnone
    rw [hid] at hnone
    cases hnone
  · rename_i other hother
    obtain rfl : id = other := Option.some.inj (hid.symm.trans hother)
    rw [reply_bind]
    rcases reply (source.finalizedBundle id) s with ⟨e | bundle, s⟩
    · rfl
    · dsimp only
      rw [reply_bind, reply_lift]
      cases bundle.heightRange with
      | error e => rfl
      | ok range =>
        dsimp only
        split_ifs with hcontains hbefore
        · rfl
        · split <;> rename_i hbelow <;> rw [hbelow] <;> rfl
        · split <;> rename_i habove <;> rw [habove] <;> rfl

/-- With words for numbers the search comes to the same, as long as the last number is not the
last word. -/
theorem reply_searchBetween {low high : UInt64} (hhigh : high.toNat < 18446744073709551615) :
    reply (searchBetween source height low high) s =
      let answer := reply (search source height low.toNat (high.toNat + 1 - low.toNat)) s
      (answer.1.map some, answer.2) := by
  obtain ⟨count, hcount⟩ : ∃ count, high.toNat + 1 - low.toNat = count := ⟨_, rfl⟩
  induction count using Nat.strongRecOn generalizing low high s with
  | ind count ih =>
    rw [hcount]
    cases count with
    | zero =>
      rw [reply_search_zero]
      exact reply_searchBetween_of_lt (UInt64.lt_iff_toNat_lt.mpr (by omega))
    | succ n =>
      have hle : low.toNat ≤ high.toNat := by omega
      obtain ⟨id, hid⟩ := middle?_eq_some hle
      obtain ⟨hmid, -⟩ := toNat_of_middle? hid
      -- both searches ask about the same number
      obtain rfl : (low.toNat + n / 2).toUInt64 = id := by
        rw [show low.toNat + n / 2 = id.toNat by omega]
        exact UInt64.ofNat_toNat
      rw [reply_searchBetween_of_le (UInt64.le_iff_toNat_le.mpr hle) hid, reply_search_succ]
      generalize (low.toNat + n / 2).toUInt64 = id at hmid
      rcases reply (source.finalizedBundle id) s with ⟨e | bundle, s⟩
      · rfl
      · dsimp only
        cases bundle.heightRange with
        | error e => rfl
        | ok range =>
          dsimp only
          split_ifs with hcontains hbefore
          · rfl
          -- only number zero has no number below it, and then nothing is left to search
          · cases hbelow : difference? id 1 with
            | none =>
              have hzero : id.toNat = 0 := by
                by_contra hne
                obtain ⟨below, heq⟩ := difference?_eq_some (a := id) (b := 1)
                  (by rw [UInt64.toNat_one]; omega)
                rw [hbelow] at heq
                cases heq
              rw [show n / 2 = 0 by omega, reply_search_zero]
              rfl
            | some below =>
              have hval := toNat_of_difference? hbelow
              rw [UInt64.toNat_one] at hval
              rw [Option.elim_some, ih (n / 2) (by omega) (by omega) (by omega)]
              rw [show below.toNat + 1 - low.toNat = n / 2 by omega]
          · obtain ⟨above, habove⟩ := sum?_eq_some (a := id) (b := 1)
              (by rw [UInt64.toNat_one]; omega)
            have hval := toNat_of_sum? habove
            rw [UInt64.toNat_one] at hval
            rw [habove, Option.elim_some, ih (n - n / 2) (by omega) hhigh (by omega)]
            rw [show high.toNat + 1 - above.toNat = n - n / 2 by omega,
              show above.toNat = low.toNat + n / 2 + 1 by omega]

/-- An archive's newest bundle always has a number behind it. -/
def Source.Bounded (source : Source (StateM σ)) : Prop :=
  ∀ s latest, (reply source.latestBundleId s).1 = .ok latest → latest < 18446744073709551615

theorem Source.Bounded.noting (h : source.Bounded) : source.noting.Bounded :=
  fun s => h s.1

/-- A pool without bundles has no newest one, and of any other the number is one less than how many
there are. -/
theorem bounded_source (exchange : Http.Exchange (StateM σ)) (endpoint storage : Url)
    (poolId : UInt64) : (Archive.source exchange endpoint storage poolId).Bounded := by
  intro s latest h
  unfold Archive.source at h
  dsimp only at h
  rw [latestBundleId, reply_bind] at h
  generalize reply (getJson exchange endpoint _ _) s = answer at h
  obtain ⟨e | pool, s⟩ := answer
  · cases h
  · dsimp only at h
    split_ifs at h with hzero
    · cases h
    · rw [reply_pure] at h
      obtain rfl := Except.ok.inj h
      -- one less than a word that is not zero is not the last word
      have hpos : pool.totalBundles ≠ 0 := hzero
      grind

theorem exec_locateBetween (h : source.Bounded) (height : UInt64) (fetcher : Fetcher) (s : σ) :
    (locateBetween source height).exec fetcher s =
      let run := (locate source height).exec fetcher s
      (run.1.map some, run.2) := by
  have hlatest := h s
  rw [exec_locate]
  simp only [locateBetween, exec_bind, exec_modify, exec_ask, exec_get]
  generalize reply source.latestBundleId s = answer at hlatest ⊢
  obtain ⟨e | latest, s⟩ := answer
  · rfl
  · have hlt : latest.toNat < 18446744073709551615 := UInt64.lt_iff_toNat_lt.mp (hlatest latest rfl)
    dsimp only
    rw [reply_searchBetween hlt]
    rcases reply (search source height _ _) s with ⟨e | _ | found, s⟩ <;> rfl

/-! ### Locating a bundle -/

/-- What locating the bundle of a height asks and comes to. The run ends with the numbers of the
bundles that were asked about. -/
structure Probing (source : Source (StateM σ)) (height : UInt64) (fetcher : Fetcher) (s : σ)
    (run : Except ArchiveError Bundle × Fetcher × σ × List UInt64) : Prop where
  /-- Noting the questions changes nothing. -/
  unnoted : (run.1, run.2.1, run.2.2.1) = (locate source height).exec fetcher s
  /-- No sum or difference leaves the words. -/
  words : (locateBetween source.noting height).exec fetcher (s, []) = (run.1.map some, run.2)
  /-- No bundle is asked about twice. -/
  nodup : run.2.2.2.Nodup
  /-- Only bundles from the lower bound to the newest one are asked about. -/
  within : ∀ id ∈ run.2.2.2, ∃ latest, (reply source.latestBundleId s).1 = .ok latest ∧
    (fetcher.restartBefore height).lowerBound ≤ id ∧ id ≤ latest
  /-- Their number is logarithmic in how many there are. -/
  length_le : ∀ latest, (reply source.latestBundleId s).1 = .ok latest →
    (fetcher.restartBefore height).lowerBound ≤ latest →
      run.2.2.2.length ≤
        Nat.log2 (latest.toNat - (fetcher.restartBefore height).lowerBound.toNat + 1) + 1
  /-- Behind the newest bundle there is nothing to ask about. -/
  eq_nil : ∀ latest, (reply source.latestBundleId s).1 = .ok latest →
    latest < (fetcher.restartBefore height).lowerBound → run.2.2.2 = []
  /-- A bundle that is returned covers the height by what is known of it. -/
  covered : ∀ bundle, run.1 = .ok bundle →
    ∃ range, bundle.heightRange = .ok range ∧ range.contains height = true

/-- The numbers that locating a bundle may ask about: those of a search up to the newest bundle, or
none if there is no telling which one that is. -/
inductive Asks (source : Source (StateM σ)) (low : Nat) (s : σ) : List UInt64 → Prop
  | search {latest : UInt64} {ids : List UInt64}
    (hlatest : (reply source.latestBundleId s).1 = .ok latest)
    (h : Probes low (latest.toNat + 1 - low) ids) : Asks source low s ids
  | nothing (hnone : ∀ latest, (reply source.latestBundleId s).1 ≠ .ok latest) :
    Asks source low s []

/-- Noting the questions adds them to the run, and changes nothing of it. -/
theorem exec_locate_noting (source : Source (StateM σ)) (height : UInt64) (fetcher : Fetcher)
    (s : σ) :
    ∃ ids, Asks source (fetcher.restartBefore height).lowerBound.toNat s ids ∧
      (locate source.noting height).exec fetcher (s, []) =
        let run := (locate source height).exec fetcher s
        (run.1, run.2.1, run.2.2, ids) := by
  rw [exec_locate, exec_locate, reply_latestBundleId_noting]
  generalize hanswer : reply source.latestBundleId s = answer
  obtain ⟨e | latest, s'⟩ := answer
  · exact ⟨[], .nothing fun latest => by simp [hanswer], rfl⟩
  · dsimp only
    obtain ⟨ids, hids, hsearch⟩ := reply_search_noting source height _ _ s' []
      (words_between (fetcher.restartBefore height).lowerBound latest)
    refine ⟨ids, .search (by rw [hanswer]) hids, ?_⟩
    rw [hsearch, List.nil_append]
    rcases reply (search source height _ _) s' with ⟨e | _ | found, s''⟩ <;> rfl

/-- A bundle that is located covers the height by what is known of it. -/
theorem contains_of_locate {fetcher : Fetcher} {bundle : Bundle}
    (h : ((locate source height).exec fetcher s).1 = .ok bundle) :
    ∃ range, bundle.heightRange = .ok range ∧ range.contains height = true := by
  rw [exec_locate] at h
  generalize reply source.latestBundleId s = answer at h
  obtain ⟨e | latest, s'⟩ := answer
  · cases h
  · dsimp only at h
    have hfound := of_search_from_eq_some source height
      (fetcher.restartBefore height).lowerBound latest s'
    generalize reply (search source height _ _) s' = answer at h hfound
    obtain ⟨e | _ | found, s''⟩ := answer
    · cases h
    · cases h
    · obtain rfl := Except.ok.inj h
      exact ⟨found.range, (hfound found rfl).2⟩

namespace Asks

variable {latest : UInt64} {ids : List UInt64}

theorem nodup (h : Asks source low s ids) : ids.Nodup := by
  cases h with
  | search _ h => exact h.nodup
  | nothing => exact List.nodup_nil

theorem probes (h : Asks source low s ids)
    (hlatest : (reply source.latestBundleId s).1 = .ok latest) :
    Probes low (latest.toNat + 1 - low) ids := by
  cases h with
  | search hother h =>
    rw [hlatest] at hother
    exact Except.ok.inj hother ▸ h
  | nothing hnone => exact absurd hlatest (hnone latest)

theorem exists_latest (h : Asks source low s ids) {id : UInt64} (hid : id ∈ ids) :
    ∃ latest, (reply source.latestBundleId s).1 = .ok latest ∧
      low ≤ id.toNat ∧ id.toNat ≤ latest.toNat := by
  cases h with
  | @search latest _ hlatest h =>
    have hwithin := h.within id hid
    exact ⟨latest, hlatest, by omega, by omega⟩
  | nothing => exact absurd hid List.not_mem_nil

end Asks

/-- Whatever an archive answers, the search for the bundle of a height ends, with few questions. -/
theorem locate_probing (source : Source (StateM σ)) (height : UInt64) (fetcher : Fetcher) (s : σ)
    (hbounded : source.Bounded) :
    Probing source height fetcher s ((locate source.noting height).exec fetcher (s, [])) := by
  have hwords := exec_locateBetween hbounded.noting height fetcher (s, [])
  obtain ⟨ids, hids, hrun⟩ := exec_locate_noting source height fetcher s
  rw [hrun] at hwords ⊢
  exact {
    unnoted := rfl
    words := hwords
    nodup := hids.nodup
    within := by
      intro id hid
      obtain ⟨latest, hlatest, hle, hge⟩ := hids.exists_latest hid
      exact ⟨latest, hlatest, UInt64.le_iff_toNat_le.mpr hle, UInt64.le_iff_toNat_le.mpr hge⟩
    length_le := by
      intro latest hlatest hle
      have hprobes := hids.probes hlatest
      have hle := UInt64.le_iff_toNat_le.mp hle
      have hcount : latest.toNat + 1 - (fetcher.restartBefore height).lowerBound.toNat =
          latest.toNat - (fetcher.restartBefore height).lowerBound.toNat + 1 := by omega
      rw [hcount] at hprobes
      exact hprobes.length_le _ Nat.lt_log2_self
    eq_nil := by
      intro latest hlatest hlt
      have hlt := UInt64.lt_iff_toNat_lt.mp hlt
      have hlength := (hids.probes hlatest).length_le 0 (by omega)
      exact List.eq_nil_of_length_eq_zero (Nat.le_zero.mp hlength)
    covered := fun bundle hbundle => contains_of_locate hbundle }

/-! ### Bundles that end before they start -/

/-- What is said of every bundle. -/
def emptyBundle : Bundle :=
  ⟨0, "", 0, 0, "90", "3", ""⟩

/-- All that the server answers: a pool of seven bundles, and a bundle. -/
def emptyAnswer : Json :=
  .ofMembers [
    ("pool", .ofMembers [("id", .nat 1), ("data", .ofMembers [("total_bundles", .nat 7)])]),
    ("finalized_bundle", .ofMembers [("id", .nat 0), ("storage_id", .string ""),
      ("storage_provider_id", .nat 0), ("compression_id", .nat 0), ("from_key", .string "90"),
      ("to_key", .string "3")])]

/-- An archive of seven bundles, each of which ends before it starts. -/
def emptyArchive : Source (StateM Unit) :=
  Archive.source (fun _ => pure (some ⟨200, Utf8.encode emptyAnswer.render⟩))
    ArchiveOptions.default.storageUrl ArchiveOptions.default.storageUrl 1

/-- What a server answers is read. -/
theorem reply_getJson {α : Type} {reader : Reader α} {value : α} {body : List UInt8}
    (endpoint : Url) (path : String) (h : reader.ofText body = .ok value) :
    reply (getJson (fun _ => pure (some ⟨200, body⟩)) endpoint path reader) s =
      (.ok value, s) := by
  have hget : reply (ExceptT.lift (Http.get? (fun _ => pure (some ⟨200, body⟩))
      (endpoint.base ++ path)) : ExceptT ArchiveError (StateM σ) _) s = (.ok (some body), s) := rfl
  rw [getJson, reply_bind, hget]
  dsimp only [Option.map_some]
  rw [h]
  rfl

theorem reply_latestBundleId_emptyArchive : reply emptyArchive.latestBundleId () = (.ok 6, ()) := by
  have hread : (Reader.record (.required "pool" Pool.reader)).ofText
      (Utf8.encode emptyAnswer.render) = .ok ⟨1, "", "", 7⟩ :=
    Reader.ofText_render (by decide +kernel)
  rw [emptyArchive, source]
  dsimp only
  rw [latestBundleId, reply_bind, reply_getJson _ _ hread]
  rfl

theorem reply_finalizedBundle_emptyArchive (id : UInt64) :
    reply (emptyArchive.finalizedBundle id) () = (.ok emptyBundle, ()) :=
  reply_getJson _ _ (Reader.ofText_render (by decide +kernel))

/-- A height behind the end of a bundle is searched behind it, though the bundle starts later. -/
theorem reply_search_emptyArchive (low n : Nat) (asked : List UInt64) :
    reply (search emptyArchive.noting 95 low (n + 1)) ((), asked) =
      reply (search emptyArchive.noting 95 (low + n / 2 + 1) (n - n / 2))
        ((), asked ++ [(low + n / 2).toUInt64]) := by
  have hrange : emptyBundle.heightRange = .ok ⟨90, 3⟩ := by rfl
  rw [reply_search_succ, reply_finalizedBundle_noting, reply_finalizedBundle_emptyArchive]
  dsimp only
  rw [hrange]
  rfl

/-- Of seven bundles three are asked about. -/
theorem locate_probing_emptyArchive :
    emptyArchive.Bounded ∧
      Probing emptyArchive 95 .new () ((locate emptyArchive.noting 95).exec .new ((), [])) ∧
      ((locate emptyArchive.noting 95).exec .new ((), [])).2.2.2 = [3, 5, 6] := by
  have hbounded : emptyArchive.Bounded := bounded_source _ _ _ _
  refine ⟨hbounded, locate_probing emptyArchive 95 .new () hbounded, ?_⟩
  have hsearch :
      reply (search emptyArchive.noting 95 0 7) ((), []) = (.ok none, (), [3, 5, 6]) := by
    rw [reply_search_emptyArchive 0 6, reply_search_emptyArchive 4 2, reply_search_emptyArchive 6 0,
      reply_search_zero]
    rfl
  have hstart : Fetcher.new.restartBefore 95 = .new := rfl
  rw [exec_locate, reply_latestBundleId_noting, reply_latestBundleId_emptyArchive, hstart]
  dsimp only
  rw [show (6 : UInt64).toNat + 1 - Fetcher.new.lowerBound.toNat = 7 from rfl,
    show Fetcher.new.lowerBound.toNat = 0 from rfl, hsearch]

end ChainFeed.Archive
