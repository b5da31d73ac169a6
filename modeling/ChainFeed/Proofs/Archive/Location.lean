import ChainFeed.Proofs.Archive.Probing
import ChainFeed.Proofs.Archive.Transparency

/-!
# The bundle of a height

A fetcher searches from the bundle that it found last, unless the height lies before it. Over an
archive that only grows this never leaves out a bundle that covers the height: whatever a fetcher
has been asked before, and whichever of its questions were not answered, it finds the bundle that
covers a height, and finds none only if there is none.

The lower bound rises with the heights. It falls only for a height before the bundle it stands for.

## Main definitions

- `Locates`: what holds of a fetcher with a history

## Main results

- `lowerBound_le_locate`, `lowerBound_le_fetchPairs`: the lower bound does not fall
- `locate_after_history`: what is located after any history
-/

namespace ChainFeed.Archive

variable {archive : Growing} {fetcher : Fetcher} {height : UInt64} {now : Nat}

/-! ### The lower bound -/

section LowerBound

variable {σ : Type} {source : Source (StateM σ)} {s : σ}

/-- The search does not start anew if no known start lies behind the height. -/
theorem Fetcher.restartBefore_eq_self
    (h : ∀ start, fetcher.lowerBoundStart = some start → start ≤ height) :
    fetcher.restartBefore height = fetcher := by
  unfold restartBefore
  cases hstart : fetcher.lowerBoundStart with
  | none => rfl
  | some start =>
    have hle : ¬ height < start := UInt64.not_lt.mpr (h start hstart)
    simp [hle]

/-- The bundle that is found does not lie before the lower bound, whatever the archive answers. -/
theorem lowerBound_le_locate (source : Source (StateM σ)) (s : σ)
    (h : ∀ start, fetcher.lowerBoundStart = some start → start ≤ height) :
    fetcher.lowerBound ≤ ((locate source height).exec fetcher s).2.1.lowerBound := by
  rw [exec_locate, Fetcher.restartBefore_eq_self h]
  rcases reply source.latestBundleId s with ⟨e | latest, s'⟩
  · exact UInt64.le_refl _
  · dsimp only
    have hfound := of_search_from_eq_some source height fetcher.lowerBound latest s'
    generalize reply (search source height _ _) s' = answer at hfound ⊢
    obtain ⟨e | _ | found, s''⟩ := answer
    · exact UInt64.le_refl _
    · exact UInt64.le_refl _
    · exact (hfound found rfl).1

theorem lowerBound_le_loadedFor (source : Source (StateM σ)) (s : σ)
    (h : ∀ start, fetcher.lowerBoundStart = some start → start ≤ height) :
    fetcher.lowerBound ≤ ((loadedFor source height).exec fetcher s).2.1.lowerBound := by
  have hlocate := lowerBound_le_locate source s h
  rw [exec_loadedFor]
  cases fetcher.covering? height with
  | some loaded => exact UInt64.le_refl _
  | none =>
    dsimp only
    generalize (locate source height).exec fetcher s = run at hlocate ⊢
    obtain ⟨e | bundle, fetcher', s'⟩ := run
    · exact hlocate
    · dsimp only at hlocate ⊢
      rcases reply (load source bundle) s' with ⟨e | loaded, s''⟩
      · exact hlocate
      · exact hlocate

/-- The same of a batch with one height, whose bundle may be at hand already. -/
theorem lowerBound_le_fetchPairs (source : Source (StateM σ)) (s : σ)
    (h : ∀ start, fetcher.lowerBoundStart = some start → start ≤ height) :
    fetcher.lowerBound ≤ ((fetchPairs source [height]).exec fetcher s).2.1.lowerBound := by
  have hloaded := lowerBound_le_loadedFor source s h
  rw [exec_fetchPairs_cons, exec_fetchPair]
  generalize (loadedFor source height).exec fetcher s = run at hloaded ⊢
  obtain ⟨e | loaded, fetcher', s'⟩ := run
  · exact hloaded
  · dsimp only at hloaded ⊢
    cases loaded.pair height with
    | error e => exact hloaded
    | ok pair => exact hloaded

end LowerBound

/-! ### What is located -/

/-- Bundles of which the same is known cover the same heights. -/
theorem Growing.covers_of_bundle_eq {id other : UInt64} (hid : id ≤ archive.newest now)
    (hother : other ≤ archive.newest now) (heq : archive.bundle id = archive.bundle other)
    (h : archive.Covers id height) : archive.Covers other height := by
  have hrange := archive.heightRange_bundle hid
  rw [heq, archive.heightRange_bundle hother] at hrange
  rw [Growing.Covers, Except.ok.inj hrange]
  exact h

/-- What holds of a fetcher over an archive that only grows. -/
structure Locates (archive : Growing) (fetcher : Fetcher) (now : Nat) : Prop where
  /-- A bundle is located exactly if it covers the height. -/
  ok_iff : ∀ height id, id ≤ archive.newest now →
    (((locate (archive.source fun _ => none) height).exec fetcher now).1 = .ok (archive.bundle id) ↔
      archive.Covers id height)
  /-- No bundle is located exactly if none covers the height. -/
  error_iff : ∀ height,
    (((locate (archive.source fun _ => none) height).exec fetcher now).1 =
        .error (.bundleNotFound height) ↔
      ∀ id, id ≤ archive.newest now → ¬ archive.Covers id height)
  /-- There is no other answer. -/
  ok_or_error : ∀ height,
    (∃ id, id ≤ archive.newest now ∧
      ((locate (archive.source fun _ => none) height).exec fetcher now).1 =
        .ok (archive.bundle id)) ∨
    ((locate (archive.source fun _ => none) height).exec fetcher now).1 =
      .error (.bundleNotFound height)
  /-- A known start is that of the bundle at the lower bound. -/
  start_eq : ∀ start, fetcher.lowerBoundStart = some start →
    fetcher.lowerBound ≤ archive.newest now ∧ (archive.range fetcher.lowerBound).first = start
  /-- Without a known start the lower bound is the first bundle. -/
  bound_eq_zero : fetcher.lowerBoundStart = none → fetcher.lowerBound = 0
  /-- A request for a height from the known start on does not lower the bound, whether it is
  answered or not. -/
  bound_le : ∀ (outages : Nat → Option ArchiveError) (height : UInt64),
    (∀ start, fetcher.lowerBoundStart = some start → start ≤ height) →
      fetcher.lowerBound ≤
        ((locate (archive.source outages) height).exec fetcher now).2.1.lowerBound ∧
      fetcher.lowerBound ≤
        ((fetchPairs (archive.source outages) [height]).exec fetcher now).2.1.lowerBound

/-- Without outages a sound fetcher answers as the finalized bundles determine. -/
theorem Sound.locate_eq_bundleAt (h : Sound archive now fetcher) (height : UInt64) :
    ((locate (archive.source fun _ => none) height).exec fetcher now).1 =
      archive.bundleAt now height :=
  (locate_outcome h).eq_of_calm

/-- A sound fetcher locates the bundles of all heights. -/
theorem Sound.locates (h : Sound archive now fetcher) : Locates archive fetcher now where
  ok_iff height id hid := by
    rw [h.locate_eq_bundleAt, Growing.bundleAt]
    constructor
    · intro heq
      cases hfound : archive.covering? now height with
      | none =>
        rw [hfound] at heq
        cases heq
      | some found =>
        -- the bundle that was found may have another number, but covers the same heights
        rw [hfound] at heq
        obtain ⟨hle, hcovers⟩ := Growing.covers_of_covering? hfound
        exact Growing.covers_of_bundle_eq hle hid (Except.ok.inj heq) hcovers
    · intro hcovers
      rw [Growing.covering?_eq_some_iff.mpr ⟨hid, hcovers⟩]
  error_iff height := by
    rw [h.locate_eq_bundleAt, Growing.bundleAt, ← Growing.covering?_eq_none_iff]
    cases archive.covering? now height with
    | none => simp
    | some id => simp
  ok_or_error height := by
    rw [h.locate_eq_bundleAt, Growing.bundleAt]
    cases hfound : archive.covering? now height with
    | none => exact .inr rfl
    | some id => exact .inl ⟨id, (Growing.covers_of_covering? hfound).1, rfl⟩
  start_eq start hstart := ⟨h.bound_le_newest, h.start_eq start hstart⟩
  bound_eq_zero := h.bound_eq_zero
  bound_le outages height hstart :=
    ⟨lowerBound_le_locate _ _ hstart, lowerBound_le_fetchPairs _ _ hstart⟩

/-- After any history of requests, some of whose questions were not answered, a fetcher locates the
bundles of all heights. -/
theorem locate_after_history (archive : Growing) (outages : Nat → Option ArchiveError)
    (history : List Request) :
    let (fetcher, now) := Request.serveAll (archive.source outages) history (Fetcher.new, 0)
    Locates archive fetcher now :=
  Sound.locates (Request.serveAll_sound Sound.new)

end ChainFeed.Archive
