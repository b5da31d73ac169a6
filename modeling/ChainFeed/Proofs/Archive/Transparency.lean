import ChainFeed.Proofs.Archive.Growing

/-!
# What a fetcher remembers never shows

A fetcher remembers where the last search ended and the bundle that it loaded last. Over an archive
that only grows both are sound at every later moment: the lower bound is a finalized bundle, of
which the first height is known, and the bundle that is kept is what a fresh load would give.
Neither outages nor heights out of order change that, since every step of a fetcher keeps it.

From a sound fetcher, the answer to a height is therefore the one that the finalized bundles
determine, or an outage. A fetcher with a history and one without answer alike.

## Main definitions

- `ChainFeed.Archive.Growing.pairAt`: the answer that the finalized bundles determine
- `ChainFeed.Archive.Sound`: what is remembered is true of the archive
- `ChainFeed.Archive.Request`: what may be asked of a fetcher

## Main results

- `fetchPair_outcome`: each answer is the determined one, or an outage
- `Request.serveAll_sound`: a fetcher is sound after any history
- `fetchPairs_after_history`: a history does not change what a batch comes to
-/

namespace ChainFeed.Archive

variable {archive : Growing} {outages : Nat → Option ArchiveError} {fetcher : Fetcher}
  {height : UInt64} {now later : Nat}

/-! ### Answers without a fetcher -/

namespace Growing

/-- What is known of the bundle that covers a height. -/
def bundleAt (archive : Growing) (now : Nat) (height : UInt64) : Except ArchiveError Bundle :=
  match archive.covering? now height with
  | some id => .ok (archive.bundle id)
  | none => .error (.bundleNotFound height)

/-- A bundle with its entries. -/
def loaded (archive : Growing) (id : UInt64) : Except ArchiveError Loaded :=
  (archive.bundle id).unpack (archive.range id) (archive.stored (archive.bundle id))

/-- The bundle that covers a height, with its entries. -/
def loadedAt (archive : Growing) (now : Nat) (height : UInt64) : Except ArchiveError Loaded :=
  match archive.covering? now height with
  | some id => archive.loaded id
  | none => .error (.bundleNotFound height)

/-- The block pair of a height. -/
def pairAt (archive : Growing) (now : Nat) (height : UInt64) : Except ArchiveError BlockPair :=
  match archive.loadedAt now height with
  | .ok loaded => loaded.pair height
  | .error e => .error e

/-- An archive that does not grow any more. -/
def frozenAt (archive : Growing) (now : Nat) : Growing where
  newest _ := archive.newest now
  newest_mono _ := UInt64.le_refl _
  newest_lt _ := archive.newest_lt now
  bundle := archive.bundle
  preliminary := archive.preliminary
  stored := archive.stored
  range := archive.range
  heightRange_bundle := archive.heightRange_bundle
  first_le_last := archive.first_le_last
  last_lt_first := archive.last_lt_first

end Growing

/-! ### Soundness -/

/-- What a fetcher remembers is true of an archive. -/
structure Sound (archive : Growing) (now : Nat) (fetcher : Fetcher) : Prop where
  /-- Without a known start the search begins at the first bundle. -/
  bound_eq_zero : fetcher.lowerBoundStart = none → fetcher.lowerBound = 0
  /-- The lower bound has been finalized. -/
  bound_le_newest : fetcher.lowerBound ≤ archive.newest now
  /-- The known start is that of the lower bound. -/
  start_eq : ∀ start, fetcher.lowerBoundStart = some start →
    (archive.range fetcher.lowerBound).first = start
  /-- The bundle that is kept is one of the archive. -/
  cached : ∀ loaded, fetcher.cached = some loaded →
    ∃ id, id ≤ archive.newest now ∧ archive.loaded id = .ok loaded

namespace Sound

theorem new : Sound archive now Fetcher.new where
  bound_eq_zero _ := rfl
  bound_le_newest := UInt64.le_iff_toNat_le.mpr (Nat.zero_le _)
  start_eq _ h := nomatch h
  cached _ h := nomatch h

theorem mono (h : Sound archive now fetcher) (hlater : now ≤ later) :
    Sound archive later fetcher where
  bound_eq_zero := h.bound_eq_zero
  bound_le_newest := UInt64.le_trans h.bound_le_newest (archive.newest_mono hlater)
  start_eq := h.start_eq
  cached loaded hloaded := by
    obtain ⟨id, hid, heq⟩ := h.cached loaded hloaded
    exact ⟨id, UInt64.le_trans hid (archive.newest_mono hlater), heq⟩

theorem restartBefore (h : Sound archive now fetcher) :
    Sound archive now (fetcher.restartBefore height) := by
  unfold Fetcher.restartBefore
  split
  · exact {
      bound_eq_zero := fun _ => rfl
      bound_le_newest := UInt64.le_iff_toNat_le.mpr (Nat.zero_le _)
      start_eq := fun _ hnone => nomatch hnone
      cached := h.cached }
  · exact h

theorem advance (h : Sound archive now fetcher) {id : UInt64} (hid : id ≤ archive.newest now) :
    Sound archive now (fetcher.advance id (archive.range id)) where
  bound_eq_zero hnone := nomatch hnone
  bound_le_newest := hid
  start_eq _ hstart := Option.some.inj hstart
  cached := h.cached

theorem keep (h : Sound archive now fetcher) {id : UInt64} {loaded : Loaded}
    (hid : id ≤ archive.newest now) (hloaded : archive.loaded id = .ok loaded) :
    Sound archive now (fetcher.keep loaded) where
  bound_eq_zero := h.bound_eq_zero
  bound_le_newest := h.bound_le_newest
  start_eq := h.start_eq
  cached other hother := by
    obtain rfl := Option.some.inj hother
    exact ⟨id, hid, hloaded⟩

/-- Once the lower bound was given up where needed, no bundle before it covers the height. -/
theorem not_covers_before (h : Sound archive now fetcher) {id : UInt64}
    (hid : id < (fetcher.restartBefore height).lowerBound) : ¬ archive.Covers id height := by
  have hsound : Sound archive now (fetcher.restartBefore height) := h.restartBefore
  -- without a known start the search begins at the first bundle
  cases hstart : (fetcher.restartBefore height).lowerBoundStart with
  | none =>
    rw [hsound.bound_eq_zero hstart] at hid
    exact absurd hid (by grind)
  | some start =>
    have hle : start ≤ height := by
      unfold Fetcher.restartBefore at hstart
      split at hstart
      · exact nomatch hstart
      · rename_i hany
        simpa [hstart] using hany
    rintro ⟨-, hlast⟩
    have hgap := Growing.last_lt_first_of_lt hid hsound.bound_le_newest
    rw [hsound.start_eq start hstart] at hgap
    grind

/-- A bundle that is kept and covers a height is the one that a fresh load would give. -/
theorem loadedAt_of_covering? (h : Sound archive now fetcher) {loaded : Loaded}
    (hcovering : fetcher.covering? height = some loaded) :
    archive.loadedAt now height = .ok loaded := by
  obtain ⟨hcached, hcontains⟩ := Option.filter_eq_some_iff.mp hcovering
  obtain ⟨id, hid, hloaded⟩ := h.cached loaded hcached
  have hrange : loaded.range = archive.range id := Bundle.range_of_unpack hloaded
  rw [hrange] at hcontains
  have hfound : archive.covering? now height = some id :=
    Growing.covering?_eq_some_iff.mpr ⟨hid, Growing.covers_iff_contains.mpr hcontains⟩
  rw [Growing.loadedAt, hfound]
  exact hloaded

end Sound

/-! ### Outcomes -/

/-- What work with a fetcher comes to: a sound fetcher, and a given answer or else an outage. -/
structure Outcome {α : Type} (archive : Growing) (outages : Nat → Option ArchiveError) (now : Nat)
    (expected : Except ArchiveError α) (run : Except ArchiveError α × Fetcher × Nat) : Prop where
  later : now ≤ run.2.2
  sound : Sound archive run.2.2 run.2.1
  answer : run.1 = expected ∨ ∃ moment e, outages moment = some e ∧ run.1 = .error e

/-- Without outages the answer is the given one. -/
theorem Outcome.eq_of_calm {α : Type} {expected : Except ArchiveError α}
    {run : Except ArchiveError α × Fetcher × Nat}
    (h : Outcome archive (fun _ => none) now expected run) : run.1 = expected := by
  rcases h.answer with heq | ⟨_, _, hout, _⟩
  · exact heq
  · exact nomatch hout

theorem locate_outcome (h : Sound archive now fetcher) :
    Outcome archive outages now (archive.bundleAt now height)
      ((locate (archive.source outages) height).exec fetcher now) := by
  have hsound : Sound archive now (fetcher.restartBefore height) := h.restartBefore
  have hbound := UInt64.le_iff_toNat_le.mp hsound.bound_le_newest
  have hgrown : (archive.newest now).toNat ≤ (archive.newest (now + 1)).toNat :=
    UInt64.le_iff_toNat_le.mp (archive.newest_mono (Nat.le_succ now))
  rw [exec_locate, Growing.reply_latestBundleId]
  cases hout : outages now with
  | some e =>
    exact ⟨Nat.le_succ now, hsound.mono (Nat.le_succ now), .inr ⟨now, e, hout, rfl⟩⟩
  | none =>
    dsimp only [Option.elim]
    generalize hlow : (fetcher.restartBefore height).lowerBound.toNat = low at hbound
    have hsearch : Growing.Searched archive outages height low
        ((archive.newest now).toNat + 1 - low) (now + 1)
        (reply (search (archive.source outages) height low
          ((archive.newest now).toNat + 1 - low)) (now + 1)) :=
      Growing.search_outcome (by omega)
    generalize reply (search (archive.source outages) height low _) (now + 1) = found at hsearch
    cases hsearch with
    | failed hlater outage =>
      obtain ⟨moment, hmoment⟩ := outage
      have hlater' := Nat.le_of_succ_le hlater
      exact ⟨hlater', hsound.mono hlater', .inr ⟨moment, _, hmoment, rfl⟩⟩
    -- bundles from the lower bound on were searched, and those before it are ruled out
    | missed hlater hnone =>
      have hlater' := Nat.le_of_succ_le hlater
      refine ⟨hlater', hsound.mono hlater', .inl ?_⟩
      have hmissing : archive.covering? now height = none := by
        refine Growing.covering?_eq_none_iff.mpr fun id hid hcovers => ?_
        have hid := UInt64.le_iff_toNat_le.mp hid
        by_cases hbefore : id < (fetcher.restartBefore height).lowerBound
        · exact h.not_covers_before hbefore hcovers
        · have := UInt64.le_iff_toNat_le.mp (UInt64.not_lt.mp hbefore)
          exact hnone id (by omega) (by omega) hcovers
      rw [Growing.bundleAt, hmissing]
    | @found id later hlater hid hid' hcovers =>
      have hfinal : id ≤ archive.newest now := UInt64.le_iff_toNat_le.mpr (by omega)
      have hlater' := Nat.le_of_succ_le hlater
      refine ⟨hlater', (hsound.advance hfinal).mono hlater', .inl ?_⟩
      rw [Growing.bundleAt, Growing.covering?_eq_some_iff.mpr ⟨hfinal, hcovers⟩]

theorem loadedFor_outcome (h : Sound archive now fetcher) :
    Outcome archive outages now (archive.loadedAt now height)
      ((loadedFor (archive.source outages) height).exec fetcher now) := by
  rw [exec_loadedFor]
  cases hcovering : fetcher.covering? height with
  | some loaded => exact ⟨Nat.le_refl _, h, .inl (h.loadedAt_of_covering? hcovering).symm⟩
  | none =>
    have hlocate : Outcome archive outages now (archive.bundleAt now height)
        ((locate (archive.source outages) height).exec fetcher now) := locate_outcome h
    generalize (locate (archive.source outages) height).exec fetcher now = run at hlocate ⊢
    obtain ⟨result, fetcher, later⟩ := run
    obtain ⟨hlater, hsound, hresult⟩ := hlocate
    dsimp only at hlater hsound hresult ⊢
    rcases hresult with rfl | ⟨moment, e, hout, rfl⟩
    · cases hfound : archive.covering? now height with
      | none =>
        simp only [Growing.bundleAt, Growing.loadedAt, hfound]
        exact ⟨hlater, hsound, .inl rfl⟩
      | some id =>
        obtain ⟨hid, -⟩ := Growing.covers_of_covering? hfound
        simp only [Growing.bundleAt, Growing.loadedAt, hfound, reply_load,
          archive.heightRange_bundle hid, Growing.reply_retrieve]
        cases hout : outages later with
        | some e =>
          exact ⟨Nat.le_succ_of_le hlater, hsound.mono (Nat.le_succ later),
            .inr ⟨later, e, hout, rfl⟩⟩
        | none =>
          dsimp only [Option.elim]
          rw [← Growing.loaded]
          have hsound' : Sound archive (later + 1) fetcher := hsound.mono (Nat.le_succ later)
          cases hloaded : archive.loaded id with
          | error e => exact ⟨Nat.le_succ_of_le hlater, hsound', .inl rfl⟩
          -- what is kept from now on is what any fresh load gives
          | ok loaded =>
            have hid' : id ≤ archive.newest (later + 1) :=
              UInt64.le_trans hid (archive.newest_mono (Nat.le_succ_of_le hlater))
            exact ⟨Nat.le_succ_of_le hlater, hsound'.keep hid' hloaded, .inl rfl⟩
    · exact ⟨hlater, hsound, .inr ⟨moment, e, hout, rfl⟩⟩

theorem fetchPair_outcome (h : Sound archive now fetcher) :
    Outcome archive outages now (archive.pairAt now height)
      ((fetchPair (archive.source outages) height).exec fetcher now) := by
  have hloaded : Outcome archive outages now (archive.loadedAt now height)
      ((loadedFor (archive.source outages) height).exec fetcher now) := loadedFor_outcome h
  rw [exec_fetchPair, Growing.pairAt]
  generalize (loadedFor (archive.source outages) height).exec fetcher now = run at hloaded ⊢
  obtain ⟨result, fetcher, later⟩ := run
  obtain ⟨hlater, hsound, hresult⟩ := hloaded
  dsimp only at hlater hsound hresult ⊢
  rcases hresult with rfl | ⟨moment, e, hout, rfl⟩
  · cases archive.loadedAt now height with
    | error e => exact ⟨hlater, hsound, .inl rfl⟩
    | ok loaded => exact ⟨hlater, hsound, .inl rfl⟩
  · exact ⟨hlater, hsound, .inr ⟨moment, e, hout, rfl⟩⟩

theorem fetchPairs_sound {heights : List UInt64} (h : Sound archive now fetcher) :
    now ≤ ((fetchPairs (archive.source outages) heights).exec fetcher now).2.2 ∧
      Sound archive ((fetchPairs (archive.source outages) heights).exec fetcher now).2.2
        ((fetchPairs (archive.source outages) heights).exec fetcher now).2.1 := by
  -- an error ends the batch, but not before the fetcher is sound again
  induction heights generalizing fetcher now with
  | nil => exact ⟨Nat.le_refl _, h⟩
  | cons height heights ih =>
    have hpair : Outcome archive outages now (archive.pairAt now height)
      ((fetchPair (archive.source outages) height).exec fetcher now) := fetchPair_outcome h
    rw [exec_fetchPairs_cons]
    generalize (fetchPair (archive.source outages) height).exec fetcher now = run at hpair ⊢
    obtain ⟨_ | pair, fetcher, later⟩ := run
    · exact ⟨hpair.later, hpair.sound⟩
    · have hrest := ih hpair.sound
      dsimp only at hrest ⊢
      generalize (fetchPairs (archive.source outages) heights).exec fetcher later = rest at hrest ⊢
      obtain ⟨_ | pairs, fetcher, last⟩ := rest
      · exact ⟨Nat.le_trans hpair.later hrest.1, hrest.2⟩
      · exact ⟨Nat.le_trans hpair.later hrest.1, hrest.2⟩

/-! ### Batches after a history -/

/-- Answers do not depend on the moment once the archive has stopped growing. -/
theorem pairAt_frozenAt : (archive.frozenAt now).pairAt later = archive.pairAt now := rfl

theorem Sound.frozenAt (h : Sound archive now fetcher) :
    Sound (archive.frozenAt now) later fetcher :=
  ⟨h.bound_eq_zero, h.bound_le_newest, h.start_eq, h.cached⟩

/-- Without outages and growth a batch comes to the answers of its heights. -/
theorem fetchPairs_calm {heights : List UInt64}
    (h : Sound (archive.frozenAt now) later fetcher) :
    ((fetchPairs ((archive.frozenAt now).source fun _ => none) heights).exec fetcher later).1 =
      heights.mapM (archive.pairAt now) := by
  induction heights generalizing fetcher later with
  | nil => rfl
  | cons height heights ih =>
    have hpair : Outcome (archive.frozenAt now) (fun _ => none) later
        ((archive.frozenAt now).pairAt later height)
        ((fetchPair ((archive.frozenAt now).source fun _ => none) height).exec fetcher later) :=
      fetchPair_outcome h
    rw [exec_fetchPairs_cons, List.mapM_cons, ← pairAt_frozenAt, ← hpair.eq_of_calm]
    generalize (fetchPair ((archive.frozenAt now).source fun _ => none) height).exec fetcher later =
      run at hpair ⊢
    obtain ⟨_ | pair, fetcher, later⟩ := run
    · rfl
    · dsimp only
      rw [pairAt_frozenAt, ← ih hpair.sound]
      rcases (fetchPairs ((archive.frozenAt now).source fun _ => none) heights).exec fetcher later
        with ⟨_ | pairs, fetcher, last⟩ <;> rfl

/-- What may be asked of a fetcher. -/
inductive Request where
  | locate (height : UInt64)
  | fetch (heights : List UInt64)

/-- What a fetcher remembers after a request, and the state that the archive is left in; an error of
the request is no end. -/
def Request.serve {σ : Type} (source : Source (StateM σ)) :
    Request → Fetcher × σ → Fetcher × σ
  | .locate height, (fetcher, s) => ((Archive.locate source height).exec fetcher s).2
  | .fetch heights, (fetcher, s) => ((fetchPairs source heights).exec fetcher s).2

/-- What a fetcher remembers after a history of requests, and the state that the archive is left
in. -/
def Request.serveAll {σ : Type} (source : Source (StateM σ)) (history : List Request)
    (start : Fetcher × σ) : Fetcher × σ :=
  history.foldl (fun state request => request.serve source state) start

theorem Request.serve_sound {request : Request} (h : Sound archive now fetcher) :
    Sound archive (request.serve (archive.source outages) (fetcher, now)).2
      (request.serve (archive.source outages) (fetcher, now)).1 := by
  cases request with
  | locate height =>
    exact (locate_outcome h : Outcome archive outages now (archive.bundleAt now height) _).sound
  | fetch heights => exact (fetchPairs_sound h).2

theorem Request.serveAll_sound {history : List Request} (h : Sound archive now fetcher) :
    Sound archive (serveAll (archive.source outages) history (fetcher, now)).2
      (serveAll (archive.source outages) history (fetcher, now)).1 := by
  induction history generalizing fetcher now with
  | nil => exact h
  | cons request history ih => exact ih (Request.serve_sound h)

/-- A fetcher with any history, outages and growth included, answers a batch like one without, as
long as the archive answers and stays as it is. -/
theorem fetchPairs_after_history (archive : Growing) (outages : Nat → Option ArchiveError)
    (history : List Request) (heights : List UInt64) :
    let (fetcher, now) := Request.serveAll (archive.source outages) history (Fetcher.new, 0)
    let batch := fetchPairs ((archive.frozenAt now).source fun _ => none) heights
    (batch.exec fetcher now).1 = (batch.exec Fetcher.new now).1 := by
  have hsound : Sound archive (Request.serveAll (archive.source outages) history (.new, 0)).2
      (Request.serveAll (archive.source outages) history (.new, 0)).1 :=
    Request.serveAll_sound Sound.new
  -- both come to the answers that the archive determines
  dsimp only
  rw [fetchPairs_calm hsound.frozenAt, fetchPairs_calm Sound.new]

end ChainFeed.Archive
