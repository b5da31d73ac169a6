import ChainFeed.Archive.Fetcher

/-!
# Running a fetcher

A fetcher asks questions of an archive whose answers depend on a state of its own. Running it gives
three things: a result or an error, what the fetcher remembers from then on, and the state that the
archive is left in. What is remembered outlasts errors, so each function below has one equation that
follows it through all of its outcomes, and later proofs use these equations only.

## Main definitions

- `ChainFeed.Archive.reply`: what a question comes to
- `ChainFeed.Archive.Fetch.exec`: what work with a fetcher comes to
- `ChainFeed.Archive.Bundle.unpack`, `ChainFeed.Archive.Loaded.pair`: the parts of fetching that ask
  nothing

## Main results

- `reply_search_succ`, `exec_locate`, `exec_loadedFor`, `exec_fetchPair`, `exec_fetchPairs_cons`
-/

namespace ChainFeed.Archive

variable {σ ε α β : Type}

/-- What a question comes to, and the state that it leaves. -/
def reply (question : ExceptT ε (StateM σ) α) (s : σ) : Except ε α × σ :=
  question.run.run s

/-- What work with a fetcher comes to, what the fetcher remembers then, and the state that is
left. -/
def Fetch.exec (work : Fetch (StateM σ) α) (fetcher : Fetcher) (s : σ) :
    Except ArchiveError α × Fetcher × σ :=
  let ((result, fetcher), s) := (work.run.run fetcher).run s
  (result, fetcher, s)

/-! ### Questions -/

theorem reply_pure (a : α) (s : σ) :
    reply (pure a : ExceptT ε (StateM σ) α) s = (.ok a, s) := rfl

theorem reply_lift (result : Except ε α) (s : σ) :
    reply (liftM result : ExceptT ε (StateM σ) α) s = (result, s) := by
  cases result <;> rfl

theorem reply_bind (question : ExceptT ε (StateM σ) α) (next : α → ExceptT ε (StateM σ) β) (s : σ) :
    reply (question >>= next) s =
      match reply question s with
      | (.ok a, s) => reply (next a) s
      | (.error e, s) => (.error e, s) := by
  simp only [reply, ExceptT.run_bind, StateT.run_bind]
  rcases question.run.run s with ⟨_ | _, _⟩ <;> rfl

/-! ### Work with a fetcher -/

theorem exec_get (fetcher : Fetcher) (s : σ) :
    Fetch.exec get fetcher s = (.ok fetcher, fetcher, s) := rfl

theorem exec_modify (change : Fetcher → Fetcher) (fetcher : Fetcher) (s : σ) :
    Fetch.exec (modify change) fetcher s = (.ok (), change fetcher, s) := rfl

theorem exec_lift (result : Except ArchiveError α) (fetcher : Fetcher) (s : σ) :
    Fetch.exec (liftM result) fetcher s = (result, fetcher, s) := by
  cases result <;> rfl

theorem exec_ask (question : ExceptT ArchiveError (StateM σ) α) (fetcher : Fetcher) (s : σ) :
    (ask question).exec fetcher s = ((reply question s).1, fetcher, (reply question s).2) := rfl

theorem exec_bind (work : Fetch (StateM σ) α) (next : α → Fetch (StateM σ) β) (fetcher : Fetcher)
    (s : σ) :
    (work >>= next).exec fetcher s =
      match work.exec fetcher s with
      | (.ok a, fetcher, s) => (next a).exec fetcher s
      | (.error e, fetcher, s) => (.error e, fetcher, s) := by
  simp only [Fetch.exec, ExceptT.run_bind, StateT.run_bind]
  rcases (work.run.run fetcher).run s with ⟨⟨_ | _, _⟩, _⟩ <;> rfl

/-! ### The search -/

theorem reply_search_zero (source : Source (StateM σ)) (height : UInt64) (low : Nat) (s : σ) :
    reply (search source height low 0) s = (.ok none, s) := by
  rw [search, reply_pure]

theorem reply_search_succ (source : Source (StateM σ)) (height : UInt64) (low n : Nat) (s : σ) :
    reply (search source height low (n + 1)) s =
      match reply (source.finalizedBundle (low + n / 2).toUInt64) s with
      | (.error e, s) => (.error e, s)
      | (.ok bundle, s) =>
        match bundle.heightRange with
        | .error e => (.error e, s)
        | .ok range =>
          if range.contains height then
            (.ok (some ⟨(low + n / 2).toUInt64, range, bundle⟩), s)
          else if height < range.first then reply (search source height low (n / 2)) s
          else reply (search source height (low + n / 2 + 1) (n - n / 2)) s := by
  rw [search, reply_bind]
  rcases reply (source.finalizedBundle (low + n / 2).toUInt64) s with ⟨_ | bundle, s⟩
  · rfl
  · dsimp only
    rw [reply_bind, reply_lift]
    cases bundle.heightRange with
    | error => rfl
    | ok range =>
      dsimp only
      by_cases hcontains : range.contains height = true
      · rw [if_pos hcontains, if_pos hcontains, reply_pure]
      · rw [if_neg hcontains, if_neg hcontains]
        split <;> rfl

/-- The bundle that covers a height is searched from the lower bound to the newest bundle, after the
lower bound was given up if the height lies before it. -/
theorem exec_locate (source : Source (StateM σ)) (height : UInt64) (fetcher : Fetcher) (s : σ) :
    (locate source height).exec fetcher s =
      match reply source.latestBundleId s with
      | (.error e, s) => (.error e, fetcher.restartBefore height, s)
      | (.ok latest, s) =>
        let low := (fetcher.restartBefore height).lowerBound.toNat
        match reply (search source height low (latest.toNat + 1 - low)) s with
        | (.error e, s) => (.error e, fetcher.restartBefore height, s)
        | (.ok none, s) => (.error (.bundleNotFound height), fetcher.restartBefore height, s)
        | (.ok (some found), s) =>
          (.ok found.bundle, (fetcher.restartBefore height).advance found.id found.range, s) := by
  -- the lower bound may be given up even if the first question fails
  simp only [locate, exec_bind, exec_modify, exec_ask, exec_get]
  rcases reply source.latestBundleId s with ⟨_ | latest, s⟩
  · rfl
  · dsimp only
    rcases reply (search source height _ _) s with ⟨_ | _ | found, s⟩ <;> rfl

/-! ### Loading -/

/-- The entries of a bundle from its data as stored. -/
def Bundle.unpack (bundle : Bundle) (range : HeightRange) (stored : List UInt8) :
    Except ArchiveError Loaded :=
  match bundle.decompress stored with
  | .error e => .error e
  | .ok data => (Entries.parse bundle.id data).map fun entries => ⟨bundle.id, range, entries⟩

/-- The block pair that a loaded bundle has for a height. -/
def Loaded.pair (loaded : Loaded) (height : UInt64) : Except ArchiveError BlockPair :=
  match loaded.entries.lookup height with
  | some entry => entry.decode loaded.id height
  | none => .error (.malformedBundle loaded.id ("missing height " ++ toString height))

theorem Bundle.range_of_unpack {bundle : Bundle} {range : HeightRange} {stored : List UInt8}
    {loaded : Loaded} (h : bundle.unpack range stored = .ok loaded) : loaded.range = range := by
  unfold Bundle.unpack at h
  cases hdata : bundle.decompress stored with
  | error e =>
    rw [hdata] at h
    exact nomatch h
  | ok data =>
    rw [hdata] at h
    dsimp only at h
    cases hentries : Entries.parse bundle.id data with
    | error e =>
      rw [hentries] at h
      exact nomatch h
    | ok entries =>
      rw [hentries] at h
      cases h
      rfl

theorem reply_load (source : Source (StateM σ)) (bundle : Bundle) (s : σ) :
    reply (load source bundle) s =
      match bundle.heightRange with
      | .error e => (.error e, s)
      | .ok range =>
        match reply (source.retrieve bundle) s with
        | (.error e, s) => (.error e, s)
        | (.ok stored, s) => (bundle.unpack range stored, s) := by
  -- only the data is asked for; all else may fail, but asks nothing
  rw [load, reply_bind, reply_lift]
  cases bundle.heightRange with
  | error => rfl
  | ok range =>
    dsimp only
    rw [reply_bind]
    rcases reply (source.retrieve bundle) s with ⟨_ | stored, s⟩
    · rfl
    · dsimp only [Bundle.unpack]
      rw [reply_bind, reply_lift]
      cases bundle.decompress stored with
      | error => rfl
      | ok data =>
        dsimp only
        rw [reply_bind, reply_lift]
        cases Entries.parse bundle.id data <;> rfl

/-- A bundle is kept only once it has been loaded. -/
theorem exec_loadedFor (source : Source (StateM σ)) (height : UInt64) (fetcher : Fetcher) (s : σ) :
    (loadedFor source height).exec fetcher s =
      match fetcher.covering? height with
      | some loaded => (.ok loaded, fetcher, s)
      | none =>
        match (locate source height).exec fetcher s with
        | (.error e, fetcher, s) => (.error e, fetcher, s)
        | (.ok bundle, fetcher, s) =>
          match reply (load source bundle) s with
          | (.error e, s) => (.error e, fetcher, s)
          | (.ok loaded, s) => (.ok loaded, fetcher.keep loaded, s) := by
  rw [loadedFor, exec_bind, exec_get]
  dsimp only
  cases fetcher.covering? height with
  | some loaded => rfl
  | none =>
    dsimp only
    rw [exec_bind]
    rcases (locate source height).exec fetcher s with ⟨_ | bundle, fetcher, s⟩
    · rfl
    · dsimp only
      rw [exec_bind, exec_ask]
      rcases reply (load source bundle) s with ⟨_ | loaded, s⟩ <;> rfl

theorem exec_fetchPair (source : Source (StateM σ)) (height : UInt64) (fetcher : Fetcher) (s : σ) :
    (fetchPair source height).exec fetcher s =
      match (loadedFor source height).exec fetcher s with
      | (.error e, fetcher, s) => (.error e, fetcher, s)
      | (.ok loaded, fetcher, s) => (loaded.pair height, fetcher, s) := by
  rw [fetchPair, exec_bind]
  rcases (loadedFor source height).exec fetcher s with ⟨_ | loaded, fetcher, s⟩
  · rfl
  · dsimp only [Loaded.pair]
    cases loaded.entries.lookup height with
    | none => rfl
    | some entry => exact exec_lift _ _ _

theorem exec_fetchPairs_cons (source : Source (StateM σ)) (height : UInt64) (heights : List UInt64)
    (fetcher : Fetcher) (s : σ) :
    (fetchPairs source (height :: heights)).exec fetcher s =
      match (fetchPair source height).exec fetcher s with
      | (.error e, fetcher, s) => (.error e, fetcher, s)
      | (.ok pair, fetcher, s) =>
        match (fetchPairs source heights).exec fetcher s with
        | (.error e, fetcher, s) => (.error e, fetcher, s)
        | (.ok pairs, fetcher, s) => (.ok (pair :: pairs), fetcher, s) := by
  rw [fetchPairs, exec_bind]
  rcases (fetchPair source height).exec fetcher s with ⟨_ | pair, fetcher, s⟩
  · rfl
  · dsimp only
    rw [exec_bind]
    rcases (fetchPairs source heights).exec fetcher s with ⟨_ | pairs, fetcher, s⟩ <;> rfl

end ChainFeed.Archive
