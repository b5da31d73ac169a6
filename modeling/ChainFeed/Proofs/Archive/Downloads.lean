import ChainFeed.Proofs.Archive.Probing
import ChainFeed.Proofs.Archive.Serving

/-!
# Downloads

A download is a question for the data of a bundle, with its answer. It comes to a loaded bundle if
the data was received and could be read in full, and to nothing otherwise.

The downloads of a batch are known from the heights that are served: one is made for each height
that the kept bundle does not cover and for which a bundle is found, and the search alone downloads
nothing. What is kept after the batch is the bundle that was loaded last.

## Main definitions

- `Archive.Download`, `Archive.Source.recording`: downloads, and an archive that records them
- `Archive.Serving`, `Serving.download?`: a height that is served, and the download for it
- `Archive.batchServings`: the heights of a batch that are served

## Main results

- `Serving.of_download?_eq_some`: a download is made only if it is needed
- `exec_fetchPairs_recording`: the downloads of a batch are those of its heights
- `cached_fetchPairs`: the downloads of a batch determine what is kept
-/

namespace ChainFeed.Archive

variable {σ : Type} {source : Source (StateM σ)} {height : UInt64} {fetcher : Fetcher} {s : σ}

/-! ### Downloads -/

/-- A question for the data of a bundle, with its answer. -/
abbrev Download :=
  Bundle × Except ArchiveError (List UInt8)

namespace Download

/-- The bundle with all its entries, if the data was received and could be read. -/
def loaded? (download : Download) : Option Loaded :=
  match download.1.heightRange, download.2 with
  | .ok range, .ok stored => (download.1.unpack range stored).toOption
  | _, _ => none

/-- By what is known of it, the bundle covers a height. -/
def Covers (download : Download) (height : UInt64) : Prop :=
  ∃ range, download.1.heightRange = .ok range ∧ range.contains height = true

theorem range_of_loaded? {download : Download} {loaded : Loaded}
    (h : download.loaded? = some loaded) : download.1.heightRange = .ok loaded.range := by
  unfold loaded? at h
  split at h
  · rename_i range stored hrange hanswer
    cases hunpack : download.1.unpack range stored with
    | error e =>
      rw [hunpack] at h
      cases h
    | ok other =>
      rw [hunpack] at h
      obtain rfl := Option.some.inj h
      rw [hrange, Bundle.range_of_unpack hunpack]
  · cases h

end Download

/-- The bundle that is loaded last in a list of downloads. -/
def lastLoaded (downloads : List Download) : Option Loaded :=
  (downloads.filterMap Download.loaded?).getLast?

theorem lastLoaded_append (first second : List Download) :
    lastLoaded (first ++ second) = (lastLoaded second).or (lastLoaded first) := by
  rw [lastLoaded, List.filterMap_append, List.getLast?_append, lastLoaded, lastLoaded]

theorem lastLoaded_toList (download? : Option Download) :
    lastLoaded download?.toList = download?.bind Download.loaded? := by
  cases download? with
  | none => rfl
  | some download =>
    rw [lastLoaded, Option.toList_some, List.filterMap_cons, Option.bind_some]
    cases download.loaded? <;> rfl

theorem mem_of_lastLoaded {downloads : List Download} {loaded : Loaded}
    (h : lastLoaded downloads = some loaded) :
    ∃ download ∈ downloads, download.loaded? = some loaded :=
  List.mem_filterMap.mp (List.mem_of_getLast? h)

/-- An archive that records downloads beside its own state. -/
def Source.recording (source : Source (StateM σ)) : Source (StateM (σ × List Download)) :=
  { source.ofFirst with
    retrieve := fun bundle => ExceptT.mk fun (s, downloads) =>
      let (answer, s) := reply (source.retrieve bundle) s
      (answer, s, downloads ++ [(bundle, answer)]) }

theorem reply_latestBundleId_recording (downloads : List Download) :
    reply source.recording.latestBundleId (s, downloads) =
      ((reply source.latestBundleId s).1, (reply source.latestBundleId s).2, downloads) := rfl

theorem reply_finalizedBundle_recording (id : UInt64) (downloads : List Download) :
    reply (source.recording.finalizedBundle id) (s, downloads) =
      ((reply (source.finalizedBundle id) s).1, (reply (source.finalizedBundle id) s).2,
        downloads) := rfl

theorem reply_retrieve_recording (bundle : Bundle) (downloads : List Download) :
    reply (source.recording.retrieve bundle) (s, downloads) =
      ((reply (source.retrieve bundle) s).1, (reply (source.retrieve bundle) s).2,
        downloads ++ [(bundle, (reply (source.retrieve bundle) s).1)]) := rfl

theorem reply_search_recording (source : Source (StateM σ)) (height : UInt64) (low count : Nat)
    (s : σ) (downloads : List Download) :
    reply (search source.recording height low count) (s, downloads) =
      ((reply (search source height low count) s).1, (reply (search source height low count) s).2,
        downloads) := by
  -- both halves are smaller, but neither is the predecessor of `count`
  induction count using Nat.strongRecOn generalizing low s with
  | ind count ih =>
    cases count with
    | zero => rw [reply_search_zero, reply_search_zero]
    | succ n =>
      rw [reply_search_succ, reply_search_succ, reply_finalizedBundle_recording]
      rcases reply (source.finalizedBundle (low + n / 2).toUInt64) s with ⟨_ | bundle, s⟩
      · rfl
      · dsimp only
        cases bundle.heightRange with
        | error e => rfl
        | ok range =>
          dsimp only
          split_ifs
          · rfl
          · exact ih (n / 2) (by omega) low s
          · exact ih (n - n / 2) (by omega) _ s

/-- A search downloads nothing. -/
theorem exec_locate_recording (source : Source (StateM σ)) (height : UInt64) (fetcher : Fetcher)
    (s : σ) (downloads : List Download) :
    (locate source.recording height).exec fetcher (s, downloads) =
      let run := (locate source height).exec fetcher s
      (run.1, run.2.1, run.2.2, downloads) := by
  rw [exec_locate, exec_locate, reply_latestBundleId_recording]
  rcases reply source.latestBundleId s with ⟨_ | latest, s⟩
  · rfl
  · dsimp only
    rw [reply_search_recording]
    rcases reply (search source height _ _) s with ⟨_ | _ | found, s⟩ <;> rfl

theorem Fetcher.cached_restartBefore : (fetcher.restartBefore height).cached = fetcher.cached := by
  unfold restartBefore
  split <;> rfl

/-- A search leaves the slot alone. -/
theorem cached_locate :
    ((locate source height).exec fetcher s).2.1.cached = fetcher.cached := by
  rw [exec_locate]
  rcases reply source.latestBundleId s with ⟨_ | latest, s⟩
  · exact Fetcher.cached_restartBefore
  · dsimp only
    rcases reply (search source height _ _) s with ⟨_ | _ | found, s⟩
    · exact Fetcher.cached_restartBefore
    · exact Fetcher.cached_restartBefore
    · exact Fetcher.cached_restartBefore

/-! ### Servings -/

/-- A height that is served, with what is remembered and the state of the archive before it. -/
structure Serving (σ : Type) where
  height : UInt64
  fetcher : Fetcher
  state : σ

namespace Serving

/-- The download that is made for a height: there is none if the slot has a bundle that covers it,
and none if the search fails. -/
def download? (source : Source (StateM σ)) (serving : Serving σ) : Option Download :=
  match serving.fetcher.covering? serving.height with
  | some _ => none
  | none =>
    match (locate source serving.height).exec serving.fetcher serving.state with
    | (.ok bundle, _, s) => some (bundle, (reply (source.retrieve bundle) s).1)
    | (.error _, _, _) => none

/-- The bundle that is loaded for a height, if one is. -/
def loaded? (source : Source (StateM σ)) (serving : Serving σ) : Option Loaded :=
  (serving.download? source).bind Download.loaded?

variable {serving : Serving σ} {download : Download}

/-- A download is made only for a height that the bundle covers and the one in the slot does
not. -/
theorem of_download?_eq_some (h : serving.download? source = some download) :
    download.Covers serving.height ∧ serving.fetcher.covering? serving.height = none := by
  unfold download? at h
  split at h
  · cases h
  · rename_i hcovering
    refine ⟨?_, hcovering⟩
    have hlocated := @contains_of_locate _ source serving.height serving.state serving.fetcher
    split at h
    · rename_i bundle fetcher s hlocate
      obtain rfl := Option.some.inj h
      exact hlocated (by rw [hlocate])
    · cases h

end Serving

/-- Serving a height makes its download, and keeps what the download comes to. -/
theorem exec_loadedFor_recording (source : Source (StateM σ)) (height : UInt64)
    (fetcher : Fetcher) (s : σ) (downloads : List Download) :
    (loadedFor source.recording height).exec fetcher (s, downloads) =
      let run := (loadedFor source height).exec fetcher s
      (run.1, run.2.1, run.2.2,
        downloads ++ (Serving.download? source ⟨height, fetcher, s⟩).toList) := by
  rw [exec_loadedFor, exec_loadedFor, Serving.download?]
  cases fetcher.covering? height with
  | some loaded => simp
  | none =>
    have hlocated := @contains_of_locate _ source height s fetcher
    dsimp only
    rw [exec_locate_recording]
    generalize (locate source height).exec fetcher s = run at hlocated ⊢
    obtain ⟨_ | bundle, fetcher, s⟩ := run
    · simp
    -- what was located covers a height, so its range is known and its data is asked for
    · obtain ⟨range, hrange, -⟩ := hlocated rfl
      dsimp only
      rw [reply_load, reply_load, hrange]
      dsimp only
      rw [reply_retrieve_recording]
      rcases reply (source.retrieve bundle) s with ⟨_ | stored, s⟩
      · rfl
      · dsimp only
        cases bundle.unpack range stored <;> rfl

theorem cached_loadedFor :
    ((loadedFor source height).exec fetcher s).2.1.cached =
      (Serving.loaded? source ⟨height, fetcher, s⟩).or fetcher.cached := by
  rw [exec_loadedFor, Serving.loaded?, Serving.download?]
  cases fetcher.covering? height with
  | some loaded => rfl
  | none =>
    have hlocated := @contains_of_locate _ source height s fetcher
    have hcached := @cached_locate _ source height fetcher s
    dsimp only
    generalize (locate source height).exec fetcher s = run at hlocated hcached ⊢
    obtain ⟨_ | bundle, fetcher', s⟩ := run
    · exact hcached
    · obtain ⟨range, hrange, -⟩ := hlocated rfl
      dsimp only [Option.bind_some] at hcached ⊢
      rw [reply_load, hrange, Download.loaded?, hrange]
      dsimp only
      rcases reply (source.retrieve bundle) s with ⟨_ | stored, s⟩
      · exact hcached
      · dsimp only
        cases bundle.unpack range stored with
        | error e => exact hcached
        | ok loaded => rfl

theorem exec_fetchPair_recording (source : Source (StateM σ)) (height : UInt64)
    (fetcher : Fetcher) (s : σ) (downloads : List Download) :
    (fetchPair source.recording height).exec fetcher (s, downloads) =
      let run := (fetchPair source height).exec fetcher s
      (run.1, run.2.1, run.2.2,
        downloads ++ (Serving.download? source ⟨height, fetcher, s⟩).toList) := by
  rw [exec_fetchPair, exec_fetchPair, exec_loadedFor_recording]
  rcases (loadedFor source height).exec fetcher s with ⟨_ | loaded, fetcher', s'⟩ <;> rfl

/-- Whether the bundle has the height makes no difference to the slot. -/
theorem cached_fetchPair :
    ((fetchPair source height).exec fetcher s).2.1.cached =
      (Serving.loaded? source ⟨height, fetcher, s⟩).or fetcher.cached := by
  rw [← cached_loadedFor, exec_fetchPair]
  rcases (loadedFor source height).exec fetcher s with ⟨_ | loaded, fetcher', s'⟩ <;> rfl

/-- The heights of a batch that are served: the first error ends the batch. -/
def batchServings (source : Source (StateM σ)) :
    List UInt64 → Fetcher → σ → List (Serving σ)
  | [], _, _ => []
  | height :: heights, fetcher, s =>
    ⟨height, fetcher, s⟩ ::
      match (fetchPair source height).exec fetcher s with
      | (.ok _, fetcher, s) => batchServings source heights fetcher s
      | (.error _, _, _) => []

/-- The downloads that are made for heights. -/
def downloadsOf (source : Source (StateM σ)) (servings : List (Serving σ)) : List Download :=
  servings.filterMap (Serving.download? source)

@[simp]
theorem downloadsOf_nil : downloadsOf source ([] : List (Serving σ)) = [] := rfl

theorem downloadsOf_cons (serving : Serving σ) (servings : List (Serving σ)) :
    downloadsOf source (serving :: servings) =
      (serving.download? source).toList ++ downloadsOf source servings := by
  rw [downloadsOf, List.filterMap_cons]
  cases serving.download? source <;> rfl

theorem downloadsOf_append (first second : List (Serving σ)) :
    downloadsOf source (first ++ second) = downloadsOf source first ++ downloadsOf source second :=
  List.filterMap_append

/-- The downloads of a batch are those of its heights. -/
theorem exec_fetchPairs_recording (source : Source (StateM σ)) (heights : List UInt64)
    (fetcher : Fetcher) (s : σ) (downloads : List Download) :
    (fetchPairs source.recording heights).exec fetcher (s, downloads) =
      let run := (fetchPairs source heights).exec fetcher s
      (run.1, run.2.1, run.2.2,
        downloads ++ downloadsOf source (batchServings source heights fetcher s)) := by
  induction heights generalizing fetcher s downloads with
  | nil =>
    rw [batchServings, downloadsOf_nil, List.append_nil]
    rfl
  | cons height heights ih =>
    rw [exec_fetchPairs_cons, exec_fetchPairs_cons, exec_fetchPair_recording, batchServings,
      downloadsOf_cons]
    rcases (fetchPair source height).exec fetcher s with ⟨_ | pair, fetcher', s'⟩
    · simp
    · dsimp only
      rw [ih, List.append_assoc]
      rcases (fetchPairs source heights).exec fetcher' s' with ⟨_ | pairs, fetcher'', s''⟩ <;> rfl

/-- After a batch the slot has the bundle that was loaded last, or else the one it had before. -/
theorem cached_fetchPairs (source : Source (StateM σ)) (heights : List UInt64)
    (fetcher : Fetcher) (s : σ) :
    ((fetchPairs source heights).exec fetcher s).2.1.cached =
      (lastLoaded (downloadsOf source (batchServings source heights fetcher s))).or
        fetcher.cached := by
  induction heights generalizing fetcher s with
  | nil => rfl
  | cons height heights ih =>
    have hpair := @cached_fetchPair _ source height fetcher s
    rw [exec_fetchPairs_cons, batchServings, downloadsOf_cons, lastLoaded_append, Option.or_assoc,
      lastLoaded_toList, ← Serving.loaded?, ← hpair]
    generalize (fetchPair source height).exec fetcher s = run
    obtain ⟨_ | pair, fetcher', s'⟩ := run
    · rfl
    · have hrest := ih fetcher' s'
      dsimp only
      rw [← hrest]
      rcases (fetchPairs source heights).exec fetcher' s' with ⟨_ | pairs, fetcher'', s''⟩ <;> rfl

end ChainFeed.Archive
