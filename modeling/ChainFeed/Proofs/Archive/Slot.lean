import ChainFeed.Proofs.Archive.Downloads
import ChainFeed.Proofs.Archive.Transparency

/-!
# The bundle that is kept

A fetcher has one slot for a bundle. The bundle is taken out to see whether it covers a height, and
it is back on every way out, so that whatever fails in between, the slot has the bundle that was
loaded last.

A download is made for a height that the bundle covers and the one in the slot does not. If heights
never fall and all downloads can be loaded, the range in the slot therefore moves up with every
download, and no bundle is downloaded twice. The archive need not be in order for that.

## Main definitions

- `Archive.fetchPairsTaking`: fetching with a slot that is emptied and filled again
- `Archive.servings`: the heights of a run of batches that are served
- `Archive.Linked`: each height is served from the slot that the heights before it have left
- `Archive.Keeping`: what a run does with the slot

## Main results

- `exec_fetchPairsTaking`: taking the bundle out of the slot loses nothing
- `serveAll_recording`, `cached_serveAll`: the downloads of a run determine the slot
- `Linked.pairwise`: the ranges of downloads move up
- `serveAll_keeping`: the slot over any run
-/

namespace ChainFeed.Archive

variable {σ : Type} {source : Source (StateM σ)}

/-! ### Taking the bundle out of the slot -/

section

variable {m : Type → Type} [Monad m]

/-- Empties the slot and gives what was in it. -/
def takeCached : Fetch m (Option Loaded) := do
  let fetcher ← get
  set { fetcher with cached := none }
  return fetcher.cached

/-- The bundle in the slot if it covers a height, or else one that is loaded. The slot is empty
afterwards in the one case, and as it was in the other. -/
def takenOrLoaded (source : Source m) (height : UInt64) : Fetch m Loaded := do
  let previous ← takeCached
  match previous.filter (·.range.contains height) with
  | some loaded => return loaded
  | none =>
    modify ({ · with cached := previous })
    let bundle ← locate source height
    ask (load source bundle)

/-- The bundle of a height, which is in the slot from then on. -/
def loadedForTaking (source : Source m) (height : UInt64) : Fetch m Loaded := do
  let loaded ← takenOrLoaded source height
  modify (Fetcher.keep loaded)
  return loaded

/-- The block pairs of a list of heights, with a slot that is emptied and filled again. -/
def fetchPairsTaking (source : Source m) : List UInt64 → Fetch m (List BlockPair)
  | [] => return []
  | height :: heights => do
    let loaded ← loadedForTaking source height
    let pair ← liftM (loaded.pair height)
    let pairs ← fetchPairsTaking source heights
    return pair :: pairs

end

theorem exec_takeCached (fetcher : Fetcher) (s : σ) :
    takeCached.exec fetcher s = (.ok fetcher.cached, { fetcher with cached := none }, s) := rfl

/-- The bundle is back in the slot whatever fails. -/
theorem exec_loadedForTaking (source : Source (StateM σ)) (height : UInt64) (fetcher : Fetcher)
    (s : σ) :
    (loadedForTaking source height).exec fetcher s = (loadedFor source height).exec fetcher s := by
  rw [loadedForTaking, exec_bind, takenOrLoaded, exec_bind, exec_takeCached, exec_loadedFor]
  dsimp only
  rw [← Fetcher.covering?]
  cases hcovering : fetcher.covering? height with
  | some loaded =>
    have hcached : fetcher.cached = some loaded := (Option.filter_eq_some_iff.mp hcovering).1
    have hkeep : Fetcher.keep loaded { fetcher with cached := none } = fetcher := by
      rw [Fetcher.keep, ← hcached]
    exact congrArg (fun fetcher => (Except.ok loaded, fetcher, s)) hkeep
  | none =>
    dsimp only
    rw [exec_bind, exec_modify]
    dsimp only
    rw [exec_bind]
    rcases (locate source height).exec fetcher s with ⟨_ | bundle, fetcher, s⟩
    · rfl
    · dsimp only
      rw [exec_ask]
      rcases reply (load source bundle) s with ⟨_ | loaded, s⟩ <;> rfl

/-- Taking the bundle out of the slot loses nothing. -/
theorem exec_fetchPairsTaking (source : Source (StateM σ)) (heights : List UInt64)
    (fetcher : Fetcher) (s : σ) :
    (fetchPairsTaking source heights).exec fetcher s =
      (fetchPairs source heights).exec fetcher s := by
  induction heights generalizing fetcher s with
  | nil => rfl
  | cons height heights ih =>
    rw [fetchPairsTaking, exec_bind, exec_loadedForTaking, exec_fetchPairs_cons, exec_fetchPair]
    rcases (loadedFor source height).exec fetcher s with ⟨_ | loaded, fetcher, s⟩
    · rfl
    · dsimp only
      rw [exec_bind, exec_lift]
      cases loaded.pair height with
      | error e => rfl
      | ok pair =>
        dsimp only
        rw [exec_bind, ih]
        rcases (fetchPairs source heights).exec fetcher s with ⟨_ | pairs, fetcher, s⟩ <;> rfl

/-! ### Runs -/

/-- The heights of a run of batches that are served. A batch that fails is no end of the run. -/
def servings (source : Source (StateM σ)) :
    List (List UInt64) → Fetcher × σ → List (Serving σ)
  | [], _ => []
  | batch :: batches, start =>
    batchServings source batch start.1 start.2 ++
      servings source batches (Request.serve source (.fetch batch) start)

/-- The downloads of a run are those of the heights that are served. -/
theorem serveAll_recording (source : Source (StateM σ)) (batches : List (List UInt64))
    (start : Fetcher × σ) (downloads : List Download) :
    Request.serveAll source.recording (batches.map .fetch) (start.1, start.2, downloads) =
      let stop := Request.serveAll source (batches.map .fetch) start
      (stop.1, stop.2, downloads ++ downloadsOf source (servings source batches start)) := by
  induction batches generalizing start downloads with
  | nil =>
    rw [servings, downloadsOf_nil, List.append_nil]
    rfl
  | cons batch batches ih =>
    have hstep : Request.serve source.recording (.fetch batch) (start.1, start.2, downloads) =
        let stop := Request.serve source (.fetch batch) start
        (stop.1, stop.2,
          downloads ++ downloadsOf source (batchServings source batch start.1 start.2)) := by
      rw [Request.serve, exec_fetchPairs_recording]
      rfl
    rw [servings, downloadsOf_append, ← List.append_assoc, List.map_cons]
    exact (congrArg (Request.serveAll source.recording (batches.map .fetch)) hstep).trans (ih _ _)

/-- After a run the slot has the bundle that was loaded last, or else the one it had before. -/
theorem cached_serveAll (source : Source (StateM σ)) (batches : List (List UInt64))
    (start : Fetcher × σ) :
    (Request.serveAll source (batches.map .fetch) start).1.cached =
      (lastLoaded (downloadsOf source (servings source batches start))).or start.1.cached := by
  induction batches generalizing start with
  | nil => rfl
  | cons batch batches ih =>
    rw [servings, downloadsOf_append, lastLoaded_append, Option.or_assoc, ← cached_fetchPairs]
    exact ih _

/-! ### Heights that never fall -/

/-- Each height is served from the slot as the heights before it have left it. -/
inductive Linked (source : Source (StateM σ)) : Option Loaded → List (Serving σ) → Prop
  | nil (slot : Option Loaded) : Linked source slot []
  | cons {serving : Serving σ} {rest : List (Serving σ)}
    (h : Linked source ((serving.loaded? source).or serving.fetcher.cached) rest) :
    Linked source serving.fetcher.cached (serving :: rest)

theorem Linked.append {slot : Option Loaded} {first second : List (Serving σ)}
    (hfirst : Linked source slot first)
    (hsecond : Linked source ((lastLoaded (downloadsOf source first)).or slot) second) :
    Linked source slot (first ++ second) := by
  induction hfirst with
  | nil slot => exact hsecond
  | @cons serving rest _ ih =>
    rw [downloadsOf_cons, lastLoaded_append, Option.or_assoc, lastLoaded_toList,
      ← Serving.loaded?] at hsecond
    exact .cons (ih hsecond)

theorem linked_batchServings (source : Source (StateM σ)) (heights : List UInt64)
    (fetcher : Fetcher) (s : σ) :
    Linked source fetcher.cached (batchServings source heights fetcher s) := by
  induction heights generalizing fetcher s with
  | nil => exact .nil _
  | cons height heights ih =>
    have hcached := @cached_fetchPair _ source height fetcher s
    rw [batchServings]
    refine @Linked.cons _ _ ⟨height, fetcher, s⟩ _ ?_
    rw [← hcached]
    generalize (fetchPair source height).exec fetcher s = run
    obtain ⟨_ | pair, fetcher', s'⟩ := run
    · exact .nil _
    · exact ih fetcher' s'

theorem linked_servings (source : Source (StateM σ)) (batches : List (List UInt64))
    (start : Fetcher × σ) : Linked source start.1.cached (servings source batches start) := by
  induction batches generalizing start with
  | nil => exact .nil _
  | cons batch batches ih =>
    refine (linked_batchServings source batch start.1 start.2).append ?_
    rw [← cached_fetchPairs]
    exact ih _

theorem heights_batchServings (source : Source (StateM σ)) (heights : List UInt64)
    (fetcher : Fetcher) (s : σ) :
    ((batchServings source heights fetcher s).map Serving.height).Sublist heights := by
  induction heights generalizing fetcher s with
  | nil => exact .slnil
  | cons height heights ih =>
    rw [batchServings, List.map_cons]
    refine .cons_cons height ?_
    rcases (fetchPair source height).exec fetcher s with ⟨_ | pair, fetcher', s'⟩
    · exact List.nil_sublist _
    · exact ih fetcher' s'

/-- Heights are served in the order of the batches. -/
theorem heights_servings (source : Source (StateM σ)) (batches : List (List UInt64))
    (start : Fetcher × σ) :
    ((servings source batches start).map Serving.height).Sublist batches.flatten := by
  induction batches generalizing start with
  | nil => exact .slnil
  | cons batch batches ih =>
    rw [servings, List.map_append, List.flatten_cons]
    exact (heights_batchServings source batch start.1 start.2).append (ih _)

/-- By what is known of it, the bundle ends behind a height. -/
def Download.EndsBehind (download : Download) (height : UInt64) : Prop :=
  ∀ range, download.1.heightRange = .ok range → height < range.last

/-- If heights never fall and all downloads can be loaded, each download ends behind the bundle that
is in the slot by then. -/
theorem Linked.pairwise {slot : Option Loaded} {servings : List (Serving σ)}
    (h : Linked source slot servings)
    (hheights : (servings.map Serving.height).Pairwise (· ≤ ·))
    (hloaded : ∀ download ∈ downloadsOf source servings, download.loaded?.isSome)
    (hslot : ∀ loaded, slot = some loaded →
      ∀ serving ∈ servings, loaded.range.first ≤ serving.height) :
    (downloadsOf source servings).Pairwise
        (fun download later => ∀ range, download.1.heightRange = .ok range →
          later.EndsBehind range.last) ∧
      ∀ loaded, slot = some loaded →
        ∀ download ∈ downloadsOf source servings, download.EndsBehind loaded.range.last := by
  induction h with
  | nil slot => simp
  | @cons serving rest h ih =>
    rw [List.map_cons, List.pairwise_cons] at hheights
    rw [downloadsOf_cons] at hloaded ⊢
    cases hdownload : serving.download? source with
    | none =>
      rw [Serving.loaded?, hdownload] at ih
      rw [hdownload] at hloaded
      exact ih hheights.2 hloaded fun loaded hcached later hlater =>
        hslot loaded hcached later (List.mem_cons_of_mem _ hlater)
    | some download =>
      rw [hdownload] at hloaded
      obtain ⟨⟨range, hrange, hcontains⟩, hcovering⟩ := Serving.of_download?_eq_some hdownload
      obtain ⟨hfirst, hlast⟩ := HeightRange.contains_iff.mp hcontains
      obtain ⟨loaded, hload⟩ := Option.isSome_iff_exists.mp
        (hloaded download (List.mem_append_left _ (List.mem_singleton.mpr rfl)))
      obtain rfl : range = loaded.range := by
        have hrange' := Download.range_of_loaded? hload
        rw [hrange] at hrange'
        exact Except.ok.inj hrange'
      -- the bundle is in the slot from now on, and no later height lies before it
      have hnow : serving.loaded? source = some loaded := by
        rw [Serving.loaded?, hdownload, Option.bind_some, hload]
      rw [hnow] at ih
      obtain ⟨hpairwise, hbehind⟩ := ih hheights.2
        (fun later hlater => hloaded later (List.mem_append_right _ hlater)) (by
          intro other hother later hlater
          obtain rfl := Option.some.inj hother
          exact UInt64.le_trans hfirst (hheights.1 _ (List.mem_map_of_mem hlater)))
      have hbehind := hbehind loaded rfl
      rw [Option.toList_some, List.singleton_append, List.pairwise_cons]
      refine ⟨⟨fun later hlater range' hrange' => ?_, hpairwise⟩, fun old hold => ?_⟩
      · obtain rfl := Except.ok.inj (hrange.symm.trans hrange')
        exact hbehind later hlater
      -- the bundle before does not cover the height, and starts before it
      · have hpast : old.range.last < serving.height := by
          have hstart := hslot old hold serving List.mem_cons_self
          have hnot : ¬ old.range.contains serving.height = true := by
            rw [Fetcher.covering?, hold] at hcovering
            simpa using hcovering
          rw [HeightRange.contains_iff] at hnot
          exact UInt64.not_le.mp fun hle => hnot ⟨hstart, hle⟩
        have hends : old.range.last < loaded.range.last := UInt64.lt_of_lt_of_le hpast hlast
        intro later hlater range' hrange'
        rcases List.mem_cons.mp hlater with rfl | hlater
        · obtain rfl := Except.ok.inj (hrange.symm.trans hrange')
          exact hends
        · exact UInt64.lt_trans hends (hbehind later hlater range' hrange')

/-- If heights never fall and all downloads can be loaded, no bundle is downloaded twice. -/
theorem Linked.nodup {servings : List (Serving σ)} (h : Linked source none servings)
    (hheights : (servings.map Serving.height).Pairwise (· ≤ ·))
    (hloaded : ∀ download ∈ downloadsOf source servings, download.loaded?.isSome) :
    ((downloadsOf source servings).map (·.1)).Nodup := by
  have hpairwise := (h.pairwise hheights hloaded fun _ hnone => nomatch hnone).1
  rw [List.Nodup, List.pairwise_map]
  refine hpairwise.imp_of_mem fun {download later} hdownload _ hbehind heq => ?_
  obtain ⟨loaded, hload⟩ := Option.isSome_iff_exists.mp (hloaded download hdownload)
  have hrange := Download.range_of_loaded? hload
  exact UInt64.lt_irrefl _ (hbehind _ hrange _ (heq ▸ hrange))

/-! ### The slot over a run -/

/-- What a run of batches does with the slot of a fetcher that starts with nothing. The run ends
with the downloads that were made. -/
structure Keeping (source : Source (StateM σ)) (s : σ) (batches : List (List UInt64))
    (run : Fetcher × σ × List Download) : Prop where
  /-- Recording the downloads changes nothing. -/
  unrecorded : (run.1, run.2.1) = Request.serveAll source (batches.map .fetch) (.new, s)
  /-- It makes no difference that the bundle is taken out of the slot and put back. -/
  taking : (run.1, run.2.1) = batches.foldl
    (fun state batch => ((fetchPairsTaking source batch).exec state.1 state.2).2) (.new, s)
  /-- The slot has the last bundle that was downloaded and loaded in full, and is empty if there was
  none. -/
  cached : run.1.cached = (run.2.2.filterMap Download.loaded?).getLast?
  /-- Once there is a bundle in the slot, no batch leaves it empty. -/
  filled : run.1.cached.isSome →
    ∀ batch, (Request.serve source (.fetch batch) (run.1, run.2.1)).1.cached.isSome
  /-- However another batch ends, the slot has the bundle from before or one that was loaded for a
  height of the batch. -/
  next : ∀ batch,
    let stop := Request.serve source (.fetch batch) (run.1, run.2.1)
    stop.1.cached = run.1.cached ∨
      ∃ serving ∈ batchServings source batch run.1 run.2.1, serving.height ∈ batch ∧
        ∃ loaded, serving.loaded? source = some loaded ∧
          loaded.range.contains serving.height = true ∧ stop.1.cached = some loaded
  /-- Downloads are made for heights that were served. -/
  downloads : run.2.2 = (servings source batches (.new, s)).filterMap (Serving.download? source)
  /-- One is made only if the bundle covers the height and the one in the slot does not. -/
  needed : ∀ serving ∈ servings source batches (.new, s), ∀ download,
    serving.download? source = some download →
      download.Covers serving.height ∧ serving.fetcher.covering? serving.height = none
  /-- If heights never fall and all downloads can be loaded, no bundle is downloaded twice. -/
  once : batches.flatten.Pairwise (· ≤ ·) →
    (∀ download ∈ run.2.2, download.loaded?.isSome) → (run.2.2.map (·.1)).Nodup

/-- A bundle that is loaded for a height covers it. -/
theorem Serving.contains_of_loaded? {serving : Serving σ} {loaded : Loaded}
    (h : serving.loaded? source = some loaded) :
    loaded.range.contains serving.height = true := by
  obtain ⟨download, hdownload, hload⟩ := Option.bind_eq_some_iff.mp h
  obtain ⟨⟨range, hrange, hcontains⟩, -⟩ := of_download?_eq_some hdownload
  rw [Download.range_of_loaded? hload] at hrange
  exact Except.ok.inj hrange ▸ hcontains

/-- However a batch ends, the slot has the bundle from before or one that was loaded for a height of
the batch. -/
theorem cached_fetchPairs_cases (source : Source (StateM σ)) (batch : List UInt64)
    (fetcher : Fetcher) (s : σ) :
    ((fetchPairs source batch).exec fetcher s).2.1.cached = fetcher.cached ∨
      ∃ serving ∈ batchServings source batch fetcher s, serving.height ∈ batch ∧
        ∃ loaded, serving.loaded? source = some loaded ∧
          loaded.range.contains serving.height = true ∧
          ((fetchPairs source batch).exec fetcher s).2.1.cached = some loaded := by
  rw [cached_fetchPairs]
  cases hlast : lastLoaded (downloadsOf source (batchServings source batch fetcher s)) with
  | none => exact .inl (Option.none_or)
  | some loaded =>
    obtain ⟨download, hdownload, hload⟩ := mem_of_lastLoaded hlast
    obtain ⟨serving, hserving, hmade⟩ := List.mem_filterMap.mp hdownload
    have hloaded : serving.loaded? source = some loaded := by
      rw [Serving.loaded?, hmade, Option.bind_some, hload]
    have hheight : serving.height ∈ batch :=
      (heights_batchServings source batch fetcher s).subset (List.mem_map_of_mem hserving)
    exact .inr ⟨serving, hserving, hheight, loaded, hloaded, Serving.contains_of_loaded? hloaded,
      rfl⟩

/-- Whatever fails in a run of batches, the slot is never lost, and if heights never fall it saves
every repeated download. -/
theorem serveAll_keeping (source : Source (StateM σ)) (s : σ) (batches : List (List UInt64)) :
    Keeping source s batches
      (Request.serveAll source.recording (batches.map .fetch) (.new, s, [])) := by
  have hlinked := linked_servings source batches (.new, s)
  have hcached := cached_serveAll source batches (.new, s)
  rw [serveAll_recording source batches (.new, s) []]
  exact {
    unrecorded := rfl
    taking := by
      simp only [exec_fetchPairsTaking, Request.serveAll, List.foldl_map]
      rfl
    cached := by
      rw [hcached, List.nil_append]
      exact Option.or_none
    filled := by
      intro hfilled batch
      rw [Request.serve, cached_fetchPairs, Option.isSome_or, hfilled, Bool.or_true]
    next := fun batch => cached_fetchPairs_cases source batch _ _
    downloads := List.nil_append _
    needed := fun serving _ download hdownload => Serving.of_download?_eq_some hdownload
    once := fun hheights hloaded =>
      hlinked.nodup (hheights.sublist (heights_servings source batches _)) hloaded }

/-- Heights that rise past the end of a bundle take two downloads, though no batch succeeds: the
bundles are loaded, but have no entries. -/
example :
    let source := (default : Growing).source fun _ => none
    let run := Request.serveAll source.recording [.fetch [1], .fetch [5], .fetch [12]] (.new, 1, [])
    run.2.2.map (·.1.id) = [0, 1] ∧ run.1.cached.map (·.range) = some ⟨12, 30⟩ := by
  decide +kernel

end ChainFeed.Archive
