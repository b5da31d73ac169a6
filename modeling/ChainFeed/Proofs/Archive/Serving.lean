import ChainFeed.Proofs.Archive.Run
import ChainFeed.Proofs.Block.Content
import ChainFeed.Proofs.Except
import Mathlib.Data.List.Forall2
import Mathlib.Tactic.SplitIfs

/-!
# What a batch from the archive is made of

Whatever an archive answers, and however its answers change, a batch that is served from it consists
of entries of bundles that were loaded from it. A bundle that is kept for later heights was loaded
as well, so that what holds of every bundle when it is loaded holds of every bundle that serves a
height.

## Main definitions

- `Archive.Source.Leaves`: the questions leave a part of the state as it is
- `Archive.Source.Loads`: what holds of every bundle when it is loaded
- `Archive.Served`: what work with a fetcher comes to

## Main results

- `fetchPairs_served`: a batch is made of entries of loaded bundles
- `Loaded.exists_entry`: the pair of an entry has the height that it was asked for
-/

namespace ChainFeed.Archive

variable {σ ν α : Type} {source : Source (StateM σ)} {view : σ → ν} {P : Loaded → Prop}
  {height : UInt64} {fetcher : Fetcher} {s : σ}

/-- The questions of an archive leave a part of the state as it is. -/
structure Source.Leaves (source : Source (StateM σ)) (view : σ → ν) : Prop where
  latest : ∀ s, view (reply source.latestBundleId s).2 = view s
  bundle : ∀ id s, view (reply (source.finalizedBundle id) s).2 = view s
  stored : ∀ bundle s, view (reply (source.retrieve bundle) s).2 = view s

/-- Something holds of every bundle when it is loaded. -/
def Source.Loads (source : Source (StateM σ)) (P : Loaded → Prop) : Prop :=
  ∀ bundle s stored, (reply (source.retrieve bundle) s).1 = .ok stored →
    ∀ range loaded, bundle.unpack range stored = .ok loaded → P loaded

/-- Something holds of the bundle that is kept. -/
def Fetcher.Keeps (fetcher : Fetcher) (P : Loaded → Prop) : Prop :=
  ∀ loaded, fetcher.cached = some loaded → P loaded

/-- What work with a fetcher comes to: the part of the state is left as it was, the bundle that is
kept is one of those that were loaded, and an answer is as it should be. -/
structure Served (view : σ → ν) (P : Loaded → Prop) (s : σ) (ok : α → Prop)
    (run : Except ArchiveError α × Fetcher × σ) : Prop where
  view_eq : view run.2.2 = view s
  keeps : run.2.1.Keeps P
  answer : ∀ a, run.1 = .ok a → ok a

theorem Fetcher.keeps_new : Fetcher.new.Keeps P :=
  fun _ h => nomatch h

theorem Fetcher.Keeps.restartBefore (h : fetcher.Keeps P) :
    (fetcher.restartBefore height).Keeps P := by
  unfold Fetcher.restartBefore
  split
  · exact h
  · exact h

theorem view_search (h : source.Leaves view) (height : UInt64) (low count : Nat) (s : σ) :
    view (reply (search source height low count) s).2 = view s := by
  -- both halves are smaller, but neither is the predecessor of `count`
  induction count using Nat.strongRecOn generalizing low s with
  | ind count ih =>
    cases count with
    | zero => rw [reply_search_zero]
    | succ n =>
      have hbundle := h.bundle (low + n / 2).toUInt64 s
      rw [reply_search_succ]
      generalize reply (source.finalizedBundle (low + n / 2).toUInt64) s = answer at hbundle ⊢
      obtain ⟨_ | bundle, s'⟩ := answer
      · exact hbundle
      · dsimp only at hbundle ⊢
        cases bundle.heightRange with
        | error e => exact hbundle
        | ok range =>
          dsimp only
          split_ifs
          · exact hbundle
          · exact (ih (n / 2) (by omega) low s').trans hbundle
          · exact (ih (n - n / 2) (by omega) _ s').trans hbundle

theorem locate_served (h : source.Leaves view) (hkeeps : fetcher.Keeps P) :
    Served view P s (fun _ => True) ((locate source height).exec fetcher s) := by
  have hkeeps' : (fetcher.restartBefore height).Keeps P := hkeeps.restartBefore
  have hlatest := h.latest s
  rw [exec_locate]
  generalize reply source.latestBundleId s = answer at hlatest ⊢
  obtain ⟨_ | latest, s'⟩ := answer
  · exact ⟨hlatest, hkeeps', fun _ _ => trivial⟩
  · dsimp only
    generalize (fetcher.restartBefore height).lowerBound.toNat = low
    have hsearch := (view_search h height low (latest.toNat + 1 - low) s').trans
      hlatest
    generalize reply (search source height low (latest.toNat + 1 - low)) s' = found at hsearch ⊢
    obtain ⟨_ | _ | found, s''⟩ := found
    · exact ⟨hsearch, hkeeps', fun _ _ => trivial⟩
    · exact ⟨hsearch, hkeeps', fun _ _ => trivial⟩
    · exact ⟨hsearch, hkeeps', fun _ _ => trivial⟩

theorem load_served (h : source.Leaves view) (hloads : source.Loads P) (bundle : Bundle) (s : σ) :
    view (reply (load source bundle) s).2 = view s ∧
      ∀ loaded, (reply (load source bundle) s).1 = .ok loaded → P loaded := by
  have hview := h.stored bundle s
  have hloaded := hloads bundle s
  rw [reply_load]
  cases bundle.heightRange with
  | error e => exact ⟨rfl, fun _ hload => nomatch hload⟩
  | ok range =>
    dsimp only
    generalize reply (source.retrieve bundle) s = answer at hview hloaded ⊢
    obtain ⟨_ | stored, s'⟩ := answer
    · exact ⟨hview, fun _ hload => nomatch hload⟩
    · exact ⟨hview, hloaded stored rfl range⟩

theorem loadedFor_served (h : source.Leaves view) (hloads : source.Loads P)
    (hkeeps : fetcher.Keeps P) :
    Served view P s P ((loadedFor source height).exec fetcher s) := by
  rw [exec_loadedFor]
  cases hcovering : fetcher.covering? height with
  | some loaded =>
    refine ⟨rfl, hkeeps, fun a ha => ?_⟩
    obtain rfl := Except.ok.inj ha
    exact hkeeps _ (Option.filter_eq_some_iff.mp hcovering).1
  | none =>
    have hlocate : Served view P s (fun _ => True) ((locate source height).exec fetcher s) :=
      locate_served h hkeeps
    generalize (locate source height).exec fetcher s = run at hlocate ⊢
    obtain ⟨_ | bundle, fetcher, s'⟩ := run
    · exact ⟨hlocate.view_eq, hlocate.keeps, fun _ ha => nomatch ha⟩
    · obtain ⟨hview, hload⟩ := load_served h hloads bundle s'
      dsimp only
      generalize reply (load source bundle) s' = answer at hview hload ⊢
      obtain ⟨_ | loaded, s''⟩ := answer
      · exact ⟨hview.trans hlocate.view_eq, hlocate.keeps, fun _ ha => nomatch ha⟩
      -- what is kept from now on is what was loaded
      · refine ⟨hview.trans hlocate.view_eq, fun other hother => ?_, hload⟩
        obtain rfl := Option.some.inj hother
        exact hload _ rfl

theorem fetchPair_served (h : source.Leaves view) (hloads : source.Loads P)
    (hkeeps : fetcher.Keeps P) :
    Served view P s (fun pair => ∃ loaded, P loaded ∧ loaded.pair height = .ok pair)
      ((fetchPair source height).exec fetcher s) := by
  have hloaded : Served view P s P ((loadedFor source height).exec fetcher s) :=
    loadedFor_served h hloads hkeeps
  rw [exec_fetchPair]
  generalize (loadedFor source height).exec fetcher s = run at hloaded ⊢
  obtain ⟨_ | loaded, fetcher, s'⟩ := run
  · exact ⟨hloaded.view_eq, hloaded.keeps, fun _ ha => nomatch ha⟩
  · exact ⟨hloaded.view_eq, hloaded.keeps, fun pair hpair => ⟨loaded, hloaded.answer _ rfl, hpair⟩⟩

/-- A batch is made of entries of loaded bundles, one for each height. -/
theorem fetchPairs_served (h : source.Leaves view) (hloads : source.Loads P)
    (heights : List UInt64) (hkeeps : fetcher.Keeps P) :
    Served view P s
      (List.Forall₂ (fun height pair => ∃ loaded, P loaded ∧ loaded.pair height = .ok pair) heights)
      ((fetchPairs source heights).exec fetcher s) := by
  induction heights generalizing fetcher s with
  | nil =>
    refine ⟨rfl, hkeeps, fun pairs hpairs => ?_⟩
    obtain rfl := Except.ok.inj hpairs
    exact .nil
  | cons height heights ih =>
    have hpair : Served view P s (fun pair => ∃ loaded, P loaded ∧ loaded.pair height = .ok pair)
        ((fetchPair source height).exec fetcher s) := fetchPair_served h hloads hkeeps
    rw [exec_fetchPairs_cons]
    generalize (fetchPair source height).exec fetcher s = run at hpair ⊢
    obtain ⟨_ | pair, fetcher, s'⟩ := run
    · exact ⟨hpair.view_eq, hpair.keeps, fun _ ha => nomatch ha⟩
    · have hrest := ih (s := s') hpair.keeps
      dsimp only
      generalize (fetchPairs source heights).exec fetcher s' = rest at hrest ⊢
      obtain ⟨_ | pairs, fetcher, s''⟩ := rest
      · exact ⟨hrest.view_eq.trans hpair.view_eq, hrest.keeps, fun _ ha => nomatch ha⟩
      · refine ⟨hrest.view_eq.trans hpair.view_eq, hrest.keeps, fun all hall => ?_⟩
        obtain rfl := Except.ok.inj hall
        exact .cons (hpair.answer _ rfl) (hrest.answer _ rfl)

/-! ### Archives beside other things -/

/-- A question that sees the first part of a state only. -/
def ofFirst {ε : Type} (question : ExceptT ε (StateM σ) α) : ExceptT ε (StateM (σ × ν)) α :=
  ExceptT.mk fun (s, rest) =>
    let (result, s) := reply question s
    (result, s, rest)

/-- An archive that sees the first part of a state only. -/
def Source.ofFirst (source : Source (StateM σ)) : Source (StateM (σ × ν)) where
  latestBundleId := Archive.ofFirst source.latestBundleId
  finalizedBundle id := Archive.ofFirst (source.finalizedBundle id)
  retrieve bundle := Archive.ofFirst (source.retrieve bundle)

theorem Source.leaves_ofFirst (source : Source (StateM σ)) :
    (source.ofFirst : Source (StateM (σ × ν))).Leaves Prod.snd :=
  ⟨fun _ => rfl, fun _ _ => rfl, fun _ _ => rfl⟩

theorem Source.Loads.ofFirst (h : source.Loads P) :
    (source.ofFirst : Source (StateM (σ × ν))).Loads P :=
  fun bundle s => h bundle s.1

/-! ### Entries -/

/-- An entry that can be decoded has both halves of the pair, and the height of its block was
checked. -/
theorem Entry.of_decode_eq_ok {entry : Entry} {id : UInt64} {pair : BlockPair}
    (h : entry.decode id height = .ok pair) :
    Protocol.tendermint37.decodeBlock entry.block = .ok pair.block ∧
      Protocol.tendermint37.decodeResults entry.results = .ok pair.results ∧
      pair.height = height := by
  obtain ⟨block, hblock, h⟩ := exists_of_bind_eq_ok h
  obtain ⟨results, hresults, h⟩ := exists_of_bind_eq_ok h
  obtain ⟨parts, hparts, h⟩ := exists_of_bind_eq_ok h
  have hcheck : parts = pair ∧ parts.height = height := by
    split at h
    · rename_i heq
      exact ⟨Except.ok.inj h, heq⟩
    · exact nomatch h
  obtain ⟨rfl, hheight⟩ := hcheck
  obtain ⟨hblockEq, hresultsEq⟩ := BlockPair.of_ofParts_eq_ok (of_mapError_eq_ok hparts)
  rw [hblockEq, hresultsEq]
  exact ⟨of_mapError_eq_ok hblock, of_mapError_eq_ok hresults, hheight⟩

/-- The pair of a height comes from the entry under it, and its block has that height. -/
theorem Loaded.exists_entry {loaded : Loaded} {pair : BlockPair}
    (h : loaded.pair height = .ok pair) :
    ∃ entry, loaded.entries.lookup height = some entry ∧
      Protocol.tendermint37.decodeBlock entry.block = .ok pair.block ∧
      Protocol.tendermint37.decodeResults entry.results = .ok pair.results ∧
      pair.height = height := by
  unfold Loaded.pair at h
  cases hentry : loaded.entries.lookup height with
  | none =>
    rw [hentry] at h
    exact nomatch h
  | some entry =>
    rw [hentry] at h
    exact ⟨entry, rfl, Entry.of_decode_eq_ok h⟩

end ChainFeed.Archive
