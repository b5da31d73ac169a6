import ChainFeed.Archive.Bundle

/-!
# Fetching from the archive

A fetcher finds the bundle that covers a height by halving the numbers of bundles in question, and
keeps the bundle that it loaded last. It remembers the last bundle found and starts there, since
heights are mostly asked for in rising order; a height before that bundle starts the search anew.

Every question to the archive may fail, and it may be answered differently another time; what has
been learned before is kept.

## Main definitions

- `ChainFeed.Archive.Source`: the questions that an archive answers
- `ChainFeed.Archive.Fetcher`: what is remembered between questions
- `ChainFeed.Archive.search`: the search by halving
- `ChainFeed.Archive.locate`: the bundle of a height
- `ChainFeed.Archive.fetchPairs`: the block pairs of a list of heights
-/

namespace ChainFeed.Archive

/-- The questions that an archive answers. -/
structure Source (m : Type → Type) where
  /-- The number of the newest finalized bundle. -/
  latestBundleId : ExceptT ArchiveError m UInt64
  /-- What is known of a bundle. -/
  finalizedBundle : UInt64 → ExceptT ArchiveError m Bundle
  /-- The data of a bundle as it is stored. -/
  retrieve : Bundle → ExceptT ArchiveError m (List UInt8)

/-- A bundle with its entries. -/
structure Loaded where
  id : UInt64
  range : HeightRange
  entries : Entries

/-- What is remembered between questions. -/
structure Fetcher where
  /-- The smallest number of a bundle that the search considers. -/
  lowerBound : UInt64
  /-- The first height of that bundle, if it has been found. -/
  lowerBoundStart : Option UInt64
  /-- The bundle that was loaded last. -/
  cached : Option Loaded

namespace Fetcher

/-- Nothing is remembered. -/
def new : Fetcher :=
  ⟨0, none, none⟩

/-- Forgets the lower bound if a height lies before it. -/
def restartBefore (height : UInt64) (fetcher : Fetcher) : Fetcher :=
  if fetcher.lowerBoundStart.any (height < ·) then
    { fetcher with lowerBound := 0, lowerBoundStart := none }
  else fetcher

/-- Makes a bundle the lower bound. -/
def advance (id : UInt64) (range : HeightRange) (fetcher : Fetcher) : Fetcher :=
  { fetcher with lowerBound := id, lowerBoundStart := some range.first }

/-- Keeps a bundle in place of the one before. -/
def keep (loaded : Loaded) (fetcher : Fetcher) : Fetcher :=
  { fetcher with cached := some loaded }

/-- The bundle that is kept, if it covers a height. -/
def covering? (height : UInt64) (fetcher : Fetcher) : Option Loaded :=
  fetcher.cached.filter (·.range.contains height)

end Fetcher

/-- A bundle that covers the height searched for. -/
structure Found where
  id : UInt64
  range : HeightRange
  bundle : Bundle

/-- Work with a fetcher; what it remembers outlasts errors. -/
abbrev Fetch (m : Type → Type) (α : Type) := ExceptT ArchiveError (StateT Fetcher m) α

variable {m : Type → Type} [Monad m] {α : Type}

/-- A question that changes nothing that is remembered. -/
def ask (question : ExceptT ArchiveError m α) : Fetch m α :=
  ExceptT.mk (StateT.lift question.run)

/-- Searches a height among `count` bundles from number `low` on, the middle one first. -/
def search (source : Source m) (height : UInt64) (low : Nat) :
    (count : Nat) → ExceptT ArchiveError m (Option Found)
  | 0 => return none
  | n + 1 => do
    let id := (low + n / 2).toUInt64
    let bundle ← source.finalizedBundle id
    let range ← bundle.heightRange
    if range.contains height then return some ⟨id, range, bundle⟩
    else if height < range.first then search source height low (n / 2)
    else search source height (low + n / 2 + 1) (n - n / 2)
termination_by count => count

/-- The bundle that covers a height. -/
def locate (source : Source m) (height : UInt64) : Fetch m Bundle := do
  modify (Fetcher.restartBefore height)
  let latest ← ask source.latestBundleId
  let low := (← get).lowerBound.toNat
  match ← ask (search source height low (latest.toNat + 1 - low)) with
  | some found =>
    modify (Fetcher.advance found.id found.range)
    return found.bundle
  | none => throw (.bundleNotFound height)

/-- The entries of a bundle. -/
def load (source : Source m) (bundle : Bundle) : ExceptT ArchiveError m Loaded := do
  let range ← bundle.heightRange
  let stored ← source.retrieve bundle
  let data ← bundle.decompress stored
  let entries ← Entries.parse bundle.id data
  return ⟨bundle.id, range, entries⟩

/-- The bundle that covers a height, with its entries: the one that is kept, or else one that is
loaded and kept from then on. -/
def loadedFor (source : Source m) (height : UInt64) : Fetch m Loaded := do
  match (← get).covering? height with
  | some loaded => return loaded
  | none =>
    let bundle ← locate source height
    let loaded ← ask (load source bundle)
    modify (Fetcher.keep loaded)
    return loaded

/-- The block pair of a height. -/
def fetchPair (source : Source m) (height : UInt64) : Fetch m BlockPair := do
  let loaded ← loadedFor source height
  match loaded.entries.lookup height with
  | some entry => entry.decode loaded.id height
  | none => throw (.malformedBundle loaded.id ("missing height " ++ toString height))

/-- The block pairs of a list of heights, in order. The first error ends the list. -/
def fetchPairs (source : Source m) : List UInt64 → Fetch m (List BlockPair)
  | [] => return []
  | height :: heights => do
    let pair ← fetchPair source height
    let pairs ← fetchPairs source heights
    return pair :: pairs

end ChainFeed.Archive
