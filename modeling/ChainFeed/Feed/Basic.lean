import ChainFeed.Archive.Fetcher
import ChainFeed.Block.Lazy
import ChainFeed.Feed.Client
import ChainFeed.Feed.Retry

/-!
# Feeds

A feed gives the blocks of a chain for batches of heights. If there is an archive it is asked first;
a batch for which the archive fails at any height comes from the node as a whole.

## Main definitions

- `ChainFeed.Feed`: where blocks come from
- `ChainFeed.Feed.connect`: a feed from a node, and from an archive if that can be set up
- `ChainFeed.Feed.fetchPairs`, `ChainFeed.Feed.fetchBlocks`: the blocks of a batch
-/

namespace ChainFeed

/-- Where blocks come from. -/
structure Feed (m : Type → Type) where
  transport : Transport m
  client : NodeClient
  /-- The archive, if it is asked at all. -/
  archive : Option (Archive.Source m)
  policy : RetryPolicy
  /-- Waits for a number of milliseconds. -/
  pause : Nat → m Unit

namespace Feed

variable {m : Type → Type} [Monad m]

/-- A feed from a node, and from the archive that `setUp` gives for the node's chain. A failure to
set the archive up is not an error: the node is asked for everything then. -/
def connect (transport : Transport m)
    (setUp : (chainId : String) → ExceptT ArchiveError m (Option (Archive.Source m)))
    (policy : RetryPolicy) (pause : Nat → m Unit) : ExceptT FetchError m (Feed m) := do
  let client ← NodeClient.connect transport
  let archive ← ExceptT.lift (setUp client.status.chainId).run
  return ⟨transport, client, archive.toOption.join, policy, pause⟩

/-- The chain of a feed. -/
def chainId (feed : Feed m) : String :=
  feed.client.status.chainId

/-- The present height of the node. -/
def latestHeight (feed : Feed m) : ExceptT FetchError m UInt64 :=
  NodeClient.latestHeight feed.transport

/-- The pairs of a batch from the archive, unless there is none or it fails. -/
def fromArchive? (feed : Feed m) (heights : List UInt64) :
    StateT Archive.Fetcher m (Option (List BlockPair)) :=
  match feed.archive with
  | some source => do
    let result ← (Archive.fetchPairs source heights).run
    return result.toOption
  | none => return none

/-- The pairs of a batch from the node. -/
def fromNode (feed : Feed m) (heights : List UInt64) : ExceptT FetchError m (List BlockPair) :=
  feed.policy.run feed.pause (feed.client.fetchPairs feed.transport heights)

/-- The pairs of a batch, in the order of the heights. -/
def fetchPairs (feed : Feed m) (heights : List UInt64) :
    ExceptT FetchError (StateT Archive.Fetcher m) (List BlockPair) := do
  match ← ExceptT.lift (feed.fromArchive? heights) with
  | some pairs => return pairs
  | none => ExceptT.mk (StateT.lift (feed.fromNode heights).run)

/-- The blocks of a batch, ready for use with a registry. -/
def fetchBlocks (feed : Feed m) (registry : Registry) (heights : List UInt64) :
    ExceptT FetchError (StateT Archive.Fetcher m) (List LazyBlock) := do
  let pairs ← feed.fetchPairs heights
  return pairs.map fun pair => .new pair registry

end Feed

end ChainFeed
