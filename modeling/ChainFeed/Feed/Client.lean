import ChainFeed.Feed.Batch
import ChainFeed.Node.Status

/-!
# Clients of a node

A client asks for the status of its node once. The version that the node reports then selects how
all its responses are read.

## Main definitions

- `ChainFeed.NodeClient.connect`: a client of the node behind a transport
- `ChainFeed.NodeClient.fetchPair`, `ChainFeed.NodeClient.fetchPairs`: block pairs
-/

namespace ChainFeed

/-- A client of a node. -/
structure NodeClient where
  protocol : Protocol
  /-- The status of the node when it was first asked. -/
  status : NodeStatus
  deriving DecidableEq, Repr

namespace NodeClient

variable {m : Type → Type} [Monad m] {α : Type}

/-- Puts a question and reads the answer. -/
def query (transport : Transport m) (call : NodeCall) (decode : Json → Except DecodeError α) :
    ExceptT FetchError m α := do
  let answer ← ExceptT.lift (transport call).run
  readAnswer decode answer

/-- The present status of the node. -/
def queryStatus (transport : Transport m) : ExceptT FetchError m NodeStatus :=
  query transport .status NodeStatus.decode

/-- A client of the node behind a transport. -/
def connect (transport : Transport m) : ExceptT FetchError m NodeClient := do
  let status ← queryStatus transport
  return ⟨.detect status.nodeVersion, status⟩

/-- The present height of the node. -/
def latestHeight (transport : Transport m) : ExceptT FetchError m UInt64 := do
  return (← queryStatus transport).latestHeight

/-- The block at a height. -/
def fetchBlock (transport : Transport m) (client : NodeClient) (height : UInt64) :
    ExceptT FetchError m Block :=
  query transport (.block height) client.protocol.decodeBlock

/-- The results of the block at a height. -/
def fetchResults (transport : Transport m) (client : NodeClient) (height : UInt64) :
    ExceptT FetchError m BlockResults :=
  query transport (.blockResults height) client.protocol.decodeResults

/-- The block at a height with its results. -/
def fetchPair (transport : Transport m) (client : NodeClient) (height : UInt64) :
    ExceptT FetchError m BlockPair := do
  let block ← fetchBlock transport client height
  let results ← fetchResults transport client height
  (BlockPair.ofParts block results).mapError FetchError.validation

/-- The blocks at a list of heights with their results, in order. -/
def fetchPairs (transport : Transport m) (client : NodeClient) (heights : List UInt64) :
    ExceptT FetchError m (List BlockPair) := do
  let batch ← Batch.run transport client.protocol (Batch.calls heights) (Batch.start heights)
  return batch.pairs

end NodeClient

end ChainFeed
