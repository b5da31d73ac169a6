import ChainFeed.Node.Reader

/-!
# Status of a node
-/

namespace ChainFeed

/-- What a node says about itself. -/
structure NodeStatus where
  nodeVersion : String
  chainId : String
  latestHeight : UInt64
  latestTime : Option Instant
  earliestHeight : UInt64
  deriving DecidableEq, Repr

namespace NodeStatus

/-- The network and the version of the node. -/
def nodeInfoReader : Reader (String × String) :=
  .record (Prod.mk <$> .required "network" .string <*> .required "version" .string)

/-- The heights that the node has. -/
def syncInfoReader : Reader (UInt64 × Option Instant × UInt64) :=
  .record ((fun latest time earliest => (latest, time, earliest)) <$>
    .required "latest_block_height" .uint64Numeral <*>
    .withDefault "latest_block_time" none (.option .instant) <*>
    .withDefault "earliest_block_height" 0 .uint64OrZero)

/-- Reads a status response. -/
def reader : Reader NodeStatus :=
  .record ((fun node sync => ⟨node.2, node.1, sync.1, sync.2.1, sync.2.2⟩) <$>
    .required "node_info" nodeInfoReader <*> .required "sync_info" syncInfoReader)

/-- Reads a status response of a node. -/
def decode (value : Json) : Except DecodeError NodeStatus :=
  reader.response "status" value

end NodeStatus

end ChainFeed
