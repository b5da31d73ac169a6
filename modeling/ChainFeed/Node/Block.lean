import ChainFeed.Node.Protocol
import ChainFeed.Node.Reader

/-!
# Blocks as nodes report them

All protocol versions report blocks alike: large integers as strings, transactions in base64, and
the block before the first one as a block id with an empty hash.
-/

namespace ChainFeed.Node

/-- A block id; the hash may be missing. -/
def blockHash : Reader String :=
  .record (.withDefault "hash" "" .stringOrEmpty)

/-- Versions; both may be missing. -/
def version : Reader Version :=
  .record (Version.mk <$> .withDefault "block" 0 .uint64OrZero <*>
    .withDefault "app" 0 .uint64OrZero)

/-- A header. -/
def header : Reader Header :=
  .record (Header.mk <$> .required "version" version <*> .required "chain_id" .string <*>
    .required "height" .uint64Numeral <*> .required "time" .instant <*>
    ((·.filter (· != "")) <$> .withDefault "last_block_id" none (.option blockHash)) <*>
    .withDefault "data_hash" "" .stringOrEmpty <*> .withDefault "app_hash" "" .stringOrEmpty <*>
    .withDefault "proposer_address" "" .stringOrEmpty)

/-- The list of transactions, inside a record of its own. -/
def txs : Reader (List (List UInt8)) :=
  .record (.withDefault "txs" [] .base64List)

/-- What stands beside the block id. -/
def blockBody : Reader (Header × List (List UInt8)) :=
  .record (Prod.mk <$> .required "header" header <*> .required "data" txs)

/-- A block response. -/
def block : Reader ChainFeed.Block :=
  .record ((fun hash body => ⟨hash, body.1, body.2⟩) <$> .required "block_id" blockHash <*>
    .required "block" blockBody)

end ChainFeed.Node

/-- Reads a block response of a node. -/
def ChainFeed.Protocol.decodeBlock (_ : Protocol) (value : Json) :
    Except DecodeError Block :=
  Node.block.response "block" value
