import ChainFeed.Block.Basic
import ChainFeed.Json.Reader

/-!
# Blocks as JSON

The written form of blocks, results and pairs, and the readers of the halves. Byte strings are
arrays of numbers and times are written as text.
-/

namespace ChainFeed

namespace Reader

/-- A byte string. -/
def bytes : Reader (List UInt8) :=
  list byte

/-- A written time. -/
def instant : Reader Instant :=
  string.filterMap Instant.parse?

end Reader

/-- The only member of a block id. -/
def Reader.blockHash : Reader String :=
  .record (.required "hash" .string)

/-- A block id. -/
def Json.ofBlockHash (hash : String) : Json :=
  .object [("hash", .string hash)]

namespace Version

/-- Reads versions. -/
def reader : Reader Version :=
  .record (Version.mk <$> .required "block" .uint64 <*> .required "app" .uint64)

/-- Writes versions. -/
def toJson (version : Version) : Json :=
  .ofMembers [("block", .nat version.block.toNat), ("app", .nat version.app.toNat)]

end Version

namespace Header

/-- Reads a header. -/
def reader : Reader Header :=
  .record (Header.mk <$> .required "version" Version.reader <*> .required "chain_id" .string <*>
    .required "height" .uint64 <*> .required "time" .instant <*>
    .optional "last_block_id" .blockHash <*> .required "data_hash" .string <*>
    .required "app_hash" .string <*> .required "proposer_address" .string)

/-- Writes a header. -/
def toJson (header : Header) : Json :=
  .ofMembers [
    ("version", header.version.toJson),
    ("chain_id", .string header.chainId),
    ("height", .nat header.height.toNat),
    ("time", .string header.time.render),
    ("last_block_id", .optional .ofBlockHash header.lastBlockHash),
    ("data_hash", .string header.dataHash),
    ("app_hash", .string header.appHash),
    ("proposer_address", .string header.proposerAddress)]

end Header

namespace Block

/-- Reads what stands beside the block id. -/
def bodyReader : Reader (Header × List (List UInt8)) :=
  .record (Prod.mk <$> .required "header" Header.reader <*> .required "txs" (.list .bytes))

/-- Reads a block. -/
def reader : Reader Block :=
  .record ((fun hash body => Block.mk hash body.1 body.2) <$> .required "block_id" .blockHash <*>
    .required "block" bodyReader)

/-- Writes a block. -/
def toJson (block : Block) : Json :=
  .ofMembers [
    ("block_id", .ofBlockHash block.hash),
    ("block", .ofMembers [
      ("header", block.header.toJson),
      ("txs", .array (block.txs.map .bytes))])]

end Block

namespace Attribute

/-- Reads an attribute. -/
def reader : Reader Attribute :=
  .record (Attribute.mk <$> .required "key" .bytes <*> .required "value" .bytes <*>
    .required "index" .bool)

/-- Writes an attribute. -/
def toJson (a : Attribute) : Json :=
  .ofMembers [("key", .bytes a.key), ("value", .bytes a.value), ("index", .bool a.index)]

end Attribute

namespace Event

/-- Reads an event. -/
def reader : Reader Event :=
  .record (Event.mk <$> .required "kind" .string <*>
    .required "attributes" (.list Attribute.reader))

/-- Writes an event. -/
def toJson (event : Event) : Json :=
  .ofMembers [
    ("kind", .string event.kind),
    ("attributes", .array (event.attributes.map Attribute.toJson))]

end Event

namespace TxResult

/-- Reads a transaction result. -/
def reader : Reader TxResult :=
  .record (TxResult.mk <$> .required "code" .uint32 <*> .required "codespace" .string <*>
    .required "log" .string <*> .required "info" .string <*> .required "data" .bytes <*>
    .required "gas_wanted" .int64 <*> .required "gas_used" .int64 <*>
    .required "events" (.list Event.reader))

/-- Writes a transaction result. -/
def toJson (result : TxResult) : Json :=
  .ofMembers [
    ("code", .nat result.code.toNat),
    ("codespace", .string result.codespace),
    ("log", .string result.log),
    ("info", .string result.info),
    ("data", .bytes result.data),
    ("gas_wanted", .int result.gasWanted.toInt),
    ("gas_used", .int result.gasUsed.toInt),
    ("events", .array (result.events.map Event.toJson))]

end TxResult

namespace BlockResults

/-- Reads block results. -/
def reader : Reader BlockResults :=
  .record (BlockResults.mk <$> .required "height" .uint64 <*>
    .required "results" (.list TxResult.reader) <*>
    .optional "begin_block_events" (.list Event.reader) <*>
    .optional "end_block_events" (.list Event.reader))

/-- Writes events that may not have been reported. -/
def eventsToJson (events : Option (List Event)) : Json :=
  .optional (fun events => .array (events.map Event.toJson)) events

/-- Writes block results. -/
def toJson (results : BlockResults) : Json :=
  .ofMembers [
    ("height", .nat results.height.toNat),
    ("results", .array (results.results.map TxResult.toJson)),
    ("begin_block_events", eventsToJson results.beginEvents),
    ("end_block_events", eventsToJson results.endEvents)]

end BlockResults

/-- Writes a pair. -/
def BlockPair.toJson (pair : BlockPair) : Json :=
  .ofMembers [("block", pair.block.toJson), ("block_results", pair.results.toJson)]

end ChainFeed
