import ChainFeed.Block.Document
import ChainFeed.Block.Lazy
import ChainFeed.Dictionary.Query

/-!
# Records

A dump writes a record for each element of a block that a handler asks for, handler by handler. A
payload that cannot be decoded is written as null.

## Main definitions

- `ChainFeed.Dump.queries`: the records of dictionary entries, which precede all blocks
- `ChainFeed.Dump.records`: the records of a block
-/

namespace ChainFeed.Dump

/-- The records of the dictionary entries of a list of handlers. -/
def queries (handlers : List Handler) : List Json :=
  (QueryEntry.ofHandlers handlers).map fun entry =>
    .ofMembers [("kind", .string "dictionaryQuery"), ("entry", entry.toJson)]

/-- The record of a block. -/
def blockRecord (height : UInt64) (info : BlockInfo) : Json :=
  .ofMembers [("kind", .string "block"), ("height", .nat height.toNat),
    ("hash", .string info.hash), ("time", .string info.header.time.render),
    ("txCount", .nat info.txCount)]

/-- The record of a transaction. -/
def transactionRecord (height : UInt64) (tx : Transaction) : Json :=
  .ofMembers [("kind", .string "transaction"), ("height", .nat height.toNat), ("idx", .nat tx.idx),
    ("hash", .string tx.hash), ("code", .nat tx.result.code.toNat),
    ("gasUsed", .int tx.result.gasUsed.toInt)]

/-- The record of a message with its payload, if that can be decoded. -/
def messageRecord (height : UInt64) (message : Message) (payload : Except DecodeError Json) :
    Json :=
  .ofMembers [("kind", .string "message"), ("height", .nat height.toNat),
    ("idx", .nat message.idx), ("txHash", .string message.tx.hash),
    ("type", .string message.typeUrl), ("data", .optional id payload.toOption)]

/-- The record of an event. -/
def eventRecord (height : UInt64) (event : BlockEvent) : Json :=
  .ofMembers [("kind", .string "event"), ("height", .nat height.toNat), ("idx", .nat event.idx),
    ("txHash", .optional (fun origin => .string origin.tx.hash) event.origin),
    ("msgType", .optional (fun origin => .string origin.message.typeUrl) event.origin),
    ("event", event.event.toJson)]

/-- The records of the messages that a filter accepts. -/
def messageRecords (height : UInt64) (filter : Option MessageFilter) :
    List MessageRef → StateM LazyBlock (List Json)
  | [] => return []
  | ref :: refs => do
    if ← LazyBlock.filterMessage filter ref then
      let payload ← LazyBlock.decodedMsg ref
      let records ← messageRecords height filter refs
      return messageRecord height ref.message payload :: records
    else messageRecords height filter refs

/-- The records of the events that a filter accepts. -/
def eventRecords (height : UInt64) (filter : Option EventFilter) (refs : List EventRef) :
    StateM LazyBlock (List Json) := do
  let accepted ← refs.filterM (LazyBlock.filterEvent filter)
  return accepted.map fun ref => eventRecord height ref.event

/-- The records of what one handler asks for, at the time `now`. -/
def handlerRecords (now : Instant) (height : UInt64) : Handler → StateM LazyBlock (List Json)
  | .block filter => do
    let info ← LazyBlock.block
    return if BlockFilter.acceptsWith filter height info.header.time now then
      [blockRecord height info] else []
  | .transaction filter => do
    let txs := (← LazyBlock.transactions).map TxRef.tx
    return (txs.filter (TxFilter.acceptsWith filter)).map (transactionRecord height)
  | .message filter => do messageRecords height filter (← LazyBlock.messages)
  | .event filter => do eventRecords height filter (← LazyBlock.events)

/-- The records of what a list of handlers asks for, at the time `now`. -/
def records (now : Instant) (handlers : List Handler) : StateM LazyBlock (List Json) := do
  let height := (← get).pair.height
  return (← handlers.mapM (handlerRecords now height)).flatten

end ChainFeed.Dump
