import ChainFeed.Block.TextEvent
import ChainFeed.Block.Tx
import ChainFeed.Hash.Sha256

/-!
# The content of a block

A pair is taken apart into transactions, their messages, and one stream of events. The stream holds
the events before the transactions, those of the messages of successful transactions, and the events
behind the transactions, numbered throughout.

Events of a transaction belong to the message that their attribute `msg_index` names. Where no event
has the attribute, the log of the transaction lists the events of each message instead.

## Main definitions

- `ChainFeed.Transaction`, `ChainFeed.Message`, `ChainFeed.BlockEvent`: the elements
- `ChainFeed.BlockPair.transactions`, `ChainFeed.BlockPair.messages`, `ChainFeed.BlockPair.events`:
  all of them, in order
-/

namespace ChainFeed

/-- A transaction of a block. -/
structure Transaction where
  /-- The position in the block. -/
  idx : Nat
  raw : List UInt8
  result : TxResult
  deriving DecidableEq, Repr

/-- A message of a transaction. -/
structure Message where
  /-- The position in the transaction. -/
  idx : Nat
  tx : Transaction
  typeUrl : String
  value : List UInt8
  deriving DecidableEq, Repr

/-- Where an event of a transaction comes from. -/
structure Origin where
  /-- The message that emitted the event. -/
  message : Message
  /-- All events of that message. -/
  log : MessageLog
  deriving DecidableEq, Repr

/-- An event of a block. -/
structure BlockEvent where
  /-- The position in the block's events. -/
  idx : Nat
  /-- The origin of an event of a transaction. -/
  origin : Option Origin
  event : TextEvent
  deriving DecidableEq, Repr

/-- The transaction of an event. -/
def Origin.tx (origin : Origin) : Transaction :=
  origin.message.tx

namespace Transaction

/-- The hash of a transaction, in upper-case hexadecimal digits. -/
def hashOf (raw : List UInt8) : String :=
  Hex.encodeUpper (Sha256.hash raw)

/-- The hash of a transaction. -/
def hash (tx : Transaction) : String :=
  hashOf tx.raw

/-- Whether a transaction succeeded. -/
def isSuccess (tx : Transaction) : Bool :=
  tx.result.isSuccess

/-- The envelope of a transaction. -/
def decode (tx : Transaction) : Except DecodeError Tx :=
  Tx.decode tx.raw

/-- The messages of an envelope; one that cannot be decoded has none. -/
def messagesOf (tx : Transaction) : Except DecodeError Tx → List Message
  | .ok envelope => envelope.messages.zipIdx.map fun (any, i) => ⟨i, tx, any.typeUrl, any.value⟩
  | .error _ => []

/-- The messages of a transaction. -/
def messages (tx : Transaction) : List Message :=
  tx.messagesOf tx.decode

/-! ### Events -/

/-- The attribute that names the message of an event. -/
def msgIndexKey : String :=
  "msg_index"

/-- Puts an event behind the others of its message, the messages being sorted. -/
def insertEvent (msgIndex : UInt64) (event : TextEvent) : List MessageLog → List MessageLog
  | [] => [⟨msgIndex, [event]⟩]
  | log :: rest =>
    if msgIndex = log.msgIndex then { log with events := log.events ++ [event] } :: rest
    else if msgIndex < log.msgIndex then ⟨msgIndex, [event]⟩ :: log :: rest
    else log :: insertEvent msgIndex event rest

/-- Groups events by the message that their attribute names; events that name none are left
out. -/
def groupEvents (events : List TextEvent) : List MessageLog :=
  events.foldl (fun logs event =>
    match (event.attribute? msgIndexKey).bind Integer.uint64? with
    | some msgIndex => insertEvent msgIndex event logs
    | none => logs) []

/-- The events of each message as a log lists them, sorted by message; a log of another form lists
none. -/
def parseLog (log : String) : List MessageLog :=
  match (Reader.list MessageLog.reader).ofText (Utf8.encode log) with
  | .ok logs => logs.mergeSort fun a b => a.msgIndex ≤ b.msgIndex
  | .error _ => []

/-- The events of a transaction as text. -/
def textEvents (tx : Transaction) : List TextEvent :=
  tx.result.events.map .ofEvent

/-- The events of a transaction by message. -/
def logs (tx : Transaction) : List MessageLog :=
  if tx.textEvents.any fun event => (event.attribute? msgIndexKey).isSome then
    groupEvents tx.textEvents
  else parseLog tx.result.log

/-- The events of a log with their origin; there are none if the transaction lacks the message. -/
def logEvents (messages : List Message) (log : MessageLog) : List (Origin × TextEvent) :=
  match messages[log.msgIndex.toNat]? with
  | some message => log.events.map fun event => (⟨message, log⟩, event)
  | none => []

/-- The events of a transaction with these messages. A failed transaction has none, nor has one
without messages. -/
def eventsOf (tx : Transaction) (messages : List Message) : List (Origin × TextEvent) :=
  if tx.isSuccess && !messages.isEmpty then tx.logs.flatMap (logEvents messages) else []

/-- The events of a transaction with their origin. -/
def events (tx : Transaction) : List (Origin × TextEvent) :=
  tx.eventsOf tx.messages

end Transaction

namespace BlockPair

/-- The transactions of a block. -/
def transactions (pair : BlockPair) : List Transaction :=
  (pair.block.txs.zip pair.results.results).zipIdx.map fun ((raw, result), i) => ⟨i, raw, result⟩

/-- The messages of a block. -/
def messages (pair : BlockPair) : List Message :=
  pair.transactions.flatMap Transaction.messages

/-- Events outside transactions as text; events that were not reported are none. -/
def outerEvents (events : Option (List Event)) : List (Option Origin × TextEvent) :=
  (events.getD []).map fun event => (none, .ofEvent event)

/-- The events of all transactions. -/
def txEvents (pair : BlockPair) : List (Option Origin × TextEvent) :=
  (pair.transactions.flatMap Transaction.events).map fun (origin, event) => (some origin, event)

/-- Numbers events from `start`. -/
def number (start : Nat) (events : List (Option Origin × TextEvent)) : List BlockEvent :=
  (events.zipIdx start).map fun ((origin, event), i) => ⟨i, origin, event⟩

/-- The events before the transactions. -/
def beginBlockEvents (pair : BlockPair) : List BlockEvent :=
  number 0 (outerEvents pair.results.beginEvents)

/-- The events of the transactions. -/
def transactionEvents (pair : BlockPair) : List BlockEvent :=
  number pair.beginBlockEvents.length pair.txEvents

/-- The events behind the transactions. -/
def endBlockEvents (pair : BlockPair) : List BlockEvent :=
  number (pair.beginBlockEvents.length + pair.transactionEvents.length)
    (outerEvents pair.results.endEvents)

/-- All events of a block. -/
def events (pair : BlockPair) : List BlockEvent :=
  number 0 (outerEvents pair.results.beginEvents ++ pair.txEvents ++
    outerEvents pair.results.endEvents)

end BlockPair

end ChainFeed
