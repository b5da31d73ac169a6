import ChainFeed.Block.Session

/-!
# Lazy blocks

The parts of a block are built when they are first asked for, and kept. Transactions and messages
are objects: what one caller has decoded of an object, the next one finds decoded. An object is
what it is about, and the number of a cell in which its decoded form is kept. Objects are built
once; events refer to the objects of the messages that emitted them.

The cell of a message is a session in which only this message is used.

## Main definitions

- `ChainFeed.LazyBlock`: a block with what has been built and decoded of it
- `ChainFeed.LazyBlock.block`, `ChainFeed.LazyBlock.transactions`, `ChainFeed.LazyBlock.messages`,
  `ChainFeed.LazyBlock.events`: its parts
- `ChainFeed.LazyBlock.decodedTx`, `ChainFeed.LazyBlock.decodedMsg`: envelopes and payloads
- `ChainFeed.LazyBlock.filterMessage`, `ChainFeed.LazyBlock.filterEvent`: filters
- `ChainFeed.LazyBlock.select`: the elements that a list of filters accepts
- `ChainFeed.LazyBlock.perform`: all that a caller can ask for
-/

namespace ChainFeed

/-- What is known of a block without looking into it. -/
structure BlockInfo where
  hash : String
  header : Header
  txCount : Nat
  deriving DecidableEq, Repr

/-- What is known of the block of a pair. -/
def BlockPair.info (pair : BlockPair) : BlockInfo :=
  ⟨pair.block.hash, pair.block.header, pair.block.txs.length⟩

/-! ### Objects -/

/-- A transaction as an object. -/
structure TxRef where
  tx : Transaction
  /-- The cell of the envelope. -/
  cell : Nat
  deriving DecidableEq, Repr

/-- A message as an object. -/
structure MessageRef where
  message : Message
  /-- The cell of the transaction's envelope. -/
  txCell : Nat
  /-- The cell of the message. -/
  cell : Nat
  deriving DecidableEq, Repr

/-- The transaction of a message. -/
def MessageRef.tx (ref : MessageRef) : TxRef :=
  ⟨ref.message.tx, ref.txCell⟩

/-- An event with the message that emitted it. -/
structure EventRef where
  event : BlockEvent
  message? : Option MessageRef
  deriving DecidableEq, Repr

/-- The events of a block, and where those of its transactions stand. -/
structure EventList where
  events : List EventRef
  /-- The position of the first event of a transaction. -/
  txStart : Nat
  /-- The position behind the last one. -/
  txEnd : Nat
  deriving DecidableEq, Repr

namespace EventList

/-- An event that is not numbered yet, with the message that emitted it. -/
abbrev Item : Type :=
  (Option Origin × TextEvent) × Option MessageRef

/-- The events outside transactions. -/
def outerItems (events : Option (List Event)) : List Item :=
  (BlockPair.outerEvents events).map fun event => (event, none)

/-- The events of a transaction with these messages. -/
def txItems (tx : Transaction) (messages : List MessageRef) : List Item :=
  (tx.eventsOf (messages.map MessageRef.message)).map fun (origin, event) =>
    ((some origin, event), messages[origin.log.msgIndex.toNat]?)

/-- Numbers events. -/
def number (items : List Item) : List EventRef :=
  items.zipIdx.map fun (((origin, event), message?), i) => ⟨⟨i, origin, event⟩, message?⟩

/-- The events of a block whose transactions have these messages. -/
def ofMessages (results : BlockResults) (groups : List (Transaction × List MessageRef)) :
    EventList :=
  let before := outerItems results.beginEvents
  let between := groups.flatMap fun (tx, messages) => txItems tx messages
  let behind := outerItems results.endEvents
  ⟨number (before ++ between ++ behind), before.length, before.length + between.length⟩

end EventList

/-! ### Blocks -/

/-- A block with what has been built and decoded of it. -/
structure LazyBlock where
  pair : BlockPair
  registry : Registry
  info? : Option BlockInfo
  transactions? : Option (List TxRef)
  /-- The messages of each transaction. -/
  txMessages? : Option (List (List MessageRef))
  messages? : Option (List MessageRef)
  events? : Option EventList
  /-- The cells of transactions. -/
  envelopes : List (Option (Except DecodeError Tx))
  /-- The cells of messages. -/
  sessions : List Session

namespace LazyBlock

/-- A block of which nothing has been built. -/
def new (pair : BlockPair) (registry : Registry) : LazyBlock :=
  ⟨pair, registry, none, none, none, none, none, [], []⟩

/-- The messages whose decoder ran. -/
def runs (block : LazyBlock) : List Message :=
  block.sessions.flatMap Session.runs

/-- How often decoders of the user ran. -/
def customRuns (block : LazyBlock) : Nat :=
  (block.runs.filter fun message => block.registry.isCustom message.typeUrl).length

section Slots

variable {α : Type}

/-- What a slot holds; what an empty one should hold is built first, and kept. -/
def getOrBuild (slot? : LazyBlock → Option α) (fill : α → LazyBlock → LazyBlock)
    (build : StateM LazyBlock α) : StateM LazyBlock α := do
  match slot? (← get) with
  | some value => return value
  | none =>
    let value ← build
    modify (fill value)
    return value

/-- Works on the cell of a message. -/
def onMessage (ref : MessageRef) (use : Session → α × Session) : StateM LazyBlock α :=
  modifyGet fun block =>
    let (value, session) := use (block.sessions.getD ref.cell (.ofPair block.pair block.registry))
    (value, { block with sessions := block.sessions.set ref.cell session })

end Slots

/-! ### Parts -/

/-- What is known of the block without looking into it. -/
def block : StateM LazyBlock BlockInfo :=
  getOrBuild info? (fun info block => { block with info? := some info }) do
    return (← get).pair.info

/-- A new object for a transaction. -/
def newTx (tx : Transaction) : StateM LazyBlock TxRef :=
  modifyGet fun block =>
    (⟨tx, block.envelopes.length⟩, { block with envelopes := block.envelopes ++ [none] })

/-- New objects for the transactions. -/
def newTransactions : StateM LazyBlock (List TxRef) := do
  let _ ← block
  (← get).pair.transactions.mapM newTx

/-- The transactions. -/
def transactions : StateM LazyBlock (List TxRef) :=
  getOrBuild transactions? (fun refs block => { block with transactions? := some refs })
    newTransactions

/-- The envelope of a transaction. -/
def decodedTx (ref : TxRef) : StateM LazyBlock (Except DecodeError Tx) :=
  getOrBuild (fun block => block.envelopes[ref.cell]?.join)
    (fun result block => { block with envelopes := block.envelopes.set ref.cell (some result) }) do
    return ref.tx.decode

/-- A new object for a message. -/
def newMessage (txCell : Nat) (message : Message) : StateM LazyBlock MessageRef :=
  modifyGet fun block =>
    (⟨message, txCell, block.sessions.length⟩,
      { block with sessions := block.sessions ++ [.ofPair block.pair block.registry] })

/-- New objects for the messages of a transaction. -/
def wrapMessages (ref : TxRef) : StateM LazyBlock (List MessageRef) := do
  let result ← decodedTx ref
  (ref.tx.messagesOf result).mapM (newMessage ref.cell)

/-- The messages of each transaction. -/
def txMessages : StateM LazyBlock (List (List MessageRef)) :=
  getOrBuild txMessages? (fun groups block => { block with txMessages? := some groups }) do
    (← transactions).mapM wrapMessages

/-- The messages. -/
def messages : StateM LazyBlock (List MessageRef) :=
  getOrBuild messages? (fun refs block => { block with messages? := some refs }) do
    return (← txMessages).flatten

/-- The events with the messages of the transactions. -/
def newEvents : StateM LazyBlock EventList := do
  let _ ← block
  let txs ← transactions
  let groups ← txMessages
  return .ofMessages (← get).pair.results ((txs.map TxRef.tx).zip groups)

/-- The events, and where those of transactions stand. -/
def eventList : StateM LazyBlock EventList :=
  getOrBuild events? (fun events block => { block with events? := some events }) newEvents

/-- The events. -/
def events : StateM LazyBlock (List EventRef) :=
  return (← eventList).events

/-- The events before the transactions. -/
def beginBlockEvents : StateM LazyBlock (List EventRef) := do
  let list ← eventList
  return list.events.take list.txStart

/-- The events of the transactions. -/
def transactionEvents : StateM LazyBlock (List EventRef) := do
  let list ← eventList
  return (list.events.take list.txEnd).drop list.txStart

/-- The events behind the transactions. -/
def endBlockEvents : StateM LazyBlock (List EventRef) := do
  let list ← eventList
  return list.events.drop list.txEnd

/-! ### Payloads and filters -/

/-- The payload of a message. -/
def decodedMsg (ref : MessageRef) : StateM LazyBlock (Except DecodeError Json) :=
  onMessage ref fun session => session.payload ref.message

/-- Whether a filter accepts a message. -/
def filterMessage (filter : Option MessageFilter) (ref : MessageRef) : StateM LazyBlock Bool :=
  onMessage ref fun session => session.acceptsMessage filter ref.message

/-- Whether a filter accepts an event. An event that no message emitted has no cell to work on. -/
def filterEvent (filter : Option EventFilter) (ref : EventRef) : StateM LazyBlock Bool :=
  match ref.message? with
  | some message => onMessage message fun session => session.acceptsEvent filter ref.event
  | none => do
    let block ← get
    return ((Session.ofPair block.pair block.registry).acceptsEvent filter ref.event).1

section Select

variable {α φ : Type}

/-- Whether some filter accepts an element; filters behind the first that does are not tried. -/
def acceptsAny (accepts : Option φ → α → StateM LazyBlock Bool) (element : α) :
    List φ → StateM LazyBlock Bool
  | [] => return false
  | filter :: filters => do
    if ← accepts (some filter) element then return true
    acceptsAny accepts element filters

/-- Whether a list of filters accepts an element: one of them does, or there are none. -/
def acceptsList (accepts : Option φ → α → StateM LazyBlock Bool) (filters : List φ)
    (element : α) : StateM LazyBlock Bool :=
  if filters.isEmpty then return true else acceptsAny accepts element filters

/-- The elements that a list of filters accepts, in order. -/
def select (accepts : Option φ → α → StateM LazyBlock Bool) (filters : List φ)
    (elements : List α) : StateM LazyBlock (List α) :=
  elements.filterM (acceptsList accepts filters)

end Select

/-! ### Calls -/

/-- How a caller comes by a message: from the list of messages, or from an event. -/
inductive MessagePath where
  | listed (i : Nat)
  | ofEvent (i : Nat)
  deriving DecidableEq, Repr

/-- How a caller comes by a transaction: from the list of transactions, or from a message. -/
inductive TxPath where
  | listed (i : Nat)
  | ofMessage (path : MessagePath)
  deriving DecidableEq, Repr

/-- What a caller can ask for. -/
inductive Call where
  | block
  | transactions
  | messages
  | events
  | beginBlockEvents
  | transactionEvents
  | endBlockEvents
  | decodedTx (path : TxPath)
  | decodedMsg (path : MessagePath)
  | filterMessage (filter : Option MessageFilter) (path : MessagePath)
  | filterEvent (filter : Option EventFilter) (i : Nat)

/-- What a caller is told. What is asked about an element that the block lacks has no answer. -/
inductive Answer where
  | block (info : BlockInfo)
  | transactions (txs : List Transaction)
  | messages (messages : List Message)
  | events (events : List BlockEvent)
  | envelope (result : Option (Except DecodeError Tx))
  | payload (result : Option (Except DecodeError Json))
  | verdict (accepted : Option Bool)

/-- The message at the end of a path. -/
def messageAt : MessagePath → StateM LazyBlock (Option MessageRef)
  | .listed i => return (← messages)[i]?
  | .ofEvent i => return (← events)[i]?.bind EventRef.message?

/-- The transaction at the end of a path. -/
def txAt : TxPath → StateM LazyBlock (Option TxRef)
  | .listed i => return (← transactions)[i]?
  | .ofMessage path => return (← messageAt path).map MessageRef.tx

/-- Does what a caller asks for. -/
def perform : Call → StateM LazyBlock Answer
  | .block => return .block (← block)
  | .transactions => return .transactions ((← transactions).map TxRef.tx)
  | .messages => return .messages ((← messages).map MessageRef.message)
  | .events => return .events ((← events).map EventRef.event)
  | .beginBlockEvents => return .events ((← beginBlockEvents).map EventRef.event)
  | .transactionEvents => return .events ((← transactionEvents).map EventRef.event)
  | .endBlockEvents => return .events ((← endBlockEvents).map EventRef.event)
  | .decodedTx path => do
    let ref? ← txAt path
    return .envelope (← ref?.mapM decodedTx)
  | .decodedMsg path => do
    let ref? ← messageAt path
    return .payload (← ref?.mapM decodedMsg)
  | .filterMessage filter path => do
    let ref? ← messageAt path
    return .verdict (← ref?.mapM (filterMessage filter))
  | .filterEvent filter i => do
    let ref? := (← events)[i]?
    return .verdict (← ref?.mapM (filterEvent filter))

end LazyBlock

end ChainFeed
