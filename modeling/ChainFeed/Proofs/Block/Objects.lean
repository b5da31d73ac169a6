import ChainFeed.Block.Lazy
import ChainFeed.Proofs.Block.EventStream

/-!
# The objects of a block

A lazy block builds the objects of its transactions and messages in order, so the cell of an object
is its position. The objects of messages are built for one transaction after the other, and an event
refers to the object of the message that it comes from.

## Main definitions

- `BlockPair.txRefs`, `BlockPair.messageRefs`, `BlockPair.eventList`: the objects of a block

## Main results

- `BlockPair.cell_of_getElem?_messageRefs`: cells are positions
- `BlockPair.map_event_eventList`: the events are those of the block
- `BlockPair.message?_of_mem_eventList`: events and the list of messages share their objects
-/

namespace ChainFeed

/-- Objects of the messages of one transaction, their cells numbered from `start`. -/
def MessageRef.number (txCell start : Nat) (messages : List Message) : List MessageRef :=
  (messages.zipIdx start).map fun (message, i) => ⟨message, txCell, i⟩

/-- Objects of the messages of transactions, their cells numbered from `start`. -/
def TxRef.messageGroups (start : Nat) : List TxRef → List (List MessageRef)
  | [] => []
  | ref :: refs =>
    MessageRef.number ref.cell start ref.tx.messages ::
      messageGroups (start + ref.tx.messages.length) refs

namespace BlockPair

/-- The objects of the transactions of a block. -/
def txRefs (pair : BlockPair) : List TxRef :=
  pair.transactions.zipIdx.map fun (tx, i) => ⟨tx, i⟩

/-- The objects of the messages of each transaction. -/
def messageGroups (pair : BlockPair) : List (List MessageRef) :=
  TxRef.messageGroups 0 pair.txRefs

/-- The objects of the messages of a block. -/
def messageRefs (pair : BlockPair) : List MessageRef :=
  pair.messageGroups.flatten

/-- The events of a block with their objects. -/
def eventList (pair : BlockPair) : EventList :=
  .ofMessages pair.results ((pair.txRefs.map TxRef.tx).zip pair.messageGroups)

end BlockPair

variable {pair : BlockPair} {message : Message} {ref : TxRef} {refs : List TxRef}
  {messageRef : MessageRef} {eventRef : EventRef} {start txCell i : Nat}

/-! ### Messages -/

namespace MessageRef

@[simp]
theorem map_message_number (txCell start : Nat) (messages : List Message) :
    (number txCell start messages).map MessageRef.message = messages := by
  rw [number, List.map_map]
  exact List.zipIdx_map_fst start messages

theorem map_cell_number (txCell start : Nat) (messages : List Message) :
    (number txCell start messages).map MessageRef.cell = List.range' start messages.length := by
  rw [number, List.map_map]
  exact List.zipIdx_map_snd start messages

theorem txCell_of_mem_number {messages : List Message}
    (h : messageRef ∈ number txCell start messages) : messageRef.txCell = txCell := by
  obtain ⟨_, -, rfl⟩ := List.mem_map.mp h
  rfl

end MessageRef

namespace TxRef

theorem map_message_messageGroups (start : Nat) (refs : List TxRef) :
    (messageGroups start refs).map (·.map MessageRef.message) =
      refs.map fun ref => ref.tx.messages := by
  induction refs generalizing start with
  | nil => rfl
  | cons ref refs ih =>
    rw [messageGroups, List.map_cons, List.map_cons, MessageRef.map_message_number, ih]

/-- Cells are numbered through all transactions. -/
theorem map_cell_messageGroups (start : Nat) (refs : List TxRef) :
    (messageGroups start refs).flatten.map MessageRef.cell =
      List.range' start (refs.flatMap fun ref => ref.tx.messages).length := by
  induction refs generalizing start with
  | nil => rfl
  | cons ref refs ih =>
    rw [messageGroups, List.flatten_cons, List.map_append, MessageRef.map_cell_number, ih,
      List.flatMap_cons, List.length_append, List.range'_append_1]

/-- A message of a group is one of the transaction of the group. -/
theorem tx_mem_of_mem_messageGroups (h : messageRef ∈ (messageGroups start refs).flatten) :
    messageRef.tx ∈ refs := by
  induction refs generalizing start with
  | nil => exact nomatch h
  | cons ref refs ih =>
    rw [messageGroups, List.flatten_cons] at h
    rcases List.mem_append.mp h with hfirst | hrest
    · have hmessage : messageRef.message ∈ ref.tx.messages := by
        rw [← MessageRef.map_message_number ref.cell start ref.tx.messages]
        exact List.mem_map_of_mem hfirst
      rw [MessageRef.tx, Transaction.tx_of_mem_messages hmessage,
        MessageRef.txCell_of_mem_number hfirst]
      exact List.mem_cons_self
    · exact List.mem_cons_of_mem _ (ih hrest)

end TxRef

namespace BlockPair

theorem map_tx_txRefs (pair : BlockPair) : pair.txRefs.map TxRef.tx = pair.transactions := by
  rw [txRefs, List.map_map]
  exact List.zipIdx_map_fst 0 pair.transactions

/-- The cell of a transaction is its position. -/
theorem cell_of_getElem?_txRefs (h : pair.txRefs[i]? = some ref) : ref.cell = i := by
  rw [txRefs, List.getElem?_map, List.getElem?_zipIdx, Option.map_map] at h
  obtain ⟨tx, -, rfl⟩ := Option.map_eq_some_iff.mp h
  exact Nat.zero_add i

theorem getElem?_transactions_cell (h : ref ∈ pair.txRefs) :
    pair.transactions[ref.cell]? = some ref.tx := by
  obtain ⟨i, hi⟩ := List.getElem?_of_mem h
  rw [cell_of_getElem?_txRefs hi, ← map_tx_txRefs, List.getElem?_map, hi]
  rfl

theorem flatMap_messages_txRefs (pair : BlockPair) :
    (pair.txRefs.flatMap fun ref => ref.tx.messages) = pair.messages := by
  rw [messages, ← map_tx_txRefs, List.flatMap_map]

theorem map_message_messageRefs (pair : BlockPair) :
    pair.messageRefs.map MessageRef.message = pair.messages := by
  rw [messageRefs, List.map_flatten, messageGroups, TxRef.map_message_messageGroups,
    ← List.flatMap_def, flatMap_messages_txRefs]

/-- The cell of a message is its position. -/
theorem cell_of_getElem?_messageRefs (h : pair.messageRefs[i]? = some messageRef) :
    messageRef.cell = i := by
  have hcells : (pair.messageRefs.map MessageRef.cell)[i]? = some messageRef.cell := by
    rw [List.getElem?_map, h]
    rfl
  rw [messageRefs, messageGroups, TxRef.map_cell_messageGroups] at hcells
  obtain ⟨_, hcell⟩ := List.getElem?_eq_some_iff.mp hcells
  rw [List.getElem_range', Nat.zero_add, Nat.one_mul] at hcell
  exact hcell.symm

theorem getElem?_messages_cell (h : messageRef ∈ pair.messageRefs) :
    pair.messages[messageRef.cell]? = some messageRef.message := by
  obtain ⟨i, hi⟩ := List.getElem?_of_mem h
  rw [cell_of_getElem?_messageRefs hi, ← map_message_messageRefs, List.getElem?_map, hi]
  rfl

theorem tx_mem_of_mem_messageRefs (h : messageRef ∈ pair.messageRefs) :
    messageRef.tx ∈ pair.txRefs :=
  TxRef.tx_mem_of_mem_messageGroups h

end BlockPair

/-! ### Events -/

namespace EventList

variable {item : Item} {items : List Item}

theorem map_event_number (items : List Item) :
    (number items).map EventRef.event = BlockPair.number 0 (items.map (·.1)) := by
  rw [number, BlockPair.number, List.zipIdx_map, List.map_map, List.map_map]
  rfl

/-- A numbered event keeps its origin and its object. -/
theorem exists_item_of_mem_number (h : eventRef ∈ number items) :
    ∃ item ∈ items, eventRef.event.origin = item.1.1 ∧ eventRef.message? = item.2 := by
  obtain ⟨⟨item, i⟩, hitem, rfl⟩ := List.mem_map.mp h
  exact ⟨item, List.fst_mem_of_mem_zipIdx hitem, rfl, rfl⟩

theorem map_fst_outerItems (events : Option (List Event)) :
    (outerItems events).map (·.1) = BlockPair.outerEvents events := by
  rw [outerItems, List.map_map]
  exact List.map_id _

theorem map_fst_txItems (tx : Transaction) (messages : List MessageRef) :
    (txItems tx messages).map (·.1) =
      (tx.eventsOf (messages.map MessageRef.message)).map fun (origin, event) =>
        (some origin, event) := by
  rw [txItems, List.map_map]
  rfl

/-- The events of transactions, whose messages stand in groups beside them. -/
theorem map_fst_flatMap_txItems (start : Nat) (refs : List TxRef) :
    (((refs.map TxRef.tx).zip (TxRef.messageGroups start refs)).flatMap fun (tx, messages) =>
        txItems tx messages).map (·.1) =
      ((refs.map TxRef.tx).flatMap Transaction.events).map fun (origin, event) =>
        (some origin, event) := by
  induction refs generalizing start with
  | nil => rfl
  | cons ref refs ih =>
    rw [TxRef.messageGroups, List.map_cons, List.zip_cons_cons, List.flatMap_cons,
      List.flatMap_cons, List.map_append, List.map_append, ih, map_fst_txItems,
      MessageRef.map_message_number]
    rfl

/-- An event of a transaction has the object of the message that it comes from. -/
theorem message?_of_mem_txItems {tx : Transaction} {messages : List MessageRef}
    (h : item ∈ txItems tx messages) :
    item.2.map MessageRef.message = item.1.1.map Origin.message ∧
      ∀ messageRef, item.2 = some messageRef → messageRef ∈ messages := by
  obtain ⟨⟨origin, event⟩, hevent, rfl⟩ := List.mem_map.mp h
  refine ⟨?_, fun messageRef hmessage => List.mem_of_getElem? hmessage⟩
  unfold Transaction.eventsOf at hevent
  split at hevent
  · obtain ⟨log, -, hlog⟩ := List.mem_flatMap.mp hevent
    obtain ⟨rfl, hmessage, -⟩ := Transaction.mem_logEvents.mp hlog
    rw [List.getElem?_map] at hmessage
    exact hmessage
  · exact nomatch hevent

end EventList

namespace BlockPair

/-- What the events of a block are numbered from. -/
def eventItems (pair : BlockPair) : List EventList.Item :=
  EventList.outerItems pair.results.beginEvents ++
    ((pair.txRefs.map TxRef.tx).zip pair.messageGroups).flatMap
      (fun (tx, messages) => EventList.txItems tx messages) ++
    EventList.outerItems pair.results.endEvents

theorem events_eventList (pair : BlockPair) :
    pair.eventList.events = EventList.number pair.eventItems :=
  rfl

theorem map_fst_eventItems (pair : BlockPair) :
    pair.eventItems.map (·.1) =
      outerEvents pair.results.beginEvents ++ pair.txEvents ++
        outerEvents pair.results.endEvents := by
  rw [eventItems, List.map_append, List.map_append, EventList.map_fst_outerItems,
    EventList.map_fst_outerItems, messageGroups, EventList.map_fst_flatMap_txItems, map_tx_txRefs,
    txEvents]

/-- The events are those of the block. -/
theorem map_event_eventList (pair : BlockPair) :
    pair.eventList.events.map EventRef.event = pair.events := by
  rw [events_eventList, EventList.map_event_number, map_fst_eventItems, events]

theorem txStart_eventList (pair : BlockPair) :
    pair.eventList.txStart = pair.beginBlockEvents.length := by
  rw [beginBlockEvents, length_number, ← EventList.map_fst_outerItems, List.length_map]
  rfl

theorem txEnd_eventList (pair : BlockPair) :
    pair.eventList.txEnd = pair.beginBlockEvents.length + pair.transactionEvents.length := by
  rw [← txStart_eventList, transactionEvents, length_number, txEvents, ← map_tx_txRefs,
    ← EventList.map_fst_flatMap_txItems 0, List.length_map]
  rfl

/-- The parts of the list are the parts of the stream. -/
theorem map_event_take_eventList (pair : BlockPair) :
    (pair.eventList.events.take pair.eventList.txStart).map EventRef.event =
      pair.beginBlockEvents := by
  rw [List.map_take, map_event_eventList, txStart_eventList, ← append_parts, List.append_assoc,
    List.take_left]

theorem map_event_between_eventList (pair : BlockPair) :
    ((pair.eventList.events.take pair.eventList.txEnd).drop pair.eventList.txStart).map
      EventRef.event = pair.transactionEvents := by
  rw [List.map_drop, List.map_take, map_event_eventList, txStart_eventList, txEnd_eventList,
    ← append_parts, ← List.length_append, List.take_left, List.drop_left]

theorem map_event_drop_eventList (pair : BlockPair) :
    (pair.eventList.events.drop pair.eventList.txEnd).map EventRef.event = pair.endBlockEvents := by
  rw [List.map_drop, map_event_eventList, txEnd_eventList, ← append_parts, ← List.length_append,
    List.drop_left]

/-- An event has the object of the message that it comes from, and it is one of the list of
messages. -/
theorem message?_of_mem_eventList (h : eventRef ∈ pair.eventList.events) :
    eventRef.message?.map MessageRef.message = eventRef.event.origin.map Origin.message ∧
      ∀ messageRef, eventRef.message? = some messageRef → messageRef ∈ pair.messageRefs := by
  obtain ⟨item, hitem, horigin, hmessage⟩ := EventList.exists_item_of_mem_number h
  rw [horigin, hmessage]
  -- outer events have neither an origin nor an object
  have houter : ∀ {events}, item ∈ EventList.outerItems events →
      item.2.map MessageRef.message = item.1.1.map Origin.message ∧
        ∀ messageRef, item.2 = some messageRef → messageRef ∈ pair.messageRefs := by
    intro events houter
    obtain ⟨_, hevent, rfl⟩ := List.mem_map.mp houter
    obtain ⟨_, -, rfl⟩ := List.mem_map.mp hevent
    exact ⟨rfl, nofun⟩
  rcases List.mem_append.mp hitem with hitem | hitem
  · rcases List.mem_append.mp hitem with hitem | hitem
    · exact houter hitem
    · obtain ⟨⟨tx, messages⟩, hgroup, hitem⟩ := List.mem_flatMap.mp hitem
      obtain ⟨hsame, hmem⟩ := EventList.message?_of_mem_txItems hitem
      refine ⟨hsame, fun messageRef href => ?_⟩
      exact List.mem_flatten.mpr ⟨messages, (List.of_mem_zip hgroup).2, hmem messageRef href⟩
  · exact houter hitem

end BlockPair

end ChainFeed
