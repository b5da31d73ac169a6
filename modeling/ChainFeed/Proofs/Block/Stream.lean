import ChainFeed.Proofs.Block.Grouping
import ChainFeed.Proofs.Block.Positions

/-!
# The event stream that callers see

A lazy block builds its stream of events from the objects of its transactions and messages, and
keeps it with the two places at which it is divided. Whatever has been asked before, callers are
given the events of the pair, so what holds of these holds of the stream that they see: it is
numbered throughout, it is divided into three parts, and the events in between come from the
transactions and messages that the block shows.

## Main definitions

- `LazyBlock.StreamLaws`: what holds of the events that a lazy block shows

## Main results

- `LazyBlock.shownEvents_after`: the events that are shown do not depend on the calls before
- `LazyBlock.streamLaws`: the laws hold after any calls
- `LazyBlock.grouped_slice`: the events of a transaction in the stream are grouped stably
-/

namespace ChainFeed.LazyBlock

variable {pair : BlockPair} {registry : Registry} {tx : Transaction}

/-- The events that a caller is given. -/
def shownEvents (block : LazyBlock) : List BlockEvent :=
  (events.run block).1.map EventRef.event

/-- The events before the transactions that a caller is given. -/
def shownBeginBlockEvents (block : LazyBlock) : List BlockEvent :=
  (beginBlockEvents.run block).1.map EventRef.event

/-- The events of the transactions that a caller is given. -/
def shownTransactionEvents (block : LazyBlock) : List BlockEvent :=
  (transactionEvents.run block).1.map EventRef.event

/-- The events behind the transactions that a caller is given. -/
def shownEndBlockEvents (block : LazyBlock) : List BlockEvent :=
  (endBlockEvents.run block).1.map EventRef.event

/-- The events that a block shows do not depend on the calls before. -/
theorem shownEvents_after (pair : BlockPair) (registry : Registry) (calls : List Call) :
    (after pair registry calls).shownEvents = pair.events ∧
      (after pair registry calls).shownBeginBlockEvents = pair.beginBlockEvents ∧
      (after pair registry calls).shownTransactionEvents = pair.transactionEvents ∧
      (after pair registry calls).shownEndBlockEvents = pair.endBlockEvents := by
  obtain ⟨-, -, -, hanswer⟩ := shown_after pair registry calls
  exact ⟨Answer.events.inj (hanswer .events), Answer.events.inj (hanswer .beginBlockEvents),
    Answer.events.inj (hanswer .transactionEvents), Answer.events.inj (hanswer .endBlockEvents)⟩

/-! ### The laws of the stream -/

/-- What holds of the events that a lazy block shows of a pair. -/
structure StreamLaws (pair : BlockPair) (block : LazyBlock) : Prop where
  /-- Events are numbered from zero throughout. -/
  numbered : ∀ (i : Nat) (event : BlockEvent), block.shownEvents[i]? = some event → event.idx = i
  /-- The stream consists of its three parts. -/
  parts : block.shownBeginBlockEvents ++ block.shownTransactionEvents ++
    block.shownEndBlockEvents = block.shownEvents
  /-- The events before the transactions are the reported ones as text, and have no origin. -/
  before : block.shownBeginBlockEvents.map (fun event => (event.origin, event.event)) =
    (pair.results.beginEvents.getD []).map fun event => (none, TextEvent.ofEvent event)
  /-- So are the events behind the transactions. -/
  behind : block.shownEndBlockEvents.map (fun event => (event.origin, event.event)) =
    (pair.results.endEvents.getD []).map fun event => (none, TextEvent.ofEvent event)
  /-- An event between comes from a successful transaction of the block, from the one message of it
  that its log names, and it is an event of that log. -/
  origins : ∀ event ∈ block.shownTransactionEvents, ∃ origin, event.origin = some origin ∧
    origin.tx ∈ block.shownTransactions ∧ origin.tx.result.code = 0 ∧
    (∀ message, message = origin.message ↔ message ∈ block.shownMessages ∧
      message.tx.idx = origin.tx.idx ∧ message.idx = origin.log.msgIndex.toNat) ∧
    origin.log ∈ origin.tx.logs ∧ event.event ∈ origin.log.events
  /-- Events between stand in the order of transactions and messages. -/
  ordered : (block.shownTransactionEvents.filterMap (·.origin)).Pairwise fun a b =>
    BlockPair.inOrder a.message b.message
  /-- Failed transactions, and those without messages that can be read, have no events. -/
  silent : ∀ tx ∈ block.shownTransactions,
    (tx.result.code ≠ 0 ∨ (∃ fault, tx.decode = .error fault) ∨
      block.shownMessagesOf tx.idx = []) →
      ∀ event ∈ block.shownEvents, ∀ origin, event.origin = some origin → origin.tx.idx ≠ tx.idx

/-- The laws hold of the stream of every block, whatever its registry holds and whatever has been
asked before. -/
theorem streamLaws (pair : BlockPair) (registry : Registry) (calls : List Call) :
    StreamLaws pair (after pair registry calls) := by
  obtain ⟨-, htxs, hmessages, -⟩ := shown_after pair registry calls
  obtain ⟨hevents, hbegin, hbetween, hend⟩ := shownEvents_after pair registry calls
  constructor
  case numbered =>
    intro i event h
    rw [hevents] at h
    exact (BlockPair.idx_of_getElem?_number h).trans (Nat.zero_add i)
  case parts => rw [hevents, hbegin, hbetween, hend, BlockPair.append_parts]
  case before =>
    rw [hbegin]
    exact BlockPair.map_number _ _
  case behind =>
    rw [hend]
    exact BlockPair.map_number _ _
  case origins =>
    rw [hbetween, htxs, hmessages]
    exact fun event h => BlockPair.exists_origin_of_mem_transactionEvents h
  case ordered =>
    rw [hbetween]
    exact pair.pairwise_origins
  case silent =>
    rw [hevents, htxs]
    intro tx htx hsilent event hevent origin horigin
    rw [shownMessagesOf, hmessages, BlockPair.filter_messages_eq htx] at hsilent
    exact BlockPair.ne_idx_of_silent htx hsilent hevent horigin

/-! ### The events of a transaction -/

/-- The events of a successful transaction with messages are grouped stably. -/
theorem grouped_slice {calls : List Call} {envelope : Tx}
    (htx : tx ∈ (after pair registry calls).shownTransactions) (hcode : tx.result.code = 0)
    (hdecode : tx.decode = .ok envelope) (hmessages : 0 < envelope.messages.length) :
    tx.Grouped envelope.messages.length (tx.slice (after pair registry calls).shownEvents) := by
  rw [(shown_after pair registry calls).2.1] at htx
  rw [← Transaction.length_messages hdecode] at hmessages ⊢
  rw [(shownEvents_after pair registry calls).1, BlockPair.slice_events htx,
    Transaction.map_snd_events hcode hmessages]
  exact Transaction.grouped_logs tx _

section Mixed

/-- An event that names a message by a text. -/
def indexedEvent (kind index : String) : Event :=
  ⟨kind, [⟨Utf8.encode Transaction.msgIndexKey, Utf8.encode index, false⟩]⟩

/-- A transaction of two messages, with events of either one and events that name none. -/
def mixedTransaction : Transaction :=
  ⟨0, [0x0A, 4, 0x0A, 0, 0x0A, 0], ⟨0, "", "", "", [], 0, 0,
    [indexedEvent "a" "1", indexedEvent "b" "0", ⟨"c", []⟩, indexedEvent "d" "x",
      indexedEvent "e" "+1", indexedEvent "f" "2"]⟩⟩

/-- A block with this transaction. -/
def mixedPair : BlockPair where
  block := ⟨"", ⟨⟨0, 0⟩, "", 1, ⟨0, 0⟩, none, "", "", ""⟩, [mixedTransaction.raw]⟩
  results := ⟨1, [mixedTransaction.result], none, some [⟨"g", []⟩]⟩
  counts_eq := rfl

theorem decode_mixedTransaction :
    mixedTransaction.decode = .ok ⟨[⟨"", []⟩, ⟨"", []⟩], "", 0, ⟨[], none⟩, []⟩ :=
  eq_ok_of_toOption_eq (by decide +kernel)

/-- The events of its two messages are sorted; of those that name none of them there is none. -/
theorem grouped_mixedTransaction :
    mixedTransaction ∈ (after mixedPair .withDefaults [.messages]).shownTransactions ∧
      mixedTransaction.Grouped 2
        (mixedTransaction.slice (after mixedPair .withDefaults [.messages]).shownEvents) ∧
      (mixedTransaction.slice (after mixedPair .withDefaults [.messages]).shownEvents).map
        (·.kind) = ["b", "a", "e"] := by
  have hmem : mixedTransaction ∈ (after mixedPair .withDefaults [.messages]).shownTransactions := by
    rw [(shown_after mixedPair .withDefaults [.messages]).2.1]
    exact List.mem_singleton.mpr rfl
  refine ⟨hmem, grouped_slice hmem rfl decode_mixedTransaction (by decide), ?_⟩
  rw [(shownEvents_after mixedPair .withDefaults [.messages]).1]
  decide +kernel

end Mixed

end ChainFeed.LazyBlock
