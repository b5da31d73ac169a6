import ChainFeed.Block.Content
import Mathlib.Data.List.Nodup

/-!
# Transactions and messages of a block

Every element of a block knows its position, and positions tell elements apart: a transaction is
determined by its position in the block, a message by its transaction and its position there. Both
stand in the order of their positions.

## Main definitions

- `Message.Precedes`: the order of messages

## Main results

- `BlockPair.idx_of_getElem?_transactions`, `Transaction.idx_of_getElem?_messages`: positions
- `BlockPair.transaction_ext`, `BlockPair.message_ext`: they tell elements apart
- `BlockPair.pairwise_precedes_messages`: they increase
-/

namespace ChainFeed

variable {pair : BlockPair} {tx : Transaction} {message : Message} {i : Nat}

/-- A message stands before another one in an earlier transaction, or earlier in the same one. -/
def Message.Precedes (message other : Message) : Prop :=
  Prod.Lex (· < ·) (· < ·) (message.tx.idx, message.idx) (other.tx.idx, other.idx)

theorem Message.precedes_iff {other : Message} :
    message.Precedes other ↔ message.tx.idx < other.tx.idx ∨
      message.tx.idx = other.tx.idx ∧ message.idx < other.idx :=
  Prod.lex_def

instance Message.irrefl_precedes : Std.Irrefl Message.Precedes where
  irrefl message h := by
    rw [precedes_iff] at h
    omega

instance Message.antisymm_precedes : Std.Antisymm Message.Precedes where
  antisymm message other h hother := by
    rw [precedes_iff] at h hother
    omega

/-- A pair consists of what it was made of. -/
theorem BlockPair.of_ofParts_eq_ok {block : Block} {results : BlockResults}
    (h : ofParts block results = .ok pair) : pair.block = block ∧ pair.results = results := by
  unfold ofParts at h
  split at h
  · obtain rfl := Except.ok.inj h
    exact ⟨rfl, rfl⟩
  · exact nomatch h

namespace Transaction

theorem messages_eq_nil_of_decode {fault : DecodeError} (h : tx.decode = .error fault) :
    tx.messages = [] := by
  rw [messages, h, messagesOf]

/-- A message knows its transaction and its position there. -/
theorem idx_of_getElem?_messages (h : tx.messages[i]? = some message) :
    message.idx = i ∧ message.tx = tx := by
  unfold messages messagesOf at h
  split at h
  -- a transaction that can be decoded numbers its messages in order
  · rw [List.getElem?_map, List.getElem?_zipIdx] at h
    obtain ⟨⟨any, j⟩, hany, rfl⟩ := Option.map_eq_some_iff.mp h
    obtain ⟨_, -, heq⟩ := Option.map_eq_some_iff.mp hany
    obtain ⟨-, rfl⟩ := Prod.mk.inj heq
    exact ⟨Nat.zero_add i, rfl⟩
  · exact nomatch h

theorem mem_messages_iff : message ∈ tx.messages ↔ tx.messages[message.idx]? = some message := by
  constructor
  · intro h
    obtain ⟨i, hi⟩ := List.getElem?_of_mem h
    obtain ⟨rfl, -⟩ := idx_of_getElem?_messages hi
    exact hi
  · exact List.mem_of_getElem?

theorem tx_of_mem_messages (h : message ∈ tx.messages) : message.tx = tx :=
  (idx_of_getElem?_messages (mem_messages_iff.mp h)).2

/-- The positions in a transaction count from zero. -/
theorem map_idx_messages (tx : Transaction) :
    tx.messages.map Message.idx = List.range tx.messages.length := by
  refine List.ext_getElem (by simp) fun i hi _ => ?_
  rw [List.length_map] at hi
  rw [List.getElem_map, List.getElem_range]
  exact (idx_of_getElem?_messages (List.getElem?_eq_getElem hi)).1

/-- The positions in a transaction increase. -/
theorem pairwise_precedes_messages : tx.messages.Pairwise Message.Precedes := by
  rw [List.pairwise_iff_getElem]
  intro i j hi hj hij
  obtain ⟨hidx, htx⟩ := idx_of_getElem?_messages (List.getElem?_eq_getElem hi)
  obtain ⟨hidx', htx'⟩ := idx_of_getElem?_messages (List.getElem?_eq_getElem hj)
  rw [Message.Precedes, hidx, htx, hidx', htx']
  exact .right _ hij

end Transaction

namespace BlockPair

/-- A transaction knows its position. -/
theorem idx_of_getElem?_transactions (h : pair.transactions[i]? = some tx) : tx.idx = i := by
  rw [transactions, List.getElem?_map, List.getElem?_zipIdx] at h
  obtain ⟨⟨⟨raw, result⟩, j⟩, hraw, rfl⟩ := Option.map_eq_some_iff.mp h
  obtain ⟨_, -, heq⟩ := Option.map_eq_some_iff.mp hraw
  obtain ⟨-, rfl⟩ := Prod.mk.inj heq
  exact Nat.zero_add i

theorem mem_transactions_iff : tx ∈ pair.transactions ↔ pair.transactions[tx.idx]? = some tx := by
  constructor
  · intro h
    obtain ⟨i, hi⟩ := List.getElem?_of_mem h
    obtain rfl := idx_of_getElem?_transactions hi
    exact hi
  · exact List.mem_of_getElem?

/-- Transactions of a block stand at different positions. -/
theorem transaction_ext {other : Transaction} (htx : tx ∈ pair.transactions)
    (hother : other ∈ pair.transactions) (hidx : tx.idx = other.idx) : tx = other := by
  rw [mem_transactions_iff] at htx hother
  rw [hidx, hother] at htx
  exact (Option.some.inj htx).symm

/-- The positions of transactions increase. -/
theorem pairwise_idx_transactions : pair.transactions.Pairwise fun a b => a.idx < b.idx := by
  rw [List.pairwise_iff_getElem]
  intro i j hi hj hij
  rw [idx_of_getElem?_transactions (List.getElem?_eq_getElem hi),
    idx_of_getElem?_transactions (List.getElem?_eq_getElem hj)]
  exact hij

theorem mem_messages_iff :
    message ∈ pair.messages ↔ message.tx ∈ pair.transactions ∧ message ∈ message.tx.messages := by
  rw [messages, List.mem_flatMap]
  constructor
  · rintro ⟨tx, htx, hmessage⟩
    obtain rfl := Transaction.tx_of_mem_messages hmessage
    exact ⟨htx, hmessage⟩
  · rintro ⟨htx, hmessage⟩
    exact ⟨message.tx, htx, hmessage⟩

/-- Messages of a block differ in their transaction or in their position there. -/
theorem message_ext {other : Message} (hmessage : message ∈ pair.messages)
    (hother : other ∈ pair.messages) (htx : message.tx.idx = other.tx.idx)
    (hidx : message.idx = other.idx) : message = other := by
  rw [mem_messages_iff, Transaction.mem_messages_iff] at hmessage hother
  have hsame : message.tx = other.tx := transaction_ext hmessage.1 hother.1 htx
  rw [hsame, hidx, hother.2] at hmessage
  exact (Option.some.inj hmessage.2).symm

/-- The positions in a block increase, from transaction to transaction and in each of them. -/
theorem pairwise_precedes_messages : pair.messages.Pairwise Message.Precedes := by
  refine List.pairwise_flatMap.mpr ⟨fun tx _ => Transaction.pairwise_precedes_messages, ?_⟩
  refine pairwise_idx_transactions.imp fun {tx other} hlt message hmessage other' hother => ?_
  rw [Message.Precedes, Transaction.tx_of_mem_messages hmessage,
    Transaction.tx_of_mem_messages hother]
  exact .left _ _ hlt

theorem nodup_transactions (pair : BlockPair) : pair.transactions.Nodup :=
  pairwise_idx_transactions.imp fun hlt heq =>
    absurd (congrArg Transaction.idx heq) (Nat.ne_of_lt hlt)

/-- The messages of a block are different. -/
theorem nodup_messages (pair : BlockPair) : pair.messages.Nodup :=
  pairwise_precedes_messages.nodup

end BlockPair

end ChainFeed
