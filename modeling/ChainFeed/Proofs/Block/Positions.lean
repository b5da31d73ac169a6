import ChainFeed.Proofs.Block.Calls
import Mathlib.Data.List.Sort

/-!
# Positions in a block

Only a block with one result for each transaction is paired, so transactions and results laid side
by side leave nothing over. Transactions and messages then stand in the order of their positions,
which begin anew with each transaction, and that order determines them: the messages of a
transaction depend on nothing but the transaction, whatever the others hold and whatever has been
asked before.

## Main definitions

- `BlockPair.Pairing`: when a block and its results are paired
- `LazyBlock.Positions`: what a lazy block shows of its transactions and messages

## Main results

- `BlockPair.filter_messages_congr`: messages depend on nothing but their transaction
- `LazyBlock.positions`: all of it, after any calls
-/

namespace ChainFeed

variable {pair other : BlockPair} {tx : Transaction} {message : Message} {i : Nat}

namespace BlockPair

/-! ### Pairing -/

/-- When a block and its results are paired. -/
structure Pairing (block : Block) (results : BlockResults) : Prop where
  /-- There is a pair if there are as many results as transactions. -/
  paired : (∃ pair, ofParts block results = .ok pair) ↔
    block.txs.length = results.results.length
  /-- It consists of both. -/
  parts : ∀ pair, ofParts block results = .ok pair → pair.block = block ∧ pair.results = results
  /-- Otherwise both numbers are reported. -/
  refused : ∀ e, ofParts block results = .error e ↔
    block.txs.length ≠ results.results.length ∧
      e = .txResultCountMismatch block.height block.txs.length results.results.length

theorem pairing (block : Block) (results : BlockResults) : Pairing block results := by
  by_cases hcounts : block.txs.length = results.results.length
  · have hpair : ofParts block results = .ok ⟨block, results, hcounts⟩ := dif_pos hcounts
    refine ⟨iff_of_true ⟨_, hpair⟩ hcounts, fun pair => of_ofParts_eq_ok, fun e => ?_⟩
    refine iff_of_false (fun he => ?_) fun h => h.1 hcounts
    rw [hpair] at he
    cases he
  · have herror : ofParts block results = .error (.txResultCountMismatch block.height
        block.txs.length results.results.length) := dif_neg hcounts
    refine ⟨iff_of_false ?_ hcounts, fun pair => of_ofParts_eq_ok, fun e => ?_⟩
    · rintro ⟨pair, hpair⟩
      rw [herror] at hpair
      cases hpair
    · rw [herror, Except.error.injEq, eq_comm, and_iff_right hcounts]

/-! ### Transactions -/

theorem length_transactions (pair : BlockPair) :
    pair.transactions.length = pair.block.txs.length := by
  rw [transactions, List.length_map, List.length_zipIdx, List.length_zip, ← pair.counts_eq,
    Nat.min_self]

/-- A transaction is made of the bytes and the result at its position. -/
theorem getElem?_transactions_eq_some_iff :
    pair.transactions[i]? = some tx ↔
      tx.idx = i ∧ pair.block.txs[i]? = some tx.raw ∧
        pair.results.results[i]? = some tx.result := by
  rw [transactions, List.getElem?_map, List.getElem?_zipIdx, Option.map_map, Option.map_eq_some_iff]
  constructor
  · rintro ⟨⟨raw, result⟩, hzip, rfl⟩
    obtain ⟨hraw, hresult⟩ := List.getElem?_zip_eq_some.mp hzip
    exact ⟨Nat.zero_add i, hraw, hresult⟩
  · rintro ⟨rfl, hraw, hresult⟩
    refine ⟨(tx.raw, tx.result), List.getElem?_zip_eq_some.mpr ⟨hraw, hresult⟩, ?_⟩
    simp

/-! ### Messages -/

/-- The messages of one transaction are those of its envelope. -/
theorem filter_messages_eq (htx : tx ∈ pair.transactions) :
    (pair.messages.filter fun message => message.tx.idx = tx.idx) = tx.messages := by
  -- both lists are in order, so it is enough that they have the same elements
  refine (pairwise_precedes_messages.filter _).eq_of_mem_iff
    Transaction.pairwise_precedes_messages fun message => ?_
  rw [List.mem_filter, mem_messages_iff, decide_eq_true_eq]
  constructor
  · rintro ⟨⟨hmem, hmessage⟩, hidx⟩
    rwa [transaction_ext hmem htx hidx] at hmessage
  · intro hmessage
    obtain rfl := Transaction.tx_of_mem_messages hmessage
    exact ⟨⟨htx, hmessage⟩, rfl⟩

/-- The messages of one transaction are the same whatever the other transactions hold. -/
theorem filter_messages_congr {position : Nat}
    (hraw : pair.block.txs[position]? = other.block.txs[position]?)
    (hresult : pair.results.results[position]? = other.results.results[position]?) :
    (pair.messages.filter fun message => message.tx.idx = position) =
      other.messages.filter fun message => message.tx.idx = position := by
  refine (pairwise_precedes_messages.filter _).eq_of_mem_iff
    (pairwise_precedes_messages.filter _) fun message => ?_
  rw [List.mem_filter, List.mem_filter, mem_messages_iff, mem_messages_iff, decide_eq_true_eq]
  refine and_congr_left fun hposition => and_congr_left fun _ => ?_
  rw [mem_transactions_iff, mem_transactions_iff, hposition, getElem?_transactions_eq_some_iff,
    getElem?_transactions_eq_some_iff, hraw, hresult]

end BlockPair

/-! ### After any calls -/

namespace LazyBlock

/-- A lazy block after calls. -/
def after (pair : BlockPair) (registry : Registry) (calls : List Call) : LazyBlock :=
  ((calls.mapM perform).run (new pair registry)).2

/-- The metadata that a caller is given. -/
def shownInfo (block : LazyBlock) : BlockInfo :=
  (LazyBlock.block.run block).1

/-- The transactions that a caller is given. -/
def shownTransactions (block : LazyBlock) : List Transaction :=
  (transactions.run block).1.map TxRef.tx

/-- The messages that a caller is given. -/
def shownMessages (block : LazyBlock) : List Message :=
  (messages.run block).1.map MessageRef.message

/-- The messages that a caller is given of the transaction at a position. -/
def shownMessagesOf (block : LazyBlock) (position : Nat) : List Message :=
  block.shownMessages.filter fun message => message.tx.idx = position

/-- What a lazy block shows of the transactions and messages of a pair. -/
structure Positions (pair : BlockPair) (registry : Registry) (block : LazyBlock) : Prop where
  /-- There are as many transactions as the metadata say. -/
  count : block.shownTransactions.length = block.shownInfo.txCount
  /-- None is left out. -/
  total : block.shownInfo.txCount = pair.block.txs.length
  /-- A transaction has its position, and the bytes, their hash and the result at that position. -/
  transaction : ∀ i raw result, pair.block.txs[i]? = some raw →
    pair.results.results[i]? = some result →
      ∃ tx : Transaction, block.shownTransactions[i]? = some tx ∧ tx.idx = i ∧ tx.raw = raw ∧
        tx.hash = Hex.encodeUpper (Sha256.hash raw) ∧ tx.result = result
  /-- The messages stand in the order of the transactions. -/
  concatenated : block.shownMessages =
    block.shownTransactions.flatMap fun tx => block.shownMessagesOf tx.idx
  /-- A message has its position in the body, its transaction, and its type url and bytes. -/
  decoded : ∀ tx ∈ block.shownTransactions, ∀ envelope, Tx.decode tx.raw = .ok envelope →
    block.shownMessagesOf tx.idx =
      envelope.messages.mapIdx fun i any => ⟨i, tx, any.typeUrl, any.value⟩
  /-- An envelope that cannot be decoded has no messages. -/
  undecodable : ∀ tx ∈ block.shownTransactions, ∀ e, Tx.decode tx.raw = .error e →
    block.shownMessagesOf tx.idx = []
  /-- Positions increase, from transaction to transaction and in each of them. -/
  increasing : (block.shownMessages.map Session.place).Pairwise (Prod.Lex (· < ·) (· < ·))
  /-- In each transaction they begin with zero. -/
  restarting : ∀ tx ∈ block.shownTransactions,
    (block.shownMessagesOf tx.idx).map Message.idx =
      List.range (block.shownMessagesOf tx.idx).length
  /-- The messages of a transaction are the same whatever the other transactions hold. -/
  isolated : ∀ (other : BlockPair) (otherRegistry : Registry) (calls : List Call) (position : Nat),
    pair.block.txs[position]? = other.block.txs[position]? →
    pair.results.results[position]? = other.results.results[position]? →
      block.shownMessagesOf position = (after other otherRegistry calls).shownMessagesOf position
  /-- The payload of a message depends on its type url and its bytes only. -/
  payload : ∀ i message, block.shownMessages[i]? = some message →
    ((perform (.decodedMsg (.listed i))).run block).1 =
      .payload (some (registry.decode message.typeUrl message.value))

/-- What a block shows does not depend on the calls before. -/
theorem shown_after (pair : BlockPair) (registry : Registry) (calls : List Call) :
    (after pair registry calls).shownInfo = pair.info ∧
      (after pair registry calls).shownTransactions = pair.transactions ∧
      (after pair registry calls).shownMessages = pair.messages ∧
      ∀ call, ((perform call).run (after pair registry calls)).1 = call.answer pair registry := by
  obtain ⟨p, hrun, -⟩ := performAll_eq_answer pair registry calls (.blank false)
  have hafter : after pair registry calls = p.state pair registry := congrArg Prod.snd hrun
  obtain ⟨_, hinfo, -⟩ := run_block pair registry p
  obtain ⟨_, htxs, -⟩ := run_transactions pair registry p
  obtain ⟨_, _, hmessages⟩ := builds_messages pair registry p
  rw [hafter, shownInfo, shownTransactions, shownMessages, hinfo, htxs, hmessages]
  refine ⟨rfl, pair.map_tx_txRefs, pair.map_message_messageRefs, fun call => ?_⟩
  obtain ⟨_, hcall, -⟩ := perform_eq_answer pair registry call p
  rw [hcall]

/-- Transactions and messages keep their positions, whatever has been asked before. -/
theorem positions_after (pair : BlockPair) (registry : Registry) (calls : List Call) :
    Positions pair registry (after pair registry calls) := by
  obtain ⟨hinfo, htxs, hmessages, hanswer⟩ := shown_after pair registry calls
  have hof (position : Nat) : (after pair registry calls).shownMessagesOf position =
      pair.messages.filter fun message => message.tx.idx = position := by
    rw [shownMessagesOf, hmessages]
  have hown (tx : Transaction) (htx : tx ∈ pair.transactions) :
      (after pair registry calls).shownMessagesOf tx.idx = tx.messages := by
    rw [hof, BlockPair.filter_messages_eq htx]
  constructor
  case count => rw [htxs, hinfo, BlockPair.length_transactions, BlockPair.info]
  case total => rw [hinfo, BlockPair.info]
  case transaction =>
    intro i raw result hraw hresult
    rw [htxs]
    exact ⟨⟨i, raw, result⟩, BlockPair.getElem?_transactions_eq_some_iff.mpr ⟨rfl, hraw, hresult⟩,
      rfl, rfl, rfl, rfl⟩
  case concatenated =>
    rw [htxs, hmessages, BlockPair.messages, List.flatMap_def, List.flatMap_def,
      List.map_congr_left hown]
  case decoded =>
    intro tx htx envelope henvelope
    rw [htxs] at htx
    rw [hown tx htx, Transaction.messages, Transaction.decode, henvelope, Transaction.messagesOf,
      List.mapIdx_eq_zipIdx_map]
  case undecodable =>
    intro tx htx e he
    rw [htxs] at htx
    rw [hown tx htx, Transaction.messages_eq_nil_of_decode he]
  case increasing =>
    rw [hmessages, List.pairwise_map]
    exact BlockPair.pairwise_precedes_messages
  case restarting =>
    intro tx htx
    rw [htxs] at htx
    rw [hown tx htx, Transaction.map_idx_messages]
  case isolated =>
    intro other otherRegistry otherCalls position hraw hresult
    obtain ⟨-, -, hothers, -⟩ := shown_after other otherRegistry otherCalls
    rw [hof, shownMessagesOf, hothers, BlockPair.filter_messages_congr hraw hresult]
  case payload =>
    intro i message hmessage
    rw [hmessages] at hmessage
    rw [hanswer, Call.answer, MessagePath.message?, hmessage, Option.map_some]

/-- Pairs have one result for each transaction, and their transactions and messages keep their
positions. -/
theorem positions :
    (∀ block results, BlockPair.Pairing block results) ∧
      ∀ pair registry calls, Positions pair registry (after pair registry calls) :=
  ⟨BlockPair.pairing, positions_after⟩

end LazyBlock

end ChainFeed
