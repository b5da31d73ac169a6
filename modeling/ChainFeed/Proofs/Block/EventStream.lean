import ChainFeed.Proofs.Block.Content

/-!
# The event stream of a block

The events of a block form one stream, numbered from zero: the events before the transactions, those
of the messages of successful transactions, and the events behind the transactions. The events of a
transaction stand in the order of its messages, whether attributes or its log say which message an
event belongs to, because either way the groups of events are sorted by message.

## Main results

- `Transaction.pairwise_logs`: groups of events are sorted by message
- `Transaction.pairwise_events`: so are the events of a transaction
- `BlockPair.append_parts`: the stream consists of its three parts
- `BlockPair.exists_origin_of_mem_transactionEvents`: where the events of transactions come from
- `BlockPair.pairwise_origins`: in which order they stand
- `BlockPair.ne_idx_of_silent`: which transactions have none
-/

namespace ChainFeed

/-! ### The events of a transaction -/

namespace Transaction

variable {tx : Transaction} {logs : List MessageLog} {log : MessageLog} {origin : Origin}
  {event : TextEvent}

/-- Putting an event in place adds no other message than its own. -/
theorem msgIndex_of_mem_insertEvent {msgIndex : UInt64}
    (h : log ∈ insertEvent msgIndex event logs) :
    log.msgIndex = msgIndex ∨ ∃ old ∈ logs, old.msgIndex = log.msgIndex := by
  induction logs with
  | nil =>
    obtain rfl := List.mem_singleton.mp h
    exact .inl rfl
  | cons first rest ih =>
    unfold insertEvent at h
    split at h
    · rename_i heq
      rcases List.mem_cons.mp h with rfl | hrest
      · exact .inl heq.symm
      · exact .inr ⟨log, List.mem_cons_of_mem _ hrest, rfl⟩
    · split at h
      · rcases List.mem_cons.mp h with rfl | hrest
        · exact .inl rfl
        · exact .inr ⟨log, hrest, rfl⟩
      · rcases List.mem_cons.mp h with rfl | hrest
        · exact .inr ⟨log, List.mem_cons_self, rfl⟩
        · rcases ih hrest with heq | ⟨old, hold, heq⟩
          · exact .inl heq
          · exact .inr ⟨old, List.mem_cons_of_mem _ hold, heq⟩

theorem pairwise_insertEvent (msgIndex : UInt64) (event : TextEvent)
    (h : logs.Pairwise fun a b => a.msgIndex < b.msgIndex) :
    (insertEvent msgIndex event logs).Pairwise fun a b => a.msgIndex < b.msgIndex := by
  induction logs with
  | nil => exact List.pairwise_singleton _ _
  | cons first rest ih =>
    obtain ⟨hfirst, hrest⟩ := List.pairwise_cons.mp h
    unfold insertEvent
    split
    · exact List.pairwise_cons.mpr ⟨hfirst, hrest⟩
    -- the group is put in front of the first greater one
    · rename_i hne
      split
      · rename_i hlt
        refine List.pairwise_cons.mpr ⟨fun log hlog => ?_, h⟩
        rcases List.mem_cons.mp hlog with rfl | hlog
        · exact hlt
        · exact UInt64.lt_trans hlt (hfirst log hlog)
      · rename_i hge
        refine List.pairwise_cons.mpr ⟨fun log hlog => ?_, ih hrest⟩
        rcases msgIndex_of_mem_insertEvent hlog with heq | ⟨old, hold, heq⟩
        · rw [heq]
          grind
        · rw [← heq]
          exact hfirst old hold

/-- Attributes give each message at most one group. -/
theorem pairwise_groupEvents (events : List TextEvent) :
    (groupEvents events).Pairwise fun a b => a.msgIndex < b.msgIndex := by
  -- events without a message leave the groups as they are
  refine List.foldlRecOn events _ .nil fun logs h event _ => ?_
  split
  · exact pairwise_insertEvent _ event h
  · exact h

theorem pairwise_parseLog (log : String) :
    (parseLog log).Pairwise fun a b => a.msgIndex ≤ b.msgIndex := by
  unfold parseLog
  split
  · refine (List.pairwise_mergeSort ?_ ?_ _).imp fun h => of_decide_eq_true h
    -- sorting needs an order that is transitive and total
    · intro a b c hab hbc
      have hab := of_decide_eq_true hab
      have hbc := of_decide_eq_true hbc
      exact decide_eq_true (UInt64.le_trans hab hbc)
    · intro a b
      rcases UInt64.le_total a.msgIndex b.msgIndex with h | h
      · simp [h]
      · simp [h]
  · exact .nil

/-- The groups of a transaction's events are sorted by message. -/
theorem pairwise_logs (tx : Transaction) :
    tx.logs.Pairwise fun a b => a.msgIndex ≤ b.msgIndex := by
  unfold logs
  split
  · exact (pairwise_groupEvents _).imp UInt64.le_of_lt
  · exact pairwise_parseLog _

theorem mem_logEvents {messages : List Message} :
    (origin, event) ∈ logEvents messages log ↔
      origin.log = log ∧ messages[log.msgIndex.toNat]? = some origin.message ∧
        event ∈ log.events := by
  unfold logEvents
  constructor
  · intro h
    split at h
    · rename_i message hmessage
      obtain ⟨event', hevent, heq⟩ := List.mem_map.mp h
      obtain ⟨rfl, rfl⟩ := Prod.mk.inj heq
      exact ⟨rfl, hmessage, hevent⟩
    · exact nomatch h
  · rintro ⟨rfl, hmessage, hevent⟩
    rw [hmessage]
    exact List.mem_map.mpr ⟨event, hevent, rfl⟩

theorem mem_events :
    (origin, event) ∈ tx.events ↔
      tx.result.code = 0 ∧ origin.log ∈ tx.logs ∧
        tx.messages[origin.log.msgIndex.toNat]? = some origin.message ∧
        event ∈ origin.log.events := by
  have hmem : (origin, event) ∈ tx.logs.flatMap (logEvents tx.messages) ↔
      origin.log ∈ tx.logs ∧ tx.messages[origin.log.msgIndex.toNat]? = some origin.message ∧
        event ∈ origin.log.events := by
    rw [List.mem_flatMap]
    constructor
    · rintro ⟨log, hlog, h⟩
      obtain ⟨rfl, hmessage, hevent⟩ := mem_logEvents.mp h
      exact ⟨hlog, hmessage, hevent⟩
    · rintro ⟨hlog, hmessage, hevent⟩
      exact ⟨origin.log, hlog, mem_logEvents.mpr ⟨rfl, hmessage, hevent⟩⟩
  unfold events eventsOf
  split
  · rename_i hcond
    have hsuccess : tx.result.code = 0 := by
      simp only [Bool.and_eq_true] at hcond
      simpa [isSuccess, TxResult.isSuccess] using hcond.1
    rw [hmem, and_iff_right hsuccess]
  · rename_i hcond
    -- a log that names a message is impossible if there are none
    refine ⟨fun h => absurd h List.not_mem_nil, fun ⟨hsuccess, _, hmessage, _⟩ => absurd ?_ hcond⟩
    have hne : tx.messages ≠ [] := fun hnil => by simp [hnil] at hmessage
    simp [isSuccess, TxResult.isSuccess, hsuccess, hne]

/-- A transaction has only events of its own messages. -/
theorem tx_of_mem_events {event : Origin × TextEvent} (h : event ∈ tx.events) :
    event.1.tx = tx := by
  obtain ⟨-, -, hmessage, -⟩ := mem_events.mp (show (event.1, event.2) ∈ _ from h)
  exact (idx_of_getElem?_messages hmessage).2

/-- The events of a transaction are sorted by message. -/
theorem pairwise_events (tx : Transaction) :
    tx.events.Pairwise fun a b => a.1.message.idx ≤ b.1.message.idx := by
  unfold events eventsOf
  split
  -- events of one log come from one message, and logs are sorted by message
  · refine List.pairwise_flatMap.mpr ⟨fun log _ => ?_, (pairwise_logs tx).imp ?_⟩
    · refine List.pairwise_of_forall_mem_list fun a ha b hb => ?_
      obtain ⟨-, hmessage, -⟩ := mem_logEvents.mp (show (a.1, a.2) ∈ _ from ha)
      obtain ⟨-, hmessage', -⟩ := mem_logEvents.mp (show (b.1, b.2) ∈ _ from hb)
      rw [hmessage] at hmessage'
      exact Nat.le_of_eq (congrArg Message.idx (Option.some.inj hmessage'))
    · intro log log' hle a ha b hb
      obtain ⟨-, hmessage, -⟩ := mem_logEvents.mp (show (a.1, a.2) ∈ _ from ha)
      obtain ⟨-, hmessage', -⟩ := mem_logEvents.mp (show (b.1, b.2) ∈ _ from hb)
      rw [(idx_of_getElem?_messages hmessage).1, (idx_of_getElem?_messages hmessage').1]
      exact UInt64.le_iff_toNat_le.mp hle
  · exact .nil

end Transaction

/-! ### The stream of a block -/

namespace BlockPair

variable {pair : BlockPair} {start : Nat} {event : BlockEvent}

theorem number_append (start : Nat) (events others : List (Option Origin × TextEvent)) :
    number start (events ++ others) =
      number start events ++ number (start + events.length) others := by
  rw [number, List.zipIdx_append, List.map_append]
  rfl

theorem length_number (start : Nat) (events : List (Option Origin × TextEvent)) :
    (number start events).length = events.length := by
  rw [number, List.length_map, List.length_zipIdx]

/-- Numbering changes neither what events are nor where they come from. -/
theorem map_number (start : Nat) (events : List (Option Origin × TextEvent)) :
    (number start events).map (fun event => (event.origin, event.event)) = events := by
  rw [number, List.map_map]
  exact List.zipIdx_map_fst start events

theorem idx_of_getElem?_number {events : List (Option Origin × TextEvent)} {i : Nat}
    (h : (number start events)[i]? = some event) : event.idx = start + i := by
  rw [number, List.getElem?_map, List.getElem?_zipIdx] at h
  obtain ⟨⟨⟨origin, text⟩, j⟩, hevent, rfl⟩ := Option.map_eq_some_iff.mp h
  obtain ⟨_, -, heq⟩ := Option.map_eq_some_iff.mp hevent
  obtain ⟨-, rfl⟩ := Prod.mk.inj heq
  rfl

theorem mem_of_mem_number {events : List (Option Origin × TextEvent)}
    (h : event ∈ number start events) : (event.origin, event.event) ∈ events := by
  rw [← map_number start events]
  exact List.mem_map_of_mem h

/-- The three parts make up the stream. -/
theorem append_parts (pair : BlockPair) :
    pair.beginBlockEvents ++ pair.transactionEvents ++ pair.endBlockEvents = pair.events := by
  rw [events, number_append, number_append, List.length_append, Nat.zero_add, Nat.zero_add,
    endBlockEvents, transactionEvents, length_number, beginBlockEvents, length_number]

theorem mem_txEvents {origin : Option Origin} {text : TextEvent} :
    (origin, text) ∈ pair.txEvents ↔
      ∃ source, origin = some source ∧ source.tx ∈ pair.transactions ∧
        (source, text) ∈ source.tx.events := by
  unfold txEvents
  constructor
  · intro h
    obtain ⟨⟨source, text'⟩, hsource, heq⟩ := List.mem_map.mp h
    obtain ⟨rfl, rfl⟩ := Prod.mk.inj heq
    obtain ⟨tx, htx, hevent⟩ := List.mem_flatMap.mp hsource
    obtain rfl : source.tx = tx := Transaction.tx_of_mem_events hevent
    exact ⟨source, rfl, htx, hevent⟩
  · rintro ⟨source, rfl, htx, hevent⟩
    exact List.mem_map.mpr
      ⟨(source, text), List.mem_flatMap.mpr ⟨source.tx, htx, hevent⟩, rfl⟩

/-- The order of the messages of a block. -/
def inOrder (a b : Message) : Prop :=
  a.tx.idx < b.tx.idx ∨ a.tx.idx = b.tx.idx ∧ a.idx ≤ b.idx

/-- The events of transactions stand in the order of transactions and messages. -/
theorem pairwise_txEvents (pair : BlockPair) :
    (pair.transactions.flatMap Transaction.events).Pairwise fun a b =>
      inOrder a.1.message b.1.message := by
  refine List.pairwise_flatMap.mpr ⟨fun tx _ => ?_, pairwise_idx_transactions.imp ?_⟩
  · refine (Transaction.pairwise_events tx).imp_of_mem fun ha hb hle => .inr ⟨?_, hle⟩
    have hsame := (Transaction.tx_of_mem_events ha).trans (Transaction.tx_of_mem_events hb).symm
    exact congrArg Transaction.idx hsame
  · intro tx tx' hlt a ha b hb
    have htx : a.1.message.tx = tx := Transaction.tx_of_mem_events ha
    have htx' : b.1.message.tx = tx' := Transaction.tx_of_mem_events hb
    refine .inl ?_
    rw [htx, htx']
    exact hlt

/-- An event with an origin comes from the transaction that its origin names. -/
theorem origin_mem_of_mem_events {origin : Origin} (h : event ∈ pair.events)
    (horigin : event.origin = some origin) :
    origin.tx ∈ pair.transactions ∧ (origin, event.event) ∈ origin.tx.events := by
  have hmem := mem_of_mem_number h
  have houter : ∀ reported, (event.origin, event.event) ∉ outerEvents reported := by
    intro reported hreported
    obtain ⟨_, -, heq⟩ := List.mem_map.mp hreported
    rw [horigin] at heq
    exact nomatch (Prod.mk.inj heq).1
  -- outer events have no origin, so the event is one of a transaction
  rw [List.mem_append, List.mem_append] at hmem
  rcases hmem with (hbefore | hbetween) | hbehind
  · exact absurd hbefore (houter _)
  · obtain ⟨source, heq, htx, hevent⟩ := mem_txEvents.mp hbetween
    rw [horigin] at heq
    obtain rfl := Option.some.inj heq
    exact ⟨htx, hevent⟩
  · exact absurd hbehind (houter _)

/-- The message that an event comes from is one of its block. -/
theorem message_mem_of_mem_events {origin : Origin} (h : event ∈ pair.events)
    (horigin : event.origin = some origin) : origin.message ∈ pair.messages := by
  obtain ⟨htx, hevent⟩ := origin_mem_of_mem_events h horigin
  obtain ⟨-, -, hmessage, -⟩ := Transaction.mem_events.mp hevent
  exact mem_messages_iff.mpr ⟨htx, List.mem_of_getElem? hmessage⟩

/-- Between the outer events each event has its origin in a message of the block. -/
theorem exists_origin_of_mem_transactionEvents (h : event ∈ pair.transactionEvents) :
    ∃ origin, event.origin = some origin ∧ origin.tx ∈ pair.transactions ∧
      origin.tx.result.code = 0 ∧
      (∀ message, message = origin.message ↔ message ∈ pair.messages ∧
        message.tx.idx = origin.tx.idx ∧ message.idx = origin.log.msgIndex.toNat) ∧
      origin.log ∈ origin.tx.logs ∧ event.event ∈ origin.log.events := by
  obtain ⟨origin, horigin, htx, hevent⟩ := mem_txEvents.mp (mem_of_mem_number h)
  obtain ⟨hcode, hlog, hmessage, htext⟩ := Transaction.mem_events.mp hevent
  obtain ⟨hidx, -⟩ := Transaction.idx_of_getElem?_messages hmessage
  have hmem : origin.message ∈ pair.messages :=
    mem_messages_iff.mpr ⟨htx, List.mem_of_getElem? hmessage⟩
  refine ⟨origin, horigin, htx, hcode, fun message => ⟨?_, ?_⟩, hlog, htext⟩
  · rintro rfl
    exact ⟨hmem, rfl, hidx⟩
  · rintro ⟨hother, hothertx, hotheridx⟩
    exact message_ext hother hmem hothertx (hotheridx.trans hidx.symm)

theorem pairwise_origins (pair : BlockPair) :
    (pair.transactionEvents.filterMap (·.origin)).Pairwise fun a b =>
      inOrder a.message b.message := by
  have horigins : pair.transactionEvents.filterMap (·.origin) =
      (pair.transactions.flatMap Transaction.events).map (·.1) := by
    calc pair.transactionEvents.filterMap (·.origin)
        = (pair.transactionEvents.map fun event => (event.origin, event.event)).filterMap
            (·.1) := by rw [List.filterMap_map]; rfl
      _ = pair.txEvents.filterMap (·.1) := by rw [transactionEvents, map_number]
      _ = (pair.transactions.flatMap Transaction.events).map (·.1) := by
        rw [txEvents, List.filterMap_map]
        exact congrFun List.filterMap_eq_map _
  rw [horigins]
  exact List.pairwise_map.mpr (pairwise_txEvents pair)

/-- Failed transactions, and those without messages that can be read, have no events. -/
theorem ne_idx_of_silent {tx : Transaction} {origin : Origin} (htx : tx ∈ pair.transactions)
    (hsilent : tx.result.code ≠ 0 ∨ (∃ fault, tx.decode = .error fault) ∨ tx.messages = [])
    (hevent : event ∈ pair.events) (horigin : event.origin = some origin) :
    origin.tx.idx ≠ tx.idx := by
  intro hidx
  obtain ⟨horigintx, hmem⟩ := origin_mem_of_mem_events hevent horigin
  obtain rfl := transaction_ext horigintx htx hidx
  obtain ⟨hcode, -, hmessage, -⟩ := Transaction.mem_events.mp hmem
  rcases hsilent with hfailed | ⟨fault, hfault⟩ | hnone
  · exact hfailed hcode
  · rw [Transaction.messages_eq_nil_of_decode hfault] at hmessage
    cases hmessage
  · rw [hnone] at hmessage
    cases hmessage

end BlockPair

end ChainFeed
