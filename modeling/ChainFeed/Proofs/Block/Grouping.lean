import ChainFeed.Proofs.Block.EventStream
import ChainFeed.Proofs.Except
import ChainFeed.Proofs.Json.Reading
import ChainFeed.Proofs.StableSort
import Mathlib.Data.List.Induction

/-!
# How the events of a transaction are grouped

The events of a transaction that name one of its messages come in the order of the messages, and
those of one message in the order in which they were emitted; nothing is lost or doubled on the way
through the groups. Putting an event into the group of its message is what a stable sort does with
one more element, so the groups one behind the other are the stable sort of all events. Where no
event names a message, the entries of the raw log take the place of the groups, in the same order.

## Main definitions

- `TextEvent.namedIndex?`: the message that an event names
- `Transaction.slice`: the events of a transaction in a stream
- `Transaction.Grouped`: what these events are

## Main results

- `Transaction.groupsOf_groupEvents`: the groups are the stable sort of the events
- `Transaction.grouped_logs`: so are the events of the groups of messages that exist
- `BlockPair.slice_events`: the stream has the events of a transaction, and no others of it
-/

namespace ChainFeed

/-- The message that the attribute of an event names. -/
def TextEvent.namedIndex? (event : TextEvent) : Option Nat :=
  ((event.attribute? Transaction.msgIndexKey).bind Integer.uint64?).map UInt64.toNat

/-- The message by which an event is sorted; events that name none are left out before. -/
def TextEvent.sortIndex (event : TextEvent) : Nat :=
  event.namedIndex?.getD 0

/-- An event names one of the first `count` messages. -/
def TextEvent.names (count : Nat) (event : TextEvent) : Bool :=
  event.namedIndex?.any (· < count)

theorem TextEvent.sortIndex_eq {event : TextEvent} {i : Nat} (h : event.namedIndex? = some i) :
    event.sortIndex = i := by
  rw [sortIndex, h, Option.getD_some]

namespace Transaction

variable {tx : Transaction} {logs : List MessageLog} {log : MessageLog} {event : TextEvent}
  {events : List TextEvent}

/-! ### Groups -/

/-- Groups of the events that name a message, each with the events of one message in their order. -/
structure GroupsOf (events : List TextEvent) (logs : List MessageLog) : Prop where
  increasing : logs.Pairwise fun a b => a.msgIndex < b.msgIndex
  named : ∀ log ∈ logs, ∀ event ∈ log.events, event.namedIndex? = some log.msgIndex.toNat
  stable : ∀ k, (logs.flatMap (·.events)).filter (·.sortIndex = k) =
    (events.filter (·.namedIndex?.isSome)).filter (·.sortIndex = k)

/-- An event may stand in front of events of later messages or behind them. -/
theorem filter_cons_of_later (k : Nat)
    (hlater : ∀ other ∈ events, event.sortIndex < other.sortIndex) :
    (event :: events).filter (·.sortIndex = k) =
      (events ++ [event]).filter (·.sortIndex = k) := by
  by_cases hk : event.sortIndex = k
  · have hnone : events.filter (·.sortIndex = k) = [] :=
      List.filter_eq_nil_iff.mpr fun other hother => by
        have := hlater other hother
        simp only [decide_eq_true_eq]
        omega
    rw [List.filter_cons, List.filter_append, hnone, List.filter_singleton]
    simp [hk]
  · rw [List.filter_cons_of_neg (by simpa using hk), List.filter_append,
      List.filter_cons_of_neg (by simpa using hk), List.filter_nil, List.append_nil]

theorem sortIndex_lt_of_later {msgIndex : UInt64} (hevent : event.namedIndex? = some msgIndex.toNat)
    (hnamed : ∀ log ∈ logs, ∀ event ∈ log.events, event.namedIndex? = some log.msgIndex.toNat)
    (hlater : ∀ log ∈ logs, msgIndex < log.msgIndex) :
    ∀ other ∈ logs.flatMap (·.events), event.sortIndex < other.sortIndex := by
  intro other hother
  obtain ⟨log, hlog, hmem⟩ := List.mem_flatMap.mp hother
  rw [TextEvent.sortIndex_eq hevent, TextEvent.sortIndex_eq (hnamed log hlog other hmem)]
  exact UInt64.lt_iff_toNat_lt.mp (hlater log hlog)

/-- An event is put behind all that are sorted before it or with it. -/
theorem filter_flatMap_insertEvent {msgIndex : UInt64}
    (hevent : event.namedIndex? = some msgIndex.toNat)
    (hincreasing : logs.Pairwise fun a b => a.msgIndex < b.msgIndex)
    (hnamed : ∀ log ∈ logs, ∀ event ∈ log.events, event.namedIndex? = some log.msgIndex.toNat)
    (k : Nat) :
    ((insertEvent msgIndex event logs).flatMap (·.events)).filter (·.sortIndex = k) =
      (logs.flatMap (·.events) ++ [event]).filter (·.sortIndex = k) := by
  induction logs with
  | nil => simp [insertEvent]
  | cons first rest ih =>
    obtain ⟨hfirst, hrest⟩ := List.pairwise_cons.mp hincreasing
    have hnamedRest := fun log hlog => hnamed log (List.mem_cons_of_mem first hlog)
    unfold insertEvent
    split
    -- the group of its message, a new group before it, or a group further on
    · rename_i heq
      have hlater := sortIndex_lt_of_later hevent hnamedRest fun log hlog => heq ▸ hfirst log hlog
      rw [List.flatMap_cons, List.flatMap_cons, List.append_assoc, List.append_assoc,
        List.singleton_append, List.filter_append, List.filter_append,
        filter_cons_of_later k hlater]
    · split
      · rename_i hlt
        have hlater := sortIndex_lt_of_later hevent hnamed fun log hlog => by
          rcases List.mem_cons.mp hlog with rfl | hlog
          · exact hlt
          · exact UInt64.lt_trans hlt (hfirst log hlog)
        rw [List.flatMap_cons, List.singleton_append, filter_cons_of_later k hlater]
      · rw [List.flatMap_cons, List.flatMap_cons, List.append_assoc, List.filter_append,
          List.filter_append, ih hrest hnamedRest]

theorem namedIndex?_of_mem_insertEvent {msgIndex : UInt64}
    (hevent : event.namedIndex? = some msgIndex.toNat)
    (hnamed : ∀ log ∈ logs, ∀ event ∈ log.events, event.namedIndex? = some log.msgIndex.toNat) :
    ∀ log ∈ insertEvent msgIndex event logs, ∀ event ∈ log.events,
      event.namedIndex? = some log.msgIndex.toNat := by
  induction logs with
  | nil =>
    intro log hlog other hother
    obtain rfl := List.mem_singleton.mp hlog
    obtain rfl := List.mem_singleton.mp hother
    exact hevent
  | cons first rest ih =>
    have hnamedRest := fun log hlog => hnamed log (List.mem_cons_of_mem first hlog)
    intro log hlog other hother
    unfold insertEvent at hlog
    split at hlog
    · rename_i heq
      rcases List.mem_cons.mp hlog with rfl | hlog
      · rcases List.mem_append.mp hother with hother | hother
        · exact hnamed first List.mem_cons_self other hother
        · obtain rfl := List.mem_singleton.mp hother
          rw [hevent, heq]
      · exact hnamedRest log hlog other hother
    · split at hlog
      · rcases List.mem_cons.mp hlog with rfl | hlog
        · obtain rfl := List.mem_singleton.mp hother
          exact hevent
        · exact hnamed log hlog other hother
      · rcases List.mem_cons.mp hlog with rfl | hlog
        · exact hnamed _ List.mem_cons_self other hother
        · exact ih hnamedRest log hlog other hother

/-- One more event that names a message is put into its group. -/
theorem GroupsOf.insertEvent (h : GroupsOf events logs) {msgIndex : UInt64}
    (hevent : event.namedIndex? = some msgIndex.toNat) :
    GroupsOf (events ++ [event]) (insertEvent msgIndex event logs) where
  increasing := pairwise_insertEvent msgIndex event h.increasing
  named := namedIndex?_of_mem_insertEvent hevent h.named
  stable k := by
    rw [filter_flatMap_insertEvent hevent h.increasing h.named, List.filter_append, h.stable k,
      List.filter_append, List.filter_append]
    simp [hevent]

theorem GroupsOf.append_of_unnamed (h : GroupsOf events logs) (hevent : event.namedIndex? = none) :
    GroupsOf (events ++ [event]) logs where
  increasing := h.increasing
  named := h.named
  stable k := by
    rw [h.stable k, List.filter_append, List.filter_cons_of_neg (by simp [hevent]),
      List.filter_nil, List.append_nil]

/-- The groups are those of all events. -/
theorem groupsOf_groupEvents (events : List TextEvent) : GroupsOf events (groupEvents events) := by
  -- the events are put into their groups one by one, the last one last
  induction events using List.reverseRecOn with
  | nil => exact ⟨.nil, fun log hlog => absurd hlog List.not_mem_nil, fun k => rfl⟩
  | append_singleton events event ih =>
    rw [groupEvents, List.foldl_append, List.foldl_cons, List.foldl_nil]
    split
    · rename_i msgIndex hindex
      exact ih.insertEvent (by rw [TextEvent.namedIndex?, hindex, Option.map_some])
    · rename_i hindex
      exact ih.append_of_unnamed (by rw [TextEvent.namedIndex?, hindex, Option.map_none])

/-- The groups one behind the other are the stable sort of the events that name a message. -/
theorem GroupsOf.stableSort (h : GroupsOf events logs) :
    StableSort TextEvent.sortIndex (events.filter (·.namedIndex?.isSome))
      (logs.flatMap (·.events)) where
  sorted := by
    refine List.pairwise_flatMap.mpr ⟨fun log hlog => ?_, h.increasing.imp_of_mem ?_⟩
    · refine List.pairwise_of_forall_mem_list fun a ha b hb => ?_
      have hab := (h.named log hlog a ha).trans (h.named log hlog b hb).symm
      exact Nat.le_of_eq (congrArg (Option.getD · 0) hab)
    · intro log log' hlog hlog' hlt a ha b hb
      rw [TextEvent.sortIndex_eq (h.named log hlog a ha),
        TextEvent.sortIndex_eq (h.named log' hlog' b hb)]
      exact Nat.le_of_lt (UInt64.lt_iff_toNat_lt.mp hlt)
  stable := h.stable

/-- Groups of messages that exist hold the events that name one of them. -/
theorem GroupsOf.flatMap_filter (h : GroupsOf events logs) (count : Nat) :
    (logs.filter (·.msgIndex.toNat < count)).flatMap (·.events) =
      (logs.flatMap (·.events)).filter (TextEvent.names count) := by
  have hnamed := h.named
  clear h
  induction logs with
  | nil => rfl
  | cons log logs ih =>
    rw [List.flatMap_cons, List.filter_append,
      ← ih fun log hlog => hnamed log (List.mem_cons_of_mem _ hlog)]
    have hnames (event : TextEvent) (hevent : event ∈ log.events) :
        TextEvent.names count event = decide (log.msgIndex.toNat < count) := by
      rw [TextEvent.names, hnamed log List.mem_cons_self event hevent, Option.any_some]
    rw [List.filter_congr hnames]
    by_cases hlt : log.msgIndex.toNat < count
    · rw [List.filter_cons_of_pos (by simpa using hlt), List.flatMap_cons]
      simp [hlt]
    · rw [List.filter_cons_of_neg (by simpa using hlt)]
      simp [hlt]

/-- The groups of messages that exist are the stable sort of the events that name one of them. -/
theorem stableSort_groupEvents (count : Nat) (events : List TextEvent) :
    StableSort TextEvent.sortIndex (events.filter (TextEvent.names count))
      (((groupEvents events).filter (·.msgIndex.toNat < count)).flatMap (·.events)) := by
  have hgroups := groupsOf_groupEvents events
  have hfilter : (events.filter (·.namedIndex?.isSome)).filter (TextEvent.names count) =
      events.filter (TextEvent.names count) := by
    rw [List.filter_filter]
    refine List.filter_congr fun event _ => ?_
    rw [TextEvent.names]
    cases event.namedIndex? with
    | none => rfl
    | some i => exact Bool.and_true _
  rw [hgroups.flatMap_filter, ← hfilter]
  exact hgroups.stableSort.filter _

/-! ### The raw log -/

/-- An entry does not say of which message it is: no member is named so, or it is an array that ends
before. -/
inductive OmitsIndex : Document → Prop
  | object {members : List (Option String × Document)} {closed : Bool}
    (h : ∀ member ∈ members, member.1 ≠ some "msg_index") : OmitsIndex (.object members closed)
  | array {closed : Bool} : OmitsIndex (.array [] closed)

/-- Such an entry is one of the first message. -/
theorem OmitsIndex.msgIndex_eq_zero {tree : Document} {depth : Nat} (h : OmitsIndex tree)
    (hread : MessageLog.reader depth tree = .ok log) : log.msgIndex = 0 := by
  cases depth with
  | zero => cases h <;> cases hread
  | succ depth =>
    cases h with
    | object hmembers =>
      obtain ⟨msgIndex, events, hindex, -, rfl⟩ :=
        Fields.exists_of_ofMembers_pair (Reader.ofMembers_eq_ok_of_record hread)
      exact Fields.eq_of_withDefault_of_forall hmembers hindex
    | @array closed =>
      -- an array may end before its first field
      cases closed <;> cases hread
      rfl

/-- The reader of the entries of a raw log. -/
def logReader : Reader (List MessageLog) :=
  .list MessageLog.reader

theorem parseLog_of_ok {text : String} {entries : List MessageLog}
    (h : logReader.ofText (Utf8.encode text) = .ok entries) :
    parseLog text = entries.mergeSort fun a b => a.msgIndex.toNat ≤ b.msgIndex.toNat := by
  rw [logReader] at h
  rw [parseLog, h]
  simp only [UInt64.le_iff_toNat_le]

theorem parseLog_of_not_ok {text : String}
    (h : ∀ entries, logReader.ofText (Utf8.encode text) ≠ .ok entries) : parseLog text = [] := by
  rw [logReader] at h
  rw [parseLog]
  split
  · rename_i entries hread
    exact absurd hread (h entries)
  · rfl

theorem logReader_empty (entries : List MessageLog) :
    logReader.ofText (Utf8.encode "") ≠ .ok entries := nofun

/-! ### The events of a transaction -/

/-- The events of a transaction in the stream of its block, if it has `count` messages. -/
structure Grouped (tx : Transaction) (count : Nat) (slice : List TextEvent) : Prop where
  /-- Once an event has an index attribute, the events that name one of the messages are sorted by
  it, stably. -/
  attributed : (∃ event ∈ tx.textEvents, event.attribute? msgIndexKey ≠ none) →
    slice = (tx.textEvents.filter (TextEvent.names count)).mergeSort
      fun a b => a.sortIndex ≤ b.sortIndex
  /-- None of them is lost or doubled, and there are no others. -/
  conserved : (∃ event ∈ tx.textEvents, event.attribute? msgIndexKey ≠ none) →
    slice.Perm (tx.textEvents.filter (TextEvent.names count))
  /-- The events of one message stand in the order in which they were emitted. -/
  emission : (∃ event ∈ tx.textEvents, event.attribute? msgIndexKey ≠ none) → ∀ i < count,
    slice.filter (·.namedIndex? = some i) = tx.textEvents.filter (·.namedIndex? = some i)
  /-- What the raw log says does not matter then. -/
  unread : (∃ event ∈ tx.textEvents, event.attribute? msgIndexKey ≠ none) → ∀ log,
    ({ tx with result := { tx.result with log } } : Transaction).logs = tx.logs
  /-- If no event has an index attribute, the raw log lists the events of the messages. -/
  logged : (∀ event ∈ tx.textEvents, event.attribute? msgIndexKey = none) →
    ∀ entries, logReader.ofText (Utf8.encode tx.result.log) = .ok entries →
      slice = ((entries.filter (·.msgIndex.toNat < count)).mergeSort
        fun a b => a.msgIndex.toNat ≤ b.msgIndex.toNat).flatMap (·.events)
  /-- The entries of the raw log are the items of a JSON array; one without an index is of the first
  message. -/
  entries : ∀ entries, logReader.ofText (Utf8.encode tx.result.log) = .ok entries →
    ∃ trees, (Document.scan (Utf8.encode tx.result.log)).1 = .array trees true ∧
      List.Forall₂ (fun tree entry => MessageLog.reader (Reader.maxDepth - 1) tree = .ok entry ∧
        (OmitsIndex tree → entry.msgIndex = 0)) trees entries
  /-- A raw log that is empty or not such an array lists no events. -/
  unlogged : (∀ event ∈ tx.textEvents, event.attribute? msgIndexKey = none) →
    (tx.result.log = "" ∨ ∀ entries, logReader.ofText (Utf8.encode tx.result.log) ≠ .ok entries) →
      slice = []

theorem length_messages {envelope : Tx} (h : tx.decode = .ok envelope) :
    tx.messages.length = envelope.messages.length := by
  rw [messages, h, messagesOf, List.length_map, List.length_zipIdx]

theorem map_snd_flatMap_logEvents (messages : List Message) (logs : List MessageLog) :
    (logs.flatMap (logEvents messages)).map (·.2) =
      (logs.filter (·.msgIndex.toNat < messages.length)).flatMap (·.events) := by
  induction logs with
  | nil => rfl
  | cons log logs ih =>
    rw [List.flatMap_cons, List.map_append, ih, logEvents]
    by_cases hlt : log.msgIndex.toNat < messages.length
    · rw [List.filter_cons_of_pos (by simpa using hlt), List.flatMap_cons,
        List.getElem?_eq_getElem hlt]
      simp
    · rw [List.filter_cons_of_neg (by simpa using hlt),
        List.getElem?_eq_none (Nat.le_of_not_lt hlt)]
      rfl

/-- A successful transaction with messages has the events of their groups. -/
theorem map_snd_events (hcode : tx.result.code = 0) (hmessages : 0 < tx.messages.length) :
    tx.events.map (·.2) =
      (tx.logs.filter (·.msgIndex.toNat < tx.messages.length)).flatMap (·.events) := by
  have hcond : (tx.isSuccess && !tx.messages.isEmpty) = true := by
    have hne : tx.messages ≠ [] := List.length_pos_iff.mp hmessages
    simp [isSuccess, TxResult.isSuccess, hcode, hne]
  rw [events, eventsOf, if_pos hcond, map_snd_flatMap_logEvents]

theorem logs_of_attributed (h : ∃ event ∈ tx.textEvents, event.attribute? msgIndexKey ≠ none) :
    tx.logs = groupEvents tx.textEvents := by
  obtain ⟨event, hevent, hattribute⟩ := h
  exact if_pos (List.any_eq_true.mpr ⟨event, hevent, Option.isSome_iff_ne_none.mpr hattribute⟩)

theorem logs_of_unattributed (h : ∀ event ∈ tx.textEvents, event.attribute? msgIndexKey = none) :
    tx.logs = parseLog tx.result.log := by
  refine if_neg fun hany => ?_
  obtain ⟨event, hevent, hattribute⟩ := List.any_eq_true.mp hany
  exact Option.isSome_iff_ne_none.mp hattribute (h event hevent)

/-- The events of the groups of messages that exist. -/
theorem grouped_logs (tx : Transaction) (count : Nat) :
    tx.Grouped count ((tx.logs.filter (·.msgIndex.toNat < count)).flatMap (·.events)) where
  attributed h := by
    rw [logs_of_attributed h]
    exact (stableSort_groupEvents count _).eq_mergeSort
  conserved h := by
    rw [logs_of_attributed h, (stableSort_groupEvents count _).eq_mergeSort]
    exact List.mergeSort_perm _ _
  emission h i hi := by
    have hsorted : ∀ event : TextEvent, decide (event.namedIndex? = some i) = true →
        event.sortIndex = i := fun event hevent => TextEvent.sortIndex_eq (of_decide_eq_true hevent)
    rw [logs_of_attributed h, (stableSort_groupEvents count _).filter_eq hsorted,
      List.filter_filter]
    refine List.filter_congr fun event _ => ?_
    by_cases hevent : event.namedIndex? = some i
    · simp [TextEvent.names, hevent, hi]
    · simp [hevent]
  unread h log := by
    rw [logs_of_attributed h]
    exact logs_of_attributed h
  logged h entries hread := by
    have hsorted := stableSort_mergeSort (fun log : MessageLog => log.msgIndex.toNat) entries
    rw [logs_of_unattributed h, parseLog_of_ok hread, (hsorted.filter _).eq_mergeSort]
  entries entries hread := by
    obtain ⟨trees, htrees, hentries⟩ :=
      Reader.exists_array_of_list (Reader.of_ofText_eq_ok hread)
    exact ⟨trees, htrees, hentries.imp fun tree entry hentry =>
      ⟨hentry, fun homits => homits.msgIndex_eq_zero hentry⟩⟩
  unlogged h hlog := by
    have hnone : ∀ entries, logReader.ofText (Utf8.encode tx.result.log) ≠ .ok entries := by
      rcases hlog with hempty | hnone
      · rw [hempty]
        exact logReader_empty
      · exact hnone
    rw [logs_of_unattributed h, parseLog_of_not_ok hnone]
    rfl

end Transaction

/-! ### The stream of a block -/

/-- The events of a transaction in a stream. -/
def Transaction.slice (tx : Transaction) (events : List BlockEvent) : List TextEvent :=
  (events.filter fun event => event.origin.map Origin.tx = some tx).map (·.event)

namespace BlockPair

variable {pair : BlockPair} {tx : Transaction}

theorem filter_outerEvents (tx : Transaction) (reported : Option (List Event)) :
    (outerEvents reported).filter (fun event => event.1.map Origin.tx = some tx) = [] := by
  refine List.filter_eq_nil_iff.mpr fun event hevent => ?_
  obtain ⟨_, -, rfl⟩ := List.mem_map.mp hevent
  exact of_decide_eq_false rfl

/-- Of the events of the transactions of a block, those of one of them are its own. -/
theorem filter_txEvents (htx : tx ∈ pair.transactions) :
    pair.txEvents.filter (fun event => event.1.map Origin.tx = some tx) =
      tx.events.map fun event => (some event.1, event.2) := by
  have hnone : ∀ others : List Transaction, (∀ other ∈ others, other ≠ tx) →
      (others.flatMap Transaction.events).filter (fun event => event.1.tx = tx) = [] := by
    intro others hne
    refine List.filter_eq_nil_iff.mpr fun event hevent => ?_
    obtain ⟨other, hother, hmem⟩ := List.mem_flatMap.mp hevent
    rw [Transaction.tx_of_mem_events hmem]
    simpa using hne other hother
  -- the transactions before and behind it are others
  obtain ⟨front, back, hsplit⟩ := List.append_of_mem htx
  have hidx := pair.pairwise_idx_transactions
  rw [hsplit] at hidx
  obtain ⟨-, hback, hfront⟩ := List.pairwise_append.mp hidx
  have hfront : ∀ other ∈ front, other ≠ tx := fun other hother heq =>
    absurd (hfront other hother tx List.mem_cons_self) (by simp [heq])
  have hback : ∀ other ∈ back, other ≠ tx := fun other hother heq =>
    absurd ((List.pairwise_cons.mp hback).1 other hother) (by simp [heq])
  have hself : tx.events.filter (fun event => event.1.tx = tx) = tx.events :=
    List.filter_eq_self.mpr fun event hevent => decide_eq_true (Transaction.tx_of_mem_events hevent)
  rw [txEvents, List.filter_map, hsplit, List.flatMap_append, List.flatMap_cons]
  simp only [Function.comp_def, Option.map_some, Option.some.injEq]
  rw [List.filter_append, List.filter_append, hnone front hfront, hnone back hback, hself,
    List.nil_append, List.append_nil]

/-- The stream has the events of a transaction, and no others of it. -/
theorem slice_events (htx : tx ∈ pair.transactions) :
    tx.slice pair.events = tx.events.map (·.2) := by
  have hpairs : (pair.events.map fun event => (event.origin, event.event)).filter
      (fun event => event.1.map Origin.tx = some tx) =
        tx.events.map fun event => (some event.1, event.2) := by
    rw [events, map_number, List.filter_append, List.filter_append, filter_outerEvents,
      filter_outerEvents, filter_txEvents htx, List.nil_append, List.append_nil]
  have hmap := congrArg (List.map (·.2)) hpairs
  rw [List.filter_map, List.map_map, List.map_map] at hmap
  exact hmap

end BlockPair

end ChainFeed
