import ChainFeed.Proofs.Block.Progress

/-!
# What callers of a lazy block are told

Callers may ask for the parts of a block, for envelopes and payloads, and whether filters accept its
messages and events, in any order and as often as they like. The answer to a call does not depend on
the calls before it. The decoder of a message runs once if some call needs the payload, and never
otherwise; only filters that judge the message by its payload need it, and callers who ask for it.

## Main definitions

- `MessageFilter.Consults`, `EventFilter.Consults`: filters that judge a message by its payload
- `LazyBlock.Call.answer`: what a call is told
- `LazyBlock.Call.Demands`: the messages whose payloads a call needs

## Main results

- `LazyBlock.perform_eq_answer`: the step
- `LazyBlock.performAll_eq_answer`: all calls, one after the other
- `LazyBlock.laziness`: calls are independent, and decoders run at most once and only on demand
-/

namespace ChainFeed

variable {pair : BlockPair} {registry : Registry} {message : Message}

/-! ### Filters -/

/-- Whether a filter judges a message by its payload: it is about messages of this type, lets the
transaction pass, and names values or, for executions of contracts, a call. -/
structure MessageFilter.Consults (filter : MessageFilter) (message : Message) : Prop where
  kind : message.typeUrl = filter.kind
  status : filter.includeFailedTx = some true ∨ message.tx.result.code = 0
  conditions : (∃ values, filter.values = some values ∧ values ≠ []) ∨
    filter.kind = TypeUrl.executeContract ∧ ∃ call, filter.contractCall = some call

/-- Whether a filter judges an event by the payload of a message: the event is of the filter's type,
the message emitted it, and there is a filter for the message that judges it by its payload. -/
structure EventFilter.Consults (filter : EventFilter) (event : BlockEvent) (message : Message) :
    Prop where
  kind : event.event.kind = filter.kind
  origin : event.origin.map Origin.message = some message
  condition : ∃ messageFilter, filter.messageFilter = some messageFilter ∧
    messageFilter.Consults message

theorem MessageFilter.consults_iff {filter : MessageFilter} :
    filter.Consults message ↔ filter.admits message = true ∧ filter.needsPayload = true := by
  have hadmits : filter.admits message = true ↔
      (filter.includeFailedTx = some true ∨ message.tx.result.code = 0) ∧
        message.typeUrl = filter.kind := by
    rcases hfailed : filter.includeFailedTx with _ | _ | _ <;>
      simp [admits, TxFilter.accepts, Transaction.isSuccess, TxResult.isSuccess, hfailed]
  have hneeds : filter.needsPayload = true ↔
      (∃ values, filter.values = some values ∧ values ≠ []) ∨
        filter.kind = TypeUrl.executeContract ∧ ∃ call, filter.contractCall = some call := by
    rcases hvalues : filter.values with _ | _ | _ <;>
      rcases hcall : filter.contractCall with _ | _ <;>
      simp [needsPayload, call?, hvalues, hcall, Option.isSome_filter]
  rw [hadmits, hneeds]
  constructor
  · intro h
    exact ⟨⟨h.status, h.kind⟩, h.conditions⟩
  · rintro ⟨⟨hstatus, hkind⟩, hconditions⟩
    exact ⟨hkind, hstatus, hconditions⟩

namespace BlockPair

variable {needed : Prop}

open Classical in
/-- The decoder of a message runs if its payload is needed, and if there is a decoder. -/
theorem runs_session :
    (pair.session registry message needed).runs =
      if needed ∧ registry.contains message.typeUrl = true then [message] else [] := by
  by_cases hneeded : needed
  · rw [session, if_pos hneeded]
    simp only [hneeded, true_and]
    rfl
  · rw [session, if_neg hneeded, if_neg fun h => hneeded h.1]
    rfl

/-- The verdict of a message filter does not depend on what the cell holds. The payload is needed if
the filter judges the message by it. -/
theorem acceptsMessage_session (filter : Option MessageFilter) :
    (pair.session registry message needed).acceptsMessage filter message =
      (((Session.ofPair pair registry).acceptsMessage filter message).1,
        pair.session registry message
          (needed ∨ ∃ f, filter = some f ∧ f.Consults message)) := by
  cases filter with
  | none => simp [Session.acceptsMessage]
  | some filter =>
    simp only [Session.acceptsMessage, Option.some.injEq, exists_eq_left',
      MessageFilter.consults_iff, payload_session, payload_ofPair]
    by_cases hadmits : filter.admits message = true
    · by_cases hneeds : filter.needsPayload = true
      · simp only [hadmits, hneeds, and_self, or_true]
        cases registry.decode message.typeUrl message.value <;> rfl
      · simp [hadmits, hneeds]
    · simp [hadmits]

/-- So it is with filters of events. -/
theorem acceptsEvent_session (filter : Option EventFilter) {event : BlockEvent}
    (h : event.origin.map Origin.message = some message) :
    (pair.session registry message needed).acceptsEvent filter event =
      (((Session.ofPair pair registry).acceptsEvent filter event).1,
        pair.session registry message
          (needed ∨ ∃ f, filter = some f ∧ f.Consults event message)) := by
  cases filter with
  | none => simp [Session.acceptsEvent]
  | some filter =>
    obtain ⟨origin, horigin, rfl⟩ := Option.map_eq_some_iff.mp h
    by_cases hkind : event.event.kind = filter.kind
    · cases hfilter : filter.messageFilter with
      | none =>
        have hnot : ¬ filter.Consults event origin.message := fun hconsults => by
          simpa [hfilter] using hconsults.condition
        simp [Session.acceptsEvent, hkind, hfilter, hnot]
      | some messageFilter =>
        have hconsults : filter.Consults event origin.message ↔
            messageFilter.Consults origin.message := by
          refine ⟨fun h => ?_, fun h => ⟨hkind, by rw [horigin]; rfl, messageFilter, hfilter, h⟩⟩
          obtain ⟨_, heq, h⟩ := h.condition
          rw [hfilter] at heq
          exact Option.some.inj heq ▸ h
        simp only [Session.acceptsEvent, hkind, hfilter, horigin, hconsults, Option.some.injEq,
          exists_eq_left', acceptsMessage_session (some messageFilter), bne_self_eq_false,
          Bool.false_eq_true, if_false]
        generalize (Session.ofPair pair registry).acceptsMessage (some messageFilter)
          origin.message = verdict
        obtain ⟨_ | _, _⟩ := verdict <;> rfl
    · have hnot : ¬ filter.Consults event origin.message := fun h => hkind h.kind
      simp [Session.acceptsEvent, hkind, hnot]

end BlockPair

namespace LazyBlock

/-! ### Messages in use -/

section Works

variable {α β γ : Type} {x : StateM LazyBlock α} {a : α} {f : α → StateM LazyBlock β} {b : β}
  {demanded demanded' : Message → Prop}

/-- Where there are objects of messages, the answer is `a`, and the payloads of `demanded` are
needed for it. -/
def Works (pair : BlockPair) (registry : Registry) (x : StateM LazyBlock α) (a : α)
    (demanded : Message → Prop) : Prop :=
  ∀ needed listed streamed,
    x.run ((Progress.built needed listed streamed).state pair registry) =
      (a, (Progress.built (fun message => needed message ∨ demanded message) listed
        streamed).state pair registry)

/-- From every progress on, the answer is `a`, and the payloads of `demanded` are needed for it. -/
def Answers (pair : BlockPair) (registry : Registry) (x : StateM LazyBlock α) (a : α)
    (demanded : Message → Prop) : Prop :=
  ∀ p : Progress, ∃ p' : Progress, x.run (p.state pair registry) = (a, p'.state pair registry) ∧
    ∀ message, p'.needed message ↔ p.needed message ∨ demanded message

theorem works_pure (a : α) : Works pair registry (pure a) a fun _ => False := by
  intro needed listed streamed
  simp only [or_false]
  rfl

theorem Works.congr (h : Works pair registry x a demanded)
    (hiff : ∀ message, demanded message ↔ demanded' message) :
    Works pair registry x a demanded' := by
  obtain rfl : demanded = demanded' := funext fun message => propext (hiff message)
  exact h

theorem Answers.congr (h : Answers pair registry x a demanded)
    (hiff : ∀ message, demanded message ↔ demanded' message) :
    Answers pair registry x a demanded' := by
  obtain rfl : demanded = demanded' := funext fun message => propext (hiff message)
  exact h

theorem Works.map (h : Works pair registry x a demanded) (g : α → β) :
    Works pair registry (do return g (← x)) (g a) demanded :=
  fun needed listed streamed => run_bind _ (h needed listed streamed)

/-- Work on an element that may be missing. -/
theorem works_mapM {use : γ → StateM LazyBlock α} {answer : γ → α} {demands : γ → Message → Prop}
    {element : Option γ}
    (h : ∀ c, element = some c → Works pair registry (use c) (answer c) (demands c)) :
    Works pair registry (element.mapM use) (element.map answer) fun message =>
      ∃ c, element = some c ∧ demands c message := by
  cases element with
  | none => exact (works_pure none).congr fun message => ⟨False.elim, fun ⟨_, h, _⟩ => nomatch h⟩
  | some c =>
    refine ((h c rfl).map some).congr fun message => ⟨fun h => ⟨c, rfl, h⟩, ?_⟩
    rintro ⟨_, heq, h⟩
    cases heq
    exact h

/-- A computation that has built objects of messages may work with them. -/
theorem Builds.bind_works (h : Builds pair registry x a)
    (hf : Works pair registry (f a) b demanded) : Answers pair registry (x >>= f) b demanded := by
  intro p
  obtain ⟨listed, streamed, hrun⟩ := h p
  exact ⟨_, (run_bind _ hrun).trans (hf _ _ _), fun _ => Iff.rfl⟩

theorem Builds.answers (h : Builds pair registry x a) (g : α → β) :
    Answers pair registry (do return g (← x)) (g a) fun _ => False :=
  h.bind_works (works_pure (g a))

end Works

/-- Work on the cell of a message. -/
theorem works_onMessage {α : Type} {use : Session → α × Session} {a : α} {need : Prop}
    {ref : MessageRef} (href : ref ∈ pair.messageRefs)
    (huse : ∀ needed, use (pair.session registry ref.message needed) =
      (a, pair.session registry ref.message (needed ∨ need))) :
    Works pair registry (onMessage ref use) a fun message => message = ref.message ∧ need := by
  intro needed listed streamed
  have hcell : (pair.sessions registry needed).getD ref.cell (.ofPair pair registry) =
      pair.session registry ref.message (needed ref.message) := by
    rw [List.getD_eq_getElem?_getD, BlockPair.sessions, List.getElem?_map,
      BlockPair.getElem?_messages_cell href]
    rfl
  have hrun : (onMessage ref use).run
        ((Progress.built needed listed streamed).state pair registry) =
      ((use ((pair.sessions registry needed).getD ref.cell (.ofPair pair registry))).1,
        ((Progress.built needed listed streamed).state pair registry).withCells
          (pair.envelopes fun _ => True) ((pair.sessions registry needed).set ref.cell
            (use ((pair.sessions registry needed).getD ref.cell (.ofPair pair registry))).2)) :=
    rfl
  rw [hrun, hcell, huse, BlockPair.set_sessions href]
  rfl

/-- The payload of a message is what the registry decodes. -/
theorem works_decodedMsg {ref : MessageRef} (href : ref ∈ pair.messageRefs) :
    Works pair registry (decodedMsg ref)
      (registry.decode ref.message.typeUrl ref.message.value) fun message =>
        message = ref.message ∧ True :=
  works_onMessage href fun needed => by rw [BlockPair.payload_session, or_true]

theorem works_filterMessage {filter : Option MessageFilter} {ref : MessageRef}
    (href : ref ∈ pair.messageRefs) :
    Works pair registry (filterMessage filter ref)
      ((Session.ofPair pair registry).acceptsMessage filter ref.message).1 fun message =>
        message = ref.message ∧ ∃ f, filter = some f ∧ f.Consults message := by
  refine (works_onMessage href fun needed => BlockPair.acceptsMessage_session filter).congr
    fun message => and_congr_right fun heq => ?_
  rw [heq]

theorem works_filterEvent (registry : Registry) (filter : Option EventFilter) {ref : EventRef}
    (href : ref ∈ pair.eventList.events) :
    Works pair registry (filterEvent filter ref)
      ((Session.ofPair pair registry).acceptsEvent filter ref.event).1 fun message =>
        ∃ f, filter = some f ∧ f.Consults ref.event message := by
  obtain ⟨hsame, hmem⟩ := BlockPair.message?_of_mem_eventList href
  rw [filterEvent]
  cases hmessage : ref.message? with
  | none =>
    rw [hmessage] at hsame
    -- an event without a message concerns none
    have hnone : ∀ message, ¬ ∃ f, filter = some f ∧ f.Consults ref.event message := by
      rintro message ⟨f, -, hconsults⟩
      exact nomatch hsame.trans hconsults.origin
    exact fun needed listed streamed =>
      (works_pure _).congr (fun message => (iff_false_intro (hnone message)).symm) _ _ _
  | some messageRef =>
    rw [hmessage] at hsame
    refine (works_onMessage (hmem messageRef hmessage) fun needed =>
      BlockPair.acceptsEvent_session filter hsame.symm).congr fun message => ?_
    constructor
    · rintro ⟨rfl, h⟩
      exact h
    · rintro ⟨f, hfilter, hconsults⟩
      have heq := hsame.trans hconsults.origin
      cases heq
      exact ⟨rfl, f, hfilter, hconsults⟩

/-! ### Calls -/

/-- The message at the end of a path. -/
def MessagePath.message? (pair : BlockPair) : MessagePath → Option Message
  | listed i => pair.messages[i]?
  | ofEvent i => (pair.events[i]?.bind BlockEvent.origin).map Origin.message

/-- The transaction at the end of a path. -/
def TxPath.tx? (pair : BlockPair) : TxPath → Option Transaction
  | listed i => pair.transactions[i]?
  | ofMessage path => (path.message? pair).map Message.tx

namespace Call

/-- What a call is told. -/
def answer (pair : BlockPair) (registry : Registry) : Call → Answer
  | block => .block pair.info
  | transactions => .transactions pair.transactions
  | messages => .messages pair.messages
  | events => .events pair.events
  | beginBlockEvents => .events pair.beginBlockEvents
  | transactionEvents => .events pair.transactionEvents
  | endBlockEvents => .events pair.endBlockEvents
  | decodedTx path => .envelope ((path.tx? pair).map Transaction.decode)
  | decodedMsg path =>
    .payload ((path.message? pair).map fun message =>
      registry.decode message.typeUrl message.value)
  | filterMessage filter path =>
    .verdict ((path.message? pair).map fun message =>
      ((Session.ofPair pair registry).acceptsMessage filter message).1)
  | filterEvent filter i =>
    .verdict (pair.events[i]?.map fun event =>
      ((Session.ofPair pair registry).acceptsEvent filter event).1)

/-- Whether a call needs the payload of a message: it asks for it, or has a filter judge the message
by it. -/
def Demands (pair : BlockPair) (message : Message) : Call → Prop
  | decodedMsg path => path.message? pair = some message
  | filterMessage filter path =>
    path.message? pair = some message ∧ ∃ f, filter = some f ∧ f.Consults message
  | filterEvent filter i =>
    ∃ event, pair.events[i]? = some event ∧ ∃ f, filter = some f ∧ f.Consults event message
  | block | transactions | messages | events | beginBlockEvents | transactionEvents
  | endBlockEvents | decodedTx _ => False

end Call

/-- The object at the end of a path to a message. -/
def MessagePath.ref? (pair : BlockPair) : MessagePath → Option MessageRef
  | listed i => pair.messageRefs[i]?
  | ofEvent i => pair.eventList.events[i]?.bind EventRef.message?

theorem getElem?_events (i : Nat) :
    pair.eventList.events[i]?.map EventRef.event = pair.events[i]? := by
  rw [← BlockPair.map_event_eventList, List.getElem?_map]

theorem map_message_ref? (path : MessagePath) :
    (path.ref? pair).map MessageRef.message = path.message? pair := by
  cases path with
  | listed i =>
    rw [MessagePath.ref?, MessagePath.message?, ← BlockPair.map_message_messageRefs,
      List.getElem?_map]
  | ofEvent i =>
    rw [MessagePath.ref?, MessagePath.message?, ← getElem?_events]
    cases hevent : pair.eventList.events[i]? with
    | none => rfl
    | some ref => exact (BlockPair.message?_of_mem_eventList (List.mem_of_getElem? hevent)).1

theorem mem_messageRefs_of_ref? {path : MessagePath} {ref : MessageRef}
    (h : path.ref? pair = some ref) : ref ∈ pair.messageRefs := by
  cases path with
  | listed i => exact List.mem_of_getElem? h
  | ofEvent i =>
    obtain ⟨event, hevent, hmessage⟩ := Option.bind_eq_some_iff.mp h
    exact (BlockPair.message?_of_mem_eventList (List.mem_of_getElem? hevent)).2 ref hmessage

theorem builds_events (pair : BlockPair) (registry : Registry) :
    Builds pair registry events pair.eventList.events :=
  (builds_eventList pair registry).map EventList.events

theorem builds_messageAt (registry : Registry) (path : MessagePath) :
    Builds pair registry (messageAt path) (path.ref? pair) := by
  cases path with
  | listed i => exact (builds_messages pair registry).map (·[i]?)
  | ofEvent i => exact (builds_events pair registry).map (·[i]?.bind EventRef.message?)

/-- A call that works on the message at the end of a path. -/
theorem Builds.answers_messageAt {α : Type} {use : MessageRef → StateM LazyBlock α}
    {answer : Message → α} {demands : Message → Prop} (path : MessagePath) (g : Option α → Answer)
    (h : ∀ ref ∈ pair.messageRefs, Works pair registry (use ref) (answer ref.message)
      fun message => message = ref.message ∧ demands message) :
    Answers pair registry
      (do
        let ref? ← messageAt path
        return g (← ref?.mapM use))
      (g ((path.message? pair).map answer))
      fun message => path.message? pair = some message ∧ demands message := by
  refine (builds_messageAt registry path).bind_works ?_
  have hwork := works_mapM fun ref href =>
    h ref (mem_messageRefs_of_ref? (show path.ref? pair = some ref from href))
  rw [← map_message_ref?, Option.map_map]
  refine (hwork.map g).congr fun message => ?_
  constructor
  · rintro ⟨ref, href, rfl, hdemands⟩
    exact ⟨by rw [href]; rfl, hdemands⟩
  · rintro ⟨hmessage, hdemands⟩
    obtain ⟨ref, href, rfl⟩ := Option.map_eq_some_iff.mp hmessage
    exact ⟨ref, href, rfl, hdemands⟩

/-- The object at the end of a path to a transaction. -/
def TxPath.ref? (pair : BlockPair) : TxPath → Option TxRef
  | listed i => pair.txRefs[i]?
  | ofMessage path => (path.ref? pair).map MessageRef.tx

theorem map_tx_ref? (path : TxPath) : (path.ref? pair).map TxRef.tx = path.tx? pair := by
  cases path with
  | listed i => rw [TxPath.ref?, TxPath.tx?, ← BlockPair.map_tx_txRefs, List.getElem?_map]
  | ofMessage path =>
    rw [TxPath.ref?, TxPath.tx?, ← map_message_ref?, Option.map_map, Option.map_map]
    rfl

theorem mem_txRefs_of_ref? {path : TxPath} {ref : TxRef} (h : path.ref? pair = some ref) :
    ref ∈ pair.txRefs := by
  cases path with
  | listed i => exact List.mem_of_getElem? h
  | ofMessage path =>
    obtain ⟨messageRef, hmessage, rfl⟩ := Option.map_eq_some_iff.mp h
    exact BlockPair.tx_mem_of_mem_messageRefs (mem_messageRefs_of_ref? hmessage)

theorem run_txAt (registry : Registry) (path : TxPath) (p : Progress) :
    ∃ p' : Progress, (txAt path).run (p.state pair registry) =
      (path.ref? pair, p'.state pair registry) ∧ p'.HasTxs ∧ p'.needed = p.needed := by
  cases path with
  | listed i =>
    obtain ⟨p', hrun, htxs, hneeded⟩ := run_transactions pair registry p
    exact ⟨p', run_bind _ hrun, htxs, hneeded⟩
  | ofMessage path =>
    obtain ⟨listed, streamed, hrun⟩ := builds_messageAt registry path p
    exact ⟨_, run_bind _ hrun, trivial, rfl⟩

/-- What needs no payloads. -/
theorem answers_of_needed_eq {α β : Type} {x : StateM LazyBlock α} {a : α} (g : α → β)
    (h : ∀ p : Progress, ∃ p' : Progress, x.run (p.state pair registry) =
      (a, p'.state pair registry) ∧ p'.needed = p.needed) :
    Answers pair registry (do return g (← x)) (g a) fun _ => False := by
  intro p
  obtain ⟨p', hrun, hneeded⟩ := h p
  exact ⟨p', run_bind _ hrun, fun message => by rw [hneeded, or_false]⟩

theorem answers_decodedTx (path : TxPath) :
    Answers pair registry (perform (.decodedTx path))
      (.envelope ((path.tx? pair).map Transaction.decode)) fun _ => False := by
  intro p
  obtain ⟨p₁, hpath, htxs, hneeded₁⟩ := run_txAt registry path p
  rw [perform, run_bind _ hpath, ← map_tx_ref?]
  cases href : path.ref? pair with
  | none => exact ⟨p₁, rfl, fun message => by rw [hneeded₁, or_false]⟩
  | some ref =>
    obtain ⟨p₂, hrun, hneeded₂⟩ :=
      run_decodedTx_of_hasTxs registry htxs (mem_txRefs_of_ref? href)
    have hmapM : ((some ref).mapM decodedTx).run (p₁.state pair registry) =
        (some ref.tx.decode, p₂.state pair registry) :=
      run_bind (fun result => pure (some result)) hrun
    refine ⟨p₂, run_bind _ hmapM, fun message => ?_⟩
    rw [hneeded₂, hneeded₁, or_false]

theorem answers_events {x : StateM LazyBlock (List EventRef)} {refs : List EventRef}
    {events : List BlockEvent} (h : Builds pair registry x refs)
    (hevents : refs.map EventRef.event = events) :
    Answers pair registry (do return Answer.events ((← x).map EventRef.event))
      (Answer.events events) fun _ => False := by
  rw [← hevents]
  exact h.answers fun refs => Answer.events (refs.map EventRef.event)

theorem answers_filterEvent (filter : Option EventFilter) (i : Nat) :
    Answers pair registry (perform (.filterEvent filter i))
      (.verdict (pair.events[i]?.map fun event =>
        ((Session.ofPair pair registry).acceptsEvent filter event).1))
      fun message => Call.Demands pair message (.filterEvent filter i) := by
  refine (builds_events pair registry).bind_works ?_
  have hwork := works_mapM fun ref (href : pair.eventList.events[i]? = some ref) =>
    works_filterEvent registry filter (List.mem_of_getElem? href)
  rw [← getElem?_events, Option.map_map]
  refine (hwork.map Answer.verdict).congr fun message => ?_
  rw [Call.Demands, ← getElem?_events]
  constructor
  · rintro ⟨ref, href, hconsults⟩
    exact ⟨ref.event, by rw [href]; rfl, hconsults⟩
  · rintro ⟨event, hevent, hconsults⟩
    obtain ⟨ref, href, rfl⟩ := Option.map_eq_some_iff.mp hevent
    exact ⟨ref, href, hconsults⟩

/-- Every call is told its answer, and has the payloads decoded that it demands. -/
theorem perform_eq_answer (pair : BlockPair) (registry : Registry) (call : Call) :
    Answers pair registry (perform call) (call.answer pair registry) fun message =>
      call.Demands pair message := by
  have hlist := builds_eventList pair registry
  cases call with
  | block => exact answers_of_needed_eq _ (run_block pair registry)
  | transactions =>
    have h := answers_of_needed_eq (fun refs => Answer.transactions (refs.map TxRef.tx))
      fun p => (run_transactions pair registry p).imp fun _ h => ⟨h.1, h.2.2⟩
    rw [BlockPair.map_tx_txRefs] at h
    exact h
  | messages =>
    have h := (builds_messages pair registry).answers fun refs =>
      Answer.messages (refs.map MessageRef.message)
    rw [BlockPair.map_message_messageRefs] at h
    exact h
  | events => exact answers_events (hlist.map _) pair.map_event_eventList
  | beginBlockEvents => exact answers_events (hlist.map _) pair.map_event_take_eventList
  | transactionEvents => exact answers_events (hlist.map _) pair.map_event_between_eventList
  | endBlockEvents => exact answers_events (hlist.map _) pair.map_event_drop_eventList
  | decodedTx path => exact answers_decodedTx path
  | decodedMsg path =>
    exact (Builds.answers_messageAt path .payload fun ref href => works_decodedMsg href).congr
      fun message => and_iff_left trivial
  | filterMessage filter path =>
    exact Builds.answers_messageAt path .verdict fun ref href => works_filterMessage href
  | filterEvent filter i => exact answers_filterEvent filter i

/-- So is a list of calls, one after the other. -/
theorem performAll_eq_answer (pair : BlockPair) (registry : Registry) (calls : List Call) :
    Answers pair registry (calls.mapM perform) (calls.map (Call.answer pair registry))
      fun message => ∃ call ∈ calls, call.Demands pair message := by
  induction calls with
  | nil => exact fun p => ⟨p, rfl, fun message => by simp⟩
  | cons call calls ih =>
    intro p
    obtain ⟨p₁, hfirst, hneeded₁⟩ := perform_eq_answer pair registry call p
    obtain ⟨p₂, hrest, hneeded₂⟩ := ih p₁
    refine ⟨p₂, ?_, fun message => ?_⟩
    · rw [List.mapM_cons, run_bind _ hfirst, run_bind _ hrest]
      rfl
    · simp only [hneeded₂, hneeded₁, or_assoc, List.mem_cons, or_and_right, exists_or,
        exists_eq_left]

/-! ### Decoders -/

theorem runs_built (needed : Message → Prop) (listed streamed : Bool) :
    ((Progress.built needed listed streamed).state pair registry).runs =
      pair.messages.flatMap fun message =>
        (pair.session registry message (needed message)).runs :=
  List.flatMap_map _ _ _

/-- Decoders ran for the registered messages whose payloads have been needed. -/
theorem mem_runs_state {p : Progress} :
    message ∈ (p.state pair registry).runs ↔
      message ∈ pair.messages ∧ registry.contains message.typeUrl = true ∧ p.needed message := by
  cases p with
  | blank known => exact iff_of_false List.not_mem_nil fun h => h.2.2
  | opened decoded => exact iff_of_false List.not_mem_nil fun h => h.2.2
  | built needed listed streamed =>
    rw [runs_built, List.mem_flatMap]
    simp only [BlockPair.runs_session]
    constructor
    · rintro ⟨other, hother, hrun⟩
      split at hrun
      · rename_i hneeded
        obtain rfl := List.mem_singleton.mp hrun
        exact ⟨hother, hneeded.2, hneeded.1⟩
      · exact nomatch hrun
    · rintro ⟨hmessage, hcontains, hneeded⟩
      refine ⟨message, hmessage, ?_⟩
      rw [if_pos ⟨hneeded, hcontains⟩]
      exact List.mem_singleton_self message

theorem flatMap_sublist {α : Type} {f : α → List α} (h : ∀ a, (f a).Sublist [a]) (xs : List α) :
    (xs.flatMap f).Sublist xs := by
  induction xs with
  | nil => exact .slnil
  | cons x xs ih =>
    rw [List.flatMap_cons]
    exact (h x).append ih

/-- The decoder of a message ran at most once. -/
theorem runs_state_sublist (p : Progress) : (p.state pair registry).runs.Sublist pair.messages := by
  cases p with
  | blank known => exact List.nil_sublist _
  | opened decoded => exact List.nil_sublist _
  | built needed listed streamed =>
    rw [runs_built]
    refine flatMap_sublist (fun message => ?_) _
    rw [BlockPair.runs_session]
    split
    · exact List.Sublist.refl _
    · exact List.nil_sublist _

/-- What holds of a block after calls that were told `answers`. -/
structure Laziness (pair : BlockPair) (registry : Registry) (calls : List Call)
    (answers : List Answer) (block : LazyBlock) : Prop where
  /-- Each call is told what it would have been told as the first one. -/
  independent : answers = calls.map fun call => ((perform call).run (new pair registry)).1
  /-- No decoder ran twice for one message. -/
  once : (block.runs.map Session.place).Nodup
  /-- Decoders ran for the registered messages whose payloads were demanded by a call. -/
  onDemand : ∀ message, message ∈ block.runs ↔
    message ∈ pair.messages ∧ registry.contains message.typeUrl = true ∧
      ∃ call ∈ calls, call.Demands pair message

/-- Calls are independent of each other, and decoders run at most once and only on demand. -/
theorem laziness (pair : BlockPair) (registry : Registry) (calls : List Call) :
    Laziness pair registry calls ((calls.mapM perform).run (new pair registry)).1
      ((calls.mapM perform).run (new pair registry)).2 := by
  obtain ⟨p, hrun, hneeded⟩ := performAll_eq_answer pair registry calls (.blank false)
  -- a new block is where the first call starts, and where each call would start alone
  have hstart : (Progress.blank false).state pair registry = new pair registry := rfl
  rw [hstart] at hrun
  rw [hrun]
  refine ⟨List.map_congr_left fun call _ => ?_,
    pair.nodup_place_messages.sublist ((runs_state_sublist p).map _), fun message => ?_⟩
  · obtain ⟨_, hfirst, -⟩ := perform_eq_answer pair registry call (.blank false)
    rw [hstart] at hfirst
    rw [hfirst]
  · have hdemanded : p.needed message ↔ ∃ call ∈ calls, call.Demands pair message :=
      (hneeded message).trans (or_iff_right id)
    rw [mem_runs_state, hdemanded]

end LazyBlock

end ChainFeed
