import ChainFeed.Proofs.Block.Coherence
import ChainFeed.Proofs.Dictionary.Entries
import ChainFeed.Proofs.Json.Containment

/-!
# What dictionary entries select

A dictionary stores a message with its type and payload, and an event with its own type and the type
and payload of the message that emitted it. An entry selects the elements of its entity of which all
its conditions hold.

A filter accepts more than its entry selects: its paths lead through arrays, it compares numbers
with texts, and it knows calls without arguments. So an accepted element is selected if the payload
has what the filter asks for in plain form, and may be hidden otherwise.

## Main definitions

- `Element`: what the dictionary stores of a message or an event
- `QueryEntry.selects`: which elements an entry selects
- `MessageFilter.Visible`: the payloads in which the dictionary finds what a filter asks for
- `MessageFilter.Plain`: the form that makes an accepted payload visible

## Main results

- `MessageFilter.visible_iff_plain`: the visible payloads among the accepted ones
- `QueryEntry.coverage`: which elements the entries of a list of handlers select
- `QueryEntry.hides_call`: an accepted message that no entry selects
-/

namespace ChainFeed

/-- What the dictionary stores of an element. -/
structure Element where
  entity : String
  field? : String → Option Json

/-- The payload of a message, if it can be decoded. -/
def Message.payload? (registry : Registry) (message : Message) : Option Json :=
  (registry.decode message.typeUrl message.value).toOption

/-- A message is stored with its type and payload. -/
def Message.element (registry : Registry) (message : Message) : Element where
  entity := "messages"
  field? name :=
    if name = "type" then some (.string message.typeUrl)
    else if name = "data" then message.payload? registry
    else none

/-- An event is stored with its type, and with the type and payload of its message. -/
def BlockEvent.element (registry : Registry) (event : BlockEvent) : Element where
  entity := "events"
  field? name :=
    if name = "type" then some (.string event.event.kind)
    else if name = "msgType" then event.origin.map fun origin => .string origin.message.typeUrl
    else if name = "data" then event.origin.bind fun origin => origin.message.payload? registry
    else none

theorem BlockEvent.field?_msgType {registry : Registry} {origin : Origin} (event : BlockEvent)
    (h : event.origin = some origin) :
    (event.element registry).field? "msgType" = some (.string origin.message.typeUrl) := by
  show event.origin.map _ = _
  rw [h]
  rfl

theorem BlockEvent.field?_data {registry : Registry} {origin : Origin} (event : BlockEvent)
    (h : event.origin = some origin) :
    (event.element registry).field? "data" = origin.message.payload? registry := by
  show event.origin.bind _ = _
  rw [h]
  rfl

/-- Whether a stored value is as a condition asks. -/
def Matcher.holds : Matcher → (stored value : Json) → Bool
  | .equalTo, stored, value => stored.same value
  | .contains, stored, value => value.isContained stored

/-- Whether a condition holds of an element. -/
def QueryCondition.holds (condition : QueryCondition) (element : Element) : Bool :=
  (element.field? condition.field).any fun stored => condition.matcher.holds stored condition.value

/-- Whether an entry selects an element. -/
def QueryEntry.selects (entry : QueryEntry) (element : Element) : Bool :=
  entry.entity = element.entity && entry.conditions.all fun condition => condition.holds element

/-- A payload in which the dictionary finds what a filter asks for: paths lead through objects only
to values that contain those of the filter, and a call has an object of arguments. -/
structure MessageFilter.Visible (filter : MessageFilter) (payload? : Option Json) : Prop where
  values : ∀ entry ∈ filter.values.getD [], ∃ payload found, payload? = some payload ∧
    payload.followMembers? (Json.segments entry.1) = some found ∧ entry.2.isContained found = true
  call : ∀ call, filter.call? = some call → ∃ payload arguments, payload? = some payload ∧
    payload.followMembers? ["msg", call] = some (.object arguments)

/-- An event whose message, if the filter asks for one, the dictionary finds. -/
def EventFilter.Visible (filter : EventFilter) (registry : Registry) (event : BlockEvent) : Prop :=
  ∀ messageFilter, filter.messageFilter = some messageFilter → ∃ origin,
    event.origin = some origin ∧ origin.message.typeUrl = messageFilter.kind ∧
    messageFilter.Visible (origin.message.payload? registry)

/-- A payload that has what it has for a filter in plain form: values that paths do not lead to
through arrays, and that contain those of the filter as they are, and calls with an object of
arguments. -/
structure MessageFilter.Plain (filter : MessageFilter) (payload? : Option Json) : Prop where
  values : ∀ entry ∈ filter.values.getD [], ∀ payload found, payload? = some payload →
    payload.atPath? entry.1 = some found →
      payload.followMembers? (Json.segments entry.1) = some found ∧
        entry.2.isContained found = true
  call : ∀ call, filter.call? = some call → ∀ payload message, payload? = some payload →
    payload.member? "msg" = some message →
      ∃ arguments, message.member? call = some (.object arguments)

/-- An event whose message, if the filter asks for one, is in plain form. -/
def EventFilter.Plain (filter : EventFilter) (registry : Registry) (event : BlockEvent) : Prop :=
  ∀ messageFilter origin, filter.messageFilter = some messageFilter → event.origin = some origin →
    messageFilter.Plain (origin.message.payload? registry)

namespace MessageFilter

variable {filter : MessageFilter} {payload? : Option Json}

theorem Visible.plain (h : filter.Visible payload?) : filter.Plain payload? where
  values entry hentry payload found hpayload hfound := by
    obtain ⟨_, found', hpayload', hwalk, hcontained⟩ := h.values entry hentry
    rw [hpayload] at hpayload'
    cases hpayload'
    -- the path leads where the walk through objects does
    rw [Json.atPath?, Json.follow?_of_followMembers? hwalk] at hfound
    cases hfound
    exact ⟨hwalk, hcontained⟩
  call call hcall payload message hpayload hmessage := by
    obtain ⟨_, arguments, hpayload', hwalk⟩ := h.call call hcall
    rw [hpayload] at hpayload'
    cases hpayload'
    rw [Json.followMembers?, hmessage, Option.bind_some, Json.followMembers?] at hwalk
    obtain ⟨_, hmember, heq⟩ := Option.bind_eq_some_iff.mp hwalk
    cases heq
    exact ⟨arguments, hmember⟩

/-- What a filter accepts has all that it asks for, so plain form makes it visible. -/
theorem Plain.visible (h : filter.Plain payload?)
    (haccepts : filter.needsPayload = true →
      ∃ payload, payload? = some payload ∧ filter.acceptsPayload payload = true) :
    filter.Visible payload? where
  values entry hentry := by
    have hneeds : filter.needsPayload = true := by
      rw [needsPayload, Bool.or_eq_true]
      exact .inl (by simpa using List.ne_nil_of_mem hentry)
    obtain ⟨payload, hpayload, hall⟩ := haccepts hneeds
    have hvalue : hasValue payload entry.1 entry.2 = true :=
      List.all_eq_true.mp (Bool.and_eq_true_iff.mp hall).1 entry hentry
    unfold hasValue at hvalue
    split at hvalue
    · rename_i found hfound
      exact ⟨payload, found, hpayload, h.values entry hentry payload found hpayload hfound⟩
    · exact nomatch hvalue
  call call hcall := by
    have hneeds : filter.needsPayload = true := by
      rw [needsPayload, Bool.or_eq_true, hcall]
      exact .inr rfl
    obtain ⟨payload, hpayload, hall⟩ := haccepts hneeds
    have hiscall : isCall payload call = true := by
      have hany := (Bool.and_eq_true_iff.mp hall).2
      rwa [hcall] at hany
    obtain ⟨message, hmessage⟩ : ∃ message, payload.member? "msg" = some message := by
      unfold isCall at hiscall
      split at hiscall
      · split at hiscall
        · rename_i heq
          exact ⟨_, heq⟩
        · rename_i heq
          exact ⟨_, heq⟩
        · exact nomatch hiscall
      · exact nomatch hiscall
    obtain ⟨arguments, hmember⟩ := h.call call hcall payload message hpayload hmessage
    refine ⟨payload, arguments, hpayload, ?_⟩
    rw [Json.followMembers?, hmessage, Option.bind_some, Json.followMembers?, hmember]
    rfl

/-- Of what a filter accepts, the dictionary finds what is in plain form. -/
theorem visible_iff_plain
    (haccepts : filter.needsPayload = true →
      ∃ payload, payload? = some payload ∧ filter.acceptsPayload payload = true) :
    filter.Visible payload? ↔ filter.Plain payload? :=
  ⟨Visible.plain, fun h => h.visible haccepts⟩

end MessageFilter

/-! ### Conditions -/

theorem QueryCondition.holds_contains_iff {element : Element} {field : String} {part : Json} :
    (QueryCondition.mk field part .contains).holds element = true ↔
      ∃ stored, element.field? field = some stored ∧ part.isContained stored = true := by
  rw [holds, Option.any_eq_true]
  rfl

theorem QueryCondition.holds_equalTo_iff {element : Element} {field : String} {value : Json} :
    (QueryCondition.mk field value .equalTo).holds element = true ↔
      ∃ stored, element.field? field = some stored ∧ stored.same value = true := by
  rw [holds, Option.any_eq_true]
  rfl

namespace QueryEntry

variable {filter : MessageFilter} {element : Element} {typeField : String}
  {handlers : List Handler} {registry : Registry}

/-- The condition for a call asks for an object of arguments. -/
theorem holds_call_iff {call : String} :
    (QueryCondition.mk "data" (.object [("msg", .object [(call, .object [])])]) .contains).holds
        element = true ↔
      ∃ payload arguments, element.field? "data" = some payload ∧
        payload.followMembers? ["msg", call] = some (.object arguments) := by
  have hnest (payload : Json) :
      (Json.object [("msg", .object [(call, .object [])])]).isContained payload = true ↔
        ∃ arguments, payload.followMembers? ["msg", call] = some (.object arguments) := by
    rw [show Json.object [("msg", .object [(call, .object [])])] =
        Json.nestSegments (.object []) ["msg", call] from rfl,
      Json.isContained_nestSegments, Option.any_eq_true]
    constructor
    · rintro ⟨found, hfound, hempty⟩
      obtain ⟨arguments, rfl⟩ := Json.isContained_empty_iff.mp hempty
      exact ⟨arguments, hfound⟩
    · rintro ⟨arguments, hfound⟩
      exact ⟨_, hfound, Json.isContained_empty_iff.mpr ⟨arguments, rfl⟩⟩
  rw [QueryCondition.holds_contains_iff]
  constructor
  · rintro ⟨payload, hpayload, hcontained⟩
    obtain ⟨arguments, hfound⟩ := (hnest payload).mp hcontained
    exact ⟨payload, arguments, hpayload, hfound⟩
  · rintro ⟨payload, arguments, hpayload, hfound⟩
    exact ⟨payload, hpayload, (hnest payload).mpr ⟨arguments, hfound⟩⟩

/-- The condition for a value asks for a walk through objects. -/
theorem holds_nest_iff {path : String} {value : Json} :
    (QueryCondition.mk "data" (Json.nest path value) .contains).holds element = true ↔
      ∃ payload found, element.field? "data" = some payload ∧
        payload.followMembers? (Json.segments path) = some found ∧
        value.isContained found = true := by
  rw [QueryCondition.holds_contains_iff]
  constructor
  · rintro ⟨payload, hpayload, hcontained⟩
    obtain ⟨found, hfound, hvalue⟩ := Json.isContained_nest_iff.mp hcontained
    exact ⟨payload, found, hpayload, hfound, hvalue⟩
  · rintro ⟨payload, found, hpayload, hfound, hvalue⟩
    exact ⟨payload, hpayload, Json.isContained_nest_iff.mpr ⟨found, hfound, hvalue⟩⟩

/-- The conditions of a filter hold of the elements of its type in whose payload the dictionary
finds what the filter asks for. -/
theorem messageConditions_hold_iff :
    (∀ condition ∈ messageConditions typeField filter, condition.holds element = true) ↔
      (∃ stored, element.field? typeField = some stored ∧
        stored.same (.string filter.kind) = true) ∧
      filter.Visible (element.field? "data") := by
  have hvalues : (∀ condition ∈ (filter.values.getD []).map fun entry =>
        QueryCondition.mk "data" (Json.nest entry.1 entry.2) .contains,
          condition.holds element = true) ↔
      ∀ entry ∈ filter.values.getD [], ∃ payload found, element.field? "data" = some payload ∧
        payload.followMembers? (Json.segments entry.1) = some found ∧
        entry.2.isContained found = true := by
    rw [List.forall_mem_map]
    exact forall₂_congr fun _ _ => holds_nest_iff
  have hcall : (∀ condition ∈ filter.call?.toList.map fun call => QueryCondition.mk "data"
        (.object [("msg", .object [(call, .object [])])]) .contains,
          condition.holds element = true) ↔
      ∀ call, filter.call? = some call → ∃ payload arguments,
        element.field? "data" = some payload ∧
        payload.followMembers? ["msg", call] = some (.object arguments) := by
    rw [List.forall_mem_map]
    simp only [Option.mem_toList]
    exact forall₂_congr fun _ _ => holds_call_iff
  unfold messageConditions
  rw [List.forall_mem_append, List.forall_mem_cons, QueryCondition.holds_equalTo_iff, and_assoc]
  constructor
  · rintro ⟨htype, hentries, hcalls⟩
    exact ⟨htype, hvalues.mp hentries, hcall.mp hcalls⟩
  · rintro ⟨htype, hvisible⟩
    exact ⟨htype, hvalues.mpr hvisible.values, hcall.mpr hvisible.call⟩

theorem same_string_iff {s t : String} : (Json.string s).same (.string t) = true ↔ s = t :=
  decide_eq_true_iff

/-! ### Entries -/

theorem selects_messageEntry_iff {message : Message} :
    (QueryEntry.mk "messages" (messageConditions "type" filter)).selects
        (message.element registry) = true ↔
      message.typeUrl = filter.kind ∧ filter.Visible (message.payload? registry) := by
  -- a message is always stored with its type, so that condition decides
  rw [selects, Bool.and_eq_true, List.all_eq_true, messageConditions_hold_iff]
  constructor
  · rintro ⟨-, ⟨stored, hstored, hsame⟩, hvisible⟩
    cases hstored
    exact ⟨same_string_iff.mp hsame, hvisible⟩
  · rintro ⟨htype, hvisible⟩
    exact ⟨rfl, ⟨_, rfl, same_string_iff.mpr htype⟩, hvisible⟩

theorem selects_eventEntry_iff {filter : EventFilter} {event : BlockEvent} :
    (QueryEntry.mk "events" (eventConditions filter)).selects (event.element registry) = true ↔
      event.event.kind = filter.kind ∧ filter.Visible registry event := by
  have hkind : (QueryCondition.mk "type" (.string filter.kind) .equalTo).holds
      (event.element registry) = true ↔ event.event.kind = filter.kind := by
    rw [QueryCondition.holds_equalTo_iff]
    constructor
    · rintro ⟨stored, hstored, hsame⟩
      cases hstored
      exact same_string_iff.mp hsame
    · exact fun heq => ⟨_, rfl, same_string_iff.mpr heq⟩
  have hmessage : (∀ condition ∈ filter.messageFilter.toList.flatMap (messageConditions "msgType"),
        condition.holds (event.element registry) = true) ↔ filter.Visible registry event := by
    unfold EventFilter.Visible
    -- an event without a message is stored without the fields of one
    cases filter.messageFilter with
    | none => exact iff_of_true (fun _ h => absurd h List.not_mem_nil) nofun
    | some messageFilter =>
      rw [Option.toList_some, List.flatMap_singleton, messageConditions_hold_iff]
      constructor
      · rintro ⟨⟨stored, hstored, hsame⟩, hvisible⟩ other heq
        cases heq
        obtain ⟨origin, horigin, rfl⟩ := Option.map_eq_some_iff.mp hstored
        rw [event.field?_data horigin] at hvisible
        exact ⟨origin, horigin, same_string_iff.mp hsame, hvisible⟩
      · intro h
        obtain ⟨origin, horigin, htype, hvisible⟩ := h messageFilter rfl
        rw [event.field?_msgType horigin, event.field?_data horigin]
        exact ⟨⟨_, rfl, same_string_iff.mpr htype⟩, hvisible⟩
  rw [selects, Bool.and_eq_true, List.all_eq_true]
  unfold eventConditions
  rw [List.forall_mem_cons, hkind, hmessage]
  exact and_iff_right rfl

end QueryEntry

/-! ### Acceptance -/

namespace Session

variable {session : Session}

theorem Coherent.typeUrl_eq {filter : MessageFilter} {message : Message} (h : session.Coherent)
    (hmessage : message ∈ session.pair.messages)
    (haccepts : (session.acceptsMessage (some filter) message).1 = true) :
    message.typeUrl = filter.kind := by
  obtain ⟨hadmits, -⟩ := (h.acceptsMessage_iff hmessage).mp haccepts
  exact of_decide_eq_true (Bool.and_eq_true_iff.mp hadmits).2

/-- Of the messages that a filter accepts, those in plain form are visible to it. -/
theorem Coherent.visible_iff_plain {filter : MessageFilter} {message : Message}
    (h : session.Coherent) (hmessage : message ∈ session.pair.messages)
    (haccepts : (session.acceptsMessage (some filter) message).1 = true) :
    filter.Visible (message.payload? session.registry) ↔
      filter.Plain (message.payload? session.registry) := by
  refine MessageFilter.visible_iff_plain fun hneeds => ?_
  obtain ⟨payload, hpayload, hall⟩ := ((h.acceptsMessage_iff hmessage).mp haccepts).2 hneeds
  exact ⟨payload, by rw [Message.payload?, hpayload]; rfl, hall⟩

theorem kind_of_acceptsEvent {filter : EventFilter} {event : BlockEvent}
    (h : (session.acceptsEvent (some filter) event).1 = true) : event.event.kind = filter.kind := by
  by_contra hne
  have hbne : (event.event.kind != filter.kind) = true := bne_iff_ne.mpr hne
  rw [acceptsEvent, if_pos hbne] at h
  exact nomatch h

/-- An event is accepted only with its message, if the filter asks for one. -/
theorem origin_of_acceptsEvent {filter : EventFilter} {event : BlockEvent}
    {messageFilter : MessageFilter}
    (h : (session.acceptsEvent (some filter) event).1 = true)
    (hfilter : filter.messageFilter = some messageFilter) :
    ∃ origin, event.origin = some origin ∧
      (session.acceptsMessage (some messageFilter) origin.message).1 = true := by
  have hbne : ¬ (event.event.kind != filter.kind) = true :=
    fun hbne => bne_iff_ne.mp hbne (kind_of_acceptsEvent h)
  rw [acceptsEvent, if_neg hbne, hfilter] at h
  -- an event filter that asks for a message refuses events without one
  cases horigin : event.origin with
  | none =>
    rw [horigin] at h
    exact nomatch h
  | some origin =>
    rw [horigin] at h
    refine ⟨origin, rfl, ?_⟩
    dsimp only at h
    split at h
    · rename_i heq
      rw [heq]
    · exact nomatch h

/-- Of the events that a filter accepts, those with a message in plain form are visible to it. -/
theorem Coherent.event_visible_iff_plain {filter : EventFilter} {event : BlockEvent}
    (h : session.Coherent) (hevent : event ∈ session.pair.events)
    (haccepts : (session.acceptsEvent (some filter) event).1 = true) :
    filter.Visible session.registry event ↔ filter.Plain session.registry event := by
  constructor
  · intro hvisible messageFilter origin hfilter horigin
    obtain ⟨_, horigin', -, hmessage⟩ := hvisible messageFilter hfilter
    rw [horigin] at horigin'
    cases horigin'
    exact hmessage.plain
  · intro hplain messageFilter hfilter
    obtain ⟨origin, horigin, hmessage⟩ := origin_of_acceptsEvent haccepts hfilter
    have hmem := BlockPair.message_mem_of_mem_events hevent horigin
    exact ⟨origin, horigin, h.typeUrl_eq hmem hmessage,
      (h.visible_iff_plain hmem hmessage).mpr (hplain messageFilter origin hfilter horigin)⟩

end Session

/-- Which elements of a block the entries of a list of handlers select. -/
structure QueryEntry.Coverage (handlers : List Handler) (session : Session) : Prop where
  /-- The selected messages are the visible ones. -/
  message : ∀ message : Message,
    (∃ entry ∈ ofHandlers handlers, entry.selects (message.element session.registry) = true) ↔
      ∃ filter, .message (some filter) ∈ handlers ∧ message.typeUrl = filter.kind ∧
        filter.Visible (message.payload? session.registry)
  /-- The selected events are the visible ones. -/
  event : ∀ event : BlockEvent,
    (∃ entry ∈ ofHandlers handlers, entry.selects (event.element session.registry) = true) ↔
      ∃ filter, .event (some filter) ∈ handlers ∧ event.event.kind = filter.kind ∧
        filter.Visible session.registry event
  /-- A message that a filter accepts is visible to it if it is in plain form, and selected then. -/
  acceptedMessage : ∀ message ∈ session.pair.messages, ∀ filter,
    .message (some filter) ∈ handlers → (session.acceptsMessage (some filter) message).1 = true →
      (filter.Visible (message.payload? session.registry) ↔
        filter.Plain (message.payload? session.registry)) ∧
      (filter.Plain (message.payload? session.registry) →
        ∃ entry ∈ ofHandlers handlers, entry.selects (message.element session.registry) = true)
  /-- An event that a filter accepts is visible to it if its message is in plain form, and selected
  then. -/
  acceptedEvent : ∀ event ∈ session.pair.events, ∀ filter,
    .event (some filter) ∈ handlers → (session.acceptsEvent (some filter) event).1 = true →
      (filter.Visible session.registry event ↔ filter.Plain session.registry event) ∧
      (filter.Plain session.registry event →
        ∃ entry ∈ ofHandlers handlers, entry.selects (event.element session.registry) = true)

namespace QueryEntry

variable {handlers : List Handler} {registry : Registry}

theorem exists_selects_message_iff (hne : ofHandlers handlers ≠ []) (message : Message) :
    (∃ entry ∈ ofHandlers handlers, entry.selects (message.element registry) = true) ↔
      ∃ filter, .message (some filter) ∈ handlers ∧ message.typeUrl = filter.kind ∧
        filter.Visible (message.payload? registry) := by
  constructor
  · rintro ⟨entry, hentry, hselects⟩
    obtain ⟨handler, hhandler, hof⟩ := (mem_ofHandlers_iff hne).mp hentry
    -- handlers of blocks and transactions have no entry
    match handler, hof with
    | .message (some filter), rfl =>
      exact ⟨filter, hhandler, selects_messageEntry_iff.mp hselects⟩
    | .event (some filter), rfl =>
      exact absurd (Bool.and_eq_true_iff.mp hselects).1 (by simp [Message.element])
  · rintro ⟨filter, hhandler, hvisible⟩
    have hentry := (mem_ofHandlers_iff hne).mpr ⟨_, hhandler, rfl⟩
    exact ⟨_, hentry, selects_messageEntry_iff.mpr hvisible⟩

theorem exists_selects_event_iff (hne : ofHandlers handlers ≠ []) (event : BlockEvent) :
    (∃ entry ∈ ofHandlers handlers, entry.selects (event.element registry) = true) ↔
      ∃ filter, .event (some filter) ∈ handlers ∧ event.event.kind = filter.kind ∧
        filter.Visible registry event := by
  constructor
  · rintro ⟨entry, hentry, hselects⟩
    obtain ⟨handler, hhandler, hof⟩ := (mem_ofHandlers_iff hne).mp hentry
    match handler, hof with
    | .message (some filter), rfl =>
      exact absurd (Bool.and_eq_true_iff.mp hselects).1 (by simp [BlockEvent.element])
    | .event (some filter), rfl =>
      exact ⟨filter, hhandler, selects_eventEntry_iff.mp hselects⟩
  · rintro ⟨filter, hhandler, hvisible⟩
    have hentry := (mem_ofHandlers_iff hne).mpr ⟨_, hhandler, rfl⟩
    exact ⟨_, hentry, selects_eventEntry_iff.mpr hvisible⟩

/-- The entries of a list of handlers select exactly the elements that are visible to one of its
filters; of the accepted ones, those are the ones in plain form. -/
theorem coverage {session : Session} (hsession : session.Coherent)
    (hne : ofHandlers handlers ≠ []) : Coverage handlers session where
  message := exists_selects_message_iff hne
  event := exists_selects_event_iff hne
  acceptedMessage message hmessage filter hhandler haccepts := by
    have hiff := hsession.visible_iff_plain hmessage haccepts
    exact ⟨hiff, fun hplain => (exists_selects_message_iff hne message).mpr
      ⟨filter, hhandler, hsession.typeUrl_eq hmessage haccepts, hiff.mpr hplain⟩⟩
  acceptedEvent event hevent filter hhandler haccepts := by
    have hiff := hsession.event_visible_iff_plain hevent haccepts
    exact ⟨hiff, fun hplain => (exists_selects_event_iff hne event).mpr
      ⟨filter, hhandler, Session.kind_of_acceptsEvent haccepts, hiff.mpr hplain⟩⟩

/-! ### A hidden call

A contract may be called by the name of an entry point alone. A filter knows such a call, but the
dictionary looks for an object. -/

/-- A record of bytes with its key and its length. -/
def record (key : UInt8) (bytes : List UInt8) : List UInt8 :=
  key :: bytes.length.toUInt8 :: bytes

/-- Contract executions that claim. -/
def claimFilter : MessageFilter :=
  ⟨TypeUrl.executeContract, none, some "claim", none⟩

/-- The message for the contract: its entry point in quotes. -/
def claimText : List UInt8 :=
  Utf8.encode "\"claim\""

/-- A contract execution with the message. -/
def claimBytes : List UInt8 :=
  record 0x1A claimText

/-- The payload of a contract execution without funds. -/
def executionPayload (sender contract : String) (msg : Json) : Json :=
  .object [("contract", .string contract), ("funds", .array []), ("msg", msg),
    ("sender", .string sender)]

/-- A transaction of the execution. -/
def claimTx : Transaction where
  idx := 0
  raw := record 0x0A (record 0x0A
    (record 0x0A (Utf8.encode TypeUrl.executeContract) ++ record 0x12 claimBytes))
  result := ⟨0, "", "", "", [], 0, 0, []⟩

/-- The execution as a message. -/
def claimMessage : Message :=
  ⟨0, claimTx, TypeUrl.executeContract, claimBytes⟩

/-- A block of the transaction, as it comes. -/
def claimSession : Session :=
  .ofPair ⟨⟨"", ⟨⟨11, 0⟩, "chain", 1, ⟨0, 0⟩, none, "", "", ""⟩, [claimTx.raw]⟩,
    ⟨1, [claimTx.result], none, none⟩, rfl⟩ .withDefaults

theorem messages_claimSession : claimSession.pair.messages = [claimMessage] := by
  decide +kernel

theorem toJson_executeContract (sender contract : String) (msg : List UInt8) :
    Layout.executeContract.toJson [.text sender, .text contract, .bytes msg, .list []] =
      executionPayload sender contract (.bytes msg) := by
  simp only [Layout.executeContract, Layout.single, Layout.repeated, Layout.toJson,
    Layout.membersToJson, FieldValue.toJson, FieldValue.itemsToJson]
  -- members are sorted by their names
  simp only [Json.ofMembers, Members.ofList, List.foldl_cons, List.foldl_nil, Members.insert,
    String.reduceEq, String.reduceLT, ↓reduceIte, executionPayload]

theorem decode_claimBytes :
    Registry.withDefaults.decode TypeUrl.executeContract claimBytes =
      .ok (executionPayload "" "" (.string "claim")) := by
  have htext : claimText = [34, 99, 108, 97, 105, 109, 34] := by decide +kernel
  have hfind : Registry.withDefaults.find? TypeUrl.executeContract =
      some (.builtin .executeContract) := rfl
  have hdecode : Layout.executeContract.decode claimBytes =
      .ok [.text "", .text "", .bytes claimText, .list []] := by
    rw [claimBytes, htext]
    rfl
  have hinner : Contract.readInner (executionPayload "" "" (.bytes claimText)) =
      .ok (executionPayload "" "" (.string "claim")) := by
    rw [htext]
    rfl
  rw [Registry.decode, hfind]
  dsimp only
  rw [Decoder.run, hdecode]
  dsimp only
  rw [toJson_executeContract, if_pos (by decide +kernel), hinner]
  rfl

theorem coherent_claimSession : claimSession.Coherent :=
  Session.coherent_ofPair

/-- The entries of a filter for claims cover the block. -/
theorem coverage_claimSession :
    claimSession.Coherent ∧ ofHandlers [.message (some claimFilter)] ≠ [] ∧
      Coverage [.message (some claimFilter)] claimSession :=
  have hne : ofHandlers [.message (some claimFilter)] ≠ [] := by decide +kernel
  ⟨coherent_claimSession, hne, coverage coherent_claimSession hne⟩

/-- A filter for claims accepts the message, and its entry hides it. -/
theorem hides_call :
    ofHandlers [.message (some claimFilter)] ≠ [] ∧
      ∃ message ∈ claimSession.pair.messages,
        (claimSession.acceptsMessage (some claimFilter) message).1 = true ∧
          ∀ entry ∈ ofHandlers [.message (some claimFilter)],
            entry.selects (message.element claimSession.registry) = false := by
  have hne : ofHandlers [.message (some claimFilter)] ≠ [] := by decide +kernel
  have hmem : claimMessage ∈ claimSession.pair.messages :=
    messages_claimSession ▸ List.mem_singleton_self _
  refine ⟨hne, claimMessage, hmem, ?_, fun entry hentry => ?_⟩
  · exact (coherent_claimSession.acceptsMessage_iff hmem).mpr
      ⟨by decide +kernel, fun _ => ⟨_, decode_claimBytes, by decide +kernel⟩⟩
  · rw [← Bool.not_eq_true]
    intro hselects
    obtain ⟨filter, hfilter, -, hvisible⟩ :=
      (exists_selects_message_iff hne claimMessage).mp ⟨entry, hentry, hselects⟩
    cases List.mem_singleton.mp hfilter
    -- the payload has no object under the name of its message
    obtain ⟨payload, arguments, hpayload, hwalk⟩ := hvisible.call "claim" rfl
    have hdecoded : claimMessage.payload? claimSession.registry =
        some (executionPayload "" "" (.string "claim")) :=
      congrArg Except.toOption decode_claimBytes
    rw [hdecoded] at hpayload
    cases hpayload
    exact nomatch hwalk

end QueryEntry

end ChainFeed
