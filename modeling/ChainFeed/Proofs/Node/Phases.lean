import ChainFeed.Proofs.Block.Calls
import ChainFeed.Proofs.Block.EventStream
import ChainFeed.Proofs.Json.Parts
import ChainFeed.Proofs.Node.Form

/-!
# Where events outside transactions belong

A response has up to three lists of events outside transactions: those before the transactions,
those behind them, and a common list. The newest protocol version takes the common list apart by the
mode of its events and puts both parts behind the events of their own lists; nothing is lost and
nothing is there twice. The other versions do not look at the common list.

## Main definitions

- `Event.BeginsBlock`: the mode of an event is that of the events before the transactions
- `Protocol.eventsOf?`: the events that a part of a response reports
- `Protocol.Distribution`: how events are distributed
- `BlockPair.IsStream`: where a stream has them

## Main results

- `Protocol.exists_distribution`: events of accepted responses are distributed
- `Protocol.decodeResults_without`: the other versions do not look at the common list
- `Protocol.distributes`: what becomes of the events outside transactions, up to the stream of a
  block
-/

namespace ChainFeed

open Node (isBeginEvent)
open Node.WireResults (splitEvents decodeEvents?)

/-- Some attribute says that an event belongs before the transactions. -/
def Event.BeginsBlock (event : Event) : Prop :=
  ∃ a ∈ event.attributes, a.key = Utf8.encode "mode" ∧ a.value = Utf8.encode "BeginBlock"

instance Event.decidableBeginsBlock : DecidablePred Event.BeginsBlock := fun event =>
  inferInstanceAs (Decidable (∃ a ∈ event.attributes,
    a.key = Utf8.encode "mode" ∧ a.value = Utf8.encode "BeginBlock"))

theorem isBeginEvent_eq_decide : isBeginEvent = fun event => decide event.BeginsBlock := by
  funext event
  rw [Bool.eq_iff_iff, decide_eq_true_iff]
  simp [isBeginEvent, Event.BeginsBlock]

theorem splitEvents_some (results : BlockResults) (events : List Event) :
    splitEvents results (some events) = { results with
      beginEvents := some (results.beginEvents.getD [] ++ events.filter (·.BeginsBlock))
      endEvents := some (results.endEvents.getD [] ++ events.filter (¬ ·.BeginsBlock)) } := by
  simp only [splitEvents, isBeginEvent_eq_decide, decide_not]

/-! ### Parts of a response -/

namespace Node.WireResults

/-- Reads the events that a part of a response reports. -/
def readEvents (part : Option Json) : Except ReadFault (Option (List WireEvent)) :=
  (Reader.option (.list WireEvent.reader)).ofPart (Reader.maxDepth - 1) none part

theorem readEvents_eq_ok_none_iff {part : Option Json} :
    readEvents part = .ok none ↔ Form.IsNothing part := by
  cases part with
  | none => exact iff_of_true rfl (.inl rfl)
  | some value =>
    have hnull : Document.ofJson value = .null ↔ value = .null := by
      cases value <;> simp [Document.ofJson]
    rw [readEvents, Reader.ofPart, Reader.option_eq_ok_none_iff, hnull]
    simp [Form.IsNothing]

/-- The fields in front of the common list. -/
def frontFields : Fields (Option (List WireEvent) → WireResults) :=
  WireResults.mk <$> .required "height" .uint64Numeral <*>
    .withDefault "txs_results" [] (.listOrEmpty WireTxResult.reader) <*>
    .withDefault "begin_block_events" none (.option (.list WireEvent.reader)) <*>
    .withDefault "end_block_events" none (.option (.list WireEvent.reader))

theorem reader_eq_record : reader = .record (frontFields <*>
    .withDefault "finalize_block_events" none (.option (.list WireEvent.reader))) :=
  rfl

theorem takes_frontFields : frontFields.Takes 4 :=
  ((((Fields.takes_field _ _ _ _).map _).seq (Fields.takes_field _ _ _ _)).seq
    (Fields.takes_field _ _ _ _)).seq (Fields.takes_field _ _ _ _)

theorem ignores_frontFields : frontFields.Ignores "finalize_block_events" :=
  ((((Fields.ignores_field (by decide) _ _ _).map _).seq
    (Fields.ignores_field (by decide) _ _ _)).seq (Fields.ignores_field (by decide) _ _ _)).seq
    (Fields.ignores_field (by decide) _ _ _)

theorem exists_of_frontFields {value : Json} {g : Option (List WireEvent) → WireResults}
    (h : frontFields.ReadFrom (Reader.maxDepth - 1) value g) :
    ∃ height results begins ends, g = WireResults.mk height results begins ends ∧
      readEvents (value.part? 2 "begin_block_events") = .ok begins ∧
      readEvents (value.part? 3 "end_block_events") = .ok ends := by
  obtain ⟨_, ends, hthree, hends, rfl⟩ := h.exists_ofPart
    ((((Fields.takes_field _ _ _ _).map _).seq (Fields.takes_field _ _ _ _)).seq
      (Fields.takes_field _ _ _ _))
  obtain ⟨_, begins, htwo, hbegins, rfl⟩ := hthree.exists_ofPart
    (((Fields.takes_field _ _ _ _).map _).seq (Fields.takes_field _ _ _ _))
  obtain ⟨_, results, hone, -, rfl⟩ := htwo.exists_ofPart ((Fields.takes_field _ _ _ _).map _)
  obtain ⟨height, -, rfl⟩ := hone.exists_of_map
  exact ⟨height, results, begins, ends, rfl, hbegins, hends⟩

/-- The lists of events of a response are read from their parts. -/
theorem readEvents_of_ofJson {value : Json} {wire : WireResults}
    (h : reader.ofJson value = .ok wire) :
    readEvents (value.part? 2 "begin_block_events") = .ok wire.beginEvents ∧
    readEvents (value.part? 3 "end_block_events") = .ok wire.endEvents ∧
    readEvents (value.part? 4 "finalize_block_events") = .ok wire.finalizeEvents := by
  rw [reader_eq_record] at h
  obtain ⟨g, common, hfront, hcommon, rfl⟩ :=
    (Reader.readFrom_of_record h).exists_ofPart takes_frontFields
  obtain ⟨height, results, begins, ends, rfl, hbegins, hends⟩ := exists_of_frontFields hfront
  exact ⟨hbegins, hends, hcommon⟩

/-- Without its common list a response is read as it was, but for that list. -/
theorem ofJson_without {value : Json} {wire : WireResults} (h : reader.ofJson value = .ok wire) :
    reader.ofJson (value.without 4 "finalize_block_events") =
      .ok { wire with finalizeEvents := none } := by
  rw [reader_eq_record] at h ⊢
  obtain ⟨g, common, hfront, rfl, hread⟩ :=
    Reader.record_without takes_frontFields ignores_frontFields h
  obtain ⟨height, results, begins, ends, rfl, -, -⟩ := exists_of_frontFields hfront
  exact hread

end Node.WireResults

/-! ### Both lists and the common one -/

namespace Protocol

variable {protocol : Protocol} {value : Json} {results : BlockResults}

/-- The events that a part of a response reports, with their attributes decoded. -/
def eventsOf? (protocol : Protocol) (part : Option Json) : Option (Option (List Event)) :=
  match Node.WireResults.readEvents part with
  | .ok events => decodeEvents? protocol.attributeBytes? events
  | .error _ => none

theorem decodeEvents?_eq_some_none_iff {text : String → Option (List UInt8)}
    {wires : Option (List Node.WireEvent)} :
    decodeEvents? text wires = some none ↔ wires = none := by
  cases wires with
  | none => exact iff_of_true rfl rfl
  | some wires => simp [decodeEvents?]

/-- Only what is missing or null reports no list. -/
theorem eventsOf?_eq_some_none_iff (protocol : Protocol) {part : Option Json} :
    protocol.eventsOf? part = some none ↔ Form.IsNothing part := by
  rw [← Node.WireResults.readEvents_eq_ok_none_iff, eventsOf?]
  split
  · rename_i wires hwires
    rw [decodeEvents?_eq_some_none_iff, hwires, Except.ok.injEq]
  · rename_i hwires
    rw [hwires]
    exact iff_of_false nofun nofun

/-- How the newest version distributes the events outside transactions. -/
structure Distribution (value : Json) (results : BlockResults)
    (begins ends common : Option (List Event)) : Prop where
  /-- The three lists are those of the response. -/
  begins_eq : comet38.eventsOf? (value.part? 2 "begin_block_events") = some begins
  ends_eq : comet38.eventsOf? (value.part? 3 "end_block_events") = some ends
  common_eq : comet38.eventsOf? (value.part? 4 "finalize_block_events") = some common
  /-- A common list is missing only if it is not reported, or null. -/
  missing : common = none ↔ Form.IsNothing (value.part? 4 "finalize_block_events")
  /-- Without a common list, the other lists stay as they are. -/
  unsplit : common = none → results.beginEvents = begins ∧ results.endEvents = ends
  /-- The events of a common list are put behind those of the other lists, by their mode. -/
  split : ∀ events, common = some events →
    results.beginEvents = some (begins.getD [] ++ events.filter (·.BeginsBlock)) ∧
    results.endEvents = some (ends.getD [] ++ events.filter (¬ ·.BeginsBlock))
  /-- Every event is there as often as it was reported. -/
  once : (results.beginEvents.getD [] ++ results.endEvents.getD []).Perm
    (begins.getD [] ++ ends.getD [] ++ common.getD [])

/-- A common list is divided without loss. -/
theorem perm_split (begins ends events : List Event) :
    ((begins ++ events.filter (·.BeginsBlock)) ++ (ends ++ events.filter (¬ ·.BeginsBlock))).Perm
      (begins ++ ends ++ events) := by
  have hparts : (events.filter (·.BeginsBlock) ++ events.filter (¬ ·.BeginsBlock)).Perm events := by
    simpa using List.filter_append_perm (fun event : Event => decide event.BeginsBlock) events
  have hmiddle := (List.perm_append_comm_assoc (events.filter (·.BeginsBlock)) ends
    (events.filter (¬ ·.BeginsBlock))).append_left begins
  rw [List.append_assoc, List.append_assoc]
  exact hmiddle.trans ((hparts.append_left ends).append_left begins)

theorem decodeResults_eq_ok_iff : protocol.decodeResults value = .ok results ↔
    ∃ wire, Node.WireResults.reader.ofJson value = .ok wire ∧
      wire.normalize? protocol.attributeBytes? (protocol = .comet38) = some results := by
  rw [decodeResults, Reader.response]
  cases Node.WireResults.reader.ofJson value with
  | error fault => simp
  | ok wire =>
    cases hnormal : wire.normalize? protocol.attributeBytes? (protocol = .comet38) <;>
      simp [hnormal]

/-- What becomes of the events outside transactions in an accepted response. -/
theorem exists_distribution (h : comet38.decodeResults value = .ok results) :
    ∃ begins ends common, Distribution value results begins ends common := by
  obtain ⟨wire, hwire, hnormal⟩ := decodeResults_eq_ok_iff.mp h
  obtain ⟨hbegins, hends, hcommon⟩ := Node.WireResults.readEvents_of_ofJson hwire
  have hevents {part : Option Json} {wires : Option (List Node.WireEvent)}
      (hread : Node.WireResults.readEvents part = .ok wires) :
      comet38.eventsOf? part = decodeEvents? comet38.attributeBytes? wires := by
    rw [eventsOf?, hread]
  simp only [Node.WireResults.normalize?, Option.bind_eq_bind, Option.bind_eq_some_iff,
    decide_true, if_true, Option.pure_def, Option.some.injEq] at hnormal
  obtain ⟨txs, -, begins, hbegins', ends, hends', common, hcommon', rfl⟩ := hnormal
  refine ⟨begins, ends, common, (hevents hbegins).trans hbegins', (hevents hends).trans hends',
    (hevents hcommon).trans hcommon', ?_, ?_, ?_, ?_⟩
  · rw [← eventsOf?_eq_some_none_iff comet38, hevents hcommon, hcommon',
      Option.some.injEq]
  · rintro rfl
    exact ⟨rfl, rfl⟩
  · rintro events rfl
    rw [splitEvents_some]
    exact ⟨rfl, rfl⟩
  · cases common with
    | none =>
      rw [Option.getD_none, List.append_nil]
      exact .refl _
    | some events =>
      rw [splitEvents_some]
      exact perm_split (begins.getD []) (ends.getD []) events

/-- The other versions do not look at the common list. -/
theorem decodeResults_without (hprotocol : protocol ≠ .comet38)
    (h : protocol.decodeResults value = .ok results) :
    protocol.decodeResults (value.without 4 "finalize_block_events") = .ok results := by
  obtain ⟨wire, hwire, hnormal⟩ := decodeResults_eq_ok_iff.mp h
  refine decodeResults_eq_ok_iff.mpr ⟨_, Node.WireResults.ofJson_without hwire, ?_⟩
  rw [decide_eq_false hprotocol] at hnormal ⊢
  exact hnormal

end Protocol

/-! ### Their places in the stream -/

namespace BlockPair

variable {pair : BlockPair} {first last : List Event}

/-- A stream of events: those before the transactions, those of transactions, which have an origin,
and those behind the transactions, numbered throughout. -/
def IsStream (first last : List Event) (stream : List BlockEvent) : Prop :=
  ∃ before between behind, stream = before ++ between ++ behind ∧
    before.map (fun event => (event.origin, event.event)) =
      first.map (fun event => (none, TextEvent.ofEvent event)) ∧
    (∀ event ∈ between, event.origin ≠ none) ∧
    behind.map (fun event => (event.origin, event.event)) =
      last.map (fun event => (none, TextEvent.ofEvent event)) ∧
    ∀ (i : Nat) (event : BlockEvent), stream[i]? = some event → event.idx = i

/-- The events of a block are the stream of the events that are reported outside transactions. -/
theorem isStream_events (pair : BlockPair) :
    IsStream (pair.results.beginEvents.getD []) (pair.results.endEvents.getD []) pair.events := by
  refine ⟨pair.beginBlockEvents, pair.transactionEvents, pair.endBlockEvents,
    pair.append_parts.symm, map_number _ _, fun event hevent => ?_, map_number _ _,
    fun i event h => (idx_of_getElem?_number h).trans (Nat.zero_add i)⟩
  obtain ⟨origin, horigin, -⟩ := exists_origin_of_mem_transactionEvents hevent
  rw [horigin]
  exact nofun

end BlockPair

/-- A caller who asks a new block for its events is told the stream. -/
theorem LazyBlock.run_events (pair : BlockPair) (registry : Registry) :
    ((perform .events).run (new pair registry)).1 = .events pair.events := by
  obtain ⟨_, hrun, -⟩ := perform_eq_answer pair registry .events (.blank false)
  exact congrArg Prod.fst hrun

namespace Protocol

/-- The newest version distributes the events of an accepted response over both ends of the
transactions, where the stream of a block has them; the other versions take no notice of the common
list. -/
theorem distributes :
    (∀ value results, comet38.decodeResults value = .ok results →
      ∃ begins ends common, Distribution value results begins ends common ∧
        ∀ block pair registry, BlockPair.ofParts block results = .ok pair →
          ∃ stream, ((LazyBlock.perform .events).run (.new pair registry)).1 = .events stream ∧
            BlockPair.IsStream (begins.getD [] ++ (common.getD []).filter (·.BeginsBlock))
              (ends.getD [] ++ (common.getD []).filter (¬ ·.BeginsBlock)) stream) ∧
    ∀ protocol value results, protocol ≠ comet38 → protocol.decodeResults value = .ok results →
      protocol.decodeResults (value.without 4 "finalize_block_events") = .ok results := by
  refine ⟨fun value results h => ?_, fun protocol value results => decodeResults_without⟩
  obtain ⟨begins, ends, common, hdistribution⟩ := exists_distribution h
  refine ⟨begins, ends, common, hdistribution, fun block pair registry hpair => ?_⟩
  refine ⟨pair.events, LazyBlock.run_events pair registry, ?_⟩
  have hstream := pair.isStream_events
  rw [(BlockPair.of_ofParts_eq_ok hpair).2] at hstream
  -- without a common list, nothing is put behind the other lists
  cases common with
  | none =>
    obtain ⟨hbegins, hends⟩ := hdistribution.unsplit rfl
    rw [hbegins, hends] at hstream
    simpa using hstream
  | some events =>
    obtain ⟨hbegins, hends⟩ := hdistribution.split events rfl
    rw [hbegins, hends] at hstream
    exact hstream

/-- A response with a list of its own before the transactions, and a common one. -/
def mixedResponse : Json :=
  .object [
    ("begin_block_events", .array [.object [("type", .string "mint")]]),
    ("finalize_block_events", .array [
      .object [("type", .string "burn")],
      .object [
        ("attributes", .array [.object [("key", .string "mode"), ("value", .string "BeginBlock")]]),
        ("type", .string "reward")]]),
    ("height", .string "5")]

/-- The results that are read from it. -/
def mixedResults : BlockResults where
  height := 5
  results := []
  beginEvents := some [⟨"mint", []⟩,
    ⟨"reward", [⟨Utf8.encode "mode", Utf8.encode "BeginBlock", false⟩]⟩]
  endEvents := some [⟨"burn", []⟩]

theorem distributes_mixed :
    comet38.decodeResults mixedResponse = .ok mixedResults ∧
    (∃ begins ends common, Distribution mixedResponse mixedResults begins ends common) ∧
    tendermint37.decodeResults (mixedResponse.without 4 "finalize_block_events") =
      .ok ⟨5, [], some [⟨"mint", []⟩], none⟩ := by
  have hcomet : comet38.decodeResults mixedResponse = .ok mixedResults := by rfl
  have htendermint :
      tendermint37.decodeResults mixedResponse = .ok ⟨5, [], some [⟨"mint", []⟩], none⟩ := by rfl
  obtain ⟨begins, ends, common, hdistribution, -⟩ := distributes.1 _ _ hcomet
  exact ⟨hcomet, ⟨begins, ends, common, hdistribution⟩,
    distributes.2 _ _ _ (by decide) htendermint⟩

end Protocol

end ChainFeed
