import ChainFeed.Node.Block
import ChainFeed.Node.Results
import ChainFeed.Proofs.Text.Base64
import ChainFeed.Proofs.Text.Integer
import ChainFeed.Proofs.Text.Utf8
import ChainFeed.Proofs.Time.Rfc3339
import Mathlib.Data.List.Forall2

/-!
# How nodes write blocks and results

What nodes report about a block has many written forms: members may stand in any order and beside
members of no interest, integers may be texts or numbers, and what is empty or zero may be left out.
The forms are relations between the reported data and JSON values, for each protocol version. They
say nothing about how a form is read.

## Main definitions

- `Form.IsText`, `Form.IsInteger`, `Form.IsList`, `Form.IsObject`: forms of the parts
- `Protocol.AttributeText`: how a protocol version writes bytes in attributes
- `Protocol.EventForm`, `Protocol.TxResultForm`, `Protocol.ResultsForm`: forms of block results
- `Block.Form`: forms of blocks
- `BlockResults.report`, `Block.report`: the forms that leave nothing out

## Main results

- `Protocol.resultsForm_report`, `Block.form_report`: they are forms
-/

namespace ChainFeed

/-! ### Parts -/

namespace Form

variable {α : Type}

/-- A member that is missing, or null. -/
def IsNothing (member : Option Json) : Prop :=
  member = none ∨ member = some .null

/-- A text; the empty one may be left out. -/
def IsText (s : String) (member : Option Json) : Prop :=
  member = some (.string s) ∨ s = "" ∧ IsNothing member

/-- A truth value; `false` may be left out. -/
def IsFlag (b : Bool) (member : Option Json) : Prop :=
  member = some (.bool b) ∨ b = false ∧ member = none

/-- An integer, in decimal digits or as a number. -/
def IsNumeral (n : Int) (value : Json) : Prop :=
  value = .string (toString n) ∨ value = .int n

/-- An integer; zero may be left out, or be an empty text. -/
def IsInteger (n : Int) (member : Option Json) : Prop :=
  (∃ value, member = some value ∧ IsNumeral n value) ∨
    n = 0 ∧ (IsNothing member ∨ member = some (.string ""))

/-- A list of items; the empty one may be left out. -/
def IsList (P : α → Json → Prop) (xs : List α) (member : Option Json) : Prop :=
  (∃ items, member = some (.array items) ∧ List.Forall₂ P xs items) ∨ xs = [] ∧ IsNothing member

/-- An object, by what it has under each name. No two of its members share a name. -/
def IsObject (P : (String → Option Json) → Prop) (value : Json) : Prop :=
  ∃ members : Members Json, value = .object members ∧ (members.map (·.1)).Nodup ∧
    P fun name => members.get? name

end Form

open Form

/-! ### Block results -/

namespace Protocol

/-- The text that stands for the bytes of an attribute. -/
def AttributeText : Protocol → List UInt8 → String → Prop
  | .tendermint34, bytes, s => s = Base64.encode bytes
  | _, bytes, s => Utf8.encode s = bytes

/-- The forms of an attribute. -/
def AttributeForm (protocol : Protocol) (a : Attribute) : Json → Prop :=
  IsObject fun get =>
    (∃ key, protocol.AttributeText a.key key ∧ IsText key (get "key")) ∧
    (∃ value, protocol.AttributeText a.value value ∧ IsText value (get "value")) ∧
    IsFlag a.index (get "index")

/-- The forms of an event. -/
def EventForm (protocol : Protocol) (event : Event) : Json → Prop :=
  IsObject fun get =>
    get "type" = some (.string event.kind) ∧
    IsList protocol.AttributeForm event.attributes (get "attributes")

/-- The forms of events that need not be reported; an empty list is not left out. -/
def EventsForm (protocol : Protocol) (events : Option (List Event)) (member : Option Json) : Prop :=
  match events with
  | some events => ∃ items, member = some (.array items) ∧
      List.Forall₂ protocol.EventForm events items
  | none => IsNothing member

/-- The forms of a transaction result. -/
def TxResultForm (protocol : Protocol) (result : TxResult) : Json → Prop :=
  IsObject fun get =>
    IsInteger result.code.toNat (get "code") ∧
    IsText result.codespace (get "codespace") ∧
    IsText result.log (get "log") ∧
    IsText result.info (get "info") ∧
    IsText (Base64.encode result.data) (get "data") ∧
    IsInteger result.gasWanted.toInt (get "gas_wanted") ∧
    IsInteger result.gasUsed.toInt (get "gas_used") ∧
    IsList protocol.EventForm result.events (get "events")

/-- The forms of block results, with the common list of events outside transactions. -/
def ResultsForm (protocol : Protocol) (results : BlockResults) (common : Option (List Event)) :
    Json → Prop :=
  IsObject fun get =>
    (∃ height, get "height" = some height ∧ IsNumeral results.height.toNat height) ∧
    IsList protocol.TxResultForm results.results (get "txs_results") ∧
    protocol.EventsForm results.beginEvents (get "begin_block_events") ∧
    protocol.EventsForm results.endEvents (get "end_block_events") ∧
    protocol.EventsForm common (get "finalize_block_events")

end Protocol

/-! ### Blocks -/

/-- The forms of a block id. -/
def HashForm (hash : String) : Json → Prop :=
  IsObject fun get => IsText hash (get "hash")

/-- The forms of the id of the block before: an empty hash stands for no block. -/
def PreviousForm (previous : Option String) (member : Option Json) : Prop :=
  match previous with
  | some hash => hash ≠ "" ∧ ∃ id, member = some id ∧ HashForm hash id
  | none => IsNothing member ∨ ∃ id, member = some id ∧ HashForm "" id

/-- The forms of versions. -/
def Version.Form (version : Version) : Json → Prop :=
  IsObject fun get =>
    IsInteger version.block.toNat (get "block") ∧ IsInteger version.app.toNat (get "app")

/-- The forms of an instant of a year with four digits. -/
def Instant.Form (t : Instant) (value : Json) : Prop :=
  t.IsOrdinary ∧ ∃ s, value = .string s ∧ t.Spelled s

/-- The forms of a header. -/
def Header.Form (header : Header) : Json → Prop :=
  IsObject fun get =>
    (∃ version, get "version" = some version ∧ header.version.Form version) ∧
    get "chain_id" = some (.string header.chainId) ∧
    (∃ height, get "height" = some height ∧ IsNumeral header.height.toNat height) ∧
    (∃ time, get "time" = some time ∧ header.time.Form time) ∧
    PreviousForm header.lastBlockHash (get "last_block_id") ∧
    IsText header.dataHash (get "data_hash") ∧
    IsText header.appHash (get "app_hash") ∧
    IsText header.proposerAddress (get "proposer_address")

/-- The forms of a list of transactions. -/
def TxsForm (txs : List (List UInt8)) : Json → Prop :=
  IsObject fun get => IsList (fun tx item => item = .string (Base64.encode tx)) txs (get "txs")

/-- The forms of what stands beside the block id. -/
def BodyForm (header : Header) (txs : List (List UInt8)) : Json → Prop :=
  IsObject fun get =>
    (∃ value, get "header" = some value ∧ header.Form value) ∧
    ∃ data, get "data" = some data ∧ TxsForm txs data

/-- The forms of a block. -/
def Block.Form (block : Block) : Json → Prop :=
  IsObject fun get =>
    (∃ id, get "block_id" = some id ∧ HashForm block.hash id) ∧
    ∃ body, get "block" = some body ∧ BodyForm block.header block.txs body

/-! ### Forms that leave nothing out -/

/-- All events of block results. -/
def BlockResults.events (results : BlockResults) : List Event :=
  results.results.flatMap (·.events) ++ results.beginEvents.getD [] ++ results.endEvents.getD []

/-- An integer in decimal digits. -/
def Json.numeral (n : Int) : Json :=
  .string (toString n)

section Report

variable (text : List UInt8 → String)

/-- An attribute, given how bytes are written. -/
def Attribute.report (a : Attribute) : Json :=
  .object [("index", .bool a.index), ("key", .string (text a.key)),
    ("value", .string (text a.value))]

/-- An event. -/
def Event.report (event : Event) : Json :=
  .object [("attributes", .array (event.attributes.map (Attribute.report text))),
    ("type", .string event.kind)]

/-- Events that need not be reported. -/
def Event.reportAll (events : Option (List Event)) : Json :=
  .optional (fun events => .array (events.map (Event.report text))) events

/-- A transaction result. -/
def TxResult.report (result : TxResult) : Json :=
  .object [("code", .nat result.code.toNat), ("codespace", .string result.codespace),
    ("data", .string (Base64.encode result.data)),
    ("events", .array (result.events.map (Event.report text))),
    ("gas_used", .numeral result.gasUsed.toInt), ("gas_wanted", .numeral result.gasWanted.toInt),
    ("info", .string result.info), ("log", .string result.log)]

/-- Block results, with the common list of events outside transactions. -/
def BlockResults.report (common : Option (List Event)) (results : BlockResults) : Json :=
  .object [("begin_block_events", Event.reportAll text results.beginEvents),
    ("end_block_events", Event.reportAll text results.endEvents),
    ("finalize_block_events", Event.reportAll text common),
    ("height", .numeral results.height.toNat),
    ("txs_results", .array (results.results.map (TxResult.report text)))]

end Report

/-- A block id. -/
def Json.reportHash (hash : String) : Json :=
  .object [("hash", .string hash)]

/-- A header. -/
def Header.report (header : Header) : Json :=
  .object [
    ("app_hash", .string header.appHash),
    ("chain_id", .string header.chainId),
    ("data_hash", .string header.dataHash),
    ("height", .numeral header.height.toNat),
    ("last_block_id", .reportHash (header.lastBlockHash.getD "")),
    ("proposer_address", .string header.proposerAddress),
    ("time", .string header.time.render),
    ("version", .object [("app", .numeral header.version.app.toNat),
      ("block", .numeral header.version.block.toNat)])]

/-- A block. -/
def Block.report (block : Block) : Json :=
  .object [
    ("block", .object [
      ("data", .object [("txs", .array (block.txs.map fun tx => .string (Base64.encode tx)))]),
      ("header", block.header.report)]),
    ("block_id", .reportHash block.hash)]

/-! ### They are forms -/

namespace Form

variable {α : Type}

theorem isText_string (s : String) : IsText s (some (.string s)) :=
  .inl rfl

theorem isInteger_numeral (n : Int) : IsInteger n (some (.numeral n)) :=
  .inl ⟨_, rfl, .inl rfl⟩

theorem forall₂_map {P : α → Json → Prop} {xs : List α} {write : α → Json}
    (h : ∀ x ∈ xs, P x (write x)) : List.Forall₂ P xs (xs.map write) :=
  List.forall₂_map_right_iff.mpr (List.forall₂_same.mpr h)

theorem isList_map {P : α → Json → Prop} {xs : List α} {write : α → Json}
    (h : ∀ x ∈ xs, P x (write x)) : IsList P xs (some (.array (xs.map write))) :=
  .inl ⟨_, rfl, forall₂_map h⟩

end Form

namespace Protocol

variable {protocol : Protocol} {text : List UInt8 → String}

/-- Whether texts stand for the bytes of all attributes of some events. -/
def Covers (protocol : Protocol) (text : List UInt8 → String) (events : List Event) : Prop :=
  ∀ event ∈ events, ∀ a ∈ event.attributes,
    protocol.AttributeText a.key (text a.key) ∧ protocol.AttributeText a.value (text a.value)

theorem attributeForm_report {a : Attribute}
    (h : protocol.AttributeText a.key (text a.key) ∧
      protocol.AttributeText a.value (text a.value)) :
    protocol.AttributeForm a (a.report text) :=
  ⟨_, rfl, by simp, ⟨_, h.1, isText_string _⟩, ⟨_, h.2, isText_string _⟩, .inl rfl⟩

theorem eventForm_report {events : List Event} (h : protocol.Covers text events) :
    ∀ event ∈ events, protocol.EventForm event (event.report text) := fun event hevent =>
  ⟨_, rfl, by simp, rfl, isList_map fun a ha => attributeForm_report (h event hevent a ha)⟩

theorem eventsForm_report {events : Option (List Event)}
    (h : protocol.Covers text (events.getD [])) :
    protocol.EventsForm events (some (Event.reportAll text events)) := by
  cases events with
  | none => exact .inr rfl
  | some events => exact ⟨_, rfl, forall₂_map (eventForm_report h)⟩

theorem txResultForm_report {result : TxResult} (h : protocol.Covers text result.events) :
    protocol.TxResultForm result (result.report text) :=
  ⟨_, rfl, by simp, .inl ⟨_, rfl, .inr rfl⟩, isText_string _, isText_string _, isText_string _,
    isText_string _, isInteger_numeral _, isInteger_numeral _, isList_map (eventForm_report h)⟩

/-- Block results can be written as soon as their attributes can. -/
theorem resultsForm_report {results : BlockResults} {common : Option (List Event)}
    (h : protocol.Covers text (results.events ++ common.getD [])) :
    protocol.ResultsForm results common (results.report text common) := by
  -- every part has its events from the whole
  have hevents {part : List Event}
      (hpart : ∀ event ∈ part, event ∈ results.events ++ common.getD []) :
      protocol.Covers text part := fun event hevent => h event (hpart event hevent)
  refine ⟨_, rfl, by simp, ⟨_, rfl, .inl rfl⟩, isList_map fun result hresult =>
    txResultForm_report (hevents fun event hevent => ?_),
    eventsForm_report (hevents fun event hevent => ?_),
    eventsForm_report (hevents fun event hevent => ?_),
    eventsForm_report (hevents fun event hevent => List.mem_append_right _ hevent)⟩
  · have hflat : event ∈ results.results.flatMap (·.events) :=
      List.mem_flatMap.mpr ⟨result, hresult, hevent⟩
    simp only [BlockResults.events, List.mem_append, hflat, true_or]
  · simp only [BlockResults.events, List.mem_append, hevent, true_or, or_true]
  · simp only [BlockResults.events, List.mem_append, hevent, true_or, or_true]

end Protocol

theorem hashForm_report (hash : String) : HashForm hash (.reportHash hash) :=
  ⟨_, rfl, by simp, isText_string hash⟩

theorem Header.form_report {header : Header} (htime : header.time.IsOrdinary)
    (hprevious : header.lastBlockHash ≠ some "") : header.Form header.report := by
  refine ⟨_, rfl, by simp, ⟨_, rfl, _, rfl, by simp, isInteger_numeral _, isInteger_numeral _⟩, rfl,
    ⟨_, rfl, .inl rfl⟩, ⟨_, rfl, htime, _, rfl, Instant.spelled_render htime⟩, ?_, isText_string _,
    isText_string _, isText_string _⟩
  cases hhash : header.lastBlockHash with
  | none => exact .inr ⟨_, rfl, hashForm_report ""⟩
  | some hash => exact ⟨fun hempty => hprevious (hempty ▸ hhash), _, rfl, hashForm_report hash⟩

/-- A block of an ordinary time can be written, if the hash before it is not empty. -/
theorem Block.form_report {block : Block} (htime : block.header.time.IsOrdinary)
    (hprevious : block.header.lastBlockHash ≠ some "") : block.Form block.report :=
  ⟨_, rfl, by simp, ⟨_, rfl, hashForm_report _⟩, _, rfl, _, rfl, by simp,
    ⟨_, rfl, Header.form_report htime hprevious⟩, _, rfl, _, rfl, by simp,
    isList_map fun _ _ => rfl⟩

end ChainFeed
