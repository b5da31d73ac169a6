import ChainFeed.Proofs.Node.Adaptors

/-!
# One model for all protocol versions

Block results that are written as version 0.34 or 0.37 does are read as they are. Version 0.38 has
one list for the events outside transactions, in which each event says by its mode to which end of
the block it belongs; reading takes the list apart again, and the modes stay with the events. Blocks
are written alike in all versions, and they are read as they are.

Bytes that are not UTF-8 can be written in version 0.34 only, where attributes are in base64.

## Main definitions

- `Form.Denotes`: data can be written, and each of its forms is decoded alike
- `Event.withMode`: an event with the attribute that says where it belongs

## Main results

- `splitEvents_common`: the common list is taken apart as it was put together
- `Protocol.formsDenote`: what the forms of all versions denote
-/

namespace ChainFeed

open Node (isBeginEvent)
open Node.WireResults (splitEvents)

/-- Data can be written, and each of its forms is decoded as `a`. -/
def Form.Denotes {α : Type} (form : Json → Prop) (decode : Json → Except DecodeError α) (a : α) :
    Prop :=
  (∃ value, form value) ∧ ∀ value, form value → decode value = .ok a

/-! ### Texts -/

/-- The text of bytes in UTF-8. -/
def Utf8.text (bytes : List UInt8) : String :=
  (Utf8.decode? bytes).getD ""

theorem Utf8.encode_text {bytes : List UInt8} (h : ∃ s, encode s = bytes) :
    encode (text bytes) = bytes := by
  obtain ⟨s, rfl⟩ := h
  rw [text, decode?_encode, Option.getD_some]

/-- Whether key and value of an attribute are text. -/
def Attribute.IsUtf8 (a : Attribute) : Prop :=
  (∃ s, Utf8.encode s = a.key) ∧ ∃ s, Utf8.encode s = a.value

/-- Whether all keys and values of attributes are text. -/
def BlockResults.IsUtf8 (results : BlockResults) : Prop :=
  ∀ event ∈ results.events, ∀ a ∈ event.attributes, a.IsUtf8

namespace Protocol

theorem covers_encode (events : List Event) : tendermint34.Covers Base64.encode events :=
  fun _ _ _ _ => ⟨rfl, rfl⟩

theorem covers_text {protocol : Protocol} (h : protocol ≠ .tendermint34) {events : List Event}
    (hevents : ∀ event ∈ events, ∀ a ∈ event.attributes, a.IsUtf8) :
    protocol.Covers Utf8.text events := by
  intro event hevent a ha
  obtain ⟨hkey, hvalue⟩ := hevents event hevent a ha
  cases protocol with
  | tendermint34 => exact absurd rfl h
  | tendermint37 => exact ⟨Utf8.encode_text hkey, Utf8.encode_text hvalue⟩
  | comet38 => exact ⟨Utf8.encode_text hkey, Utf8.encode_text hvalue⟩

end Protocol

/-! ### The common list -/

/-- An event of the common list: its last attribute says where it belongs. -/
def Event.withMode (mode : String) (index : Bool) (event : Event) : Event :=
  { event with
    attributes := event.attributes ++ [⟨Utf8.encode "mode", Utf8.encode mode, index⟩] }

section Mode

variable {results : BlockResults} {begins ends : List Event} {index : Bool} {event : Event}

theorem isBeginEvent_withMode (mode : String) :
    isBeginEvent (event.withMode mode index) =
      (isBeginEvent event || Utf8.encode mode = Utf8.encode "BeginBlock") := by
  simp [isBeginEvent, Event.withMode]

theorem isBeginEvent_withMode_beginBlock :
    isBeginEvent (event.withMode "BeginBlock" index) = true := by
  simp [isBeginEvent_withMode]

theorem isBeginEvent_withMode_endBlock :
    isBeginEvent (event.withMode "EndBlock" index) = isBeginEvent event := by
  have hne : Utf8.encode "EndBlock" ≠ Utf8.encode "BeginBlock" := by decide
  simp [isBeginEvent_withMode, hne]

/-- The common list of the events before and behind the transactions. -/
def Event.common (index : Bool) (begins ends : List Event) : List Event :=
  begins.map (Event.withMode "BeginBlock" index) ++ ends.map (Event.withMode "EndBlock" index)

/-- Both lists come out of the common list as they went in. -/
theorem splitEvents_common (hends : ∀ event ∈ ends, isBeginEvent event = false) :
    splitEvents { results with beginEvents := none, endEvents := none }
        (some (Event.common index begins ends)) =
      { results with
        beginEvents := some (begins.map (Event.withMode "BeginBlock" index))
        endEvents := some (ends.map (Event.withMode "EndBlock" index)) } := by
  have hbegin : ∀ event ∈ begins.map (Event.withMode "BeginBlock" index),
      isBeginEvent event = true := by
    intro event hevent
    obtain ⟨event, -, rfl⟩ := List.mem_map.mp hevent
    exact isBeginEvent_withMode_beginBlock
  have hend : ∀ event ∈ ends.map (Event.withMode "EndBlock" index),
      isBeginEvent event = false := by
    intro event hevent
    obtain ⟨event, hmem, rfl⟩ := List.mem_map.mp hevent
    exact isBeginEvent_withMode_endBlock.trans (hends event hmem)
  simp only [splitEvents, Event.common, List.filter_append, Option.getD_none, List.nil_append]
  rw [List.filter_eq_self.mpr hbegin, List.filter_eq_nil_iff.mpr (by simpa using hend),
    List.filter_eq_nil_iff.mpr (by simpa using hbegin),
    List.filter_eq_self.mpr (by simpa using hend)]
  simp

/-- The modes are text. -/
theorem isUtf8_common (hbegins : ∀ event ∈ begins, ∀ a ∈ event.attributes, a.IsUtf8)
    (hends : ∀ event ∈ ends, ∀ a ∈ event.attributes, a.IsUtf8) :
    ∀ event ∈ Event.common index begins ends, ∀ a ∈ event.attributes, a.IsUtf8 := by
  have hmode {event : Event} {mode : String} (h : ∀ a ∈ event.attributes, a.IsUtf8) :
      ∀ a ∈ (event.withMode mode index).attributes, a.IsUtf8 := by
    intro a ha
    rcases List.mem_append.mp ha with ha | ha
    · exact h a ha
    · rw [List.mem_singleton.mp ha]
      exact ⟨⟨_, rfl⟩, _, rfl⟩
  intro event hevent
  rcases List.mem_append.mp hevent with hevent | hevent
  · obtain ⟨event, hbegin, rfl⟩ := List.mem_map.mp hevent
    exact hmode (hbegins event hbegin)
  · obtain ⟨event, hend, rfl⟩ := List.mem_map.mp hevent
    exact hmode (hends event hend)

end Mode

/-! ### Versions -/

namespace Protocol

variable {results : BlockResults}

theorem denotes_tendermint34 (results : BlockResults) :
    Form.Denotes (tendermint34.ResultsForm results none) tendermint34.decodeResults results :=
  ⟨⟨_, resultsForm_report (covers_encode _)⟩, fun _ => decodeResults_of_form⟩

theorem denotes_tendermint37 (h : results.IsUtf8) :
    Form.Denotes (tendermint37.ResultsForm results none) tendermint37.decodeResults results := by
  have hcovers : tendermint37.Covers Utf8.text (results.events ++ []) := by
    refine covers_text (by decide) ?_
    rw [List.append_nil]
    exact h
  exact ⟨⟨_, resultsForm_report hcovers⟩, fun _ => decodeResults_of_form⟩

theorem denotes_comet38 {begins ends : List Event} {index : Bool} (h : results.IsUtf8)
    (hbegins : results.beginEvents = some begins) (hends : results.endEvents = some ends)
    (hmode : ∀ event ∈ ends, isBeginEvent event = false) :
    Form.Denotes
      (comet38.ResultsForm { results with beginEvents := none, endEvents := none }
        (some (Event.common index begins ends)))
      comet38.decodeResults
      { results with
        beginEvents := some (begins.map (Event.withMode "BeginBlock" index))
        endEvents := some (ends.map (Event.withMode "EndBlock" index)) } := by
  have hbegin : ∀ event ∈ begins, event ∈ results.events := fun event hevent => by
    simp [BlockResults.events, hbegins, hevent]
  have hend : ∀ event ∈ ends, event ∈ results.events := fun event hevent => by
    simp [BlockResults.events, hends, hevent]
  have hcommon : ∀ event ∈ Event.common index begins ends, ∀ a ∈ event.attributes, a.IsUtf8 :=
    isUtf8_common (fun event hevent => h event (hbegin event hevent))
      (fun event hevent => h event (hend event hevent))
  have hcovers : comet38.Covers Utf8.text
      (BlockResults.events { results with beginEvents := none, endEvents := none } ++
        Event.common index begins ends) := by
    refine covers_text (by decide) fun event hevent => ?_
    rcases List.mem_append.mp hevent with hevent | hevent
    · refine h event ?_
      simp only [BlockResults.events, Option.getD_none, List.append_nil] at hevent
      simp only [BlockResults.events, List.mem_append, hevent, true_or]
    · exact hcommon event hevent
  refine ⟨⟨_, resultsForm_report hcovers⟩, fun value hvalue => ?_⟩
  rw [decodeResults_of_form hvalue, if_pos rfl, splitEvents_common hmode]

theorem denotes_block {block : Block} (htime : block.header.time.IsOrdinary)
    (hprevious : block.header.lastBlockHash ≠ some "") (protocol : Protocol) :
    Form.Denotes block.Form protocol.decodeBlock block :=
  ⟨⟨_, Block.form_report htime hprevious⟩, fun _ => decodeBlock_of_form protocol⟩

/-- Block results and blocks are decoded as what was written, in each version. The newest version
leaves the modes with the events outside transactions. -/
theorem formsDenote (results : BlockResults) (block : Block) :
    Form.Denotes (tendermint34.ResultsForm results none) tendermint34.decodeResults results ∧
    (results.IsUtf8 →
      Form.Denotes (tendermint37.ResultsForm results none) tendermint37.decodeResults results) ∧
    (results.IsUtf8 → ∀ begins ends index,
      results.beginEvents = some begins → results.endEvents = some ends →
      (∀ event ∈ ends, isBeginEvent event = false) →
      Form.Denotes
        (comet38.ResultsForm { results with beginEvents := none, endEvents := none }
          (some (Event.common index begins ends)))
        comet38.decodeResults
        { results with
          beginEvents := some (begins.map (Event.withMode "BeginBlock" index))
          endEvents := some (ends.map (Event.withMode "EndBlock" index)) }) ∧
    (block.header.time.IsOrdinary → block.header.lastBlockHash ≠ some "" →
      ∀ protocol : Protocol, Form.Denotes block.Form protocol.decodeBlock block) := by
  refine ⟨denotes_tendermint34 results, denotes_tendermint37, ?_, denotes_block⟩
  intro htext begins ends index hbegins hends hmode
  exact denotes_comet38 htext hbegins hends hmode

/-- Results of a block in which something happened before, in and behind its transaction. -/
def mintResults : BlockResults where
  height := 5
  results := [⟨0, "", "", "", [1], 200000, 80000,
    [⟨"transfer", [⟨Utf8.encode "amount", Utf8.encode "1", true⟩]⟩]⟩]
  beginEvents := some [⟨"mint", [⟨Utf8.encode "amount", Utf8.encode "2", true⟩]⟩]
  endEvents := some [⟨"burn", []⟩]

/-- A block behind another one. -/
def mintBlock : Block :=
  ⟨"A5", ⟨⟨11, 0⟩, "testchain-1", 5, ⟨1704067230, 500000000⟩, some "A4", "", "", "A1B2"⟩, [[1, 2]]⟩

theorem formsDenote_mint :
    Form.Denotes (tendermint34.ResultsForm mintResults none) tendermint34.decodeResults
      mintResults ∧
    Form.Denotes (tendermint37.ResultsForm mintResults none) tendermint37.decodeResults
      mintResults ∧
    Form.Denotes
      (comet38.ResultsForm { mintResults with beginEvents := none, endEvents := none }
        (some (Event.common true (mintResults.beginEvents.getD [])
          (mintResults.endEvents.getD []))))
      comet38.decodeResults
      { mintResults with
        beginEvents := mintResults.beginEvents.map (·.map (Event.withMode "BeginBlock" true))
        endEvents := mintResults.endEvents.map (·.map (Event.withMode "EndBlock" true)) } ∧
    Form.Denotes mintBlock.Form comet38.decodeBlock mintBlock := by
  have htext : mintResults.IsUtf8 := by
    intro event hevent a ha
    rw [show mintResults.events = [_, _, _] from rfl] at hevent
    simp only [List.mem_cons, List.not_mem_nil, or_false] at hevent
    rcases hevent with rfl | rfl | rfl
    · rw [List.mem_singleton.mp ha]
      exact ⟨⟨"amount", rfl⟩, "1", rfl⟩
    · rw [List.mem_singleton.mp ha]
      exact ⟨⟨"amount", rfl⟩, "2", rfl⟩
    · exact nomatch ha
  have htime : mintBlock.header.time.IsOrdinary := ⟨by decide, by decide, by decide⟩
  obtain ⟨h34, h37, h38, hblock⟩ := formsDenote mintResults mintBlock
  exact ⟨h34, h37 htext, h38 htext _ _ true rfl rfl (by decide), hblock htime (by decide) comet38⟩

end Protocol

end ChainFeed
