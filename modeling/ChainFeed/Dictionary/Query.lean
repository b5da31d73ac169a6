import ChainFeed.Filter.Basic
import ChainFeed.Json.Printer
import ChainFeed.Message.TypeUrl

/-!
# Dictionary queries

A dictionary indexes messages and events by type and payload, and finds the blocks that hold any. A
query entry selects elements of one entity by conditions that must all hold. The filter of a handler
is translated into conditions on what the dictionary stores, which ask for values and calls in one
form only: where a filter accepts others too, its entry passes over them. If some handler asks for
what the dictionary does not index, there are no entries and every block must be looked at.

## Main definitions

- `ChainFeed.QueryEntry`: one query
- `ChainFeed.QueryEntry.ofHandlers`: the queries of a list of handlers
-/

namespace ChainFeed

/-- How a condition compares. -/
inductive Matcher where
  /-- The field equals the value. -/
  | equalTo
  /-- The field contains the value. -/
  | contains
  deriving DecidableEq, Repr

/-- A condition on a field of an indexed element. -/
structure QueryCondition where
  field : String
  value : Json
  matcher : Matcher
  deriving Repr

/-- Conditions that must all hold of an element of an entity. -/
structure QueryEntry where
  entity : String
  conditions : List QueryCondition
  deriving Repr

namespace Matcher

/-- The name of a comparison. -/
def name : Matcher → String
  | .equalTo => "equalTo"
  | .contains => "contains"

/-- The comparison of a name. -/
def ofName? (name : String) : Option Matcher :=
  if name = "equalTo" then some .equalTo
  else if name = "contains" then some .contains
  else none

end Matcher

namespace QueryCondition

/-- Reads a condition. -/
def reader : Reader QueryCondition :=
  .record (QueryCondition.mk <$> .required "field" .string <*> .required "value" .json <*>
    .required "matcher" (.symbol Matcher.ofName?))

/-- Writes a condition. -/
def toJson (condition : QueryCondition) : Json :=
  .ofMembers [
    ("field", .string condition.field),
    ("value", condition.value),
    ("matcher", .string condition.matcher.name)]

end QueryCondition

namespace QueryEntry

/-- Reads an entry. -/
def reader : Reader QueryEntry :=
  .record (QueryEntry.mk <$> .required "entity" .string <*>
    .required "conditions" (.list QueryCondition.reader))

/-- Writes an entry. -/
def toJson (entry : QueryEntry) : Json :=
  .ofMembers [
    ("entity", .string entry.entity),
    ("conditions", .array (entry.conditions.map QueryCondition.toJson))]

/-- The text of an entry, by which entries are told apart. -/
def text (entry : QueryEntry) : String :=
  entry.toJson.render

/-- The conditions on a message that a filter may accept. The type is compared in `typeField`. -/
def messageConditions (typeField : String) (filter : MessageFilter) : List QueryCondition :=
  let values := (filter.values.getD []).map fun (path, value) =>
    ⟨"data", Json.nest path value, .contains⟩
  let call := (filter.contractCall.filter fun _ => filter.kind = TypeUrl.executeContract).toList.map
    fun call => ⟨"data", .object [("msg", .object [(call, .object [])])], .contains⟩
  ⟨typeField, .string filter.kind, .equalTo⟩ :: values ++ call

/-- The conditions on an event that a filter may accept. -/
def eventConditions (filter : EventFilter) : List QueryCondition :=
  ⟨"type", .string filter.kind, .equalTo⟩ ::
    (filter.messageFilter.toList.flatMap (messageConditions "msgType"))

/-- The entry of one handler, if the dictionary indexes what it asks for. -/
def ofHandler? : Handler → Option QueryEntry
  | .message (some filter) => some ⟨"messages", messageConditions "type" filter⟩
  | .event (some filter) => some ⟨"events", eventConditions filter⟩
  | _ => none

/-- Keeps the first of entries that are written alike. -/
def distinct : List QueryEntry → List QueryEntry
  | [] => []
  | entry :: rest => entry :: (distinct rest).filter fun other => other.text != entry.text

/-- The entries of a list of handlers, or none if some handler needs every block. -/
def ofHandlers (handlers : List Handler) : List QueryEntry :=
  match handlers.mapM ofHandler? with
  | some entries => distinct entries
  | none => []

end QueryEntry

end ChainFeed
