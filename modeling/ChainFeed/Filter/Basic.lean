import ChainFeed.Json.Reader

/-!
# Filters

A handler asks for blocks, transactions, messages or events, and may narrow each with a filter. The
filters are written as JSON, and every part of them but the types of messages and events may be left
out; what is left out is not written either.

## Main definitions

- `ChainFeed.BlockFilter`, `ChainFeed.TxFilter`, `ChainFeed.MessageFilter`,
  `ChainFeed.EventFilter`: the filters
- `ChainFeed.Handler`: a filter with what it is for
-/

namespace ChainFeed

/-- Narrows blocks. -/
structure BlockFilter where
  /-- Only heights divisible by this. -/
  modulo : Option UInt64
  /-- Only blocks at most this many seconds old. -/
  lookBackSecs : Option UInt64
  deriving DecidableEq, Repr

/-- Narrows transactions. -/
structure TxFilter where
  /-- Failed transactions, too. -/
  includeFailedTx : Option Bool
  deriving DecidableEq, Repr

/-- Narrows messages. -/
structure MessageFilter where
  /-- The type url. -/
  kind : String
  /-- Values that the payload must have at dotted paths. -/
  values : Option (Members Json)
  /-- The entry point of a contract execution. -/
  contractCall : Option String
  /-- Messages of failed transactions, too. -/
  includeFailedTx : Option Bool
  deriving Repr

/-- Narrows events. -/
structure EventFilter where
  /-- The event type. -/
  kind : String
  /-- A filter for the message that emitted the event. -/
  messageFilter : Option MessageFilter
  /-- Attributes that the event must have. -/
  attributes : Option (Members String)
  deriving Repr

/-- What a handler asks for. -/
inductive Handler where
  | block (filter : Option BlockFilter)
  | transaction (filter : Option TxFilter)
  | message (filter : Option MessageFilter)
  | event (filter : Option EventFilter)
  deriving Repr

/-- A member that is written only if it has a value. -/
def Json.memberIf {α : Type} (name : String) (f : α → Json) (value : Option α) :
    List (String × Json) :=
  (value.map fun x => (name, f x)).toList

namespace BlockFilter

/-- Reads a block filter. -/
def reader : Reader BlockFilter :=
  .record (BlockFilter.mk <$> .withDefault "modulo" none (.option .uint64) <*>
    .withDefault "lookBackSecs" none (.option .uint64))

/-- Writes a block filter. -/
def toJson (filter : BlockFilter) : Json :=
  .ofMembers (Json.memberIf "modulo" (fun n => .nat n.toNat) filter.modulo ++
    Json.memberIf "lookBackSecs" (fun n => .nat n.toNat) filter.lookBackSecs)

end BlockFilter

namespace TxFilter

/-- Reads a transaction filter. -/
def reader : Reader TxFilter :=
  .record (TxFilter.mk <$> .withDefault "includeFailedTx" none (.option .bool))

/-- Writes a transaction filter. -/
def toJson (filter : TxFilter) : Json :=
  .ofMembers (Json.memberIf "includeFailedTx" .bool filter.includeFailedTx)

end TxFilter

namespace MessageFilter

/-- Reads a message filter. -/
def reader : Reader MessageFilter :=
  .record (MessageFilter.mk <$> .required "type" .string <*>
    .withDefault "values" none (.option (.members .json)) <*>
    .withDefault "contractCall" none (.option .string) <*>
    .withDefault "includeFailedTx" none (.option .bool))

/-- Writes a message filter. -/
def toJson (filter : MessageFilter) : Json :=
  .ofMembers (("type", .string filter.kind) :: Json.memberIf "values" .object filter.values ++
    Json.memberIf "contractCall" .string filter.contractCall ++
    Json.memberIf "includeFailedTx" .bool filter.includeFailedTx)

end MessageFilter

namespace EventFilter

/-- Writes attributes. -/
def attributesToJson (attributes : Members String) : Json :=
  .object (attributes.map fun (key, value) => (key, .string value))

/-- Reads an event filter. -/
def reader : Reader EventFilter :=
  .record (EventFilter.mk <$> .required "type" .string <*>
    .withDefault "messageFilter" none (.option MessageFilter.reader) <*>
    .withDefault "attributes" none (.option (.members .string)))

/-- Writes an event filter. -/
def toJson (filter : EventFilter) : Json :=
  .ofMembers (("type", .string filter.kind) ::
    Json.memberIf "messageFilter" MessageFilter.toJson filter.messageFilter ++
    Json.memberIf "attributes" attributesToJson filter.attributes)

end EventFilter

namespace Reader

variable {α : Type}

/-- A record with a single field `filter`, which may be missing. -/
def filterOnly (reader : Reader α) : Reader (Option α) :=
  .record (.withDefault "filter" none (.option reader))

/-- Reads all members of a tagged record before any of them is understood: the tag by its own
reader, where it stands, the others as any values. Gives the tag and the other members. -/
def tagAndRest (tagName : String) (tag : Reader α) (depth : Nat) :
    List (Option String × Document) →
      Except ReadFault (Option α × List (Option String × Document))
  | [] => .ok (none, [])
  | (none, _) :: _ => .error .malformed
  | (some key, tree) :: rest =>
    if key = tagName then
      match tag depth tree with
      | .error fault => .error fault
      | .ok value =>
        match tagAndRest tagName tag depth rest with
        | .error fault => .error fault
        | .ok (none, others) => .ok (some value, others)
        | .ok (some _, _) => .error .malformed
    else
      match json depth tree with
      | .error fault => .error fault
      | .ok _ => (tagAndRest tagName tag depth rest).map fun (found, others) =>
        (found, (some key, tree) :: others)

/-- A record whose member `tagName` says of which kind it is, and the other members of which are
read accordingly. As an array it has the tag in front. -/
def tagged {τ : Type} (tagName : String) (tag : Reader τ) (body : τ → Reader α) : Reader α
  | depth + 1, .object trees closed =>
    match tagAndRest tagName tag depth trees with
    | .error fault => .error fault
    | .ok (found, others) =>
      match found, closed with
      | _, false => .error .malformed
      | none, true => .error (.missingField tagName)
      | some value, true => body value (depth + 1) (.object others true)
  | depth + 1, .array trees closed =>
    match trees with
    | [] => .error (if closed then .missingField tagName else .malformed)
    | first :: others =>
      match tag depth first with
      | .error fault => .error fault
      | .ok value =>
        match jsonItems depth others with
        | .error fault => .error fault
        | .ok _ =>
          if closed then body value (depth + 1) (.array others true) else .error .malformed
  | _, _ => .error .malformed

end Reader

namespace Handler

/-- What a handler's filter is for. -/
inductive Kind where
  | block
  | transaction
  | message
  | event

/-- Reads the kind of a handler. -/
def Kind.reader : Reader Kind :=
  Reader.string.filterMap fun name =>
    if name = "block" then some .block
    else if name = "transaction" then some .transaction
    else if name = "message" then some .message
    else if name = "event" then some .event
    else none

/-- Reads the filter of a handler of a kind. -/
def bodyReader : Kind → Reader Handler
  | .block => (Reader.filterOnly BlockFilter.reader).map .block
  | .transaction => (Reader.filterOnly TxFilter.reader).map .transaction
  | .message => (Reader.filterOnly MessageFilter.reader).map .message
  | .event => (Reader.filterOnly EventFilter.reader).map .event

/-- Reads a handler. -/
def reader : Reader Handler :=
  .tagged "kind" Kind.reader bodyReader

/-- Writes a handler. -/
def toJson : Handler → Json
  | .block filter =>
    .ofMembers (("kind", .string "block") :: Json.memberIf "filter" BlockFilter.toJson filter)
  | .transaction filter =>
    .ofMembers (("kind", .string "transaction") :: Json.memberIf "filter" TxFilter.toJson filter)
  | .message filter =>
    .ofMembers (("kind", .string "message") :: Json.memberIf "filter" MessageFilter.toJson filter)
  | .event filter =>
    .ofMembers (("kind", .string "event") :: Json.memberIf "filter" EventFilter.toJson filter)

end Handler

end ChainFeed
