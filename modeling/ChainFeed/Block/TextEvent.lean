import ChainFeed.Block.Document

/-!
# Events as text

Event attributes are bytes; handlers see them as text. Bytes that are not UTF-8 become replacement
characters. The events of one transaction are grouped by the message that emitted them.
-/

namespace ChainFeed

/-- An attribute as text. -/
structure TextAttribute where
  key : String
  value : String
  deriving DecidableEq, Repr

/-- An event as text. -/
structure TextEvent where
  kind : String
  attributes : List TextAttribute
  deriving DecidableEq, Repr

/-- The events of one message of a transaction. -/
structure MessageLog where
  /-- The position of the message in its transaction. -/
  msgIndex : UInt64
  events : List TextEvent
  deriving DecidableEq, Repr

namespace TextAttribute

/-- An attribute's bytes as text. -/
def ofAttribute (a : Attribute) : TextAttribute :=
  ⟨Utf8.decodeLossy a.key, Utf8.decodeLossy a.value⟩

/-- Reads an attribute; the value may be missing. -/
def reader : Reader TextAttribute :=
  .record (TextAttribute.mk <$> .required "key" .string <*> .withDefault "value" "" .string)

/-- Writes an attribute. -/
def toJson (a : TextAttribute) : Json :=
  .ofMembers [("key", .string a.key), ("value", .string a.value)]

end TextAttribute

namespace TextEvent

/-- An event with its attributes as text. -/
def ofEvent (event : Event) : TextEvent :=
  ⟨event.kind, event.attributes.map .ofAttribute⟩

/-- The value of the first attribute of a name. -/
def attribute? (event : TextEvent) (key : String) : Option String :=
  (event.attributes.find? (·.key = key)).map (·.value)

/-- Reads an event; the attributes may be missing. -/
def reader : Reader TextEvent :=
  .record (TextEvent.mk <$> .required "type" .string <*>
    .withDefault "attributes" [] (.list TextAttribute.reader))

/-- Writes an event. -/
def toJson (event : TextEvent) : Json :=
  .ofMembers [
    ("type", .string event.kind),
    ("attributes", .array (event.attributes.map TextAttribute.toJson))]

end TextEvent

namespace MessageLog

/-- Reads the events of a message; both members may be missing. -/
def reader : Reader MessageLog :=
  .record (MessageLog.mk <$> .withDefault "msg_index" 0 .uint64 <*>
    .withDefault "events" [] (.list TextEvent.reader))

/-- Writes the events of a message. -/
def toJson (log : MessageLog) : Json :=
  .ofMembers [
    ("msg_index", .nat log.msgIndex.toNat),
    ("events", .array (log.events.map TextEvent.toJson))]

end MessageLog

end ChainFeed
