import ChainFeed.Filter.Match
import ChainFeed.Message.Registry

/-!
# Working with a block

A session holds a block, a registry, and what has been decoded so far. A payload is decoded when it
is first asked for, and never again, whether decoding succeeded or not; filters ask for it only when
it decides.

## Main definitions

- `ChainFeed.Session`: a block in use
- `ChainFeed.Session.payload`: the payload of a message
- `ChainFeed.Session.acceptsMessage`, `ChainFeed.Session.acceptsEvent`: filters
-/

namespace ChainFeed

/-- A block in use. -/
structure Session where
  pair : BlockPair
  registry : Registry
  /-- The payloads that were decoded, by positions of transaction and message. -/
  decoded : List ((Nat × Nat) × Except DecodeError Json)
  /-- The messages whose decoder ran, in order. -/
  runs : List Message

namespace Session

/-- A block of which nothing has been decoded. -/
def ofPair (pair : BlockPair) (registry : Registry) : Session :=
  ⟨pair, registry, [], []⟩

/-- The place of a message in its block. -/
def place (message : Message) : Nat × Nat :=
  (message.tx.idx, message.idx)

/-- The payload of a message. -/
def payload (session : Session) (message : Message) : Except DecodeError Json × Session :=
  match session.decoded.lookup (place message) with
  | some result => (result, session)
  | none =>
    let result := session.registry.decode message.typeUrl message.value
    (result, { session with
      decoded := (place message, result) :: session.decoded
      runs := if session.registry.contains message.typeUrl then session.runs ++ [message]
        else session.runs })

/-- Whether a filter accepts a message. A payload that cannot be decoded is not accepted. -/
def acceptsMessage (session : Session) (filter : Option MessageFilter) (message : Message) :
    Bool × Session :=
  match filter with
  | none => (true, session)
  | some filter =>
    if !filter.admits message then (false, session)
    else if !filter.needsPayload then (true, session)
    else
      match session.payload message with
      | (.ok payload, session) => (filter.acceptsPayload payload, session)
      | (.error _, session) => (false, session)

/-- Whether a filter accepts an event. An event that no message emitted passes no filter of
messages. -/
def acceptsEvent (session : Session) (filter : Option EventFilter) (event : BlockEvent) :
    Bool × Session :=
  match filter with
  | none => (true, session)
  | some filter =>
    if event.event.kind != filter.kind then (false, session)
    else
      match filter.messageFilter, event.origin with
      | none, _ => (filter.acceptsAttributes event.event, session)
      | some _, none => (false, session)
      | some messageFilter, some origin =>
        match session.acceptsMessage (some messageFilter) origin.message with
        | (true, session) => (filter.acceptsAttributes event.event, session)
        | (false, session) => (false, session)

end Session

end ChainFeed
