import ChainFeed.Block.Content
import ChainFeed.Filter.Basic
import ChainFeed.Message.TypeUrl

/-!
# What filters accept

A filter that is left out accepts everything, and so does a list of filters without any.

The payload of a message is needed only for filters that name values or a contract call, and only
for messages that pass the other conditions, so accepting is split: what can be said without the
payload, and what the payload must be like.

Values are compared in the form of the filter: a number with a text as text, a text with a number as
number, two numbers by value.

## Main definitions

- `ChainFeed.BlockFilter.accepts`, `ChainFeed.TxFilter.accepts`
- `ChainFeed.MessageFilter.admits`, `ChainFeed.MessageFilter.needsPayload`,
  `ChainFeed.MessageFilter.acceptsPayload`
- `ChainFeed.Json.matchesFilterValue`: comparison of values
-/

namespace ChainFeed

/-- Whether a value of a payload has the value of a filter. -/
def Json.matchesFilterValue : (actual expected : Json) → Bool
  | .number actual, .string expected => actual.text = expected
  | .string actual, .number expected =>
    match Number.ofBytes? (Utf8.encode actual) with
    | some actual => actual.sameValue expected
    | none => false
  | .number actual, .number expected => actual.sameValue expected
  | actual, expected => actual.same expected

namespace BlockFilter

/-- The greatest number of seconds that a span of time may have. -/
def maxSpan : Nat :=
  9223372036854775

/-- The earliest time that is young enough, if there is a limit. A limit that reaches back beyond
the first instant, or that is no span of time, is none. -/
def cutoff? (filter : BlockFilter) (now : Instant) : Option Instant :=
  (filter.lookBackSecs.filter fun seconds => seconds.toNat ≤ maxSpan).bind fun seconds =>
    now.earlier? seconds.toNat

/-- Whether the time is young enough and the height divisible. Nothing is divisible by zero. -/
def accepts (filter : BlockFilter) (height : UInt64) (time now : Instant) : Bool :=
  !(filter.cutoff? now).any time.before &&
    filter.modulo.all fun modulo => modulo != 0 && height % modulo = 0

/-- Without a filter every block is accepted. -/
def acceptsWith (filter : Option BlockFilter) (height : UInt64) (time now : Instant) : Bool :=
  filter.all fun filter => filter.accepts height time now

/-- Whether some filter of a list accepts a block, or there are none. -/
def acceptsAny (filters : List BlockFilter) (height : UInt64) (time now : Instant) : Bool :=
  filters.isEmpty || filters.any fun filter => filter.accepts height time now

end BlockFilter

/-- Whether a transaction succeeded, or failed ones are included. -/
def TxFilter.accepts (filter : TxFilter) (tx : Transaction) : Bool :=
  filter.includeFailedTx.getD false || tx.isSuccess

/-- Without a filter, failed transactions are not included. -/
def TxFilter.acceptsWith (filter : Option TxFilter) (tx : Transaction) : Bool :=
  (filter.getD ⟨none⟩).accepts tx

namespace MessageFilter

/-- The contract call that counts: only contract executions have one. -/
def call? (filter : MessageFilter) : Option String :=
  filter.contractCall.filter fun _ => filter.kind = TypeUrl.executeContract

/-- The conditions that do not need the payload. -/
def admits (filter : MessageFilter) (message : Message) : Bool :=
  TxFilter.accepts ⟨filter.includeFailedTx⟩ message.tx && message.typeUrl = filter.kind

/-- Whether there are conditions on the payload. -/
def needsPayload (filter : MessageFilter) : Bool :=
  !(filter.values.getD []).isEmpty || filter.call?.isSome

/-- Whether a payload has a value at a path. -/
def hasValue (payload : Json) (path : String) (expected : Json) : Bool :=
  match payload.atPath? path with
  | some actual => actual.matchesFilterValue expected
  | none => false

/-- Whether a payload calls an entry point: the inner message is its name, or an object with a
member of its name. -/
def isCall (payload : Json) (call : String) : Bool :=
  match payload with
  | .object members =>
    match Members.get? "msg" members with
    | some (.string message) => message = call
    | some (.object message) => Members.contains call message
    | _ => false
  | _ => false

/-- The conditions on the payload. -/
def acceptsPayload (filter : MessageFilter) (payload : Json) : Bool :=
  (filter.values.getD []).all (fun (path, expected) => hasValue payload path expected) &&
    filter.call?.all (isCall payload)

end MessageFilter

namespace EventFilter

/-- Whether an event has an attribute. -/
def hasAttribute (event : TextEvent) (key value : String) : Bool :=
  event.attributes.any fun a => a.key = key && a.value = value

/-- The conditions on the attributes. -/
def acceptsAttributes (filter : EventFilter) (event : TextEvent) : Bool :=
  (filter.attributes.getD []).all fun (key, value) => hasAttribute event key value

end EventFilter

end ChainFeed
