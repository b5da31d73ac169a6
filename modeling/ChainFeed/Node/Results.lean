import ChainFeed.Node.Protocol
import ChainFeed.Node.Reader

/-!
# Block results as nodes report them

A response is first read with its attributes as text, then the text is decoded as the protocol
version says: from base64, or as it stands. The newest version reports the events outside
transactions in one list; those with the attribute `mode` set to `BeginBlock` belong before the
transactions and the others behind them.

## Main definitions

- `ChainFeed.Node.WireResults`: a response as written
- `ChainFeed.Node.WireResults.normalize?`: decoding and splitting
- `ChainFeed.Protocol.decodeResults`: both steps
-/

namespace ChainFeed.Node

/-- An attribute as written. -/
structure WireAttribute where
  key : Option String
  value : Option String
  index : Bool

/-- An event as written. -/
structure WireEvent where
  kind : String
  attributes : List WireAttribute

/-- A transaction result as written; its own events are left aside. -/
structure WireTxResult where
  result : TxResult
  events : List WireEvent

/-- Block results as written. -/
structure WireResults where
  height : UInt64
  results : List WireTxResult
  beginEvents : Option (List WireEvent)
  endEvents : Option (List WireEvent)
  finalizeEvents : Option (List WireEvent)

namespace WireAttribute

/-- Reads an attribute. -/
def reader : Reader WireAttribute :=
  .record (WireAttribute.mk <$> .withDefault "key" none (.option .string) <*>
    .withDefault "value" none (.option .string) <*> .withDefault "index" false .bool)

/-- Decodes key and value; what is missing is empty. -/
def decode? (text : String → Option (List UInt8)) (a : WireAttribute) : Option Attribute := do
  let key ← text (a.key.getD "")
  let value ← text (a.value.getD "")
  return ⟨key, value, a.index⟩

end WireAttribute

namespace WireEvent

/-- Reads an event. -/
def reader : Reader WireEvent :=
  .record (WireEvent.mk <$> .required "type" .string <*>
    .withDefault "attributes" [] (.listOrEmpty WireAttribute.reader))

/-- Decodes the attributes. -/
def decode? (text : String → Option (List UInt8)) (event : WireEvent) : Option Event :=
  (event.attributes.mapM (WireAttribute.decode? text)).map (Event.mk event.kind)

end WireEvent

namespace WireTxResult

/-- Reads a transaction result. -/
def reader : Reader WireTxResult :=
  .record ((fun code codespace log info data gasWanted gasUsed events =>
      ⟨⟨code, codespace, log, info, data, gasWanted, gasUsed, []⟩, events⟩) <$>
    .withDefault "code" 0 .uint32OrZero <*> .withDefault "codespace" "" .stringOrEmpty <*>
    .withDefault "log" "" .stringOrEmpty <*> .withDefault "info" "" .stringOrEmpty <*>
    .withDefault "data" [] .base64OrEmpty <*> .withDefault "gas_wanted" 0 .int64OrZero <*>
    .withDefault "gas_used" 0 .int64OrZero <*>
    .withDefault "events" [] (.listOrEmpty WireEvent.reader))

/-- Decodes the events. -/
def decode? (text : String → Option (List UInt8)) (tx : WireTxResult) : Option TxResult :=
  (tx.events.mapM (WireEvent.decode? text)).map fun events => { tx.result with events }

end WireTxResult

/-- Whether an event happened before the transactions. -/
def isBeginEvent (event : Event) : Bool :=
  event.attributes.any fun a =>
    a.key = Utf8.encode "mode" && a.value = Utf8.encode "BeginBlock"

namespace WireResults

/-- Reads block results. -/
def reader : Reader WireResults :=
  .record (WireResults.mk <$> .required "height" .uint64Numeral <*>
    .withDefault "txs_results" [] (.listOrEmpty WireTxResult.reader) <*>
    .withDefault "begin_block_events" none (.option (.list WireEvent.reader)) <*>
    .withDefault "end_block_events" none (.option (.list WireEvent.reader)) <*>
    .withDefault "finalize_block_events" none (.option (.list WireEvent.reader)))

/-- Decodes events that may not have been reported. -/
def decodeEvents? (text : String → Option (List UInt8)) :
    Option (List WireEvent) → Option (Option (List Event))
  | none => some none
  | some events => (events.mapM (WireEvent.decode? text)).map some

/-- Puts the events of the common list behind those of their own lists. -/
def splitEvents (results : BlockResults) : Option (List Event) → BlockResults
  | none => results
  | some events =>
    { results with
      beginEvents := some (results.beginEvents.getD [] ++ events.filter isBeginEvent)
      endEvents := some (results.endEvents.getD [] ++ events.filter (!isBeginEvent ·)) }

/-- Decodes all attributes; with `split` the common list of events counts as well. -/
def normalize? (text : String → Option (List UInt8)) (split : Bool) (wire : WireResults) :
    Option BlockResults := do
  let results ← wire.results.mapM (WireTxResult.decode? text)
  let beginEvents ← decodeEvents? text wire.beginEvents
  let endEvents ← decodeEvents? text wire.endEvents
  let results : BlockResults := ⟨wire.height, results, beginEvents, endEvents⟩
  if split then
    let finalizeEvents ← decodeEvents? text wire.finalizeEvents
    return splitEvents results finalizeEvents
  else return results

end WireResults

end ChainFeed.Node

namespace ChainFeed.Protocol

/-- How an attribute's text stands for bytes. -/
def attributeBytes? : Protocol → String → Option (List UInt8)
  | .tendermint34, text => Base64.decode? text
  | _, text => some (Utf8.encode text)

/-- Reads a block results response of a node. -/
def decodeResults (protocol : Protocol) (value : Json) : Except DecodeError BlockResults :=
  match Node.WireResults.reader.response "block_results" value with
  | .error e => .error e
  | .ok wire =>
    match wire.normalize? protocol.attributeBytes? (protocol = .comet38) with
    | some results => .ok results
    | none => .error (.malformedResponse "block_results" "invalid base64 event attribute: <base64>")

end ChainFeed.Protocol
