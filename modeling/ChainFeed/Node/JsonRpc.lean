import ChainFeed.Http.Basic
import ChainFeed.Json.Printer
import ChainFeed.Json.Reader
import ChainFeed.Node.Call
import ChainFeed.Url.Basic

/-!
# Nodes over JSON-RPC

A question to a node is posted as a JSON object with a method and parameters. The response holds a
result, or an error in the words of the node.

## Main definitions

- `ChainFeed.JsonRpc.Reply`: a response that can be read
- `ChainFeed.JsonRpc.interpret`: what a response means
- `ChainFeed.JsonRpc.transport`: a transport over HTTP
-/

namespace ChainFeed.JsonRpc

/-- The body that is posted for a question. -/
def request (call : NodeCall) : Json :=
  .ofMembers [("jsonrpc", .string "2.0"), ("id", .nat 0), ("method", .string call.method),
    ("params", call.params)]

/-- What a node replies. -/
inductive Reply where
  | result (value : Json)
  | failure (text : String)

/-- Reads the error of a reply. -/
def errorReader : Reader String :=
  .record ((fun _ text _ => text) <$> .required "code" .int64 <*> .required "message" .string <*>
    .optional "data" .json)

/-- Reads a reply. -/
def replyReader : Reader Reply :=
  (Reader.record ((fun _ _ result failure => (result, failure)) <$> .optional "jsonrpc" .string <*>
    .required "id" .json <*> .withDefault "result" none (.map some .json) <*>
    .optional "error" errorReader)).filterMap fun
    | (_, some text) => some (.failure text)
    | (some value, none) => some (.result value)
    | (none, none) => none

/-- The answer that a response holds. Too many requests and answers that are too long have classes
of their own, an error of the node is sorted by its words, and everything else is a plain
failure. -/
def interpret (maxSize : Nat) : Option Http.Response → Except ConnectionError Json
  | none => .error ⟨.generic, Http.fault⟩
  | some response =>
    if response.status = 429 then .error ⟨.rateLimited, Http.fault⟩
    else if !response.isSuccess then .error ⟨.generic, Http.fault⟩
    else if maxSize < response.body.length then .error ⟨.oversizedResponse, Http.fault⟩
    else
      match replyReader.ofText response.body with
      | .ok (.result value) => .ok value
      | .ok (.failure text) => .error { ConnectionError.classify text with text := Http.fault }
      | .error _ => .error ⟨.generic, Http.fault⟩

variable {m : Type → Type} [Monad m]

/-- A transport over HTTP that takes responses of at most `maxSize` bytes. -/
def transport (exchange : Http.Exchange m) (url : Url) (maxSize : Nat) : Transport m := fun call =>
  ExceptT.mk do
    let response ← exchange ⟨url.render, some (Utf8.encode (request call).render)⟩
    return interpret maxSize response

/-- The schemes of URLs under which a node is reached. -/
def schemes : List String :=
  ["http", "https", "ws", "wss"]

/-- A transport for a URL, if its scheme is one under which nodes are reached. -/
def connect (exchange : Http.Exchange m) (url : Url) (maxSize : Nat) :
    Except ConnectionError (Transport m) :=
  if schemes.contains url.scheme then .ok (transport exchange url maxSize)
  else .error ⟨.generic, "unsupported rpc url scheme " ++ url.scheme⟩

end ChainFeed.JsonRpc
