import ChainFeed.Http.Basic
import ChainFeed.Text.Integer
import ChainFeed.Text.Split
import ChainFeed.Url.Basic

/-!
# HTTP messages

The bytes of a request, and what the bytes of a response mean once the server has closed the
connection. The body of a response ends where its header says, in chunks or by its length, and
otherwise with the connection.

## Main definitions

- `ChainFeed.Http.Request.encode`: the bytes of a request
- `ChainFeed.Http.Response.decode?`: the response that bytes hold
-/

namespace ChainFeed.Http

/-- The end of a line. -/
def newline : String :=
  String.ofList [Char.ofNat 13, Char.ofNat 10]

/-- What a request for a URL names: path and query. -/
def target (url : Url) : String :=
  Url.renderPath url.path ++ (url.query.map ("?" ++ ·)).getD ""

/-- Host and port of a URL. -/
def hostAndPort (url : Url) : String :=
  (url.host.map Host.render).getD "" ++ (url.port.map fun port => ":" ++ toString port).getD ""

/-- The bytes of a request for a URL, after which the connection is to be closed. -/
def Request.encode (request : Request) (url : Url) : List UInt8 :=
  let body := request.body.getD []
  let front := match request.body with
    | none => ["GET " ++ target url ++ " HTTP/1.1"]
    | some body => ["POST " ++ target url ++ " HTTP/1.1", "Content-Type: application/json",
        "Content-Length: " ++ toString body.length]
  let lines := front ++ ["Host: " ++ hostAndPort url, "Accept: */*", "Connection: close", "", ""]
  Utf8.encode (String.intercalate newline lines) ++ body

/-- The first line and what follows its end. -/
def cutLine? : List UInt8 → Option (List UInt8 × List UInt8)
  | 13 :: 10 :: rest => some ([], rest)
  | b :: rest => (cutLine? rest).map fun (line, rest) => (b :: line, rest)
  | [] => none

/-- Lines up to an empty one, and what follows it. -/
def headLines? : (fuel : Nat) → List UInt8 → Option (List String × List UInt8)
  | 0, _ => none
  | fuel + 1, bytes => do
    let (line, rest) ← cutLine? bytes
    if line.isEmpty then return ([], rest)
    else
      let (lines, rest) ← headLines? fuel rest
      return (Utf8.decodeLossy line :: lines, rest)

/-- The status that the first line of a response names. -/
def status? (line : String) : Option Nat :=
  match splitChars ' ' line.toList with
  | _ :: code :: _ => Integer.digits? code
  | _ => none

/-- The value of a header, whose name is given in small letters. -/
def header? (name : String) (lines : List String) : Option String :=
  lines.findSome? fun line =>
    match cut ':' line.toList with
    | (key, some value) =>
      if String.ofList (key.map Char.toLower) = name then
        some (String.ofList ((value.dropWhile (· = ' ')).reverse.dropWhile (· = ' ')).reverse)
      else none
    | _ => none

/-- The bytes of a body in chunks; the last chunk is empty. -/
def chunks? : (fuel : Nat) → List UInt8 → Option (List UInt8)
  | 0, _ => none
  | fuel + 1, bytes => do
    let (line, rest) ← cutLine? bytes
    let digits := (Utf8.decodeLossy line).toList.takeWhile fun c => (Hex.value? c).isSome
    let size ← if digits.isEmpty then none else Host.numeralFrom? 16 0 digits
    if size = 0 then return []
    else if rest.length < size + 2 then none
    else return rest.take size ++ (← chunks? fuel (rest.drop (size + 2)))

/-- The body that follows a header. -/
def body? (lines : List String) (rest : List UInt8) : Option (List UInt8) :=
  if (header? "transfer-encoding" lines).any (·.map Char.toLower = "chunked") then
    chunks? (rest.length + 1) rest
  else
    match header? "content-length" lines with
    | some length => do
      let length ← Integer.digits? length.toList
      if rest.length < length then none else return rest.take length
    | none => some rest

/-- The response that bytes hold. -/
def Response.decode? (bytes : List UInt8) : Option Response := do
  let (lines, rest) ← headLines? (bytes.length + 1) bytes
  let status ← status? (← lines.head?)
  return ⟨status, ← body? lines rest⟩

end ChainFeed.Http
