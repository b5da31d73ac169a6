import ChainFeed.Url.Host

/-!
# URLs

A URL is read as browsers do, and written in its normal form: scheme and host in small letters, the
usual port of a scheme left out, dot segments of the path resolved, and everything that must not
stand as it is percent encoded. The schemes of the web are special: they always have a host and a
path, and a backslash counts as a slash in them.

## Main definitions

- `ChainFeed.Url`: a URL in parts
- `ChainFeed.Url.parse?`: the URL that a text stands for
- `ChainFeed.Url.render`: its normal text
-/

namespace ChainFeed

/-- The path of a URL. -/
inductive UrlPath where
  /-- A text that is not divided any further. -/
  | rootless (text : String)
  /-- Segments, each behind a slash. -/
  | segments (parts : List String)
  deriving DecidableEq, Repr

/-- A URL. -/
structure Url where
  scheme : String
  username : String
  password : String
  host : Option Host
  port : Option Nat
  path : UrlPath
  query : Option String
  fragment : Option String
  deriving DecidableEq, Repr

namespace Url

/-- The usual port of a special scheme. -/
def defaultPort? (scheme : String) : Option Nat :=
  [("http", 80), ("https", 443), ("ws", 80), ("wss", 443), ("ftp", 21)].lookup scheme

/-- Whether a scheme is special. -/
def isSpecial (scheme : String) : Bool :=
  scheme = "file" || (defaultPort? scheme).isSome

/-! ### Parts of the text -/

/-- Drops control characters and blanks at both ends, and line breaks and tabs everywhere. -/
def clean (cs : List Char) : List Char :=
  let trim (cs : List Char) := cs.dropWhile (·.toNat ≤ 0x20)
  (trim (trim cs).reverse).reverse.filter fun c =>
    c.toNat != 9 && c.toNat != 10 && c.toNat != 13

/-- Whether a character may stand in a scheme behind the first letter. -/
def isSchemeChar (c : Char) : Bool :=
  c.isAlphanum || c = '+' || c = '-' || c = '.'

/-- The scheme in small letters and what follows its colon. -/
def scheme? (cs : List Char) : Option (String × List Char) :=
  match cut ':' cs with
  | (first :: others, some rest) =>
    if first.isAlpha && others.all isSchemeChar then
      some (String.ofList ((first :: others).map Char.toLower), rest)
    else none
  | _ => none

/-- Whether a character divides a path. -/
def isSlash (special : Bool) (c : Char) : Bool :=
  c = '/' || (special && c.toNat = 0x5C)

/-! ### Paths -/

/-- Parts between slashes. -/
def splitPath (special : Bool) : List Char → List (List Char)
  | [] => [[]]
  | c :: rest =>
    if isSlash special c then [] :: splitPath special rest
    else
      match splitPath special rest with
      | first :: others => (c :: first) :: others
      | [] => [[c]]

/-- A segment with encoded dots as dots. -/
def plainDots : List Char → List Char
  | '%' :: '2' :: 'e' :: rest | '%' :: '2' :: 'E' :: rest => '.' :: plainDots rest
  | c :: rest => c :: plainDots rest
  | [] => []

/-- A letter with a colon or a bar. -/
def isDrive : List Char → Bool
  | [letter, mark] => letter.isAlpha && (mark = ':' || mark = '|')
  | _ => false

/-- Whether a segment stays when the next one goes up: it is a drive, or looks like one before a
backslash. -/
def isAnchor (segment : List Char) : Bool :=
  isDrive (segment.takeWhile (·.toNat != 0x5C))

/-- The path without its last segment, unless that one stays. -/
def shorten (path : List String) : List String :=
  if path.getLast?.any fun last => isAnchor last.toList then path else path.dropLast

/-- A segment as it is written; the drive of a file has a colon. -/
def segmentText (scheme : String) (path : List String) (segment : List Char) : String :=
  if scheme = "file" && path.isEmpty && isDrive segment then
    String.ofList (segment.take 1 ++ [':'])
  else Percent.encode Percent.inPath segment

/-- Resolves dot segments; `path` has the segments before. -/
def resolve (scheme : String) (path : List String) : List (List Char) → List String
  | [] => path
  | segment :: rest =>
    let closing := if rest.isEmpty then [""] else []
    if plainDots segment = ['.', '.'] then resolve scheme (shorten path ++ closing) rest
    else if plainDots segment = ['.'] then resolve scheme (path ++ closing) rest
    else resolve scheme (path ++ [segmentText scheme path segment]) rest

/-- The segments of a path. -/
def segmentsOf (scheme : String) (cs : List Char) : List String :=
  let special := isSpecial scheme
  match cs with
  | [] => if special then [""] else []
  | c :: rest =>
    resolve scheme [] (splitPath special (if isSlash special c then rest else c :: rest))

/-- A path without empty segments at its front; one segment is left. -/
def dropEmpty (path : List String) : List String :=
  match path.dropWhile (· = "") with
  | [] => [""]
  | path => path

/-! ### Authorities -/

/-- The host and what follows the first colon outside brackets. -/
def cutPort : (bracketed : Bool) → List Char → List Char × Option (List Char)
  | _, [] => ([], none)
  | bracketed, c :: rest =>
    if c = ':' && !bracketed then ([], some rest)
    else
      let (host, port) := cutPort (c = '[' || (bracketed && c != ']')) rest
      (c :: host, port)

/-- A port, if one is given that is not the usual one. -/
def port? (scheme : String) (cs : List Char) : Option (Option Nat) :=
  if cs.isEmpty then some none
  else do
    let port ← Host.numeralFrom? 10 0 cs
    if 65535 < port then none
    else return (some port).filter fun port => defaultPort? scheme != some port

/-- What an authority says. -/
structure Authority where
  username : String
  password : String
  host : Host
  port : Option Nat
  /-- What stands behind the port from a backslash on, which belongs to the path. -/
  surplus : List Char

/-- Reads an authority; `last` says that the URL ends with it. A host may be left out only in a URL
that is not special and gives neither user name, password nor port; an at sign without anything in
front needs something behind it, or the end. -/
def authority? (scheme : String) (last : Bool) (cs : List Char) : Option Authority := do
  let special := isSpecial scheme
  let (user, rest) := cutLast '@' cs
  let (name, password) := cut ':' (user.getD [])
  let password := password.getD []
  let (hostText, portText) := cutPort false rest
  let (digits, surplus) := (portText.getD []).span (·.toNat != 0x5C)
  let needed := special || portText.isSome || !name.isEmpty || !password.isEmpty ||
    (user = some [] && !last)
  if hostText.isEmpty && needed then none
  else
    let host ← Host.parse? special hostText
    let port ← port? scheme digits
    let encode := Percent.encode Percent.inUserInfo
    return ⟨encode name, encode password, host, port, surplus⟩

/-! ### Whole URLs -/

/-- What stands between the scheme and the query: user name, password, host, port and path. -/
structure Body where
  username : String
  password : String
  host : Option Host
  port : Option Nat
  path : UrlPath

/-- The body of a URL with an authority; `last` says that the URL ends with it. -/
def bodyWithAuthority? (scheme : String) (last : Bool) (cs : List Char) : Option Body := do
  let (text, path) := cs.span (!isSlash (isSpecial scheme) ·)
  let authority ← authority? scheme (last && path.isEmpty) text
  return ⟨authority.username, authority.password, some authority.host, authority.port,
    .segments (segmentsOf scheme (authority.surplus ++ path))⟩

/-- The body of a file URL with a host. A path that begins with a drive is on the machine itself. -/
def fileBodyOf (host : Host) (path : List Char) : Body :=
  let segments := segmentsOf "file" path
  let isLocal := host = .name "localhost" || segments.head?.any fun first => isDrive first.toList
  ⟨"", "", some (if isLocal then .name "" else host), none, .segments (dropEmpty segments)⟩

/-- The body of a file URL; its host is empty on the machine itself. -/
def fileBody? (cs : List Char) : Option Body :=
  match cs with
  | a :: b :: rest =>
    if isSlash true a && isSlash true b then
      let (host, path) := rest.span (!isSlash true ·)
      if host.isEmpty then some (fileBodyOf (.name "") path)
      else if isDrive host then some (fileBodyOf (.name "") rest)
      else (Host.parse? true host).map (fileBodyOf · path)
    else some (fileBodyOf (.name "") cs)
  | cs => some (fileBodyOf (.name "") cs)

/-- The body of a URL; `last` says that the URL ends with it. -/
def body? (scheme : String) (last : Bool) (cs : List Char) : Option Body :=
  if scheme = "file" then fileBody? cs
  else if isSpecial scheme then bodyWithAuthority? scheme last (cs.dropWhile (isSlash true))
  else
    match cs with
    | '/' :: '/' :: rest => bodyWithAuthority? scheme last rest
    | '/' :: _ => some ⟨"", "", none, none, .segments (segmentsOf scheme cs)⟩
    | cs => some ⟨"", "", none, none, .rootless (Percent.encode [] cs)⟩

/-- The URL that a text stands for. -/
def parse? (s : String) : Option Url := do
  let (scheme, rest) ← scheme? (clean s.toList)
  let (rest, fragment) := cut '#' rest
  let (rest, query) := cut '?' rest
  let body ← body? scheme (query.isNone && fragment.isNone) rest
  let inQuery := if isSpecial scheme then Percent.inSpecialQuery else Percent.inQuery
  return ⟨scheme, body.username, body.password, body.host, body.port, body.path,
    query.map (Percent.encode inQuery), fragment.map (Percent.encode Percent.inFragment)⟩

/-- User name and password as they stand before the host. -/
def renderUser (url : Url) : String :=
  if url.username = "" && url.password = "" then ""
  else if url.password = "" then url.username ++ "@"
  else url.username ++ ":" ++ url.password ++ "@"

/-- What stands between scheme and path. A path that would look like an authority is set off. -/
def renderAuthority (url : Url) : String :=
  match url.host, url.path with
  | some host, _ =>
    "//" ++ url.renderUser ++ host.render ++
      (url.port.map fun port => ":" ++ toString port).getD ""
  | none, .segments ("" :: _ :: _) => "/."
  | none, _ => ""

/-- A path. -/
def renderPath : UrlPath → String
  | .rootless text => text
  | .segments parts => String.join (parts.map ("/" ++ ·))

/-- The normal text of a URL. -/
def render (url : Url) : String :=
  url.scheme ++ ":" ++ url.renderAuthority ++ renderPath url.path ++
    (url.query.map ("?" ++ ·)).getD "" ++ (url.fragment.map ("#" ++ ·)).getD ""

/-- The normal text of a URL without slashes at its end. -/
def base (url : Url) : String :=
  String.ofList (url.render.toList.reverse.dropWhile (· = '/')).reverse

end Url

end ChainFeed
