import ChainFeed.Node.Protocol

/-!
# Connection errors

A transport says in words what went wrong. Its text is sorted into classes by the phrases it holds,
whatever the case of their letters; the first class with a phrase in the text counts.
-/

namespace ChainFeed

/-- What a caller may do about an error. -/
inductive ErrorKind where
  | timeout
  | connection
  | rateLimit
  | oversizedResponse
  | notFound
  | decode
  | validation
  | unknown
  deriving DecidableEq, Repr

/-- The classes of transport errors. -/
inductive ConnectionClass where
  | timeout
  | disconnected
  | rateLimited
  | oversizedResponse
  | generic
  deriving DecidableEq, Repr

/-- A transport error. -/
structure ConnectionError where
  category : ConnectionClass
  /-- The words of the transport. -/
  text : String
  deriving DecidableEq, Repr

namespace ConnectionClass

/-- The kind of a class. -/
def kind : ConnectionClass → ErrorKind
  | .timeout => .timeout
  | .disconnected => .connection
  | .rateLimited => .rateLimit
  | .oversizedResponse => .oversizedResponse
  | .generic => .unknown

/-- What is written before the transport's words. -/
def label : ConnectionClass → String
  | .timeout => "request timed out: "
  | .disconnected => "disconnected: "
  | .rateLimited => "rate limited: "
  | .oversizedResponse => "response too large: "
  | .generic => "connection error: "

/-- The phrases of each class, the classes in the order in which they are tried. -/
def phrases : List (ConnectionClass × List String) :=
  [(.rateLimited, ["429", "too many requests", "rate limit"]),
    (.oversizedResponse, ["too large", "too big", "exceeds", "max response size"]),
    (.timeout, ["timed out", "timeout", "deadline has elapsed"]),
    (.disconnected, ["connection closed", "disconnected", "restart required",
      "background task closed", "connection reset", "connection refused", "broken pipe"])]

end ConnectionClass

/-- The small letters of a character, as far as they matter for phrases of ASCII letters: of all
other characters only two have such a letter in their lower case. -/
def lowerChar (c : Char) : List Char :=
  if c.toNat = 0x212A then ['k']
  else if c.toNat = 0x0130 then ['i', Char.ofNat 0x0307]
  else [c.toLower]

/-- Whether a list occurs within another. -/
def occursIn (phrase : List Char) : List Char → Bool
  | [] => phrase.isEmpty
  | c :: rest => Protocol.startsWith phrase (c :: rest) || occursIn phrase rest

namespace ConnectionError

/-- The text of an error. -/
def message (e : ConnectionError) : String :=
  e.category.label ++ e.text

/-- The kind of an error. -/
def kind (e : ConnectionError) : ErrorKind :=
  e.category.kind

/-- Sorts a transport's words. -/
def classify (text : String) : ConnectionError :=
  let lower := text.toList.flatMap lowerChar
  let found := ConnectionClass.phrases.find? fun (_, phrases) =>
    phrases.any fun phrase => occursIn phrase.toList lower
  ⟨(found.map (·.1)).getD .generic, text⟩

end ConnectionError

end ChainFeed
