import ChainFeed.Json.Basic
import ChainFeed.Node.Connection

/-!
# Questions to a node

A node answers three questions: for its status, for the block at a height, and for the results of
that block. How it is reached does not matter here; a transport takes a question and gives an answer
or a transport error.
-/

namespace ChainFeed

/-- A question to a node. -/
inductive NodeCall where
  | status
  | block (height : UInt64)
  | blockResults (height : UInt64)
  deriving DecidableEq, Repr

namespace NodeCall

/-- The name of a question. -/
def method : NodeCall → String
  | status => "status"
  | block _ => "block"
  | blockResults _ => "block_results"

/-- The height that a question is about. -/
def height? : NodeCall → Option UInt64
  | status => none
  | block height | blockResults height => some height

/-- The parameters of a question; nodes take heights as strings. -/
def params (call : NodeCall) : Json :=
  .object (call.height?.toList.map fun height => ("height", .string (toString height)))

end NodeCall

/-- A way to put questions to a node. -/
abbrev Transport (m : Type → Type) := NodeCall → ExceptT ConnectionError m Json

end ChainFeed
