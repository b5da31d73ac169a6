import ChainFeed.Block.DecodeError
import ChainFeed.Block.Document
import ChainFeed.Text.Base64

/-!
# Readers for node responses

Nodes write large integers as decimal strings and leave out or nullify what is zero or empty.
-/

namespace ChainFeed.Reader

variable {α : Type}

/-- A number, written as such or as a string. -/
def numeral (number : Reader α) (ofText? : String → Option α) : Reader α
  | _, .string (some s) =>
    match ofText? s with
    | some n => .ok n
    | none => .error .malformed
  | depth, tree => number depth tree

/-- A number, written as such or as a string; null and the empty string mean the given one. -/
def numeralOr (default : α) (number : Reader α) (ofText? : String → Option α) : Reader α
  | _, .null => .ok default
  | _, .string (some "") => .ok default
  | depth, tree => numeral number ofText? depth tree

/-- A word of 64 bits, as a number or a string. -/
def uint64Numeral : Reader UInt64 :=
  numeral uint64 Integer.uint64?

/-- A word of 32 bits, as a number or a string. -/
def uint32Numeral : Reader UInt32 :=
  numeral uint32 Integer.uint32?

/-- A word of 64 bits that is zero if it is null or empty. -/
def uint64OrZero : Reader UInt64 :=
  numeralOr 0 uint64 Integer.uint64?

/-- A word of 32 bits that is zero if it is null or empty. -/
def uint32OrZero : Reader UInt32 :=
  numeralOr 0 uint32 Integer.uint32?

/-- A signed word of 64 bits that is zero if it is null or empty. -/
def int64OrZero : Reader Int64 :=
  numeralOr 0 int64 Integer.int64?

/-- A string that is empty if it is null. -/
def stringOrEmpty : Reader String :=
  orNull "" string

/-- A list that is empty if it is null. -/
def listOrEmpty (reader : Reader α) : Reader (List α) :=
  orNull [] (list reader)

/-- Bytes in base64, empty if null. -/
def base64OrEmpty : Reader (List UInt8) :=
  stringOrEmpty.filterMap Base64.decode?

/-- A list of byte strings in base64, empty if null. -/
def base64List : Reader (List (List UInt8)) :=
  (listOrEmpty string).filterMap fun texts => texts.mapM Base64.decode?

/-- Reads a node response; faults are those of the named response. -/
def response (name : String) (reader : Reader α) (value : Json) : Except DecodeError α :=
  match reader.ofJson value with
  | .ok result => .ok result
  | .error fault => .error (.malformedResponse name fault.message)

end ChainFeed.Reader
