/-!
# Protocol versions

Nodes report the same data in three forms, which differ in how event attributes are written and in
where the events outside transactions stand. The version that a node reports selects the form.
-/

namespace ChainFeed

/-- The form in which a node reports blocks. -/
inductive Protocol where
  /-- Attributes are written in base64. -/
  | tendermint34
  /-- Attributes are plain text. -/
  | tendermint37
  /-- Attributes are plain text, and events outside transactions stand in one list. -/
  | comet38
  deriving DecidableEq, Repr

namespace Protocol

/-- Whether the first list is the front of the second. -/
def startsWith : List Char → List Char → Bool
  | [], _ => true
  | _ :: _, [] => false
  | a :: as, b :: bs => a = b && startsWith as bs

/-- The form that belongs to a node version, which may be written with a `v` in front. Versions
that are not known count as the oldest. -/
def detect (nodeVersion : String) : Protocol :=
  let version := nodeVersion.toList.dropWhile (· = 'v')
  if startsWith "0.37.".toList version then .tendermint37
  else if startsWith "0.38.".toList version || startsWith "1.".toList version then .comet38
  else .tendermint34

end Protocol

end ChainFeed
