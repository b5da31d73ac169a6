import ChainFeed.Archive.Error

/-!
# Errors of a feed
-/

namespace ChainFeed

/-- Why a feed gives no blocks. -/
inductive FetchError where
  /-- The node was not reached. -/
  | connection (source : ConnectionError)
  /-- A response of the node cannot be read. -/
  | decode (source : DecodeError)
  /-- A block and its results do not fit together. -/
  | validation (source : ValidationError)
  /-- The archive failed. -/
  | archive (source : ArchiveError)
  /-- All attempts failed, the last one with this error. -/
  | retriesExhausted (attempts : Nat) (source : FetchError)
  deriving DecidableEq, Repr

namespace FetchError

/-- The text of an error. -/
def message : FetchError → String
  | connection source => "failed to query the node: " ++ source.message
  | decode source => "failed to decode node response: " ++ source.message
  | validation source => "invalid block: " ++ source.message
  | archive source => "archive fetch failed: " ++ source.message
  | retriesExhausted attempts source =>
    "giving up after " ++ toString attempts ++ " attempts: " ++ source.message

/-- The kind of an error; that of exhausted attempts is the kind of the last one. -/
def kind : FetchError → ErrorKind
  | connection source => source.kind
  | decode _ => .decode
  | validation _ => .validation
  | archive source => source.kind
  | retriesExhausted _ source => source.kind

/-- Whether another attempt would meet the same error again. -/
def isFinal : FetchError → Bool
  | validation _ => true
  | _ => false

end FetchError

end ChainFeed
