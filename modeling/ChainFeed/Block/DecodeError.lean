/-!
# Decoding errors

Why a message payload, a transaction or a response cannot be decoded. The cause is kept as text,
because a decoder may be anything.
-/

namespace ChainFeed

/-- Why bytes or a response cannot be decoded. -/
inductive DecodeError where
  /-- No decoder is registered for the type. -/
  | unknownType (typeUrl : String)
  /-- The decoder of the type refused the bytes. -/
  | malformedPayload (typeUrl cause : String)
  /-- A response does not have the expected form. -/
  | malformedResponse (response cause : String)
  deriving DecidableEq, Repr

/-- The text of an error. -/
def DecodeError.message : DecodeError → String
  | .unknownType typeUrl => "no decoder registered for type url " ++ typeUrl
  | .malformedPayload typeUrl cause => "failed to decode " ++ typeUrl ++ ": " ++ cause
  | .malformedResponse response cause => "malformed " ++ response ++ " response: " ++ cause

end ChainFeed
