import ChainFeed.Block.DecodeError
import ChainFeed.Json.Reader
import ChainFeed.Message.TypeUrl

/-!
# Contract messages

The messages that create, call and move contracts carry, as bytes, the JSON message for the
contract. Their payload shows it as the JSON value it is.
-/

namespace ChainFeed.Contract

/-- The bytes that an array of numbers or a string stands for; `none` for other values. -/
def bytesOf? : Json → Option (Option (List UInt8))
  | .array items => some (items.mapM fun
    | .number (.integer n) => if 0 ≤ n && n ≤ 255 then some n.toNat.toUInt8 else none
    | _ => none)
  | .string s => some (some (Utf8.encode s))
  | _ => none

/-- The JSON value that bytes hold; no bytes are the empty object. -/
def document (bytes : List UInt8) : Except String Json :=
  if bytes.isEmpty then .ok (.object [])
  else
    match Utf8.decode bytes with
    | .error fault => .error ("contract msg is not utf-8: " ++ fault.message)
    | .ok _ =>
      match Reader.json.ofText bytes with
      | .ok value => .ok value
      | .error fault => .error ("contract msg is not json: " ++ fault.message)

/-- Replaces the member `msg` of a payload by the JSON value it holds. -/
def readInner (payload : Json) : Except String Json :=
  match payload with
  | .object members =>
    match (Members.get? "msg" members).bind bytesOf? with
    | none => .ok payload
    | some none => .error "contract msg is not a byte array"
    | some (some bytes) =>
      (document bytes).map fun value => .object (Members.insert "msg" value members)
  | _ => .ok payload

end ChainFeed.Contract
