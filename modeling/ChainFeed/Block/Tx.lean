import ChainFeed.Block.DecodeError
import ChainFeed.Message.Builtin

/-!
# Transaction envelopes

A transaction is stored as three byte strings: its body, what authorizes it, and its signatures. The
body holds messages, each a type url and bytes.

## Main definitions

- `ChainFeed.Tx`: a decoded transaction
- `ChainFeed.Tx.decode`: decoding
-/

namespace ChainFeed

/-- A message of a transaction, not decoded. -/
structure AnyMessage where
  typeUrl : String
  value : List UInt8
  deriving DecidableEq, Repr

/-- An amount of one denomination. -/
structure Coin where
  denom : String
  amount : String
  deriving DecidableEq, Repr

/-- What a transaction pays. -/
structure Fee where
  amount : List Coin
  gasLimit : UInt64
  payer : String
  granter : String
  deriving DecidableEq, Repr

/-- What authorizes a transaction: the sequence number of each signer, and the fee. -/
structure AuthInfo where
  sequences : List UInt64
  fee : Option Fee
  deriving DecidableEq, Repr

/-- A decoded transaction. -/
structure Tx where
  messages : List AnyMessage
  memo : String
  /-- The last height at which the transaction is valid, or zero. -/
  timeoutHeight : UInt64
  authInfo : AuthInfo
  signatures : List (List UInt8)
  deriving DecidableEq, Repr

/-! ### Layouts -/

namespace Layout

/-- The envelope. -/
def txRaw : Layout :=
  .mk "TxRaw" [single 1 "body_bytes" .bytes, single 2 "auth_info_bytes" .bytes,
    repeated 3 "signatures" .bytes]

/-- A message with its type. -/
def anyMessage : Layout :=
  .mk "Any" [single 1 "type_url" .text, single 2 "value" .bytes]

/-- The body. -/
def txBody : Layout :=
  .mk "TxBody" [repeated 1 "messages" (.message anyMessage), single 2 "memo" .text,
    single 3 "timeout_height" .uint64]

/-- One signer. -/
def signerInfo : Layout :=
  .mk "SignerInfo" [single 3 "sequence" .uint64]

/-- The fee. -/
def fee : Layout :=
  .mk "Fee" [repeated 1 "amount" (.message coin), single 2 "gas_limit" .uint64,
    single 3 "payer" .text, single 4 "granter" .text]

/-- The authorization. -/
def authInfo : Layout :=
  .mk "AuthInfo" [repeated 1 "signer_infos" (.message signerInfo), single 2 "fee" (.message fee)]

end Layout

/-! ### Values -/

namespace FieldValue

/-- The text of a text field. -/
def toText : FieldValue → String
  | .text s => s
  | _ => ""

/-- The bytes of a bytes field. -/
def toBytes : FieldValue → List UInt8
  | .bytes bs => bs
  | _ => []

/-- The word of a field of 64 bits. -/
def toUInt64 : FieldValue → UInt64
  | .uint64 n => n
  | _ => 0

/-- The items of a repeated field. -/
def toItems : FieldValue → List FieldValue
  | .list items => items
  | _ => []

/-- The fields of a message. -/
def toFields : FieldValue → List FieldValue
  | .message fields => fields
  | _ => []

/-- The fields of a message that may not occur. -/
def toFields? : FieldValue → Option (List FieldValue)
  | .message fields => some fields
  | _ => none

end FieldValue

/-- The value of a field by position. -/
def FieldValue.at (fields : List FieldValue) (i : Nat) : FieldValue :=
  fields.getD i .absent

/-- A message from its fields. -/
def AnyMessage.ofFields (fields : List FieldValue) : AnyMessage :=
  ⟨(FieldValue.at fields 0).toText, (FieldValue.at fields 1).toBytes⟩

/-- A coin from its fields. -/
def Coin.ofFields (fields : List FieldValue) : Coin :=
  ⟨(FieldValue.at fields 0).toText, (FieldValue.at fields 1).toText⟩

/-- A fee from its fields. -/
def Fee.ofFields (fields : List FieldValue) : Fee :=
  ⟨(FieldValue.at fields 0).toItems.map fun coin => .ofFields coin.toFields,
    (FieldValue.at fields 1).toUInt64, (FieldValue.at fields 2).toText,
    (FieldValue.at fields 3).toText⟩

/-- An authorization from its fields. -/
def AuthInfo.ofFields (fields : List FieldValue) : AuthInfo :=
  ⟨(FieldValue.at fields 0).toItems.map fun signer => (FieldValue.at signer.toFields 0).toUInt64,
    (FieldValue.at fields 1).toFields?.map .ofFields⟩

/-! ### JSON -/

/-- Writes a coin. -/
def Coin.toJson (coin : Coin) : Json :=
  .ofMembers [("denom", .string coin.denom), ("amount", .string coin.amount)]

/-- Writes a fee. -/
def Fee.toJson (fee : Fee) : Json :=
  .ofMembers [
    ("amount", .array (fee.amount.map Coin.toJson)),
    ("gas_limit", .nat fee.gasLimit.toNat),
    ("payer", .string fee.payer),
    ("granter", .string fee.granter)]

/-- Writes an authorization. -/
def AuthInfo.toJson (info : AuthInfo) : Json :=
  .ofMembers [
    ("signer_infos", .array (info.sequences.map fun n => .object [("sequence", .nat n.toNat)])),
    ("fee", .optional Fee.toJson info.fee)]

/-! ### Decoding -/

namespace Tx

/-- The type url under which faults of envelopes are reported. -/
def typeUrl : String :=
  "/cosmos.tx.v1beta1.Tx"

/-- Decodes a part of an envelope. -/
def decodePart (layout : Layout) (bytes : List UInt8) : Except DecodeError (List FieldValue) :=
  (layout.decode bytes).mapError fun e => .malformedPayload typeUrl e.message

/-- Decodes a transaction: the envelope, then the body, then the authorization. -/
def decode (raw : List UInt8) : Except DecodeError Tx := do
  let envelope ← decodePart .txRaw raw
  let body ← decodePart .txBody (FieldValue.at envelope 0).toBytes
  let auth ← decodePart .authInfo (FieldValue.at envelope 1).toBytes
  return {
    messages := (FieldValue.at body 0).toItems.map fun message => .ofFields message.toFields
    memo := (FieldValue.at body 1).toText
    timeoutHeight := (FieldValue.at body 2).toUInt64
    authInfo := .ofFields auth
    signatures := (FieldValue.at envelope 2).toItems.map FieldValue.toBytes }

end Tx

end ChainFeed
