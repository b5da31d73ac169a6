/-!
# The wire format of protocol buffers

A message is a sequence of records, each a key and a payload. A key is a varint that holds a field
number and the shape of the payload; a varint has seven bits in each byte, the lowest first, and a
continuation bit in all bytes but the last.

Readers take the bytes that are left and return what they read and the bytes behind it.

## Main definitions

- `ChainFeed.WireType`: the shapes of payloads
- `ChainFeed.Wire.Fault`: what can be wrong with bytes
- `ChainFeed.Wire.varint?`, `ChainFeed.Wire.readKey`, `ChainFeed.Wire.split?`: the readers
-/

namespace ChainFeed

/-- The shape of a payload. -/
inductive WireType where
  | varint
  | sixtyFourBit
  | lengthDelimited
  | startGroup
  | endGroup
  | thirtyTwoBit
  deriving DecidableEq, Repr

namespace WireType

/-- The name of a shape in error texts. -/
def name : WireType → String
  | .varint => "Varint"
  | .sixtyFourBit => "SixtyFourBit"
  | .lengthDelimited => "LengthDelimited"
  | .startGroup => "StartGroup"
  | .endGroup => "EndGroup"
  | .thirtyTwoBit => "ThirtyTwoBit"

/-- The shape that the low bits of a key stand for. -/
def ofNat? : Nat → Option WireType
  | 0 => some .varint
  | 1 => some .sixtyFourBit
  | 2 => some .lengthDelimited
  | 3 => some .startGroup
  | 4 => some .endGroup
  | 5 => some .thirtyTwoBit
  | _ => none

end WireType

namespace Wire

/-- What can be wrong with the bytes of a message. -/
inductive Fault where
  | invalidVarint
  | invalidKey (key : Nat)
  | invalidWireType (value : Nat)
  | invalidNumber
  | wireTypeMismatch (found expected : WireType)
  | underflow
  | lengthExceeded
  | notUtf8
  | unexpectedEndGroup
  | recursionLimit
  deriving DecidableEq, Repr

/-- The text of a fault. -/
def Fault.message : Fault → String
  | .invalidVarint => "invalid varint"
  | .invalidKey key => "invalid key value: " ++ toString key
  | .invalidWireType value => "invalid wire type value: " ++ toString value
  | .invalidNumber => "invalid tag value: 0"
  | .wireTypeMismatch found expected =>
    "invalid wire type: " ++ found.name ++ " (expected " ++ expected.name ++ ")"
  | .underflow => "buffer underflow"
  | .lengthExceeded => "delimited length exceeded"
  | .notUtf8 => "invalid string value: data is not UTF-8 encoded"
  | .unexpectedEndGroup => "unexpected end group tag"
  | .recursionLimit => "recursion limit reached"

/-- What is written before the text of a fault. -/
def faultLabel : String :=
  "failed to decode Protobuf message: "

/-- A varint of at most `room` bytes, below `2 ^ 64`: the tenth byte may only be 0 or 1. -/
def varintWithin? : (room : Nat) → List UInt8 → Option (Nat × List UInt8)
  | 0, _ => none
  | _ + 1, [] => none
  | room + 1, b :: rest =>
    if b < 128 then if room = 0 && 1 < b then none else some (b.toNat, rest)
    else (varintWithin? room rest).map fun (n, rest) => (b.toNat - 128 + 128 * n, rest)

/-- A varint. -/
def varint? (bytes : List UInt8) : Option (Nat × List UInt8) :=
  varintWithin? 10 bytes

/-- A varint, or the fault that it is not one. -/
def readVarint (bytes : List UInt8) : Except Fault (Nat × List UInt8) :=
  (varint? bytes).elim (.error .invalidVarint) .ok

/-- A key: a field number from 1 on and the shape of the payload. -/
def readKey (bytes : List UInt8) : Except Fault ((Nat × WireType) × List UInt8) :=
  match varint? bytes with
  | none => .error .invalidVarint
  | some (key, rest) =>
    if 4294967295 < key then .error (.invalidKey key)
    else
      match WireType.ofNat? (key % 8) with
      | none => .error (.invalidWireType (key % 8))
      | some wireType =>
        if key / 8 = 0 then .error .invalidNumber else .ok ((key / 8, wireType), rest)

/-- The first `n` bytes and the others, if there are as many. -/
def split? (n : Nat) (bytes : List UInt8) : Option (List UInt8 × List UInt8) :=
  if n ≤ bytes.length then some (bytes.take n, bytes.drop n) else none

/-- The number that bytes stand for, the lowest first. -/
def littleEndian : List UInt8 → Nat
  | [] => 0
  | b :: rest => b.toNat + 256 * littleEndian rest

/-- The signed number that the low `bits` bits of a number stand for. -/
def lowSigned (bits n : Nat) : Int :=
  Int.bmod n (Nat.pow 2 bits)

/-- Undoes the zigzag order `0, -1, 1, -2, …`. -/
def unzigzag (n : Nat) : Int :=
  if n % 2 = 0 then (n / 2 : Nat) else -((n / 2 : Nat) + 1)

end Wire

end ChainFeed
