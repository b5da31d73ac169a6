import ChainFeed.Text.Hex
import ChainFeed.Text.Utf8

/-!
# Percent encoding

Bytes that must not stand in a part of a URL as they are become a percent sign and two digits. Which
bytes these are depends on the part; control characters and everything beyond ASCII always are.
-/

namespace ChainFeed.Percent

/-- Bytes that are encoded in every part. -/
def isControl (b : UInt8) : Bool :=
  b < 0x20 || 0x7E < b

/-- What is encoded in a fragment besides: blank, quote, angle brackets and grave accent. -/
def inFragment : List UInt8 :=
  [0x20, 0x22, 0x3C, 0x3E, 0x60]

/-- What is encoded in a query besides: blank, quote, angle brackets and number sign. -/
def inQuery : List UInt8 :=
  [0x20, 0x22, 0x23, 0x3C, 0x3E]

/-- What is encoded in the query of a special URL besides: also the apostrophe. -/
def inSpecialQuery : List UInt8 :=
  0x27 :: inQuery

/-- What is encoded in a path besides: also number sign, question mark and braces. -/
def inPath : List UInt8 :=
  inFragment ++ [0x23, 0x3F, 0x7B, 0x7D]

/-- What is encoded in user names and passwords besides: also the delimiters of a URL. -/
def inUserInfo : List UInt8 :=
  inPath ++ [0x2F, 0x3A, 0x3B, 0x3D, 0x40, 0x5B, 0x5C, 0x5D, 0x5E, 0x7C]

/-- One byte, encoded if it is among the given ones or always is. -/
def encodeByte (extra : List UInt8) (b : UInt8) : List Char :=
  if isControl b || extra.contains b then
    ['%', Hex.upperDigit (b.toNat / 16), Hex.upperDigit (b.toNat % 16)]
  else [Char.ofNat b.toNat]

/-- Encodes a text. -/
def encode (extra : List UInt8) (cs : List Char) : String :=
  String.ofList ((cs.flatMap Utf8.encodeChar).flatMap (encodeByte extra))

/-- Decodes every percent sign that two digits follow. -/
def decode : List UInt8 → List UInt8
  | 0x25 :: high :: low :: rest =>
    match Hex.value? (Char.ofNat high.toNat), Hex.value? (Char.ofNat low.toNat) with
    | some h, some l => (16 * h + l).toUInt8 :: decode rest
    | _, _ => 0x25 :: decode (high :: low :: rest)
  | b :: rest => b :: decode rest
  | [] => []

end ChainFeed.Percent
