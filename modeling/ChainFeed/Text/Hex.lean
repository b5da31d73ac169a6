/-!
# Hexadecimal

Byte strings written with two digits a byte, high half first, in lower or upper case, and read
back with digits of either case.
-/

namespace ChainFeed.Hex

/-- The digit of a value below 16, lower case. -/
def digit (n : Nat) : Char :=
  if n < 10 then Char.ofNat (48 + n) else Char.ofNat (87 + n)

/-- The digit of a value below 16, upper case. -/
def upperDigit (n : Nat) : Char :=
  if n < 10 then Char.ofNat (48 + n) else Char.ofNat (55 + n)

/-- The value of a digit of either case. -/
def value? (c : Char) : Option Nat :=
  let n := c.toNat
  if 48 ≤ n && n ≤ 57 then some (n - 48)
  else if 97 ≤ n && n ≤ 102 then some (n - 87)
  else if 65 ≤ n && n ≤ 70 then some (n - 55)
  else none

/-- Writes bytes in lower case. -/
def encode (bytes : List UInt8) : String :=
  String.ofList (bytes.flatMap fun b => [digit (b.toNat / 16), digit (b.toNat % 16)])

/-- Writes bytes in upper case. -/
def encodeUpper (bytes : List UInt8) : String :=
  String.ofList (bytes.flatMap fun b => [upperDigit (b.toNat / 16), upperDigit (b.toNat % 16)])

/-- Reads an even number of digits. -/
def decodeChars? : List Char → Option (List UInt8)
  | [] => some []
  | [_] => none
  | high :: low :: rest =>
    match value? high, value? low, decodeChars? rest with
    | some h, some l, some bytes => some ((16 * h + l).toUInt8 :: bytes)
    | _, _, _ => none

/-- Reads a whole string of digits. -/
def decode? (s : String) : Option (List UInt8) :=
  decodeChars? s.toList

/-- The digits of a number, lower case, without leading zeros. -/
def ofNat (n : Nat) : String :=
  String.ofList (Nat.toDigits 16 n)

end ChainFeed.Hex
