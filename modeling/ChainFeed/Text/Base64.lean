/-!
# Base64

The standard alphabet with padding. Reading is strict: four characters at a time, padding only in
the last group, no other characters, and the bits that padding leaves over must be zero, so that
every byte string has one written form.
-/

namespace ChainFeed.Base64

/-- The character of a value below 64. -/
def symbol (n : Nat) : Char :=
  if n < 26 then Char.ofNat (65 + n)
  else if n < 52 then Char.ofNat (71 + n)
  else if n < 62 then Char.ofNat (n - 4)
  else if n = 62 then '+' else '/'

/-- The value of a character of the alphabet. -/
def value? (c : Char) : Option Nat :=
  let n := c.toNat
  if 65 ≤ n && n ≤ 90 then some (n - 65)
  else if 97 ≤ n && n ≤ 122 then some (n - 71)
  else if 48 ≤ n && n ≤ 57 then some (n + 4)
  else if c = '+' then some 62
  else if c = '/' then some 63
  else none

/-- Writes three bytes as four characters; a short last group is padded with `=`. -/
def encodeBytes : List UInt8 → List Char
  | [] => []
  | [a] =>
    let n := a.toNat
    [symbol (n / 4), symbol (n % 4 * 16), '=', '=']
  | [a, b] =>
    let n := a.toNat * 256 + b.toNat
    [symbol (n / 1024), symbol (n / 16 % 64), symbol (n % 16 * 4), '=']
  | a :: b :: c :: rest =>
    let n := (a.toNat * 256 + b.toNat) * 256 + c.toNat
    symbol (n / 262144) :: symbol (n / 4096 % 64) :: symbol (n / 64 % 64) :: symbol (n % 64) ::
      encodeBytes rest

/-- Writes bytes. -/
def encode (bytes : List UInt8) : String :=
  String.ofList (encodeBytes bytes)

/-- Reads groups of four characters; a padded group must be the last one. -/
def decodeChars? : List Char → Option (List UInt8)
  | [] => some []
  | a :: b :: c :: d :: rest =>
    match value? a, value? b with
    | some a, some b =>
      if c = '=' then
        if d = '=' && rest.isEmpty && b % 16 = 0 then some [(a * 4 + b / 16).toUInt8] else none
      else
        match value? c with
        | some c =>
          if d = '=' then
            if rest.isEmpty && c % 4 = 0 then
              some [(a * 4 + b / 16).toUInt8, (b % 16 * 16 + c / 4).toUInt8]
            else none
          else
            match value? d, decodeChars? rest with
            | some d, some bytes =>
              some ((a * 4 + b / 16).toUInt8 :: (b % 16 * 16 + c / 4).toUInt8 ::
                (c % 4 * 64 + d).toUInt8 :: bytes)
            | _, _ => none
        | none => none
    | _, _ => none
  | _ => none

/-- Reads a whole string. -/
def decode? (s : String) : Option (List UInt8) :=
  decodeChars? s.toList

end ChainFeed.Base64
