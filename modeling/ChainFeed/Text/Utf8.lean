/-!
# UTF-8

Bytes read as text and text written as bytes. One step of reading either yields a character and
the bytes behind it, or says how many bytes cannot be part of any character, or that the input
ends inside one. Strict reading fails at the first bad step and names its place; lossy reading
puts one replacement character in its stead.

## Main definitions

- `ChainFeed.Utf8.step`: the first character of a byte list, or what is wrong with it
- `ChainFeed.Utf8.decode`: strict reading, with the fault and its place
- `ChainFeed.Utf8.decodeLossy`: reading that never fails
- `ChainFeed.Utf8.encode`: the bytes of a string
-/

namespace ChainFeed.Utf8

/-- What stands at the front of a byte list. -/
inductive Step where
  /-- A whole character, and the bytes behind it. -/
  | char (c : Char) (rest : List UInt8)
  /-- The first `length` bytes belong to no character. -/
  | invalid (length : Nat)
  /-- The bytes end before the character they start is complete. -/
  | incomplete

/-- A continuation byte, `10xxxxxx`. -/
def isTail (b : UInt8) : Bool :=
  0x80 ≤ b && b ≤ 0xBF

/-- Whether `b` may be the second byte of a three-byte character that starts with `a`: it excludes
overlong forms and surrogates. -/
def isSecondOfThree (a b : UInt8) : Bool :=
  if a = 0xE0 then 0xA0 ≤ b && b ≤ 0xBF
  else if a = 0xED then 0x80 ≤ b && b ≤ 0x9F
  else isTail b

/-- Whether `b` may be the second byte of a four-byte character that starts with `a`: it excludes
overlong forms and values above the last code point. -/
def isSecondOfFour (a b : UInt8) : Bool :=
  if a = 0xF0 then 0x90 ≤ b && b ≤ 0xBF
  else if a = 0xF4 then 0x80 ≤ b && b ≤ 0x8F
  else isTail b

/-- The low six bits of a continuation byte. -/
def tailBits (b : UInt8) : Nat :=
  b.toNat % 64

/-- Reads one character. A byte that starts no character is invalid by itself; a character broken
off by a byte that does not continue it is invalid up to that byte. -/
def step : List UInt8 → Step
  | [] => .incomplete
  | a :: rest =>
    if a < 0x80 then .char (Char.ofNat a.toNat) rest
    else if 0xC2 ≤ a && a ≤ 0xDF then
      match rest with
      | [] => .incomplete
      | b :: rest =>
        if isTail b then .char (Char.ofNat (a.toNat % 32 * 64 + tailBits b)) rest
        else .invalid 1
    else if 0xE0 ≤ a && a ≤ 0xEF then
      match rest with
      | [] => .incomplete
      | b :: rest =>
        if isSecondOfThree a b then
          match rest with
          | [] => .incomplete
          | c :: rest =>
            if isTail c then
              .char (Char.ofNat ((a.toNat % 16 * 64 + tailBits b) * 64 + tailBits c)) rest
            else .invalid 2
        else .invalid 1
    else if 0xF0 ≤ a && a ≤ 0xF4 then
      match rest with
      | [] => .incomplete
      | b :: rest =>
        if isSecondOfFour a b then
          match rest with
          | [] => .incomplete
          | c :: rest =>
            if isTail c then
              match rest with
              | [] => .incomplete
              | d :: rest =>
                if isTail d then
                  .char (Char.ofNat
                    (((a.toNat % 8 * 64 + tailBits b) * 64 + tailBits c) * 64 + tailBits d)) rest
                else .invalid 3
            else .invalid 2
        else .invalid 1
    else .invalid 1

/-- Why bytes are not text: the place of the first bad byte, and how many bytes are bad there, or
`none` if the input ends inside a character. -/
structure Fault where
  validUpTo : Nat
  length : Option Nat
  deriving DecidableEq, Repr

/-- The text of a fault. -/
def Fault.message (fault : Fault) : String :=
  match fault.length with
  | some n => "invalid utf-8 sequence of " ++ toString n ++ " bytes from index " ++
      toString fault.validUpTo
  | none => "incomplete utf-8 byte sequence from index " ++ toString fault.validUpTo

/-- Reads characters while `fuel` lasts; a fault has its place among `total` bytes, of which those
given are the last. -/
def decodeFrom (total : Nat) : (fuel : Nat) → List UInt8 → Except Fault (List Char)
  | _, [] => .ok []
  | 0, bytes => .error ⟨total - bytes.length, none⟩
  | fuel + 1, bytes =>
    match step bytes with
    | .char c rest =>
      match decodeFrom total fuel rest with
      | .ok cs => .ok (c :: cs)
      | .error fault => .error fault
    | .invalid n => .error ⟨total - bytes.length, some n⟩
    | .incomplete => .error ⟨total - bytes.length, none⟩

/-- Strict reading: the whole of `bytes` as text, or the first fault. -/
def decode (bytes : List UInt8) : Except Fault String :=
  (decodeFrom bytes.length bytes.length bytes).map String.ofList

/-- Strict reading without the fault. -/
def decode? (bytes : List UInt8) : Option String :=
  (decode bytes).toOption

/-- The character that stands for bytes that are none. -/
def replacement : Char :=
  Char.ofNat 0xFFFD

/-- Reads characters while `fuel` lasts, with `replacement` for each stretch that is no
character. -/
def decodeLossyFrom : (fuel : Nat) → List UInt8 → List Char
  | _, [] => []
  | 0, _ :: _ => []
  | fuel + 1, bytes =>
    match step bytes with
    | .char c rest => c :: decodeLossyFrom fuel rest
    | .invalid n => replacement :: decodeLossyFrom fuel (bytes.drop n)
    | .incomplete => [replacement]

/-- Lossy reading: every stretch that is no character becomes one replacement character. -/
def decodeLossy (bytes : List UInt8) : String :=
  String.ofList (decodeLossyFrom bytes.length bytes)

/-- The bytes of one character. -/
def encodeChar (c : Char) : List UInt8 :=
  let n := c.toNat
  if n < 0x80 then [n.toUInt8]
  else if n < 0x800 then [(0xC0 + n / 64).toUInt8, (0x80 + n % 64).toUInt8]
  else if n < 0x10000 then
    [(0xE0 + n / 4096).toUInt8, (0x80 + n / 64 % 64).toUInt8, (0x80 + n % 64).toUInt8]
  else
    [(0xF0 + n / 262144).toUInt8, (0x80 + n / 4096 % 64).toUInt8, (0x80 + n / 64 % 64).toUInt8,
      (0x80 + n % 64).toUInt8]

/-- The bytes of a string. -/
def encode (s : String) : List UInt8 :=
  s.toList.flatMap encodeChar

end ChainFeed.Utf8
