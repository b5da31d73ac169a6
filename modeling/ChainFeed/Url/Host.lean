import ChainFeed.Text.Split
import ChainFeed.Url.Domain.Label
import ChainFeed.Url.Percent

/-!
# Hosts

A host is a name, or an address of one of two kinds. An address of four numbers may be written with
fewer, and each number in base 8, 10 or 16; an address of eight pieces stands in brackets and may
leave out one run of zeros. Both are written in one normal way.

## Main definitions

- `ChainFeed.Host`: a host
- `ChainFeed.Host.parse?`: the host that a text stands for
- `ChainFeed.Host.render`: its normal text
-/

namespace ChainFeed

/-- A host. -/
inductive Host where
  | name (text : String)
  | ipv4 (address : Nat)
  | ipv6 (pieces : List Nat)
  deriving DecidableEq, Repr

namespace Host

/-! ### Addresses of four numbers -/

/-- A numeral in base `radix`, continuing from `acc`. -/
def numeralFrom? (radix acc : Nat) : List Char → Option Nat
  | [] => some acc
  | c :: rest =>
    match Hex.value? c with
    | some d => if d < radix then numeralFrom? radix (acc * radix + d) rest else none
    | none => none

/-- A part of an address: hexadecimal behind `0x`, octal behind `0`, decimal otherwise. -/
def part? : List Char → Option Nat
  | [] => none
  | '0' :: 'x' :: cs | '0' :: 'X' :: cs => numeralFrom? 16 0 cs
  | '0' :: cs => numeralFrom? 8 0 cs
  | cs => numeralFrom? 10 0 cs

/-- The parts between the dots of a name, without an empty one at the end. -/
def dotted (cs : List Char) : List (List Char) :=
  let parts := splitChars '.' cs
  if 1 < parts.length && parts.getLast? = some [] then parts.dropLast else parts

/-- Whether a name must be an address: its last part is a number. -/
def endsInNumber (cs : List Char) : Bool :=
  match (dotted cs).getLast? with
  | some last => (!last.isEmpty && last.all Char.isDigit) || (part? last).isSome
  | none => false

/-- The address of some parts; the last one fills what the others leave. -/
def address? (parts : List Nat) : Option Nat :=
  match parts.reverse with
  | [] => none
  | last :: others =>
    let rest := others.reverse
    if rest.length < 4 && rest.all (· < 256) && last < Nat.pow 256 (4 - rest.length) then
      some (rest.zipIdx.foldl (fun sum (n, i) => sum + n * Nat.pow 256 (3 - i)) last)
    else none

/-- An address of four numbers. -/
def ipv4? (cs : List Char) : Option Host := do
  let parts ← (dotted cs).mapM part?
  ipv4 <$> address? parts

/-! ### Addresses of eight pieces -/

/-- A piece: one to four hexadecimal digits. -/
def piece? (cs : List Char) : Option Nat :=
  if cs.isEmpty || 4 < cs.length then none else numeralFrom? 16 0 cs

/-- A decimal number below 256 without leading zeros. -/
def octet? (cs : List Char) : Option Nat :=
  if cs.isEmpty || (cs.head? = some '0' && 1 < cs.length) then none
  else (numeralFrom? 10 0 cs).filter (· < 256)

/-- Four decimal numbers as two pieces. -/
def quad? (cs : List Char) : Option (List Nat) :=
  match (splitChars '.' cs).mapM octet? with
  | some [a, b, c, d] => some [a * 256 + b, c * 256 + d]
  | _ => none

/-- The pieces of parts between colons; the last part may be four decimal numbers. -/
def pieces? : List (List Char) → Option (List Nat)
  | [] => some []
  | [last] => (List.singleton <$> piece? last) <|> quad? last
  | part :: rest => do return (← piece? part) :: (← pieces? rest)

/-- The pieces of a text between colons, of which there may be none. -/
def run? (cs : List Char) : Option (List Nat) :=
  if cs.isEmpty then some [] else pieces? (splitChars ':' cs)

/-- Splits a text at the first double colon. -/
def splitGap? : List Char → Option (List Char × List Char)
  | ':' :: ':' :: rest => some ([], rest)
  | c :: rest => (splitGap? rest).map fun (front, back) => (c :: front, back)
  | [] => none

/-- An address of eight pieces. -/
def ipv6? (cs : List Char) : Option Host :=
  match splitGap? cs with
  | none => do
    let pieces ← run? cs
    if pieces.length = 8 then some (ipv6 pieces) else none
  | some (front, back) => do
    let front ← if front.contains '.' then none else run? front
    let back ← run? back
    let count := front.length + back.length
    if count < 8 then some (ipv6 (front ++ List.replicate (8 - count) 0 ++ back)) else none

/-- The place and the length of the longest run of zeros, the first of several; `place` is the place
of the list's front. -/
def longestGap (place : Nat) : List Nat → Nat × Nat
  | [] => (place, 0)
  | n :: rest =>
    let here := ((n :: rest).takeWhile (· = 0)).length
    let (start, length) := longestGap (place + 1) rest
    if length ≤ here then (place, here) else (start, length)

/-- Pieces between colons. -/
def renderPieces (pieces : List Nat) : String :=
  String.intercalate ":" (pieces.map Hex.ofNat)

/-- The text of eight pieces, with the longest run of two zeros or more left out. -/
def renderIpv6 (pieces : List Nat) : String :=
  let (start, length) := longestGap 0 pieces
  if length < 2 then renderPieces pieces
  else renderPieces (pieces.take start) ++ "::" ++ renderPieces (pieces.drop (start + length))

/-! ### Names -/

/-- Characters that no name may hold. -/
def isForbidden (c : Char) : Bool :=
  [0x00, 0x09, 0x0A, 0x0D, 0x20, 0x23, 0x2F, 0x3A, 0x3C, 0x3E, 0x3F, 0x40, 0x5B, 0x5C, 0x5D, 0x5E,
    0x7C].contains c.toNat

/-- The host of a special URL, without brackets. -/
def domain? (cs : List Char) : Option Host := do
  let typed ← Utf8.decode? (Percent.decode (cs.flatMap Utf8.encodeChar))
  let ascii ← Domain.toAscii? typed.toList
  if ascii.isEmpty then none
  else if endsInNumber ascii then ipv4? ascii
  else return name (String.ofList ascii)

/-- The host that a text stands for. Only special URLs have domains; the hosts of others are taken
as they are. -/
def parse? (special : Bool) (cs : List Char) : Option Host :=
  match cs with
  | '[' :: rest =>
    if rest.getLast? = some ']' then ipv6? rest.dropLast else none
  | cs =>
    if special then domain? cs
    else if cs.any isForbidden then none
    else some (name (Percent.encode [] cs))

/-- The normal text of a host. -/
def render : Host → String
  | name text => text
  | ipv4 address =>
    String.intercalate "." ([3, 2, 1, 0].map fun i => toString (address / Nat.pow 256 i % 256))
  | ipv6 pieces => "[" ++ renderIpv6 pieces ++ "]"

end Host

end ChainFeed
