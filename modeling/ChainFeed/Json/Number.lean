import ChainFeed.Decimal.Shortest

/-!
# JSON numbers

A number is an integer or a floating-point number, and the two stay apart: `1` and `1.0` are
different numbers with the same value. A literal without fraction and exponent is an integer if it
lies between `-2 ^ 63` and `2 ^ 64 - 1`; every other literal, `-0` too, is floating-point.

The value of a floating-point literal is found in two roundings. Its digits are gathered into one
significand for as long as that fits sixty-four bits; later digits only move the point. The
significand is rounded, then multiplied with or divided by a rounded power of ten.

## Main definitions

- `ChainFeed.Number.Literal.scan`: a literal at the front of a text
- `ChainFeed.Number.Literal.value?`: its value, unless that is too large
- `ChainFeed.Number.text`: the text of a number
- `ChainFeed.Number.sameValue`: equality of values
-/

namespace ChainFeed

/-- A JSON number. -/
inductive Number where
  | integer (value : Int)
  | float (value : Binary64)
  deriving DecidableEq, Repr

namespace Number

/-- The text of a number: integers plainly, others as the shortest decimal. -/
def text : Number → String
  | .integer n => toString n
  | .float x => Shortest.render x

/-- The value rounded to floating point. -/
def toBinary64 : Number → Binary64
  | .integer n => .ofInt n
  | .float x => x

/-- Equality of values: exact between integers, after rounding otherwise. -/
def sameValue : Number → Number → Bool
  | .integer m, .integer n => m = n
  | m, n => m.toBinary64.same n.toBinary64

/-- Equality as JSON values: an integer is never equal to a floating-point number. -/
def same : Number → Number → Bool
  | .integer m, .integer n => m = n
  | .float x, .float y => x.same y
  | _, _ => false

/-! ### Literals -/

/-- The parts of a number literal. Digits are values from 0 to 9. -/
structure Literal where
  negative : Bool
  whole : List Nat
  fraction : Option (List Nat)
  /-- Whether the exponent is negative, and its digits. -/
  exponent : Option (Bool × List Nat)

/-- Whether a byte is a decimal digit. -/
def isDigit (b : UInt8) : Bool :=
  0x30 ≤ b && b ≤ 0x39

/-- The digits at the front of a text and what follows them. -/
def scanDigits (bytes : List UInt8) : List Nat × List UInt8 :=
  ((bytes.takeWhile isDigit).map fun b => b.toNat - 48, bytes.dropWhile isDigit)

/-- The digits before the point: a zero stands alone. -/
def scanWhole (bytes : List UInt8) : Option (List Nat × List UInt8) :=
  match scanDigits bytes with
  | ([], _) => none
  | (0 :: _ :: _, _) => none
  | parts => some parts

/-- A point and the digits behind it, of which there is at least one. -/
def scanFraction : List UInt8 → Option (Option (List Nat) × List UInt8)
  | 0x2E :: bytes =>
    match scanDigits bytes with
    | ([], _) => none
    | (digits, rest) => some (some digits, rest)
  | bytes => some (none, bytes)

/-- The sign of an exponent. -/
def scanSign : List UInt8 → Bool × List UInt8
  | 0x2B :: bytes => (false, bytes)
  | 0x2D :: bytes => (true, bytes)
  | bytes => (false, bytes)

/-- The letter `e` in either case, a sign, and digits, of which there is at least one. -/
def scanExponent : List UInt8 → Option (Option (Bool × List Nat) × List UInt8)
  | [] => some (none, [])
  | b :: bytes =>
    if b = 0x65 || b = 0x45 then
      let (negative, bytes) := scanSign bytes
      match scanDigits bytes with
      | ([], _) => none
      | (digits, rest) => some (some (negative, digits), rest)
    else some (none, b :: bytes)

/-- The literal at the front of a text and what follows it. -/
def Literal.scan (bytes : List UInt8) : Option (Literal × List UInt8) := do
  let (negative, bytes) := match bytes with
    | 0x2D :: rest => (true, rest)
    | _ => (false, bytes)
  let (whole, bytes) ← scanWhole bytes
  let (fraction, bytes) ← scanFraction bytes
  let (exponent, bytes) ← scanExponent bytes
  return (⟨negative, whole, fraction, exponent⟩, bytes)

/-- Gathers digits into a significand of sixty-four bits; at the first that does not fit it stops.
Returns the significand and the number of digits left over. -/
def gather (significand : Nat) : List Nat → Nat × Nat
  | [] => (significand, 0)
  | d :: rest =>
    if significand * 10 + d < 18446744073709551616 then gather (significand * 10 + d) rest
    else (significand, (d :: rest).length)

/-- The number that digits denote. -/
def ofDigits (digits : List Nat) : Nat :=
  digits.foldl (fun n d => n * 10 + d) 0

/-- The rounded power of ten. -/
def powerOfTen (n : Nat) : Binary64 :=
  .ofNat (Nat.pow 10 n)

/-- `x` times ten to the `exponent`, by one multiplication or division when the power of ten is
representable. Beyond that a positive exponent is too large for all but zero, and a negative one is
applied in parts, of which two leave nothing of a 64-bit significand. -/
def scaleByTen : (fuel : Nat) → Binary64 → Int → Option Binary64
  | 0, x, _ => some x
  | fuel + 1, x, exponent =>
    if exponent.natAbs ≤ 308 then
      if 0 ≤ exponent then
        let y := x.mul (powerOfTen exponent.natAbs)
        if y.isFinite then some y else none
      else some (x.div (powerOfTen exponent.natAbs))
    else if x.isZero then some x
    else if 0 ≤ exponent then none
    else scaleByTen fuel (x.div (powerOfTen 308)) (exponent + 308)

/-- The floating-point value of a literal, unless it is too large. -/
def Literal.float? (literal : Literal) : Option Binary64 :=
  let (whole, moved) := gather 0 literal.whole
  let digits := literal.fraction.getD []
  let (significand, dropped) := gather whole digits
  let point : Int := moved - (digits.length - dropped : Nat)
  let exponent : Int := match literal.exponent with
    | some (true, digits) => -(ofDigits digits : Int)
    | some (false, digits) => ofDigits digits
    | none => 0
  let value := scaleByTen 4 (.ofNat significand) (point + exponent)
  if literal.negative then value.map Binary64.neg else value

/-- The value of a literal, unless it is too large. -/
def Literal.value? (literal : Literal) : Option Number :=
  match literal.fraction, literal.exponent with
  | none, none =>
    let n := ofDigits literal.whole
    if literal.negative then
      if n = 0 || 9223372036854775808 < n then literal.float?.map .float
      else some (.integer (-(n : Int)))
    else if n < 18446744073709551616 then some (.integer n)
    else literal.float?.map .float
  | _, _ => literal.float?.map .float

/-- A text that is one literal and nothing else. -/
def ofBytes? (bytes : List UInt8) : Option Number :=
  match Literal.scan bytes with
  | some (literal, []) => literal.value?
  | _ => none

end Number

end ChainFeed
