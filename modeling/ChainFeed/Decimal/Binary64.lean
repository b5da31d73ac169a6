/-!
# Binary64 in exact arithmetic

Finite floating-point numbers of sixty-four bits, kept as their bits and computed with natural
numbers: a number is its significand times a power of two, and every operation rounds one exact
ratio to the nearest representable value, a half to the even neighbour.

## Main definitions

- `ChainFeed.Binary64.ofRatio`: the number nearest to a ratio of naturals
- `ChainFeed.Binary64.mul`, `ChainFeed.Binary64.div`: operations, rounded once
- `ChainFeed.Binary64.same`: equality of values, under which the two zeros are one
- `ChainFeed.Binary64.widen?`: the value of a number of thirty-two bits
-/

namespace ChainFeed

/-- A floating-point number, by its bits. -/
structure Binary64 where
  bits : UInt64
  deriving DecidableEq, Repr, Inhabited

namespace Binary64

/-- Whether the sign bit is set. -/
def isNegative (x : Binary64) : Bool :=
  9223372036854775808 ≤ x.bits.toNat

/-- The bits below the sign: the biased exponent and the fraction as one number. -/
def magnitude (x : Binary64) : Nat :=
  x.bits.toNat % 9223372036854775808

/-- The eleven exponent bits. -/
def exponentBits (x : Binary64) : Nat :=
  x.magnitude / 4503599627370496

/-- The fifty-two bits of the fraction. -/
def fraction (x : Binary64) : Nat :=
  x.magnitude % 4503599627370496

/-- Neither infinite nor undefined. -/
def isFinite (x : Binary64) : Bool :=
  x.exponentBits < 2047

/-- The significand of a finite number, with its leading bit unless it is subnormal. -/
def significand (x : Binary64) : Nat :=
  if x.exponentBits = 0 then x.fraction else x.fraction + 4503599627370496

/-- The power of two that the significand counts, plus 1074. -/
def scale (x : Binary64) : Nat :=
  x.exponentBits - 1

/-- Zero, with a sign. -/
def zero (negative : Bool) : Binary64 :=
  ⟨if negative then 9223372036854775808 else 0⟩

/-- From a sign and the bits below it; what exceeds them is infinite. -/
def ofMagnitude (negative : Bool) (magnitude : Nat) : Binary64 :=
  let capped := min magnitude 9218868437227405312
  ⟨(if negative then capped + 9223372036854775808 else capped).toUInt64⟩

/-- The natural number nearest to a ratio, a half going to the even neighbour. -/
def roundRatio (num den : Nat) : Nat :=
  let q := num / den
  let r := num % den
  if 2 * r < den then q
  else if den < 2 * r then q + 1
  else if q % 2 = 0 then q else q + 1

/-- The exponent, plus 1074, of the leading bit of `num / den`, or a smaller one if that lies below
the subnormal grid: the greatest `e` with `den * 2 ^ e ≤ num * 2 ^ 1074`, at least zero. -/
def leadingBit (num den : Nat) : Nat :=
  Nat.log2 (num * Nat.pow 2 1074 / den)

/-- The number nearest to `num / den`, with the given sign. -/
def ofRatio (negative : Bool) (num den : Nat) : Binary64 :=
  if num = 0 then zero negative
  else
    let scale := leadingBit num den - 52
    let n := roundRatio (num * Nat.pow 2 1074) (den * Nat.pow 2 scale)
    ofMagnitude negative (scale * 4503599627370496 + n)

/-- The number nearest to a natural number. -/
def ofNat (n : Nat) : Binary64 :=
  ofRatio false n 1

/-- The number nearest to an integer. -/
def ofInt (n : Int) : Binary64 :=
  ofRatio (n < 0) n.natAbs 1

/-- The number with the other sign. -/
def neg (x : Binary64) : Binary64 :=
  ⟨x.bits ^^^ 9223372036854775808⟩

/-- The product of finite numbers, rounded once. -/
def mul (x y : Binary64) : Binary64 :=
  ofRatio (x.isNegative != y.isNegative)
    (x.significand * Nat.pow 2 x.scale * (y.significand * Nat.pow 2 y.scale)) (Nat.pow 2 2148)

/-- The quotient of finite numbers, rounded once; the divisor is not zero. -/
def div (x y : Binary64) : Binary64 :=
  ofRatio (x.isNegative != y.isNegative)
    (x.significand * Nat.pow 2 x.scale) (y.significand * Nat.pow 2 y.scale)

/-- Whether the value is zero. -/
def isZero (x : Binary64) : Bool :=
  x.magnitude = 0

/-- Equality of finite values: the same bits, or two zeros. -/
def same (x y : Binary64) : Bool :=
  x.bits = y.bits || (x.isZero && y.isZero)

/-- The finite value of a number of thirty-two bits. -/
def widen? (bits : UInt32) : Option Binary64 :=
  let n := bits.toNat
  let exponent := n / 8388608 % 256
  let fraction := n % 8388608
  let negative : Bool := 2147483648 ≤ n
  if exponent = 255 then none
  else if exponent = 0 then some (ofRatio negative fraction (Nat.pow 2 149))
  else some (ofRatio negative ((fraction + 8388608) * Nat.pow 2 (exponent - 1)) (Nat.pow 2 149))

end Binary64

end ChainFeed
