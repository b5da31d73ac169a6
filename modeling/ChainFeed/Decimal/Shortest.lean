import ChainFeed.Decimal.Binary64

/-!
# Shortest decimal text

The fewest digits that read back as the same floating-point number, and among those the nearest to
it. A number stands for the interval of reals that round to it, both ends included if its
significand is even. The two points of a decimal grid next to the number are the only ones that
need a test, so grids of one, two, … seventeen digits are tried in turn.

The layout is that of JSON numbers: a point between the digits or zeros before and behind it while
the point lies at most sixteen digits in and at most four zeros out, an exponent with its sign
otherwise.
-/

namespace ChainFeed.Shortest

/-- A decimal: `digits` without trailing zeros times ten to the `exponent`. -/
structure Decimal where
  digits : Nat
  exponent : Int

/-- The interval of reals that round to a positive finite number, as numerators over `unit`: the
lower end, the value, the upper end; and whether the ends belong to it. -/
structure Interval where
  low : Nat
  value : Nat
  high : Nat
  unit : Nat
  closed : Bool

/-- The interval of a positive finite number. Below a power of two the lower neighbour is half as
far away. -/
def interval (x : Binary64) : Interval :=
  let m := x.significand
  let step := Nat.pow 2 x.scale
  let half := if x.fraction = 0 && 1 < x.exponentBits then 1 else 2
  ⟨(4 * m - half) * step, 4 * m * step, (4 * m + 2) * step, 4 * Nat.pow 2 1074, m % 2 = 0⟩

/-- Whether `n * 10 ^ e` lies in the interval. -/
def Interval.contains (i : Interval) (n : Nat) (e : Int) : Bool :=
  let scaled := n * Nat.pow 10 e.toNat * i.unit
  let grow := Nat.pow 10 (-e).toNat
  if i.closed then i.low * grow ≤ scaled && scaled ≤ i.high * grow
  else i.low * grow < scaled && scaled < i.high * grow

/-- The greatest `k` with `10 ^ k ≤ value / unit`, searched downward from `k` while `fuel` lasts. -/
def leadingPower : (fuel : Nat) → (k : Int) → (value unit : Nat) → Int
  | 0, k, _, _ => k
  | fuel + 1, k, value, unit =>
    if Nat.pow 10 k.toNat * unit ≤ value * Nat.pow 10 (-k).toNat then k
    else leadingPower fuel (k - 1) value unit

/-- The neighbours of the value on the grid of multiples of `10 ^ e`, the nearer one first that
lies in the interval; a tie goes to the even multiple. -/
def Interval.onGrid (i : Interval) (e : Int) : Option Nat :=
  let num := i.value * Nat.pow 10 (-e).toNat
  let den := i.unit * Nat.pow 10 e.toNat
  let below := num / den
  let r := num % den
  let nearestIsBelow := 2 * r < den || (2 * r = den && below % 2 = 0)
  let near := if nearestIsBelow then below else below + 1
  let far := if nearestIsBelow then below + 1 else below
  if i.contains near e then some near
  else if i.contains far e then some far
  else none

/-- Tries grids of `digits`, `digits + 1`, … digits. -/
def search (i : Interval) (power : Int) : (fuel digits : Nat) → Decimal
  | 0, _ => ⟨0, 0⟩
  | fuel + 1, digits =>
    let e := power - (digits - 1 : Nat)
    match i.onGrid e with
    | some n => ⟨n, e⟩
    | none => search i power fuel (digits + 1)

/-- Moves trailing zeros from the digits to the exponent. -/
def Decimal.trim : (fuel : Nat) → Decimal → Decimal
  | 0, d => d
  | fuel + 1, d =>
    if d.digits % 10 = 0 && d.digits != 0 then
      Decimal.trim fuel ⟨d.digits / 10, d.exponent + 1⟩
    else d

/-- The shortest decimal of a positive finite number. -/
def decimal (x : Binary64) : Decimal :=
  let i := interval x
  (search i (leadingPower 640 309 i.value i.unit) 17 1).trim 20

/-- Writes a decimal of `text` digits with its point at `point` digits from the left. -/
def layout (text : List Char) (point : Int) : List Char :=
  if 0 < point && point ≤ 16 then
    if text.length ≤ point.toNat then
      text ++ List.replicate (point.toNat - text.length) '0' ++ ['.', '0']
    else text.take point.toNat ++ '.' :: text.drop point.toNat
  else if -5 < point && point ≤ 0 then
    '0' :: '.' :: List.replicate (-point).toNat '0' ++ text
  else
    let mantissa := match text with
      | [] => []
      | [d] => [d]
      | d :: rest => d :: '.' :: rest
    mantissa ++ 'e' :: (if 0 < point then ['+'] else []) ++ (toString (point - 1)).toList

/-- The text of a finite number. -/
def render (x : Binary64) : String :=
  let sign := if x.isNegative then ['-'] else []
  if x.isZero then String.ofList (sign ++ ['0', '.', '0'])
  else
    let d := decimal x
    let text := Nat.toDigits 10 d.digits
    String.ofList (sign ++ layout text (d.exponent + text.length))

end ChainFeed.Shortest
