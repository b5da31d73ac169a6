/-!
# Integers in decimal notation

Unsigned numerals are digits with an optional plus sign in front, signed ones may have a minus
sign instead. Leading zeros are allowed, blanks and separators are not, and the value must lie in
the range of the type that is read.
-/

namespace ChainFeed.Integer

/-- The value of a decimal digit. -/
def digit? (c : Char) : Option Nat :=
  if 48 ≤ c.toNat && c.toNat ≤ 57 then some (c.toNat - 48) else none

/-- Digits to the end of the text, continuing from `acc`. -/
def digitsFrom? (acc : Nat) : List Char → Option Nat
  | [] => some acc
  | c :: rest =>
    match digit? c with
    | some d => digitsFrom? (acc * 10 + d) rest
    | none => none

/-- One digit or more, and nothing else. -/
def digits? : List Char → Option Nat
  | [] => none
  | cs => digitsFrom? 0 cs

/-- An unsigned numeral at most `limit`. -/
def unsigned? (limit : Nat) (s : String) : Option Nat :=
  let value := match s.toList with
    | '+' :: cs => digits? cs
    | cs => digits? cs
  value.filter (· ≤ limit)

/-- A signed numeral between `low` and `high`. -/
def signed? (low high : Int) (s : String) : Option Int :=
  let value : Option Int := match s.toList with
    | '+' :: cs => (digits? cs).map Int.ofNat
    | '-' :: cs => (digits? cs).map fun n => -(n : Int)
    | cs => (digits? cs).map Int.ofNat
  value.filter fun n => low ≤ n && n ≤ high

/-- A numeral for a 64-bit word. -/
def uint64? (s : String) : Option UInt64 :=
  (unsigned? 18446744073709551615 s).map Nat.toUInt64

/-- A numeral for a 32-bit word. -/
def uint32? (s : String) : Option UInt32 :=
  (unsigned? 4294967295 s).map Nat.toUInt32

/-- A numeral for a signed 64-bit word. -/
def int64? (s : String) : Option Int64 :=
  (signed? (-9223372036854775808) 9223372036854775807 s).map Int.toInt64

end ChainFeed.Integer
