import ChainFeed.Text.Blank
import ChainFeed.Text.Integer
import ChainFeed.Time.Instant

/-!
# Written times

Times are written in the form of RFC 3339, in Coordinated Universal Time, with as many digits of the
second as needed in groups of three. Reading is more generous: numbers may be short, blanks may
stand before them, the letters may be small, a space may stand for the `T`, and there are signed
years of any length. The offset may not be missing.

## Main definitions

- `ChainFeed.Instant.render`: the written form
- `ChainFeed.Instant.parse?`: reading
-/

namespace ChainFeed.Instant

/-! ### Writing -/

/-- A number with at least `width` digits. -/
def padded (width n : Nat) : List Char :=
  let digits := Nat.toDigits 10 n
  List.replicate (width - digits.length) '0' ++ digits

/-- A year: four digits, or a sign and at least four outside the years 0 to 9999. -/
def yearChars (year : Int) : List Char :=
  if year < 0 then '-' :: padded 4 year.natAbs
  else if 9999 < year then '+' :: padded 4 year.natAbs
  else padded 4 year.natAbs

/-- The fraction of a second, in 0, 3, 6 or 9 digits. -/
def fractionChars (nanos : Nat) : List Char :=
  if nanos = 0 then []
  else if nanos % 1000000 = 0 then '.' :: padded 3 (nanos / 1000000)
  else if nanos % 1000 = 0 then '.' :: padded 6 (nanos / 1000)
  else '.' :: padded 9 nanos

/-- The characters of a date. -/
def dateChars (date : Date) : List Char :=
  yearChars date.year ++ '-' :: padded 2 date.month ++ '-' :: padded 2 date.day

/-- The written form of an instant. A leap second is second 60. -/
def chars (t : Instant) : List Char :=
  let date := Date.ofDays (t.seconds / 86400)
  let secondOfDay := (t.seconds % 86400).toNat
  let leap : Bool := 1000000000 ≤ t.nanos
  let second := if leap then secondOfDay % 60 + 1 else secondOfDay % 60
  let nanos := if leap then t.nanos - 1000000000 else t.nanos
  dateChars date ++ 'T' :: padded 2 (secondOfDay / 3600) ++
    ':' :: padded 2 (secondOfDay / 60 % 60) ++ ':' :: padded 2 second ++ fractionChars nanos ++
    ['Z']

/-- The written form of an instant. -/
def render (t : Instant) : String :=
  String.ofList t.chars

/-! ### Reading -/

/-- One to `width` digits at the front of a text, and what follows them. -/
def scanNumber (width : Nat) (cs : List Char) : Option (Nat × List Char) :=
  let digits := (cs.take width).takeWhile fun c => (Integer.digit? c).isSome
  (Integer.digits? digits).map fun n => (n, cs.drop digits.length)

/-- Blanks, then one or two digits of a number between `low` and `high`. -/
def scanField (low high : Nat) (cs : List Char) : Option (Nat × List Char) :=
  (scanNumber 2 (trimFront cs)).filter fun (n, _) => low ≤ n && n ≤ high

/-- A given character, after blanks. -/
def scanMark (mark : Char) (cs : List Char) : Option (List Char) :=
  match trimFront cs with
  | c :: rest => if c = mark then some rest else none
  | [] => none

/-- A year: any number of digits behind a sign, one to four without. -/
def scanYear (cs : List Char) : Option (Int × List Char) :=
  match trimFront cs with
  | '-' :: rest => (scanNumber rest.length rest).map fun (n, rest) => (-(n : Int), rest)
  | '+' :: rest => (scanNumber rest.length rest).map fun (n, rest) => ((n : Int), rest)
  | cs => (scanNumber 4 cs).map fun (n, rest) => ((n : Int), rest)

/-- A date. -/
def scanDate (cs : List Char) : Option (Date × List Char) := do
  let (year, cs) ← scanYear cs
  let cs ← scanMark '-' cs
  let (month, cs) ← scanField 1 12 cs
  let cs ← scanMark '-' cs
  let (day, cs) ← scanField 1 31 cs
  if (Date.mk year month day).isValid then return (⟨year, month, day⟩, cs) else none

/-- The digits of a second behind its point, as nanoseconds; digits after the ninth do not
count. -/
def scanFraction : List Char → Option (Nat × List Char)
  | '.' :: cs => do
    let (n, rest) ← scanNumber 9 cs
    let rest' := rest.dropWhile fun c => (Integer.digit? c).isSome
    return (n * Nat.pow 10 (9 - (cs.length - rest.length)), rest')
  | cs => some (0, cs)

/-- A time of day: seconds of the day and nanoseconds. Second 60 is the leap second behind second
59. -/
def scanClock (cs : List Char) : Option ((Nat × Nat) × List Char) := do
  let (hour, cs) ← scanField 0 23 cs
  let cs ← scanMark ':' cs
  let (minute, cs) ← scanField 0 59 cs
  let cs ← scanMark ':' cs
  let (second, cs) ← scanField 0 60 cs
  let (nanos, cs) ← scanFraction cs
  let start := hour * 3600 + minute * 60
  if second = 60 then return ((start + 59, nanos + 1000000000), cs)
  else return ((start + second, nanos), cs)

/-- Two digits of a number up to `high`. -/
def scanTwoDigits (high : Nat) : List Char → Option (Nat × List Char)
  | a :: b :: rest => ((Integer.digits? [a, b]).filter (· ≤ high)).map (·, rest)
  | _ => none

/-- Whether a text starts with `UTC` in letters of either case. -/
def startsWithUtc : List Char → Bool
  | a :: b :: c :: _ => (a = 'U' || a = 'u') && (b = 'T' || b = 't') && (c = 'C' || c = 'c')
  | _ => false

/-- The minus signs that an offset may have. -/
def isMinus (c : Char) : Bool :=
  c = '-' || c.toNat = 0x2212

/-- An offset in seconds, less than a day: `UTC`, `Z`, or hours and minutes behind a sign. -/
def scanOffset (cs : List Char) : Option (Int × List Char) :=
  if startsWithUtc cs then some (0, cs.drop 3)
  else
    match cs with
    | [] => none
    | sign :: rest =>
      if sign = 'Z' || sign = 'z' then some (0, rest)
      else if sign = '+' || isMinus sign then do
        let (hours, rest) ← scanTwoDigits 23 rest
        let (minutes, rest) ← scanTwoDigits 59 (rest.dropWhile fun c => c = ':' || isBlank c)
        let seconds : Int := hours * 3600 + minutes * 60
        return (if sign = '+' then seconds else -seconds, rest)
      else none

/-- What stands between date and time of day. -/
def isDateEnd (c : Char) : Bool :=
  c = 'T' || c = 't' || c = ' '

/-- Reads a written time. -/
def parseChars? (cs : List Char) : Option Instant := do
  let (date, cs) ← scanDate cs
  match cs with
  | [] => none
  | c :: cs =>
    if isDateEnd c then
      let ((second, nanos), cs) ← scanClock cs
      let (offset, cs) ← scanOffset (trimFront cs)
      let here : Instant := ⟨date.toDays * 86400 + second, nanos⟩
      let t : Instant := ⟨here.seconds - offset, nanos⟩
      if (trimFront cs).isEmpty && here.inRange && t.inRange then return t else none
    else none

/-- Reads a written time. -/
def parse? (s : String) : Option Instant :=
  parseChars? s.toList

end ChainFeed.Instant
