import ChainFeed.Text.Hex
import ChainFeed.Text.Split

/-!
# Tables of characters

A property of characters is given by the stretches of code points that have it, each with the value
that its characters share. A table is written in rows of text: an entry has the first and the last
code point of a stretch, or its only one, in hexadecimal, and behind a colon its value; blanks stand
between the entries, which rise and do not overlap.

## Main definitions

- `ChainFeed.Stretch`: a stretch of code points with a value
- `ChainFeed.Stretch.table`: the stretches that rows of text stand for
- `ChainFeed.Stretch.find?`: the stretch of a table in which a character lies
-/

namespace ChainFeed

/-- The code points from `first` to `last`, with the value that they share. -/
structure Stretch (α : Type) where
  first : Nat
  last : Nat
  value : α

namespace Stretch

variable {α : Type}

/-- The number that digits of base 16 stand for. -/
def number (digits : List Char) : Nat :=
  digits.foldl (fun n c => 16 * n + (Hex.value? c).getD 0) 0

/-- An entry of a row; `value` reads what stands behind its colon. -/
def ofEntry (value : List Char → α) (entry : List Char) : Stretch α :=
  let (codes, text) := cut ':' entry
  let (first, last) := cut '-' codes
  ⟨number first, number (last.getD first), value (text.getD [])⟩

/-- The table in rows of text. -/
def table (value : List Char → α) (rows : List String) : Array (Stretch α) :=
  rows.foldl
    (fun stretches row => (splitChars ' ' row.toList).foldl
      (fun stretches entry => stretches.push (ofEntry value entry)) stretches) #[]

/-- The stretch in which a code point lies, sought from place `low` of a table up to place
`high`. -/
def findFrom? (stretches : Array (Stretch α)) (code low high : Nat) : Option (Stretch α) :=
  if low < high then
    match stretches[(low + high) / 2]? with
    | none => none
    | some stretch =>
      if code < stretch.first then findFrom? stretches code low ((low + high) / 2)
      else if stretch.last < code then findFrom? stretches code ((low + high) / 2 + 1) high
      else some stretch
  else none
termination_by high - low
decreasing_by all_goals omega

/-- The stretch in which a character lies. -/
def find? (stretches : Array (Stretch α)) (c : Char) : Option (Stretch α) :=
  findFrom? stretches c.toNat 0 stretches.size

end Stretch

end ChainFeed
