import ChainFeed.Text.Split

/-!
# Punycode

Labels of domain names are written in ASCII. The characters of a label beyond ASCII are taken in
rising order, and what is written is how far it is from each to the next, counted over all places
where it could stand. The numbers have digits of base 36 whose thresholds adapt to the sizes seen.

## Main definitions

- `ChainFeed.Punycode.encode`: the ASCII form of a label
- `ChainFeed.Punycode.decode?`: the label of an ASCII form
-/

namespace ChainFeed.Punycode

/-- The digit of a value below 36: letters, then figures. -/
def digit (n : Nat) : Char :=
  if n < 26 then Char.ofNat (97 + n) else Char.ofNat (22 + n)

/-- The threshold at a place, between 1 and 26. -/
def threshold (place bias : Nat) : Nat :=
  if place ≤ bias then 1 else if bias + 26 ≤ place then 26 else place - bias

/-- Divides by 35 while the number is above 455; `bias` counts in steps of 36. -/
def shrink : (fuel : Nat) → (delta bias : Nat) → Nat
  | 0, _, bias => bias
  | fuel + 1, delta, bias =>
    if 455 < delta then shrink fuel (delta / 35) (bias + 36)
    else bias + 36 * delta / (delta + 38)

/-- The bias after a number has been written. -/
def adapt (delta points : Nat) (first : Bool) : Nat :=
  let delta := if first then delta / 700 else delta / 2
  shrink delta (delta + delta / points) 0

/-- The digits of a number from a place on. -/
def digitsFrom (bias : Nat) : (fuel : Nat) → (place : Nat) → (q : Nat) → List Char
  | 0, _, _ => []
  | fuel + 1, place, q =>
    let t := threshold place bias
    if q < t then [digit q]
    else digit (t + (q - t) % (36 - t)) :: digitsFrom bias fuel (place + 36) ((q - t) / (36 - t))

/-- What has been written so far. -/
structure State where
  output : List Char
  delta : Nat
  bias : Nat
  /-- How many characters have been written. -/
  written : Nat

/-- Passes a character of the label while characters with number `n` are written. -/
def pass (basic n : Nat) (state : State) (c : Char) : State :=
  if c.toNat < n then { state with delta := state.delta + 1 }
  else if c.toNat = n then
    ⟨state.output ++ digitsFrom state.bias (state.delta + 1) 36 state.delta, 0,
      adapt state.delta (state.written + 1) (state.written = basic), state.written + 1⟩
  else state

/-- Writes the characters with the given numbers, which rise; the last one before was `n - 1`. -/
def writeFrom (label : List Char) (basic : Nat) : (n : Nat) → List Nat → State → State
  | _, [], state => state
  | n, next :: others, state =>
    let state := { state with delta := state.delta + (next - n) * (state.written + 1) }
    let state := label.foldl (pass basic next) state
    writeFrom label basic (next + 1) others { state with delta := state.delta + 1 }

/-- Puts a number into a rising list, once. -/
def insertOnce (n : Nat) : List Nat → List Nat
  | [] => [n]
  | k :: rest =>
    if n < k then n :: k :: rest else if n = k then k :: rest else k :: insertOnce n rest

/-- The ASCII form of a label, without the mark in front. -/
def encode (label : List Char) : List Char :=
  let basic := label.filter (·.toNat < 128)
  let others := (label.filter (128 ≤ ·.toNat)).foldl (fun ns c => insertOnce c.toNat ns) []
  let front := if basic.isEmpty then [] else basic ++ ['-']
  (writeFrom label basic.length 128 others ⟨front, 0, 72, basic.length⟩).output

/-! ### Reading -/

/-- The value of a digit of either case. -/
def digit? (c : Char) : Option Nat :=
  let n := c.toNat
  if 97 ≤ n && n ≤ 122 then some (n - 97)
  else if 65 ≤ n && n ≤ 90 then some (n - 65)
  else if 48 ≤ n && n ≤ 57 then some (n - 22)
  else none

/-- Numbers have 32 bits. -/
def limit : Nat :=
  4294967296

/-- Reads a number whose next digit stands at `place` and counts `weight` times; `sum` is the value
of the digits before. What follows the number is shorter than the text. -/
def number? (bias place weight sum : Nat) :
    (cs : List Char) → Option (Nat × { rest : List Char // rest.length < cs.length })
  | [] => none
  | c :: rest =>
    match digit? c with
    | none => none
    | some d =>
      let sum := sum + d * weight
      let t := threshold place bias
      if limit ≤ sum then none
      else if d < t then some (sum, ⟨rest, by simp⟩)
      else if limit ≤ weight * (36 - t) then none
      else
        (number? bias (place + 36) (weight * (36 - t)) sum rest).map fun (n, ⟨rest, shorter⟩) =>
          (n, ⟨rest, by simp only [List.length_cons]; omega⟩)

/-- Puts the characters into a label for which numbers are read. The number read next is counted
from place `delta` among the places for a character with number `n`. -/
def insertFrom? (label : List Char) (n delta bias : Nat) (cs : List Char) : Option (List Char) :=
  if cs.isEmpty then some label
  else
    match number? bias 36 1 delta cs with
    | none => none
    | some (sum, ⟨rest, _⟩) =>
      let places := label.length + 1
      let next := n + sum / places
      if next.isValidChar then
        insertFrom? (label.insertIdx (sum % places) (Char.ofNat next)) next (sum % places + 1)
          (adapt (sum - delta) places (delta = 0)) rest
      else none
termination_by cs.length

/-- The label of an ASCII form without the mark in front. The characters of ASCII stand before the
last hyphen. -/
def decode? (cs : List Char) : Option (List Char) :=
  match cutLast '-' cs with
  | (none, code) => insertFrom? [] 128 0 72 code
  | (some basic, code) => if basic.isEmpty then none else insertFrom? basic 128 0 72 code

end ChainFeed.Punycode
