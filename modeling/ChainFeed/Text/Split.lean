/-!
# Splitting text

Text is divided at separators: at all of them, at the first, or at the last.

## Main definitions

- `ChainFeed.splitChars`: the parts between all separators
- `ChainFeed.cut`: what stands before the first separator and behind it
- `ChainFeed.cutLast`: what stands before the last separator and behind it
-/

namespace ChainFeed

/-- The parts of a text between the occurrences of a separator. -/
def splitChars (separator : Char) : List Char → List (List Char)
  | [] => [[]]
  | c :: rest =>
    if c = separator then [] :: splitChars separator rest
    else
      match splitChars separator rest with
      | first :: others => (c :: first) :: others
      | [] => [[c]]

/-- What stands before the first occurrence of a character and what stands behind it. -/
def cut (separator : Char) (cs : List Char) : List Char × Option (List Char) :=
  match cs.span (· != separator) with
  | (front, []) => (front, none)
  | (front, _ :: back) => (front, some back)

/-- What stands before the last occurrence of a character, if there is one, and what stands behind
it. -/
def cutLast (separator : Char) (cs : List Char) : Option (List Char) × List Char :=
  match cut separator cs.reverse with
  | (back, none) => (none, back.reverse)
  | (back, some front) => (some front.reverse, back.reverse)

end ChainFeed
