import ChainFeed.Text.Hex
import ChainFeed.Text.Unprintable

/-!
# Quoted text

Text between quotes, as it appears inside messages for people: the quote, the backslash and the
common control characters are escaped by a letter, and characters that do not show or that combine
with the one before by their number.
-/

namespace ChainFeed.Quoted

/-- An escape by number. -/
def escapeNumber (c : Char) : List Char :=
  ['\\', 'u', Char.ofNat 0x7B] ++ Nat.toDigits 16 c.toNat ++ [Char.ofNat 0x7D]

/-- One character of a quoted text. -/
def escape (c : Char) : List Char :=
  let n := c.toNat
  if n = 0 then ['\\', '0']
  else if n = 9 then ['\\', 't']
  else if n = 10 then ['\\', 'n']
  else if n = 13 then ['\\', 'r']
  else if n = 0x22 || n = 0x5C then ['\\', c]
  else if isUnprintable c then escapeNumber c
  else [c]

/-- A text between quotes. -/
def quote (s : String) : String :=
  String.ofList ('"' :: s.toList.flatMap escape ++ ['"'])

end ChainFeed.Quoted
