import ChainFeed.Json.Basic
import ChainFeed.Text.Hex

/-!
# JSON text

Values written without blanks. In strings the quote, the backslash and the control characters below
`U+0020` are escaped, the common ones by letter and the others by number; all else stands as it is.
-/

namespace ChainFeed.Json

/-- One character of a string literal. -/
def escapeChar (c : Char) : List Char :=
  let n := c.toNat
  if n = 0x22 then ['\\', c]
  else if n = 0x5C then ['\\', '\\']
  else if n = 8 then ['\\', 'b']
  else if n = 9 then ['\\', 't']
  else if n = 10 then ['\\', 'n']
  else if n = 12 then ['\\', 'f']
  else if n = 13 then ['\\', 'r']
  else if n < 0x20 then ['\\', 'u', '0', '0', Hex.digit (n / 16), Hex.digit (n % 16)]
  else [c]

/-- A string literal. -/
def quote (s : String) : List Char :=
  '"' :: s.toList.flatMap escapeChar ++ ['"']

mutual

/-- The characters of a value. -/
def chars : Json → List Char
  | .null => ['n', 'u', 'l', 'l']
  | .bool true => ['t', 'r', 'u', 'e']
  | .bool false => ['f', 'a', 'l', 's', 'e']
  | .number n => n.text.toList
  | .string s => quote s
  | .array [] => ['[', ']']
  | .array (x :: xs) => '[' :: chars x ++ itemChars xs
  | .object [] => ['{', '}']
  | .object ((k, x) :: xs) => '{' :: quote k ++ ':' :: chars x ++ memberChars xs

/-- The items behind the first one, each after a comma, and the closing bracket. -/
def itemChars : List Json → List Char
  | [] => [']']
  | x :: xs => ',' :: chars x ++ itemChars xs

/-- The members behind the first one, each after a comma, and the closing brace. -/
def memberChars : List (String × Json) → List Char
  | [] => ['}']
  | (k, x) :: xs => ',' :: quote k ++ ':' :: chars x ++ memberChars xs

end

/-- The text of a value. -/
def render (value : Json) : String :=
  String.ofList value.chars

end ChainFeed.Json
