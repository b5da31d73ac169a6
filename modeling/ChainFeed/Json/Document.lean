import ChainFeed.Json.Basic
import ChainFeed.Text.Utf8
import ChainFeed.Text.Hex

/-!
# JSON text as a tree

A text is first laid out as a tree that keeps what a value forgets: the order of members, repeated
names, and where the text stops being JSON. A container that the text breaks off keeps what it held
up to there, so that a reader meets faults in the order in which they stand.

Some faults belong to single tokens and matter only to a reader that wants them: a string with a
lone surrogate or bytes that are not UTF-8, and a number too large. Such tokens are kept as `none`.

## Main definitions

- `ChainFeed.Document`: the tree
- `ChainFeed.Document.scan`: the tree of the value at the front of a text, and the rest
- `ChainFeed.Document.ofJson`: the tree of a value
-/

namespace ChainFeed

/-- A JSON text as a tree. -/
inductive Document where
  | null
  | bool (value : Bool)
  /-- A number, or `none` if it is too large. -/
  | number (value : Option Number)
  /-- A string, or `none` if it is not text. -/
  | string (value : Option String)
  /-- The items, and whether the closing bracket was reached. -/
  | array (items : List Document) (closed : Bool)
  /-- The members, and whether the closing brace was reached. -/
  | object (members : List (Option String × Document)) (closed : Bool)
  /-- No value can be read here. -/
  | broken
  deriving Inhabited

namespace Document

/-! ### Tokens -/

/-- Blanks between tokens. -/
def isBlank (b : UInt8) : Bool :=
  b = 0x20 || b = 0x0A || b = 0x09 || b = 0x0D

/-- Drops blanks. -/
def skipBlanks (bytes : List UInt8) : List UInt8 :=
  bytes.dropWhile isBlank

/-- The value of a hexadecimal digit. -/
def hexDigit? (b : UInt8) : Option Nat :=
  Hex.value? (Char.ofNat b.toNat)

/-- Four hexadecimal digits and what follows them. -/
def scanHex4 : List UInt8 → Option (Nat × List UInt8)
  | a :: b :: c :: d :: rest => do
    let a ← hexDigit? a
    let b ← hexDigit? b
    let c ← hexDigit? c
    let d ← hexDigit? d
    return (((a * 16 + b) * 16 + c) * 16 + d, rest)
  | _ => none

/-- The byte that a one-letter escape stands for. -/
def escape? (b : UInt8) : Option UInt8 :=
  if b = 0x22 || b = 0x5C || b = 0x2F then some b
  else if b = 0x62 then some 8
  else if b = 0x66 then some 12
  else if b = 0x6E then some 10
  else if b = 0x72 then some 13
  else if b = 0x74 then some 9
  else none

/-- A high surrogate. -/
def isHighSurrogate (n : Nat) : Bool :=
  0xD800 ≤ n && n ≤ 0xDBFF

/-- A low surrogate. -/
def isLowSurrogate (n : Nat) : Bool :=
  0xDC00 ≤ n && n ≤ 0xDFFF

/-- The character of a numeric escape whose first number was `n`, and what follows it; a high
surrogate takes the escape behind it. `none` for a surrogate without its partner. -/
def pairSurrogates (n : Nat) (rest : List UInt8) : Option Char × List UInt8 :=
  if isHighSurrogate n then
    match rest with
    | 0x5C :: 0x75 :: more =>
      match scanHex4 more with
      | some (low, more) =>
        if isLowSurrogate low then
          (some (Char.ofNat ((n - 0xD800) * 1024 + (low - 0xDC00) + 0x10000)), more)
        else (none, rest)
      | none => (none, rest)
    | _ => (none, rest)
  else if isLowSurrogate n then (none, rest)
  else (some (Char.ofNat n), rest)

/-- The bytes of a string literal behind its opening quote, and what follows the closing quote. The
bytes are `none` if an escape is a surrogate alone; the whole is `none` if the literal is not
closed, holds a control character, or has an escape that does not exist. -/
def scanStringBytes : (fuel : Nat) → List UInt8 → Option (Option (List UInt8) × List UInt8)
  | 0, _ => none
  | _, [] => none
  | fuel + 1, b :: rest =>
    if b = 0x22 then some (some [], rest)
    else if b = 0x5C then
      match rest with
      | [] => none
      | e :: rest =>
        if e = 0x75 then
          match scanHex4 rest with
          | none => none
          | some (n, rest) =>
            let (c, rest) := pairSurrogates n rest
            (scanStringBytes fuel rest).map fun (bytes, rest) =>
              (c.bind fun c => bytes.map fun bytes => Utf8.encodeChar c ++ bytes, rest)
        else
          match escape? e with
          | none => none
          | some b =>
            (scanStringBytes fuel rest).map fun (bytes, rest) => (bytes.map (b :: ·), rest)
    else if b < 0x20 then none
    else (scanStringBytes fuel rest).map fun (bytes, rest) => (bytes.map (b :: ·), rest)

/-- A string literal behind its opening quote. -/
def scanString (bytes : List UInt8) : Option (Option String × List UInt8) :=
  (scanStringBytes bytes.length bytes).map fun (text, rest) => (text.bind Utf8.decode?, rest)

/-- What follows `word`, if the text starts with it. -/
def scanWord? : (word bytes : List UInt8) → Option (List UInt8)
  | [], bytes => some bytes
  | w :: word, b :: bytes => if w = b then scanWord? word bytes else none
  | _ :: _, [] => none

/-! ### Trees -/

/-- A leaf at the front of a text: a word, a string or a number. -/
def scanLeaf (bytes : List UInt8) : Option (Document × List UInt8) :=
  match bytes with
  | 0x6E :: rest => (scanWord? [0x75, 0x6C, 0x6C] rest).map (.null, ·)
  | 0x74 :: rest => (scanWord? [0x72, 0x75, 0x65] rest).map (.bool true, ·)
  | 0x66 :: rest => (scanWord? [0x61, 0x6C, 0x73, 0x65] rest).map (.bool false, ·)
  | 0x22 :: rest => (scanString rest).map fun (s, rest) => (.string s, rest)
  | _ => (Number.Literal.scan bytes).map fun (literal, rest) => (.number literal.value?, rest)

mutual

/-- The value at the front of a text, and what follows it unless the text breaks off. -/
def scanValue : (fuel : Nat) → List UInt8 → Document × Option (List UInt8)
  | 0, _ => (.broken, none)
  | fuel + 1, bytes =>
    match skipBlanks bytes with
    | 0x5B :: rest =>
      match skipBlanks rest with
      | 0x5D :: rest => (.array [] true, some rest)
      | rest =>
        let (items, rest) := scanItems fuel rest
        (.array items rest.isSome, rest)
    | 0x7B :: rest =>
      match skipBlanks rest with
      | 0x7D :: rest => (.object [] true, some rest)
      | rest =>
        let (members, rest) := scanMembers fuel rest
        (.object members rest.isSome, rest)
    | bytes =>
      match scanLeaf bytes with
      | some (leaf, rest) => (leaf, some rest)
      | none => (.broken, none)

/-- Items up to the closing bracket, of which there is at least one. -/
def scanItems : (fuel : Nat) → List UInt8 → List Document × Option (List UInt8)
  | 0, _ => ([], none)
  | fuel + 1, bytes =>
    match scanValue fuel bytes with
    | (item, none) => ([item], none)
    | (item, some rest) =>
      match skipBlanks rest with
      | 0x5D :: rest => ([item], some rest)
      | 0x2C :: rest =>
        let (items, rest) := scanItems fuel rest
        (item :: items, rest)
      | _ => ([item], none)

/-- Members up to the closing brace, of which there is at least one. -/
def scanMembers : (fuel : Nat) → List UInt8 → List (Option String × Document) × Option (List UInt8)
  | 0, _ => ([], none)
  | fuel + 1, bytes =>
    match skipBlanks bytes with
    | 0x22 :: rest =>
      match scanString rest with
      | none => ([], none)
      | some (key, rest) =>
        match skipBlanks rest with
        | 0x3A :: rest =>
          match scanValue fuel rest with
          | (value, none) => ([(key, value)], none)
          | (value, some rest) =>
            match skipBlanks rest with
            | 0x7D :: rest => ([(key, value)], some rest)
            | 0x2C :: rest =>
              let (members, rest) := scanMembers fuel rest
              ((key, value) :: members, rest)
            | _ => ([(key, value)], none)
        | _ => ([(key, .broken)], none)
    | _ => ([], none)

end

/-- The tree of the value at the front of a text, and what follows it unless the text breaks
off. -/
def scan (bytes : List UInt8) : Document × Option (List UInt8) :=
  scanValue (2 * bytes.length + 2) bytes

/-! ### Values as trees -/

mutual

/-- The tree of a value. -/
def ofJson : Json → Document
  | .null => .null
  | .bool b => .bool b
  | .number n => .number (some n)
  | .string s => .string (some s)
  | .array items => .array (ofItems items) true
  | .object members => .object (ofMembers members) true

/-- The trees of a list of values. -/
def ofItems : List Json → List Document
  | [] => []
  | x :: xs => ofJson x :: ofItems xs

/-- The trees of a list of members. -/
def ofMembers : List (String × Json) → List (Option String × Document)
  | [] => []
  | (k, x) :: xs => (some k, ofJson x) :: ofMembers xs

end

mutual

/-- Whether the text of a tree is complete, whatever its tokens hold. -/
def isWhole : Document → Bool
  | .array items closed => closed && areWhole items
  | .object members closed => closed && membersAreWhole members
  | .broken => false
  | _ => true

/-- Whether all items are complete. -/
def areWhole : List Document → Bool
  | [] => true
  | x :: xs => x.isWhole && areWhole xs

/-- Whether all members are complete. -/
def membersAreWhole : List (Option String × Document) → Bool
  | [] => true
  | (_, x) :: xs => x.isWhole && membersAreWhole xs

end

end Document

end ChainFeed
