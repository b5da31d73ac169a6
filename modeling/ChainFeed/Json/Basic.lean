import ChainFeed.Json.Number
import ChainFeed.Text.Integer
import ChainFeed.Text.Split

/-!
# JSON values

A JSON value is a tree. The members of an object are kept sorted by name, each name once; that
order is also the order in which they are written.

## Main definitions

- `ChainFeed.Members.insert`, `ChainFeed.Members.get?`: members by name
- `ChainFeed.Json.same`: equality of values, under which the zeros `0.0` and `-0.0` are one
- `ChainFeed.Json.atPath?`: the value at a dotted path
- `ChainFeed.Json.nest`: the smallest object with a value at a dotted path
-/

namespace ChainFeed

/-- Named values, sorted by name. -/
abbrev Members (α : Type) := List (String × α)

namespace Members

variable {α : Type}

/-- The value under a name. -/
def get? (name : String) : Members α → Option α
  | [] => none
  | (key, value) :: rest => if key = name then some value else get? name rest

/-- Whether a name is present. -/
def contains (name : String) (members : Members α) : Bool :=
  (members.get? name).isSome

/-- Puts a value under a name, in place of an earlier one. -/
def insert (name : String) (value : α) : Members α → Members α
  | [] => [(name, value)]
  | (key, old) :: rest =>
    if name = key then (name, value) :: rest
    else if name < key then (name, value) :: (key, old) :: rest
    else (key, old) :: insert name value rest

/-- Sorts a list of named values; of one name the last counts. -/
def ofList (entries : List (String × α)) : Members α :=
  entries.foldl (fun members entry => insert entry.1 entry.2 members) []

end Members

/-- A JSON value. -/
inductive Json where
  | null
  | bool (value : Bool)
  | number (value : Number)
  | string (value : String)
  | array (items : List Json)
  | object (members : List (String × Json))
  deriving Repr, Inhabited

namespace Json

/-- An integer. -/
def int (n : Int) : Json :=
  .number (.integer n)

/-- A natural number. -/
def nat (n : Nat) : Json :=
  .number (.integer n)

/-- A byte string: its bytes as numbers. -/
def bytes (bs : List UInt8) : Json :=
  .array (bs.map fun b => .nat b.toNat)

/-- An optional value, absent as null. -/
def optional {α : Type} (f : α → Json) : Option α → Json
  | some x => f x
  | none => .null

/-- An object with the given members; of one name the last counts. -/
def ofMembers (members : List (String × Json)) : Json :=
  .object (Members.ofList members)

/-! ### Equality -/

mutual

/-- Equality of values: numbers of different kinds differ, the two floating-point zeros do not. -/
def same : Json → Json → Bool
  | .null, .null => true
  | .bool a, .bool b => a = b
  | .number m, .number n => m.same n
  | .string s, .string t => s = t
  | .array xs, .array ys => sameItems xs ys
  | .object xs, .object ys => sameMembers xs ys
  | _, _ => false

/-- Equality of lists of values. -/
def sameItems : List Json → List Json → Bool
  | [], [] => true
  | x :: xs, y :: ys => same x y && sameItems xs ys
  | _, _ => false

/-- Equality of lists of members. -/
def sameMembers : List (String × Json) → List (String × Json) → Bool
  | [], [] => true
  | (k, x) :: xs, (l, y) :: ys => k = l && same x y && sameMembers xs ys
  | _, _ => false

end

/-! ### Paths -/

/-- The segments of a dotted path; the empty path has one empty segment. -/
def segments (path : String) : List String :=
  (splitChars '.' path.toList).map String.ofList

/-- One step along a path: a member of an object by name, an item of an array by number. -/
def child? (segment : String) : Json → Option Json
  | .object members => Members.get? segment members
  | .array items => (Integer.uint64? segment).bind fun i => items[i.toNat]?
  | _ => none

/-- The value that a list of segments leads to. -/
def follow? (value : Json) : List String → Option Json
  | [] => some value
  | segment :: rest =>
    match value.child? segment with
    | some next => next.follow? rest
    | none => none

/-- The value at a dotted path. -/
def atPath? (value : Json) (path : String) : Option Json :=
  value.follow? (segments path)

/-- Nested objects of one member each along a list of segments. -/
def nestSegments (value : Json) : List String → Json
  | [] => value
  | segment :: rest => .object [(segment, nestSegments value rest)]

/-- The smallest object that has `value` at a dotted path. -/
def nest (path : String) (value : Json) : Json :=
  nestSegments value (segments path)

end Json

end ChainFeed
