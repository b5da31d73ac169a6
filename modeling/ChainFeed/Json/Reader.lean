import ChainFeed.Json.Document

/-!
# Reading typed values

A reader takes a tree and a depth that it may still descend, and gives a value or the fault that it
met first. Faults are met in the order of the text: members of an object are read as they stand,
names that a type does not know are passed over, a known name given twice is a fault where it
stands again, and a member that is missing is noticed after the last one, the first declared first.

A record may also be written as an array of its fields in the order of their declaration; fields at
the end may be left out of it if they have a default.

## Main definitions

- `ChainFeed.ReadFault`: a missing member, or anything else
- `ChainFeed.Reader`: reading of one type; `ChainFeed.Reader.ofText`, `ChainFeed.Reader.ofJson` run
  it on a text and on a value
- `ChainFeed.Fields`: reading of a record's members; `ChainFeed.Fields.required`,
  `ChainFeed.Fields.optional` and `ChainFeed.Fields.withDefault` are the single ones, combined in
  the order of their declaration
- `ChainFeed.Reader.record`: the reader of a record
-/

namespace ChainFeed

/-- Why a tree is not of a type. -/
inductive ReadFault where
  | malformed
  | missingField (name : String)
  deriving DecidableEq, Repr

/-- The text of a fault. -/
def ReadFault.message : ReadFault → String
  | .malformed => "<json>"
  | .missingField name => "missing field " ++ String.ofList [Char.ofNat 0x60] ++ name ++
      String.ofList [Char.ofNat 0x60]

/-- Reads a value of one type from a tree, opening at most `depth` containers inside each other. -/
abbrev Reader (α : Type) := (depth : Nat) → Document → Except ReadFault α

namespace Reader

variable {α β : Type}

/-- How many containers a text may nest. -/
def maxDepth : Nat :=
  127

/-- Reads a whole text. -/
def ofText (reader : Reader α) (text : List UInt8) : Except ReadFault α :=
  let (tree, rest) := Document.scan text
  match reader maxDepth tree, rest with
  | .error fault, _ => .error fault
  | .ok value, some rest =>
    if (Document.skipBlanks rest).isEmpty then .ok value else .error .malformed
  | .ok _, none => .error .malformed

/-- Reads a value. -/
def ofJson (reader : Reader α) (value : Json) : Except ReadFault α :=
  reader maxDepth (.ofJson value)

/-- Applies a function to what is read. -/
def map (f : α → β) (reader : Reader α) : Reader β :=
  fun depth tree => (reader depth tree).map f

/-- Applies a function that may refuse what is read. -/
def filterMap (f : α → Option β) (reader : Reader α) : Reader β :=
  fun depth tree =>
    match reader depth tree with
    | .ok value =>
      match f value with
      | some value => .ok value
      | none => .error .malformed
    | .error fault => .error fault

/-! ### Leaves -/

/-- A truth value. -/
def bool : Reader Bool
  | _, .bool b => .ok b
  | _, _ => .error .malformed

/-- A string. -/
def string : Reader String
  | _, .string (some s) => .ok s
  | _, _ => .error .malformed

/-- A name of a fixed set, as a string or as the only member of an object, with the value null. -/
def symbol (ofName? : String → Option α) : Reader α
  | _, .string (some name) => (ofName? name).elim (.error .malformed) .ok
  | _ + 1, .object [(some name, .null)] true => (ofName? name).elim (.error .malformed) .ok
  | _, _ => .error .malformed

/-- An integer of a range. -/
def integer (low high : Int) : Reader Int
  | _, .number (some (.integer n)) => if low ≤ n && n ≤ high then .ok n else .error .malformed
  | _, _ => .error .malformed

/-- A word of 64 bits. -/
def uint64 : Reader UInt64 :=
  (integer 0 18446744073709551615).map fun n => n.toNat.toUInt64

/-- A word of 32 bits. -/
def uint32 : Reader UInt32 :=
  (integer 0 4294967295).map fun n => n.toNat.toUInt32

/-- A byte. -/
def byte : Reader UInt8 :=
  (integer 0 255).map fun n => n.toNat.toUInt8

/-- A signed word of 64 bits. -/
def int64 : Reader Int64 :=
  (integer (-9223372036854775808) 9223372036854775807).map Int.toInt64

/-- A value, or null for none. -/
def option (reader : Reader α) : Reader (Option α)
  | _, .null => .ok none
  | depth, tree => (reader depth tree).map some

/-- A value, or null for the given one. -/
def orNull (default : α) (reader : Reader α) : Reader α :=
  (option reader).map (·.getD default)

/-! ### Containers -/

/-- Reads items in order. -/
def items (reader : Document → Except ReadFault α) : List Document → Except ReadFault (List α)
  | [] => .ok []
  | tree :: rest =>
    match reader tree with
    | .error fault => .error fault
    | .ok value => (items reader rest).map (value :: ·)

/-- An array of values of one type. -/
def list (reader : Reader α) : Reader (List α)
  | depth + 1, .array trees closed =>
    match items (reader depth) trees with
    | .error fault => .error fault
    | .ok values => if closed then .ok values else .error .malformed
  | _, _ => .error .malformed

/-- Reads named values in order. -/
def entries (reader : Document → Except ReadFault α) :
    List (Option String × Document) → Except ReadFault (List (String × α))
  | [] => .ok []
  | (none, _) :: _ => .error .malformed
  | (some key, tree) :: rest =>
    match reader tree with
    | .error fault => .error fault
    | .ok value => (entries reader rest).map ((key, value) :: ·)

/-- An object of values of one type under any names; of one name the last counts. -/
def members (reader : Reader α) : Reader (Members α)
  | depth + 1, .object trees closed =>
    match entries (reader depth) trees with
    | .error fault => .error fault
    | .ok values => if closed then .ok (Members.ofList values) else .error .malformed
  | _, _ => .error .malformed

mutual

/-- Any value. -/
def json : Reader Json
  | _, .null => .ok .null
  | _, .bool b => .ok (.bool b)
  | _, .number (some n) => .ok (.number n)
  | _, .string (some s) => .ok (.string s)
  | depth + 1, .array trees closed =>
    match jsonItems depth trees with
    | .error fault => .error fault
    | .ok values => if closed then .ok (.array values) else .error .malformed
  | depth + 1, .object trees closed =>
    match jsonEntries depth trees with
    | .error fault => .error fault
    | .ok values => if closed then .ok (.ofMembers values) else .error .malformed
  | _, _ => .error .malformed

/-- Any values. -/
def jsonItems : (depth : Nat) → List Document → Except ReadFault (List Json)
  | _, [] => .ok []
  | depth, tree :: rest =>
    match json depth tree with
    | .error fault => .error fault
    | .ok value => (jsonItems depth rest).map (value :: ·)

/-- Any values under any names. -/
def jsonEntries :
    (depth : Nat) → List (Option String × Document) → Except ReadFault (List (String × Json))
  | _, [] => .ok []
  | _, (none, _) :: _ => .error .malformed
  | depth, (some key, tree) :: rest =>
    match json depth tree with
    | .error fault => .error fault
    | .ok value => (jsonEntries depth rest).map ((key, value) :: ·)

end

end Reader

/-! ### Records -/

/-- A fault and the number of members before it. -/
structure PlacedFault where
  place : Nat
  fault : ReadFault

/-- Reading of some of a record's fields. Each part reads the members that it knows from all
members; of two faults the one that stands first counts. -/
structure Fields (α : Type) where
  /-- The names of the fields, in the order of their declaration. -/
  names : List String
  /-- Reads the fields from members. -/
  ofMembers : (depth : Nat) → List (Option String × Document) → Except PlacedFault α
  /-- Reads the fields from the items at the front of an array. -/
  ofItems : (depth : Nat) → List Document → Except ReadFault (α × List Document)

namespace Fields

variable {α β : Type}

/-- Both values, or the fault that stands first. -/
def combine (f : Except PlacedFault (α → β)) (x : Except PlacedFault α) : Except PlacedFault β :=
  match f, x with
  | .ok f, .ok x => .ok (f x)
  | .error e, .ok _ => .error e
  | .ok _, .error e => .error e
  | .error e, .error e' => .error (if e.place ≤ e'.place then e else e')

/-- No fields. -/
def pure (value : α) : Fields α where
  names := []
  ofMembers _ _ := .ok value
  ofItems _ trees := .ok (value, trees)

/-- The fields of one part, then those of another. -/
def seq (f : Fields (α → β)) (x : Fields α) : Fields β where
  names := f.names ++ x.names
  ofMembers depth members := combine (f.ofMembers depth members) (x.ofMembers depth members)
  ofItems depth trees :=
    match f.ofItems depth trees with
    | .error fault => .error fault
    | .ok (f, trees) =>
      match x.ofItems depth trees with
      | .error fault => .error fault
      | .ok (x, trees) => .ok (f x, trees)

instance : Applicative Fields where
  pure := Fields.pure
  seq f x := Fields.seq f (x ())

/-- The members of one name with their places, counted from `place`. -/
def occurrences (name : String) : (place : Nat) → List (Option String × Document) →
    List (Nat × Document)
  | _, [] => []
  | place, (key, tree) :: rest =>
    if key = some name then (place, tree) :: occurrences name (place + 1) rest
    else occurrences name (place + 1) rest

/-- One field. `absent` is its value when no member has its name, `cut` its value when an array
ends before it. -/
def field (name : String) (absent cut : Except ReadFault α) (reader : Reader α) : Fields α where
  names := [name]
  ofMembers depth members :=
    match occurrences name 0 members with
    | [] => absent.mapError fun fault => ⟨members.length + 1, fault⟩
    | (place, tree) :: others =>
      match reader depth tree, others with
      | .error fault, _ => .error ⟨place, fault⟩
      | .ok value, [] => .ok value
      | .ok _, (place, _) :: _ => .error ⟨place, .malformed⟩
  ofItems depth trees :=
    match trees with
    | [] => cut.map fun value => (value, [])
    | tree :: rest => (reader depth tree).map fun value => (value, rest)

/-- A field that must be there. -/
def required (name : String) (reader : Reader α) : Fields α :=
  field name (.error (.missingField name)) (.error .malformed) reader

/-- A field that may be null or missing, though not cut off from an array. -/
def optional (name : String) (reader : Reader α) : Fields (Option α) :=
  field name (.ok none) (.error .malformed) reader.option

/-- A field that may be missing. -/
def withDefault (name : String) (default : α) (reader : Reader α) : Fields α :=
  field name (.ok default) (.ok default) reader

end Fields

namespace Reader

variable {α : Type}

/-- The first member that is a fault by itself: its name is not text, or it is none of the known
ones and its value is incomplete. -/
def strayFault? (names : List String) : (place : Nat) → List (Option String × Document) →
    Option Nat
  | _, [] => none
  | place, (none, _) :: _ => some place
  | place, (some key, tree) :: rest =>
    if names.contains key || tree.isWhole then strayFault? names (place + 1) rest else some place

/-- The fault of an object apart from its fields: a stray member, or a missing brace. -/
def outlineFault (names : List String) (members : List (Option String × Document))
    (closed : Bool) : Except PlacedFault Unit :=
  match strayFault? names 0 members with
  | some place => .error ⟨place, .malformed⟩
  | none => if closed then .ok () else .error ⟨members.length, .malformed⟩

/-- A record, as an object or as an array. -/
def record (fields : Fields α) : Reader α
  | depth + 1, .object members closed =>
    match Fields.combine ((outlineFault fields.names members closed).map fun _ => id)
        (fields.ofMembers depth members) with
    | .ok value => .ok value
    | .error e => .error e.fault
  | depth + 1, .array trees closed =>
    match fields.ofItems depth trees with
    | .error fault => .error fault
    | .ok (value, rest) => if rest.isEmpty && closed then .ok value else .error .malformed
  | _, _ => .error .malformed

end Reader

end ChainFeed
