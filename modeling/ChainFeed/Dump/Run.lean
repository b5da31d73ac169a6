import ChainFeed.Archive.Rest
import ChainFeed.Dump.Options
import ChainFeed.Dump.Records
import ChainFeed.Feed.Basic
import ChainFeed.Message.Directory
import ChainFeed.Node.JsonRpc

/-!
# Dumps

A dump reads handlers from a file, writes the dictionary entries that belong to them, and then the
records of all blocks of a range of heights, batch by batch in rising order. The first error ends
it; what has been written before stays.

The heights of a range are put into one list before the first of them is fetched. There is no list
for a range of 2 ^ 60 heights or more, nor one for which memory is lacking, and the program is
stopped there.

## Main definitions

- `ChainFeed.Dump.Machine`: what a dump needs of the machine it runs on
- `ChainFeed.Dump.collect`: the list of the heights of a range
- `ChainFeed.Dump.writeBatches`: the records of a list of heights
- `ChainFeed.Dump.writeRange`: the records of a range of heights
- `ChainFeed.Dump.run`, `ChainFeed.Dump.exitCode`: a whole dump, and the exit code it leads to
-/

namespace ChainFeed

/-- Why a program is stopped that has no error to end with. -/
inductive Crash where
  /-- It panics: a list would take more bytes than any list can. -/
  | capacityOverflow
  /-- It is aborted: there is no memory for a list of so many bytes. -/
  | outOfMemory (bytes : Nat)
  deriving DecidableEq, Repr

/-- What a program that is stopped says. -/
def Crash.message : Crash → String
  | .capacityOverflow => "capacity overflow"
  | .outOfMemory bytes => "memory allocation of " ++ toString bytes ++ " bytes failed"

/-- Why a dump ends early. -/
inductive DumpError where
  /-- The file with the handlers cannot be read. -/
  | readFilters (path : String) (source : FileError)
  /-- The file with the handlers is not a list of handlers. -/
  | parseFilters (source : ReadFault)
  /-- A schema file cannot be used. -/
  | schema (source : SchemaError)
  /-- The feed gives no blocks. -/
  | fetch (source : FetchError)
  /-- The last height lies before the first. -/
  | emptyRange (first last : UInt64)
  /-- The program is stopped. -/
  | crash (reason : Crash)
  deriving DecidableEq, Repr

/-- The text of an error. -/
def DumpError.message : DumpError → String
  | .readFilters path source => "failed to read filters from " ++ path ++ ": " ++ source.message
  | .parseFilters source => "failed to parse filters: " ++ source.message
  | .schema source => "failed to load message schemas: " ++ source.message
  | .fetch source => "failed to fetch blocks: " ++ source.message
  | .emptyRange first last =>
    "end height " ++ toString last ++ " is below start height " ++ toString first
  | .crash reason => reason.message

namespace Dump

/-- The most bytes that a list can take. -/
def maxListBytes : Nat :=
  9223372036854775807

/-- What a dump needs of the machine it runs on. -/
structure Machine (m : Type → Type) where
  readText : (path : String) → m (Except FileError String)
  exchange : Http.Exchange m
  /-- The present time. -/
  now : m Instant
  /-- Waits for a number of milliseconds. -/
  pause : Nat → m Unit
  /-- Writes a record. -/
  write : Json → m Unit
  /-- The most bytes that there is memory for in one list. -/
  memory : Nat := maxListBytes

variable {m : Type → Type} [Monad m]

/-- The handlers of a file, or one for every block. -/
def loadHandlers (machine : Machine m) : Option String → ExceptT DumpError m (List Handler)
  | none => return [.block none]
  | some path => do
    match ← ExceptT.lift (machine.readText path) with
    | .error e => throw (.readFilters path e)
    | .ok text =>
      match (Reader.list Handler.reader).ofText (Utf8.encode text) with
      | .error fault => throw (.parseFilters fault)
      | .ok handlers => return handlers

/-- The built-in registry with the messages of schema files. -/
def loadRegistry (machine : Machine m) (options : DumpOptions) : ExceptT DumpError m Registry := do
  let files ← ExceptT.lift <| options.schemas.mapM fun path => do
    return (path, ← machine.readText (Directory.join options.schemaDir path))
  let read (path : String) : Except FileError String :=
    (files.lookup path).getD (.error .notFound)
  let (registry, result) := Registry.withDefaults.loadSchemas read options.schemas
  match result with
  | .ok _ => return registry
  | .error e => throw (.schema e)

/-- A feed as the options say. -/
def connect (machine : Machine m) (options : FeedOptions) : ExceptT FetchError m (Feed m) := do
  let transport ← (JsonRpc.connect machine.exchange options.node.url
    options.node.maxResponseSize.toNat).mapError FetchError.connection
  Feed.connect transport (Archive.setUp machine.exchange options.archive) options.retry
    machine.pause

/-- Writes the records of a block. -/
def writeBlock (machine : Machine m) (handlers : List Handler) (block : LazyBlock) : m Unit := do
  let now ← machine.now
  ((records now handlers).run block).run.1.forM machine.write

/-- Writes the records of heights, `size + 1` heights at a time. -/
def writeBatches (machine : Machine m) (feed : Feed m) (registry : Registry)
    (handlers : List Handler) (size : Nat) :
    List UInt64 → ExceptT FetchError (StateT Archive.Fetcher m) Unit
  | [] => return ()
  | height :: heights => do
    let blocks ← feed.fetchBlocks registry (height :: heights.take size)
    blocks.forM fun block =>
      ExceptT.lift (StateT.lift (writeBlock machine handlers block))
    writeBatches machine feed registry handlers size (heights.drop size)
termination_by heights => heights.length
decreasing_by
  rw [List.length_drop]
  exact Nat.lt_succ_of_le (Nat.sub_le ..)

/-- The `count` heights from `first` on. -/
def heights (first count : Nat) : List UInt64 :=
  (List.range' first count).map Nat.toUInt64

/-- How many heights a range has. -/
def span (first last : UInt64) : Nat :=
  last.toNat + 1 - first.toNat

/-- The heights of a range. -/
def between (first last : UInt64) : List UInt64 :=
  heights first.toNat (span first last)

/-- The heights of a range as a list, each of which takes eight bytes. -/
def collect (memory : Nat) (first last : UInt64) : Except Crash (List UInt64) :=
  let bytes := 8 * span first last
  if maxListBytes < bytes then .error .capacityOverflow
  else if memory < bytes then .error (.outOfMemory bytes)
  else .ok (between first last)

/-- Writes the records of a range of heights. -/
def writeRange (machine : Machine m) (feed : Feed m) (registry : Registry)
    (handlers : List Handler) (batchSize first last : UInt64) : ExceptT DumpError m Unit := do
  let heights ← (collect machine.memory first last).mapError DumpError.crash
  let blocks := writeBatches machine feed registry handlers (batchSize.toNat - 1) heights
  let (result, _) ← ExceptT.lift (blocks.run.run .new)
  result.mapError DumpError.fetch

/-- The first and the last height of a dump. -/
def range (options : DumpOptions) (feed : Feed m) : ExceptT DumpError m (UInt64 × UInt64) := do
  let first ← match options.first with
    | some first => pure first
    | none => ExceptT.adapt DumpError.fetch feed.latestHeight
  let last := options.last.getD first
  if last < first then throw (.emptyRange first last) else return (first, last)

/-- A whole dump. -/
def run (machine : Machine m) (options : DumpOptions) : ExceptT DumpError m Unit := do
  let handlers ← loadHandlers machine options.filters
  ExceptT.lift ((queries handlers).forM machine.write)
  let registry ← loadRegistry machine options
  let feed ← ExceptT.adapt DumpError.fetch (connect machine options.feed)
  let (first, last) ← range options feed
  writeRange machine feed registry handlers options.batchSize first last

/-- The exit code of a dump: one for all errors, and codes of their own for a panic and for an
abort, the latter as a shell shows the signal. -/
def exitCode : Except DumpError Unit → UInt32
  | .ok _ => 0
  | .error (.crash .capacityOverflow) => 101
  | .error (.crash (.outOfMemory _)) => 134
  | .error _ => 1

end Dump

end ChainFeed
