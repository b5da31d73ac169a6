import ChainFeed.Options.Basic

/-!
# Options of a dump
-/

namespace ChainFeed

/-- The options of a dump. -/
structure DumpOptions where
  feed : FeedOptions
  /-- The first height; the node's present height if it is left out. -/
  first : Option UInt64
  /-- The last height; the first one if it is left out. -/
  last : Option UInt64
  /-- How many heights are fetched at a time; zero counts as one. -/
  batchSize : UInt64
  /-- The file with the handlers; every block is asked for without one. -/
  filters : Option String
  /-- The directory of the schema files. -/
  schemaDir : String
  /-- The schema files. -/
  schemas : List String
  deriving DecidableEq, Repr

namespace DumpOptions

/-- The options of an empty command line. -/
def default : DumpOptions :=
  ⟨.default, none, none, 10, none, ".", []⟩

/-- The flag of schema files. -/
def schemaFlag : Flag DumpOptions where
  name := "schema"
  repeatable := true
  update? path o := some { o with schemas := o.schemas ++ [path] }

/-- A path, which has at least one character. -/
def path? (text : String) : Option String :=
  if text = "" then none else some text

/-- The flags. -/
def flags : List (Flag DumpOptions) :=
  FeedOptions.flags.map (.within feed fun feed o => { o with feed }) ++
    [.single "start" Integer.uint64? fun first o => { o with first := some first },
      .single "end" Integer.uint64? fun last o => { o with last := some last },
      .single "batch-size" Integer.uint64? fun batchSize o => { o with batchSize },
      .single "filters" path? fun path o => { o with filters := some path },
      .single "schema-dir" path? fun schemaDir o => { o with schemaDir },
      schemaFlag]

/-- The options of a command line. -/
def parse (environment : String → Option String) (args : List String) :
    Except UsageError DumpOptions :=
  CommandLine.parse flags default environment args

end DumpOptions

end ChainFeed
