import ChainFeed.Feed.Retry
import ChainFeed.Options.CommandLine
import ChainFeed.Text.Integer
import ChainFeed.Url.Basic

/-!
# Options of a feed

How the node is reached, whether and how an archive is, and how often questions to the node are
repeated.

## Main definitions

- `ChainFeed.FeedOptions`: all options; `ChainFeed.FeedOptions.default` when none is given
- `ChainFeed.FeedOptions.flags`: their flags
- `ChainFeed.FeedOptions.parse`: the options of a command line
-/

namespace ChainFeed

/-- How the node is reached. -/
structure NodeOptions where
  url : Url
  /-- The longest time that an answer may take, in seconds. -/
  timeoutSecs : UInt64
  /-- The greatest size of an answer, in bytes. -/
  maxResponseSize : UInt32
  deriving DecidableEq, Repr

/-- How the archive is reached. -/
structure ArchiveOptions where
  /-- The name of the archive network; without it there is no archive. -/
  network : Option String
  /-- Where the network is reached, if not at its known place. -/
  endpoint : Option Url
  /-- Where the data of bundles is stored. -/
  storageUrl : Url
  /-- The pool to read, if it need not be looked up. -/
  poolId : Option UInt64
  deriving DecidableEq, Repr

/-- All options of a feed. -/
structure FeedOptions where
  node : NodeOptions
  archive : ArchiveOptions
  retry : RetryPolicy
  deriving DecidableEq, Repr

namespace Flag

variable {σ α : Type}

/-- A flag that is given once, for a value of one type. -/
def single (name : String) (read? : String → Option α) (set : α → σ → σ) : Flag σ where
  name
  repeatable := false
  update? value options := (read? value).map (set · options)

end Flag

/-- A 32-bit word on the command line, which may be a zero with a minus sign. -/
def smallWord? (s : String) : Option UInt32 :=
  (Integer.signed? 0 4294967295 s).map fun n => n.toNat.toUInt32

namespace NodeOptions

/-- A node on the same machine. -/
def default : NodeOptions where
  url := ⟨"http", "", "", some (.ipv4 0x7F000001), some 26657, .segments [""], none, none⟩
  timeoutSecs := 30
  maxResponseSize := 104857600

/-- The flags. -/
def flags : List (Flag NodeOptions) :=
  [.single "rpc-url" Url.parse? fun url o => { o with url },
    .single "rpc-timeout-secs" Integer.uint64? fun timeoutSecs o => { o with timeoutSecs },
    .single "rpc-max-response-size" smallWord? fun maxResponseSize o => { o with maxResponseSize }]

end NodeOptions

namespace ArchiveOptions

/-- No archive. -/
def default : ArchiveOptions where
  network := none
  endpoint := none
  storageUrl := ⟨"https", "", "", some (.name "arweave.net"), none, .segments [""], none, none⟩
  poolId := none

/-- The flags. -/
def flags : List (Flag ArchiveOptions) :=
  [.single "archive-network" some fun network o => { o with network := some network },
    .single "archive-endpoint" Url.parse? fun endpoint o => { o with endpoint := some endpoint },
    .single "archive-storage-url" Url.parse? fun storageUrl o => { o with storageUrl },
    .single "archive-pool-id" Integer.uint64? fun poolId o => { o with poolId := some poolId }]

end ArchiveOptions

namespace RetryPolicy

/-- Five attempts, with pauses between half a second and ten seconds. -/
def default : RetryPolicy :=
  ⟨5, 500, 10000⟩

/-- The flags. -/
def flags : List (Flag RetryPolicy) :=
  [.single "fetch-max-attempts" smallWord? fun maxAttempts o => { o with maxAttempts },
    .single "fetch-min-delay-ms" Integer.uint64? fun minDelay o => { o with minDelay },
    .single "fetch-max-delay-ms" Integer.uint64? fun maxDelay o => { o with maxDelay }]

end RetryPolicy

namespace FeedOptions

/-- The options of an empty command line. -/
def default : FeedOptions :=
  ⟨.default, .default, .default⟩

/-- The flags. -/
def flags : List (Flag FeedOptions) :=
  NodeOptions.flags.map (.within node fun node o => { o with node }) ++
    ArchiveOptions.flags.map (.within archive fun archive o => { o with archive }) ++
    RetryPolicy.flags.map (.within retry fun retry o => { o with retry })

/-- The options of a command line. -/
def parse (environment : String → Option String) (args : List String) :
    Except UsageError FeedOptions :=
  CommandLine.parse flags default environment args

end FeedOptions

end ChainFeed
