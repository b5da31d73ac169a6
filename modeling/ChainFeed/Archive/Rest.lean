import ChainFeed.Archive.Fetcher
import ChainFeed.Archive.Network
import ChainFeed.Http.Basic
import ChainFeed.Options.Basic

/-!
# The archive over HTTP

An archive network keeps bundles in pools, one for each chain. What it knows of pools and bundles is
fetched as JSON from its endpoint, the data of bundles from a storage.

## Main definitions

- `ChainFeed.Archive.Pool`, `ChainFeed.Archive.selectPool`: pools, and that of a chain
- `ChainFeed.Archive.source`: the bundles of a pool
- `ChainFeed.Archive.setUp`: the archive that options ask for
-/

namespace ChainFeed.Archive

/-- A pool of bundles. -/
structure Pool where
  id : UInt64
  /-- What is kept in the pool. -/
  runtime : String
  /-- How the pool was set up, as JSON text. -/
  config : String
  totalBundles : UInt64
  deriving DecidableEq, Repr

namespace Pool

/-- Reads the data of a pool. -/
def dataReader : Reader (String × String × UInt64) :=
  .record ((fun runtime config total => (runtime, config, total)) <$>
    .withDefault "runtime" "" .string <*> .withDefault "config" "" .string <*>
    .withDefault "total_bundles" 0 .uint64OrZero)

/-- Reads a pool. -/
def reader : Reader Pool :=
  .record ((fun id (runtime, config, total) => ⟨id, runtime, config, total⟩) <$>
    .required "id" .uint64Numeral <*> .required "data" dataReader)

/-- The runtime of pools that keep blocks with their results. -/
def blockRuntime : String :=
  "@kyvejs/tendermint-bsync"

/-- Reads the name of the chain from the set-up of a pool. -/
def configReader : Reader String :=
  .record (.withDefault "network" "" .string)

/-- Whether a pool keeps the blocks of a chain. -/
def holds (pool : Pool) (chainId : String) : Bool :=
  pool.runtime = blockRuntime &&
    match configReader.ofText (Utf8.encode pool.config) with
    | .ok network => network = chainId
    | .error _ => false

end Pool

/-- The first pool that keeps the blocks of a chain. -/
def selectPool (pools : List Pool) (chainId : String) : Option UInt64 :=
  (pools.find? (·.holds chainId)).map Pool.id

variable {m : Type → Type} [Monad m] {α : Type}

/-- Fetches a JSON value from the endpoint of a network. -/
def getJson (exchange : Http.Exchange m) (endpoint : Url) (path : String) (reader : Reader α) :
    ExceptT ArchiveError m α := do
  let url := endpoint.base ++ path
  match (← ExceptT.lift (Http.get? exchange url)).map reader.ofText with
  | some (.ok value) => return value
  | _ => throw (.metadataRequestFailed url Http.fault)

/-- The pool that keeps the blocks of a chain. -/
def findPool (exchange : Http.Exchange m) (endpoint : Url) (chainId : String) :
    ExceptT ArchiveError m UInt64 := do
  let pools ← getJson exchange endpoint "/kyve/query/v1beta1/pools?pagination.limit=1000"
    (.record (.withDefault "pools" [] (.list Pool.reader)))
  match selectPool pools chainId with
  | some id => return id
  | none => throw (.poolNotFound chainId)

/-- The number of the newest bundle of a pool. -/
def latestBundleId (exchange : Http.Exchange m) (endpoint : Url) (poolId : UInt64) :
    ExceptT ArchiveError m UInt64 := do
  let path := "/kyve/query/v1beta1/pool/" ++ toString poolId
  let pool ← getJson exchange endpoint path (.record (.required "pool" Pool.reader))
  if pool.totalBundles = 0 then
    throw (.metadataRequestFailed path "pool has no finalized bundles")
  else return pool.totalBundles - 1

/-- What is known of a bundle of a pool. -/
def finalizedBundle (exchange : Http.Exchange m) (endpoint : Url) (poolId id : UInt64) :
    ExceptT ArchiveError m Bundle :=
  getJson exchange endpoint ("/kyve/v1/bundles/" ++ toString poolId ++ "/" ++ toString id)
    (.record (.required "finalized_bundle" Bundle.reader))

/-- The data of a bundle as it is stored. -/
def retrieve (exchange : Http.Exchange m) (storage : Url) (bundle : Bundle) :
    ExceptT ArchiveError m (List UInt8) := do
  match ← ExceptT.lift (Http.get? exchange (storage.base ++ "/" ++ bundle.storageId)) with
  | some data => return data
  | none => throw (.storageFetchFailed bundle.storageId Http.fault)

/-- The bundles of a pool. -/
def source (exchange : Http.Exchange m) (endpoint storage : Url) (poolId : UInt64) : Source m where
  latestBundleId := latestBundleId exchange endpoint poolId
  finalizedBundle := finalizedBundle exchange endpoint poolId
  retrieve := retrieve exchange storage

/-- The archive that options ask for, with the blocks of a chain. -/
def setUp (exchange : Http.Exchange m) (options : ArchiveOptions) (chainId : String) :
    ExceptT ArchiveError m (Option (Source m)) := do
  match options.network with
  | none => return none
  | some network =>
    match options.endpoint <|> (defaultEndpoint? network).bind Url.parse? with
    | none => throw (.unknownNetwork network)
    | some endpoint =>
      let poolId ← match options.poolId with
        | some id => pure id
        | none => findPool exchange endpoint chainId
      return some (source exchange endpoint options.storageUrl poolId)

end ChainFeed.Archive
