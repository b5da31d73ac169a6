import ChainFeed.Archive.Error
import ChainFeed.Gzip.Member
import ChainFeed.Node.Block
import ChainFeed.Node.Results

/-!
# Bundles

The archive keeps consecutive blocks in numbered bundles. What is known about a bundle says which
heights it covers, where its data is stored and how it is compressed; the data is a list of
entries, each a block and its results as a node of version 0.37 reports them, under their height.

## Main definitions

- `ChainFeed.Archive.Bundle`, `ChainFeed.Archive.Bundle.heightRange`: what is known of a bundle
- `ChainFeed.Archive.Bundle.decompress`: its data as it was before compression
- `ChainFeed.Archive.Entries.parse`: the entries by height
- `ChainFeed.Archive.Entry.decode`: the block pair of an entry
-/

namespace ChainFeed.Archive

/-- The heights from `first` to `last`; there are none if `last` is smaller. -/
structure HeightRange where
  first : UInt64
  last : UInt64
  deriving DecidableEq, Repr

/-- Whether a height lies in a range. -/
def HeightRange.contains (range : HeightRange) (height : UInt64) : Bool :=
  range.first ≤ height && height ≤ range.last

/-- What the archive tells of a finalized bundle. -/
structure Bundle where
  /-- Bundles of a pool are numbered from zero. -/
  id : UInt64
  /-- The name of the data at its storage. -/
  storageId : String
  storageProviderId : UInt32
  compressionId : UInt32
  /-- The first height, as text. -/
  fromKey : String
  /-- The last height, as text. -/
  toKey : String
  dataHash : String
  deriving DecidableEq, Repr

/-- The height that a key stands for. -/
def heightOfKey (key : String) : Except ArchiveError UInt64 :=
  match Integer.uint64? key with
  | some height => .ok height
  | none => .error (.invalidBundleKey key)

namespace Bundle

/-- Reads what is known of a bundle. -/
def reader : Reader Bundle :=
  .record (Bundle.mk <$> .required "id" .uint64Numeral <*> .required "storage_id" .string <*>
    .required "storage_provider_id" .uint32Numeral <*>
    .required "compression_id" .uint32Numeral <*> .required "from_key" .string <*>
    .required "to_key" .string <*> .withDefault "data_hash" "" .string)

/-- The heights that a bundle covers. -/
def heightRange (bundle : Bundle) : Except ArchiveError HeightRange := do
  let first ← heightOfKey bundle.fromKey
  let last ← heightOfKey bundle.toKey
  return ⟨first, last⟩

/-- The data of a bundle as it was before compression. -/
def decompress (bundle : Bundle) (data : List UInt8) : Except ArchiveError (List UInt8) :=
  if bundle.compressionId = 0 then .ok data
  else if bundle.compressionId = 1 then
    match Gzip.decompress? data with
    | some data => .ok data
    | none => .error (.decompressionFailed bundle.id)
  else .error (.unsupportedCompression bundle.compressionId)

end Bundle

/-- A block and its results as a node reports them. -/
structure Entry where
  block : Json
  results : Json

namespace Entry

/-- Reads an entry. -/
def reader : Reader Entry :=
  .record (Entry.mk <$> .required "block" .json <*> .required "block_results" .json)

/-- Reads an entry with its key. -/
def keyedReader : Reader (String × Entry) :=
  .record (Prod.mk <$> .required "key" .string <*> .required "value" reader)

/-- The block pair that bundle `bundleId` has for `height`; its block must be of that height. -/
def decode (entry : Entry) (bundleId height : UInt64) : Except ArchiveError BlockPair := do
  let block ← (Protocol.tendermint37.decodeBlock entry.block).mapError .decode
  let results ← (Protocol.tendermint37.decodeResults entry.results).mapError .decode
  let pair ← (BlockPair.ofParts block results).mapError .validation
  if pair.height = height then return pair
  else
    throw (.malformedBundle bundleId
      ("entry " ++ toString height ++ " holds block " ++ toString pair.height))

end Entry

/-- Entries by height, sorted. -/
abbrev Entries := List (UInt64 × Entry)

namespace Entries

/-- Puts an entry under its height, in place of an earlier one. -/
def insert (height : UInt64) (entry : Entry) : Entries → Entries
  | [] => [(height, entry)]
  | (other, old) :: rest =>
    if height = other then (height, entry) :: rest
    else if height < other then (height, entry) :: (other, old) :: rest
    else (other, old) :: insert height entry rest

/-- Sorts keyed entries by height; of one height the last counts. -/
def ofKeyed (items : List (String × Entry)) : Except ArchiveError Entries :=
  items.foldlM (fun entries (key, entry) => do return insert (← heightOfKey key) entry entries) []

/-- The entries that the data of bundle `bundleId` holds. -/
def parse (bundleId : UInt64) (data : List UInt8) : Except ArchiveError Entries :=
  match (Reader.list Entry.keyedReader).ofText data with
  | .ok items => ofKeyed items
  | .error fault => .error (.malformedBundle bundleId fault.message)

end Entries

end ChainFeed.Archive
