import ChainFeed.Block.Basic
import ChainFeed.Block.DecodeError
import ChainFeed.Node.Connection
import ChainFeed.Text.Quoted

/-!
# Errors of the archive

Whatever goes wrong with the archive has a text and a kind. None of these errors is final for a
height, since the node can be asked for it as well.
-/

namespace ChainFeed

/-- Why the archive gives no blocks. -/
inductive ArchiveError where
  /-- No finalized bundle covers the height. -/
  | bundleNotFound (height : UInt64)
  /-- No pool holds the blocks of the chain. -/
  | poolNotFound (chainId : String)
  /-- Nothing is known about where the network is reached. -/
  | unknownNetwork (network : String)
  /-- A question about bundles was not answered. -/
  | metadataRequestFailed (url text : String)
  /-- The data of a bundle could not be fetched. -/
  | storageFetchFailed (storageId text : String)
  /-- The data of a bundle is not compressed as said. -/
  | decompressionFailed (bundleId : UInt64)
  /-- The compression is not known. -/
  | unsupportedCompression (compressionId : UInt32)
  /-- The data of a bundle is not a list of entries. -/
  | malformedBundle (bundleId : UInt64) (text : String)
  /-- A key is not a height. -/
  | invalidBundleKey (key : String)
  /-- A block of a bundle cannot be read. -/
  | decode (source : DecodeError)
  /-- A block of a bundle and its results do not fit together. -/
  | validation (source : ValidationError)
  deriving DecidableEq, Repr

namespace ArchiveError

/-- The text of an error. -/
def message : ArchiveError → String
  | bundleNotFound height => "no bundle covers height " ++ toString height
  | poolNotFound chainId => "no archive pool found for chain " ++ chainId
  | unknownNetwork network => "no archive endpoint known for network " ++ network
  | metadataRequestFailed url text => "archive request to " ++ url ++ " failed: " ++ text
  | storageFetchFailed storageId text =>
    "failed to retrieve bundle data " ++ storageId ++ ": " ++ text
  | decompressionFailed bundleId =>
    "failed to decompress bundle " ++ toString bundleId ++ ": <gzip>"
  | unsupportedCompression compressionId =>
    "unsupported compression id " ++ toString compressionId
  | malformedBundle bundleId text => "malformed bundle " ++ toString bundleId ++ ": " ++ text
  | invalidBundleKey key => "bundle key " ++ Quoted.quote key ++ " is not a height"
  | decode source => "failed to decode bundle block: " ++ source.message
  | validation source => "invalid bundle block: " ++ source.message

/-- The kind of an error. -/
def kind : ArchiveError → ErrorKind
  | bundleNotFound _ | poolNotFound _ | unknownNetwork _ => .notFound
  | metadataRequestFailed .. | storageFetchFailed .. => .connection
  | decompressionFailed _ | unsupportedCompression _ | malformedBundle .. | invalidBundleKey _
  | decode _ => .decode
  | validation _ => .validation

end ArchiveError

end ChainFeed
