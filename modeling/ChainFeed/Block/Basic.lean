import ChainFeed.Time.Rfc3339

/-!
# Blocks and their results

One model of what a node reports about a height, whatever the protocol version it was reported in: a
block, and the results of running it. The two are used together as a pair, which exists only if
there are as many results as transactions.

## Main definitions

- `ChainFeed.Block`, `ChainFeed.BlockResults`: the two halves
- `ChainFeed.BlockPair`: both halves, with matching counts
- `ChainFeed.BlockPair.ofParts`: pairing, which checks the counts
-/

namespace ChainFeed

/-- Versions that the block was made under. -/
structure Version where
  block : UInt64
  app : UInt64
  deriving DecidableEq, Repr

/-- The head of a block. -/
structure Header where
  version : Version
  chainId : String
  height : UInt64
  time : Instant
  /-- The hash of the block before, if there is one. -/
  lastBlockHash : Option String
  dataHash : String
  appHash : String
  proposerAddress : String
  deriving DecidableEq, Repr

/-- A block with its transactions as bytes. -/
structure Block where
  hash : String
  header : Header
  txs : List (List UInt8)
  deriving DecidableEq, Repr

/-- The height of a block. -/
def Block.height (block : Block) : UInt64 :=
  block.header.height

/-- A key and a value of an event, as bytes. -/
structure Attribute where
  key : List UInt8
  value : List UInt8
  /-- Whether nodes index the attribute. -/
  index : Bool
  deriving DecidableEq, Repr

/-- Something that happened while a block was run. -/
structure Event where
  kind : String
  attributes : List Attribute
  deriving DecidableEq, Repr

/-- The result of one transaction. -/
structure TxResult where
  code : UInt32
  codespace : String
  log : String
  info : String
  data : List UInt8
  gasWanted : Int64
  gasUsed : Int64
  events : List Event
  deriving DecidableEq, Repr

/-- A transaction succeeded if its code is zero. -/
def TxResult.isSuccess (result : TxResult) : Bool :=
  result.code = 0

/-- The results of a block. Events outside transactions may not have been reported at all. -/
structure BlockResults where
  height : UInt64
  results : List TxResult
  beginEvents : Option (List Event)
  endEvents : Option (List Event)
  deriving DecidableEq, Repr

/-- A rule that a block and its results break together. -/
inductive ValidationError where
  | txResultCountMismatch (height : UInt64) (txCount resultCount : Nat)
  deriving DecidableEq, Repr

/-- The text of a broken rule. -/
def ValidationError.message : ValidationError → String
  | .txResultCountMismatch height txCount resultCount =>
    "block " ++ toString height ++ " has " ++ toString txCount ++ " transactions but " ++
      toString resultCount ++ " transaction results"

/-- A block with its results, one for each transaction. -/
structure BlockPair where
  block : Block
  results : BlockResults
  counts_eq : block.txs.length = results.results.length
  deriving DecidableEq, Repr

namespace BlockPair

/-- Pairs a block with its results. -/
def ofParts (block : Block) (results : BlockResults) : Except ValidationError BlockPair :=
  if h : block.txs.length = results.results.length then .ok ⟨block, results, h⟩
  else .error (.txResultCountMismatch block.height block.txs.length results.results.length)

/-- The height of a pair is that of its block. -/
def height (pair : BlockPair) : UInt64 :=
  pair.block.height

end BlockPair

end ChainFeed
