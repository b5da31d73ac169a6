import ChainFeed.Feed.Error
import ChainFeed.Node.Block
import ChainFeed.Node.Call
import ChainFeed.Node.Results

/-!
# Batches

A batch asks a node for the blocks and the results at a list of heights, two questions a height.
Answers may be delivered in any order. Each goes to the slot of its position, and a slot with both
halves pairs them; the first failure ends the batch. Once every answer has been delivered the slots
hold the pairs in the order of the heights.

## Main definitions

- `ChainFeed.BatchCall`: a question of a batch, `ChainFeed.Batch.calls` all of them
- `ChainFeed.Slot`: what has been delivered at a position
- `ChainFeed.Batch.deliver`: the delivery of one answer
- `ChainFeed.Batch.run`: asking and delivering in a given order
- `ChainFeed.Batch.pairs`: the outcome
-/

namespace ChainFeed

/-- A half of a block pair. -/
inductive Part where
  | block
  | results
  deriving DecidableEq, Repr

/-- A question of a batch. -/
structure BatchCall where
  /-- The position in the list of heights. -/
  position : Nat
  height : UInt64
  part : Part
  deriving DecidableEq, Repr

/-- The question to the node. -/
def BatchCall.call (call : BatchCall) : NodeCall :=
  match call.part with
  | .block => .block call.height
  | .results => .blockResults call.height

/-- What has been delivered at a position. -/
inductive Slot where
  | waiting (block : Option Block) (results : Option BlockResults)
  | paired (pair : BlockPair)
  deriving DecidableEq, Repr

namespace Slot

/-- Pairs the halves once both are there. -/
def ofHalves : Option Block → Option BlockResults → Except ValidationError Slot
  | some block, some results => (BlockPair.ofParts block results).map paired
  | block, results => .ok (waiting block results)

/-- Delivers a block. -/
def putBlock (block : Block) : Slot → Except ValidationError Slot
  | waiting _ results => ofHalves (some block) results
  | paired pair => .ok (paired pair)

/-- Delivers results. -/
def putResults (results : BlockResults) : Slot → Except ValidationError Slot
  | waiting block _ => ofHalves block (some results)
  | paired pair => .ok (paired pair)

/-- The pair of a slot that has both halves. -/
def pair? : Slot → Option BlockPair
  | waiting .. => none
  | paired pair => some pair

end Slot

/-- Reads an answer of a node. -/
def readAnswer {α : Type} (decode : Json → Except DecodeError α)
    (answer : Except ConnectionError Json) : Except FetchError α := do
  let value ← answer.mapError .connection
  (decode value).mapError .decode

/-- The slots of a batch, one for each position. -/
abbrev Batch := List Slot

namespace Batch

/-- A batch in which nothing has been delivered. -/
def start (heights : List UInt64) : Batch :=
  heights.map fun _ => .waiting none none

/-- The questions of a batch whose first position is `position`: at each height for the block, then
for its results. -/
def callsFrom (position : Nat) : List UInt64 → List BatchCall
  | [] => []
  | height :: heights =>
    ⟨position, height, .block⟩ :: ⟨position, height, .results⟩ :: callsFrom (position + 1) heights

/-- The questions of a batch. -/
def calls (heights : List UInt64) : List BatchCall :=
  callsFrom 0 heights

/-- Changes the slot at a position. -/
def change (f : Slot → Except ValidationError Slot) :
    (position : Nat) → Batch → Except ValidationError Batch
  | _, [] => .ok []
  | 0, slot :: batch => (f slot).map (· :: batch)
  | position + 1, slot :: batch => (change f position batch).map (slot :: ·)

/-- What an answer changes in its slot. -/
def delivery (protocol : Protocol) (part : Part) (answer : Except ConnectionError Json) :
    Except FetchError (Slot → Except ValidationError Slot) :=
  match part with
  | .block => (readAnswer protocol.decodeBlock answer).map Slot.putBlock
  | .results => (readAnswer protocol.decodeResults answer).map Slot.putResults

/-- Delivers the answer to a question. -/
def deliver (protocol : Protocol) (call : BatchCall) (answer : Except ConnectionError Json)
    (batch : Batch) : Except FetchError Batch := do
  let f ← delivery protocol call.part answer
  (batch.change f call.position).mapError .validation

/-- The pairs of a batch, in the order of their positions. -/
def pairs (batch : Batch) : List BlockPair :=
  batch.filterMap Slot.pair?

variable {m : Type → Type} [Monad m]

/-- Asks questions one after the other and delivers each answer. -/
def run (transport : Transport m) (protocol : Protocol) :
    List BatchCall → Batch → ExceptT FetchError m Batch
  | [], batch => return batch
  | call :: calls, batch => do
    let answer ← ExceptT.lift (transport call.call).run
    let batch ← batch.deliver protocol call answer
    run transport protocol calls batch

end Batch

end ChainFeed
