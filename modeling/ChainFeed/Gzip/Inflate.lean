import ChainFeed.Gzip.Huffman

/-!
# Deflated data

Data is a sequence of blocks, read bit by bit from the low end of each byte. A block is stored as it
is, or is a list of bytes and of repeats of earlier output, written in a pair of Huffman codes that
is fixed or stands at the front of the block.

## Main definitions

- `ChainFeed.Inflate.inflate?`: the output, and the input behind the last block
-/

namespace ChainFeed.Inflate

/-- The bits of bytes, the lowest of each byte first. -/
def bitsOf (bytes : List UInt8) : List Bool :=
  bytes.flatMap fun b => (List.range 8).map fun i => b.toNat / Nat.pow 2 i % 2 = 1

/-- The number that bits stand for, the lowest first. -/
def value : List Bool → Nat
  | [] => 0
  | bit :: bits => bit.toNat + 2 * value bits

/-- A number of `n` bits. -/
def number? (n : Nat) (bits : List Bool) : Option (Nat × List Bool) :=
  let front := bits.take n
  if front.length = n then some (value front, bits.drop n) else none

/-- Drops the bits up to a byte boundary. -/
def align (bits : List Bool) : List Bool :=
  bits.drop (bits.length % 8)

/-- The least length of a repeat and the number of further bits, for symbols from 257 on. -/
def lengthTable : List (Nat × Nat) :=
  [(3, 0), (4, 0), (5, 0), (6, 0), (7, 0), (8, 0), (9, 0), (10, 0), (11, 1), (13, 1), (15, 1),
    (17, 1), (19, 2), (23, 2), (27, 2), (31, 2), (35, 3), (43, 3), (51, 3), (59, 3), (67, 4),
    (83, 4), (99, 4), (115, 4), (131, 5), (163, 5), (195, 5), (227, 5), (258, 0)]

/-- The least distance of a repeat and the number of further bits. -/
def distanceTable : List (Nat × Nat) :=
  [(1, 0), (2, 0), (3, 0), (4, 0), (5, 1), (7, 1), (9, 2), (13, 2), (17, 3), (25, 3), (33, 4),
    (49, 4), (65, 5), (97, 5), (129, 6), (193, 6), (257, 7), (385, 7), (513, 8), (769, 8),
    (1025, 9), (1537, 9), (2049, 10), (3073, 10), (4097, 11), (6145, 11), (8193, 12), (12289, 12),
    (16385, 13), (24577, 13)]

/-- A number from a table of least values and further bits. -/
def tableNumber? (table : List (Nat × Nat)) (i : Nat) (bits : List Bool) :
    Option (Nat × List Bool) := do
  let (least, extra) ← table[i]?
  let (more, bits) ← number? extra bits
  return (least + more, bits)

/-- The byte `distance` places before the end of the output; zeros stand before its start. -/
def byteAt (out : Array UInt8) (distance : Nat) : UInt8 :=
  if distance ≤ out.size then out.getD (out.size - distance) 0 else 0

/-- Repeats `count` bytes of output from `distance` bytes back. -/
def repeatFrom (distance : Nat) : (count : Nat) → Array UInt8 → Array UInt8
  | 0, out => out
  | count + 1, out => repeatFrom distance count (out.push (byteAt out distance))

/-- Bytes and repeats up to the end of a block. -/
def readBlock (literals distances : Huffman.Code) :
    (fuel : Nat) → Array UInt8 → List Bool → Option (Array UInt8 × List Bool)
  | 0, _, _ => none
  | fuel + 1, out, bits => do
    let (symbol, bits) ← literals.read? bits
    if symbol < 256 then readBlock literals distances fuel (out.push symbol.toUInt8) bits
    else if symbol = 256 then return (out, bits)
    else
      let (length, bits) ← tableNumber? lengthTable (symbol - 257) bits
      let (symbol, bits) ← distances.read? bits
      let (distance, bits) ← tableNumber? distanceTable symbol bits
      readBlock literals distances fuel (repeatFrom distance length out) bits

/-- A stored block: its length, the length with all bits turned, and as many bytes. -/
def readStored (out : Array UInt8) (bits : List Bool) : Option (Array UInt8 × List Bool) := do
  let (length, bits) ← number? 16 (align bits)
  let (turned, bits) ← number? 16 bits
  if length + turned != 65535 then none
  else
    let front := bits.take (8 * length)
    if front.length != 8 * length then none
    else
      let out := (List.range length).foldl (fun (state : Array UInt8 × List Bool) _ =>
        (state.1.push (value (state.2.take 8)).toUInt8, state.2.drop 8)) (out, front)
      return (out.1, bits.drop (8 * length))

/-- The lengths of the fixed code for bytes and lengths. -/
def fixedLiterals : List Nat :=
  List.replicate 144 8 ++ List.replicate 112 9 ++ List.replicate 24 7 ++ List.replicate 8 8

/-- The lengths of the fixed code for distances. -/
def fixedDistances : List Nat :=
  List.replicate 32 5

/-- The order in which the lengths of the code for lengths stand. -/
def lengthOrder : List Nat :=
  [16, 17, 18, 0, 8, 7, 9, 6, 10, 5, 11, 4, 12, 3, 13, 2, 14, 1, 15]

/-- `n` numbers of three bits. -/
def readTriples : (n : Nat) → List Bool → Option (List Nat × List Bool)
  | 0, bits => some ([], bits)
  | n + 1, bits => do
    let (first, bits) ← number? 3 bits
    let (rest, bits) ← readTriples n bits
    return (first :: rest, bits)

/-- Word lengths, the last one first, until there are `total` of them; a symbol stands for a length
or for a repeat of the last one or of zeros. -/
def readLengths (code : Huffman.Code) (total : Nat) :
    (fuel : Nat) → (reversed : List Nat) → List Bool → Option (List Nat × List Bool)
  | 0, _, _ => none
  | fuel + 1, reversed, bits =>
    if total < reversed.length then none
    else if reversed.length = total then some (reversed.reverse, bits)
    else do
      let (symbol, bits) ← code.read? bits
      if symbol < 16 then readLengths code total fuel (symbol :: reversed) bits
      else if symbol = 16 then
        let last ← reversed.head?
        let (n, bits) ← number? 2 bits
        readLengths code total fuel (List.replicate (n + 3) last ++ reversed) bits
      else if symbol = 17 then
        let (n, bits) ← number? 3 bits
        readLengths code total fuel (List.replicate (n + 3) 0 ++ reversed) bits
      else
        let (n, bits) ← number? 7 bits
        readLengths code total fuel (List.replicate (n + 11) 0 ++ reversed) bits

/-- The pair of codes at the front of a block. -/
def readCodes (bits : List Bool) : Option ((Huffman.Code × Huffman.Code) × List Bool) := do
  let (n, bits) ← number? 5 bits
  let (m, bits) ← number? 5 bits
  let (k, bits) ← number? 4 bits
  let literals := n + 257
  let distances := m + 1
  if 286 < literals || 30 < distances then none
  else
    let (triples, bits) ← readTriples (k + 4) bits
    let given := lengthOrder.zip triples
    let code ← Huffman.Code.ofLengths? ((List.range 19).map fun i => (given.lookup i).getD 0)
    let total := literals + distances
    let (lengths, bits) ← readLengths code total (total + 1) [] bits
    let literalCode ← Huffman.Code.ofLengths? (lengths.take literals)
    let distanceCode ← Huffman.Code.ofLengths? (lengths.drop literals)
    return ((literalCode, distanceCode), bits)

/-- One block behind its first three bits, by its type. -/
def readTyped (type : Nat) (out : Array UInt8) (bits : List Bool) :
    Option (Array UInt8 × List Bool) :=
  match type with
  | 0 => readStored out bits
  | 1 => do
    let literals ← Huffman.Code.ofLengths? fixedLiterals
    let distances ← Huffman.Code.ofLengths? fixedDistances
    readBlock literals distances (bits.length + 1) out bits
  | 2 => do
    let ((literals, distances), bits) ← readCodes bits
    readBlock literals distances (bits.length + 1) out bits
  | _ => none

/-- Blocks up to the one that is marked as the last. -/
def readBlocks : (fuel : Nat) → Array UInt8 → List Bool → Option (Array UInt8 × List Bool)
  | 0, _, _ => none
  | fuel + 1, out, bits => do
    let (last, bits) ← number? 1 bits
    let (type, bits) ← number? 2 bits
    let (out, bits) ← readTyped type out bits
    if last = 1 then return (out, bits) else readBlocks fuel out bits

/-- The output of deflated data, and the bytes behind it. -/
def inflate? (bytes : List UInt8) : Option (List UInt8 × List UInt8) := do
  let bits := bitsOf bytes
  let (out, rest) ← readBlocks (bits.length + 1) #[] bits
  return (out.toList, bytes.drop (bytes.length - rest.length / 8))

end ChainFeed.Inflate
