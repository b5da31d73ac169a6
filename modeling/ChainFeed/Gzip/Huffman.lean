/-!
# Canonical Huffman codes

A code is given by the length of each symbol's word. Words of one length are consecutive numbers in
the order of their symbols, and each length starts behind the one before. Words are read bit by bit:
a word of `n` bits is found by comparing it with the first word of `n` bits and their number.

## Main definitions

- `ChainFeed.Huffman.Code`: a code
- `ChainFeed.Huffman.Code.ofLengths?`: the code of a list of lengths
- `ChainFeed.Huffman.Code.read?`: the symbol at the front of a list of bits
-/

namespace ChainFeed.Huffman

/-- A code: how many words there are of each length from 1 on, and the symbols sorted by word. -/
structure Code where
  counts : List Nat
  symbols : Array Nat

/-- The greatest length of a word. -/
def maxLength : Nat :=
  15

/-- The symbols with words of a length. -/
def symbolsOfLength (lengths : List Nat) (length : Nat) : List Nat :=
  (lengths.zipIdx.filter fun (n, _) => n = length).map (·.2)

/-- The number of words of the greatest length that have one of the given words in front: a word
of length `n` takes `2 ^ (15 - n)` of them. -/
def coverage (lengths : List Nat) : Nat :=
  lengths.foldl (fun sum n => sum + if n = 0 then 0 else Nat.pow 2 (maxLength - n)) 0

/-- Whether lengths are those of a code: every list of bits has a word in front, or there is no
word, or a single one of one bit. -/
def isCode (lengths : List Nat) : Bool :=
  match lengths.filter (· != 0) with
  | [] => true
  | [1] => true
  | _ => coverage lengths = Nat.pow 2 maxLength

/-- The code of a list of lengths, of which zero stands for no word. -/
def Code.ofLengths? (lengths : List Nat) : Option Code :=
  let groups := (List.range maxLength).map fun n => symbolsOfLength lengths (n + 1)
  if isCode lengths then some ⟨groups.map List.length, groups.flatten.toArray⟩ else none

/-- Compares the word `word` with those of the present length, of which `first` is the first and
`index` the position of its symbol, and goes on to the next length. -/
def readFrom? (symbols : Array Nat) : (counts : List Nat) → (word first index : Nat) →
    List Bool → Option (Nat × List Bool)
  | [], _, _, _, _ => none
  | _ :: _, _, _, _, [] => none
  | count :: counts, word, first, index, bit :: bits =>
    let word := 2 * word + bit.toNat
    let first := 2 * first
    if word < first + count then (symbols[index + (word - first)]?).map (·, bits)
    else readFrom? symbols counts word (first + count) (index + count) bits

/-- The symbol at the front of a list of bits, and the bits behind its word. -/
def Code.read? (code : Code) (bits : List Bool) : Option (Nat × List Bool) :=
  readFrom? code.symbols code.counts 0 0 0 bits

end ChainFeed.Huffman
