/-!
# SHA-256

The hash of a byte string: padded to blocks of sixty-four bytes, each block expanded to a schedule
of sixty-four words and folded into the eight-word state.
-/

namespace ChainFeed.Sha256

/-- Rotation of a word to the right. -/
def rotate (x : UInt32) (n : UInt32) : UInt32 :=
  (x >>> n) ||| (x <<< (32 - n))

/-- The state before the first block. -/
def initial : Array UInt32 :=
  #[0x6a09e667, 0xbb67ae85, 0x3c6ef372, 0xa54ff53a, 0x510e527f, 0x9b05688c, 0x1f83d9ab, 0x5be0cd19]

/-- The constant of each round. -/
def constants : Array UInt32 :=
  #[0x428a2f98, 0x71374491, 0xb5c0fbcf, 0xe9b5dba5, 0x3956c25b, 0x59f111f1, 0x923f82a4, 0xab1c5ed5,
    0xd807aa98, 0x12835b01, 0x243185be, 0x550c7dc3, 0x72be5d74, 0x80deb1fe, 0x9bdc06a7, 0xc19bf174,
    0xe49b69c1, 0xefbe4786, 0x0fc19dc6, 0x240ca1cc, 0x2de92c6f, 0x4a7484aa, 0x5cb0a9dc, 0x76f988da,
    0x983e5152, 0xa831c66d, 0xb00327c8, 0xbf597fc7, 0xc6e00bf3, 0xd5a79147, 0x06ca6351, 0x14292967,
    0x27b70a85, 0x2e1b2138, 0x4d2c6dfc, 0x53380d13, 0x650a7354, 0x766a0abb, 0x81c2c92e, 0x92722c85,
    0xa2bfe8a1, 0xa81a664b, 0xc24b8b70, 0xc76c51a3, 0xd192e819, 0xd6990624, 0xf40e3585, 0x106aa070,
    0x19a4c116, 0x1e376c08, 0x2748774c, 0x34b0bcb5, 0x391c0cb3, 0x4ed8aa4a, 0x5b9cca4f, 0x682e6ff3,
    0x748f82ee, 0x78a5636f, 0x84c87814, 0x8cc70208, 0x90befffa, 0xa4506ceb, 0xbef9a3f7, 0xc67178f2]

/-- A number as `width` bytes, the most significant first. -/
def bigEndian (width n : Nat) : List UInt8 :=
  (List.range width).reverse.map fun i => (n / Nat.pow 256 i % 256).toUInt8

/-- The message with the closing bit, zeros up to a block boundary less eight bytes, and the
message's length in bits. -/
def pad (message : List UInt8) : List UInt8 :=
  message ++ 0x80 :: List.replicate ((119 - message.length % 64) % 64) 0 ++
    bigEndian 8 (message.length * 8)

/-- Words of four bytes, the most significant first. -/
def words : List UInt8 → List UInt32
  | a :: b :: c :: d :: rest =>
    ((a.toUInt32 <<< 24) ||| (b.toUInt32 <<< 16) ||| (c.toUInt32 <<< 8) ||| d.toUInt32) ::
      words rest
  | _ => []

/-- The sixty-four words of a block: its own sixteen, then each from four earlier ones. -/
def schedule (block : Array UInt32) : Array UInt32 :=
  (List.range 48).foldl (fun w _ =>
    let i := w.size
    let a := w.getD (i - 15) 0
    let b := w.getD (i - 2) 0
    let s0 := rotate a 7 ^^^ rotate a 18 ^^^ (a >>> 3)
    let s1 := rotate b 17 ^^^ rotate b 19 ^^^ (b >>> 10)
    w.push (w.getD (i - 16) 0 + s0 + w.getD (i - 7) 0 + s1)) block

/-- One round on the working state. -/
def round (state : Array UInt32) (constant word : UInt32) : Array UInt32 :=
  let a := state.getD 0 0
  let b := state.getD 1 0
  let c := state.getD 2 0
  let e := state.getD 4 0
  let s1 := rotate e 6 ^^^ rotate e 11 ^^^ rotate e 25
  let choice := (e &&& state.getD 5 0) ^^^ ((e ^^^ 0xffffffff) &&& state.getD 6 0)
  let t1 := state.getD 7 0 + s1 + choice + constant + word
  let s0 := rotate a 2 ^^^ rotate a 13 ^^^ rotate a 22
  let majority := (a &&& b) ^^^ (a &&& c) ^^^ (b &&& c)
  #[t1 + s0 + majority, a, b, c, state.getD 3 0 + t1, e, state.getD 5 0, state.getD 6 0]

/-- Folds one block into the state. -/
def compress (state block : Array UInt32) : Array UInt32 :=
  let mixed := (constants.zip (schedule block)).foldl (fun s p => round s p.1 p.2) state
  state.zipWith (· + ·) mixed

/-- Folds `count` blocks of sixteen words into the state. -/
def compressAll : (count : Nat) → Array UInt32 → List UInt32 → Array UInt32
  | 0, state, _ => state
  | count + 1, state, ws => compressAll count (compress state (ws.take 16).toArray) (ws.drop 16)

/-- The hash of a byte string, thirty-two bytes. -/
def hash (message : List UInt8) : List UInt8 :=
  let ws := words (pad message)
  (compressAll (ws.length / 16) initial ws).toList.flatMap fun w => bigEndian 4 w.toNat

end ChainFeed.Sha256
