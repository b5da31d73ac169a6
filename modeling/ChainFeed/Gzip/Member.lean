import ChainFeed.Gzip.Inflate
import ChainFeed.Wire.Basic

/-!
# Gzip

A gzip file is a header, deflated data, and a trailer with a checksum and the length of the output.
The header may have further fields and a checksum of its own. Only the first such member of a file
counts.

## Main definitions

- `ChainFeed.Gzip.crc32`: the checksum
- `ChainFeed.Gzip.decompress?`: the data of a file
-/

namespace ChainFeed.Gzip

/-- Eight steps of polynomial division. -/
def crcShift : (steps : Nat) → UInt32 → UInt32
  | 0, c => c
  | steps + 1, c => crcShift steps (if c &&& 1 = 1 then (c >>> 1) ^^^ 0xEDB88320 else c >>> 1)

/-- The checksum of bytes. -/
def crc32 (bytes : List UInt8) : UInt32 :=
  (bytes.foldl (fun c b => crcShift 8 (c ^^^ b.toUInt32)) 0xFFFFFFFF) ^^^ 0xFFFFFFFF

/-- The greatest length of a text in a header. -/
def maxText : Nat :=
  65535

/-- A text that ends in a zero byte; gives what follows it. -/
def skipText? (bytes : List UInt8) : Option (List UInt8) :=
  match bytes.dropWhile (· != 0) with
  | [] => none
  | _ :: rest => if bytes.length - rest.length ≤ maxText + 1 then some rest else none

/-- A field with a length of two bytes in front; gives what follows it. -/
def skipExtra? (bytes : List UInt8) : Option (List UInt8) := do
  let (length, rest) ← Wire.split? 2 bytes
  let (_, rest) ← Wire.split? (Wire.littleEndian length) rest
  return rest

/-- Applies a step if a flag is set. -/
def whenFlag (flags flag : UInt8) (step : List UInt8 → Option (List UInt8))
    (bytes : List UInt8) : Option (List UInt8) :=
  if flags &&& flag != 0 then step bytes else some bytes

/-- The checksum of a header: the low half of the checksum of all bytes before it. -/
def checkHeader? (file bytes : List UInt8) : Option (List UInt8) := do
  let (sum, rest) ← Wire.split? 2 bytes
  let header := file.take (file.length - bytes.length)
  if (crc32 header).toNat % 65536 = Wire.littleEndian sum then some rest else none

/-- Passes over the header of a file. -/
def skipHeader? (file : List UInt8) : Option (List UInt8) :=
  match file with
  | 0x1F :: 0x8B :: 8 :: flags :: rest => do
    if flags &&& 0xE0 != 0 then none
    else
      let (_, rest) ← Wire.split? 6 rest
      let rest ← whenFlag flags 4 skipExtra? rest
      let rest ← whenFlag flags 8 skipText? rest
      let rest ← whenFlag flags 16 skipText? rest
      whenFlag flags 2 (checkHeader? file) rest
  | _ => none

/-- The data of a file's first member. -/
def decompress? (file : List UInt8) : Option (List UInt8) := do
  let body ← skipHeader? file
  let (data, rest) ← Inflate.inflate? body
  let (sum, rest) ← Wire.split? 4 rest
  let (length, _) ← Wire.split? 4 rest
  if (crc32 data).toNat = Wire.littleEndian sum &&
      data.length % 4294967296 = Wire.littleEndian length then some data
  else none

end ChainFeed.Gzip
