import ChainFeed.Wire.Basic
import Mathlib.Algebra.Group.Nat.Defs
import Mathlib.Algebra.Ring.Int.Defs

/-!
# The wire format as a relation

What bytes are a varint, a key or a payload is said here without a reader, and the readers are shown
to read them. Numbers may be padded: a varint may have more digits than its number needs, up to ten
bytes in all, so that one number has several varints.

## Main definitions

- `Varint`: the bytes of a number below `2 ^ 64`, in seven bits a byte
- `Key`: the bytes in front of a payload
- `Delimited`: a byte string behind its length
- `Payload`: the complete payloads of a shape; groups have none
- `littleEndianBytes`, `signExtend`, `zigzag`: how numbers are written

## Main results

- `varint?_append`, `readKey_append`: the readers read what is in front and leave what is behind it
- `littleEndian_littleEndianBytes`, `littleEndianBytes_littleEndian`: bytes are those of the number
  that is read from them
- `lowSigned_signExtend_sixtyFour`, `unzigzag_zigzag`: reading a number undoes writing it
-/

namespace ChainFeed

/-- The low bits of a key with which a shape is written. -/
def WireType.code : WireType → Nat
  | .varint => 0
  | .sixtyFourBit => 1
  | .lengthDelimited => 2
  | .startGroup => 3
  | .endGroup => 4
  | .thirtyTwoBit => 5

theorem WireType.code_lt (wireType : WireType) : wireType.code < 8 := by
  cases wireType <;> decide

theorem WireType.ofNat?_code (wireType : WireType) : ofNat? wireType.code = some wireType := by
  cases wireType <;> rfl

theorem WireType.code_of_ofNat? {wireType : WireType} {n : Nat} (h : ofNat? n = some wireType) :
    wireType.code = n := by
  unfold ofNat? at h
  split at h <;> cases h <;> rfl

namespace Wire

variable {n : Nat} {bytes rest : List UInt8}

/-! ### Varints -/

/-- The digits of a number, the lowest first: seven bits a byte, and a mark in all but the last. -/
inductive Digits : Nat → List UInt8 → Prop
  | last {b : UInt8} (h : b.toNat < 128) : Digits b.toNat [b]
  | more {b : UInt8} {n : Nat} {bytes : List UInt8} (h : 128 ≤ b.toNat) (hrest : Digits n bytes) :
    Digits (b.toNat - 128 + 128 * n) (b :: bytes)

/-- The bytes of a number below `2 ^ 64`. -/
structure Varint (n : Nat) (bytes : List UInt8) : Prop where
  digits : Digits n bytes
  length_le : bytes.length ≤ 10
  lt : n < 2 ^ 64

theorem Digits.length_pos (h : Digits n bytes) : 0 < bytes.length := by
  cases h <;> exact Nat.succ_pos _

/-- In `room` bytes there is place for `7 * room - 6` bits: the last byte holds one bit. -/
theorem Digits.varintWithin?_append (h : Digits n bytes) {room : Nat} (hroom : bytes.length ≤ room)
    (hlt : n < 2 ^ (7 * room - 6)) : varintWithin? room (bytes ++ rest) = some (n, rest) := by
  -- each digit takes one byte of the room, and seven bits of the bound
  induction h generalizing room with
  | @last b hb =>
    obtain ⟨room, rfl⟩ : ∃ r, room = r + 1 := ⟨room - 1, by simp at hroom; omega⟩
    have hsmall : b < 128 := UInt8.lt_iff_toNat_lt.mpr hb
    have hone : ¬ (room = 0 ∧ 1 < b) := by
      rintro ⟨rfl, hbig⟩
      have := UInt8.lt_iff_toNat_lt.mp hbig
      simp at this hlt
      omega
    simp [varintWithin?, hsmall, hone]
  | @more b m bytes hb hrest ih =>
    have hpos := hrest.length_pos
    rw [List.length_cons] at hroom
    obtain ⟨room, rfl⟩ : ∃ r, room = r + 2 := ⟨room - 2, by omega⟩
    have hbig : ¬ b < 128 := fun hlt => absurd (UInt8.lt_iff_toNat_lt.mp hlt) (by simpa using hb)
    have hm : m < 2 ^ (7 * (room + 1) - 6) := by
      rw [show 7 * (room + 2) - 6 = 7 * (room + 1) - 6 + 7 by omega, Nat.pow_add] at hlt
      omega
    rw [List.cons_append, varintWithin?, if_neg hbig, ih (by omega) hm]
    rfl

/-- A varint is read as its number, whatever stands behind it. -/
theorem varint?_append (h : Varint n bytes) : varint? (bytes ++ rest) = some (n, rest) :=
  h.digits.varintWithin?_append h.length_le h.lt

theorem Varint.length_pos (h : Varint n bytes) : 0 < bytes.length :=
  h.digits.length_pos

theorem varint_singleton (b : UInt8) (h : b.toNat < 128) : Varint b.toNat [b] :=
  ⟨.last h, by simp, by omega⟩

theorem varint_pair (a b : UInt8) (h : 128 ≤ a.toNat) (h' : b.toNat < 128) :
    Varint (a.toNat - 128 + 128 * b.toNat) [a, b] :=
  ⟨.more h (.last h'), by simp, by have := a.toNat_lt; omega⟩

/-! ### Keys and payloads -/

/-- The bytes of a key: a field number from 1 to `2 ^ 29 - 1` and a shape. -/
structure Key (number : Nat) (wireType : WireType) (bytes : List UInt8) : Prop where
  varint : Varint (8 * number + wireType.code) bytes
  pos : 0 < number
  lt : number < 2 ^ 29

/-- A key is read as its number and shape, whatever stands behind it. -/
theorem readKey_append {number : Nat} {wireType : WireType} (h : Key number wireType bytes) :
    readKey (bytes ++ rest) = .ok ((number, wireType), rest) := by
  have hcode := wireType.code_lt
  have hpos := h.pos
  have hlt := h.lt
  -- the shape is in the three low bits of a key
  have hmod : (8 * number + wireType.code) % 8 = wireType.code := by omega
  have hdiv : (8 * number + wireType.code) / 8 = number := by omega
  rw [readKey, varint?_append h.varint]
  dsimp only
  rw [if_neg (by omega), hmod, hdiv, wireType.ofNat?_code]
  exact if_neg (by omega)

theorem key_singleton {number : Nat} {wireType : WireType} (b : UInt8) (h : b.toNat < 128)
    (heq : 8 * number + wireType.code = b.toNat) (hpos : 0 < number) : Key number wireType [b] :=
  ⟨heq ▸ varint_singleton b h, hpos, by omega⟩

theorem Key.length_lt {number : Nat} {wireType : WireType} (h : Key number wireType bytes)
    (written rest : List UInt8) : rest.length < (bytes ++ (written ++ rest)).length := by
  have hpos := h.varint.length_pos
  simp only [List.length_append]
  omega

/-- A byte string behind its length. -/
inductive Delimited (payload : List UInt8) : List UInt8 → Prop
  | mk {length : List UInt8} (h : Varint payload.length length) :
    Delimited payload (length ++ payload)

theorem split?_append (payload : List UInt8) :
    split? payload.length (payload ++ rest) = some (payload, rest) := by
  rw [split?, if_pos (by simp), List.take_left', List.drop_left'] <;> rfl

/-- The complete payloads of each shape. -/
inductive Payload : WireType → List UInt8 → Prop
  | varint {n : Nat} {written : List UInt8} (h : Varint n written) : Payload .varint written
  | sixtyFourBit {written : List UInt8} (h : written.length = 8) : Payload .sixtyFourBit written
  | thirtyTwoBit {written : List UInt8} (h : written.length = 4) : Payload .thirtyTwoBit written
  | lengthDelimited {payload written : List UInt8} (h : Delimited payload written) :
    Payload .lengthDelimited written

/-! ### Numbers -/

/-- The `count` low bytes of a number, the lowest first. -/
def littleEndianBytes : (count : Nat) → Nat → List UInt8
  | 0, _ => []
  | count + 1, n => n.toUInt8 :: littleEndianBytes count (n / 256)

@[simp] theorem length_littleEndianBytes (count n : Nat) :
    (littleEndianBytes count n).length = count := by
  induction count generalizing n with
  | zero => rfl
  | succ count ih => rw [littleEndianBytes, List.length_cons, ih]

theorem littleEndian_littleEndianBytes (count n : Nat) :
    littleEndian (littleEndianBytes count n) = n % 256 ^ count := by
  induction count generalizing n with
  | zero => rw [Nat.pow_zero, Nat.mod_one]; rfl
  | succ count ih =>
    have hbyte : n.toUInt8.toNat = n % 256 := UInt8.toNat_ofNat'
    rw [littleEndianBytes, littleEndian, ih, hbyte, Nat.pow_succ', Nat.mod_mul]

theorem littleEndian_lt (bytes : List UInt8) : littleEndian bytes < 256 ^ bytes.length := by
  induction bytes with
  | nil => exact Nat.one_pos
  | cons b rest ih =>
    have hb := b.toNat_lt
    rw [littleEndian, List.length_cons, Nat.pow_succ]
    omega

theorem littleEndianBytes_littleEndian (bytes : List UInt8) :
    littleEndianBytes bytes.length (littleEndian bytes) = bytes := by
  induction bytes with
  | nil => rfl
  | cons b rest ih =>
    have hb := b.toNat_lt
    have hlow : (b.toNat + 256 * littleEndian rest).toUInt8 = b := by
      rw [← UInt8.toNat_inj]
      exact UInt8.toNat_ofNat'.trans (by omega)
    have hhigh : (b.toNat + 256 * littleEndian rest) / 256 = littleEndian rest := by omega
    rw [littleEndian, List.length_cons, littleEndianBytes, hlow, hhigh, ih]

/-- An integer in two's complement, on sixty-four bits whatever its kind. -/
def signExtend (x : Int) : Nat :=
  (x % 2 ^ 64).toNat

theorem lowSigned_signExtend_thirtyTwo {x : Int} (h : -2 ^ 31 ≤ x) (h' : x < 2 ^ 31) :
    lowSigned 32 (signExtend x) = x := by
  unfold lowSigned signExtend
  rw [Int.bmod_def]
  simp only [Nat.pow_eq, Int.natCast_pow]
  omega

theorem lowSigned_mod (bits n : Nat) : lowSigned bits (n % 2 ^ bits) = lowSigned bits n := by
  rw [lowSigned, Nat.pow_eq, Int.natCast_emod, Int.emod_bmod]
  rfl

theorem lowSigned_signExtend_sixtyFour {x : Int} (h : -2 ^ 63 ≤ x) (h' : x < 2 ^ 63) :
    lowSigned 64 (signExtend x) = x := by
  unfold lowSigned signExtend
  rw [Int.bmod_def]
  simp only [Nat.pow_eq, Int.natCast_pow]
  omega

/-- The place of an integer in the order `0, -1, 1, -2, …`. -/
def zigzag (x : Int) : Nat :=
  if 0 ≤ x then (2 * x).toNat else (-2 * x - 1).toNat

@[simp] theorem unzigzag_zigzag (x : Int) : unzigzag (zigzag x) = x := by
  unfold unzigzag zigzag
  split <;> split <;> omega

end Wire

end ChainFeed
