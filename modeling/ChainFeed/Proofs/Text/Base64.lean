import ChainFeed.Proofs.Text.Utf8
import ChainFeed.Text.Base64

/-!
# Base64 and back

Reading undoes writing: what is written for a byte string is read as that byte string.

## Main results

- `value?_symbol`: each character of the alphabet is read as its value
- `decode?_encode`: the written form of a byte string is read as that byte string
-/

namespace ChainFeed.Base64

open Utf8 (toUInt8_eq)

/-! ### The alphabet -/

theorem value?_symbol {n : Nat} (h : n < 64) : value? (symbol n) = some n := by
  have hall : ∀ n < 64, value? (symbol n) = some n := by decide +kernel
  exact hall n h

/-- No character of the alphabet pads. -/
theorem ne_pad_of_value? {c : Char} {n : Nat} (h : value? c = some n) : c ≠ '=' := by
  rintro rfl
  have hpad : value? '=' = none := by decide
  rw [hpad] at h
  exact nomatch h

/-! ### Groups of four characters -/

section Groups

variable {a b c d : Char} {i j k l : Nat} {rest : List Char} {bytes : List UInt8}

theorem decodeChars?_one_byte (ha : value? a = some i) (hb : value? b = some j)
    (hzero : j % 16 = 0) :
    decodeChars? [a, b, '=', '='] = some [(i * 4 + j / 16).toUInt8] := by
  rw [decodeChars?, ha, hb]
  simp [hzero]

theorem decodeChars?_two_bytes (ha : value? a = some i) (hb : value? b = some j)
    (hc : value? c = some k) (hzero : k % 4 = 0) :
    decodeChars? [a, b, c, '='] =
      some [(i * 4 + j / 16).toUInt8, (j % 16 * 16 + k / 4).toUInt8] := by
  rw [decodeChars?, ha, hb]
  simp [ne_pad_of_value? hc, hc, hzero]

theorem decodeChars?_three_bytes (ha : value? a = some i) (hb : value? b = some j)
    (hc : value? c = some k) (hd : value? d = some l) (hrest : decodeChars? rest = some bytes) :
    decodeChars? (a :: b :: c :: d :: rest) =
      some ((i * 4 + j / 16).toUInt8 :: (j % 16 * 16 + k / 4).toUInt8 ::
        (k % 4 * 64 + l).toUInt8 :: bytes) := by
  rw [decodeChars?, ha, hb]
  simp [ne_pad_of_value? hc, ne_pad_of_value? hd, hc, hd, hrest]

end Groups

/-! ### Byte strings -/

theorem decodeChars?_encodeBytes (bytes : List UInt8) :
    decodeChars? (encodeBytes bytes) = some bytes := by
  fun_induction encodeBytes bytes with
  | case1 => rfl
  | case2 a n =>
    have ha : n < 256 := a.toNat_lt
    have hfirst : (n / 4 * 4 + n % 4 * 16 / 16).toUInt8 = a :=
      toUInt8_eq (show _ = n by omega)
    rw [decodeChars?_one_byte (value?_symbol (by omega)) (value?_symbol (by omega)) (by omega),
      hfirst]
  | case3 a b n =>
    have ha : a.toNat < 256 := a.toNat_lt
    have hb : b.toNat < 256 := b.toNat_lt
    have hn : n = a.toNat * 256 + b.toNat := rfl
    have hfirst : (n / 1024 * 4 + n / 16 % 64 / 16).toUInt8 = a := toUInt8_eq (by omega)
    have hsecond : (n / 16 % 64 % 16 * 16 + n % 16 * 4 / 4).toUInt8 = b := toUInt8_eq (by omega)
    rw [decodeChars?_two_bytes (value?_symbol (by omega)) (value?_symbol (by omega))
      (value?_symbol (by omega)) (by omega), hfirst, hsecond]
  | case4 a b c rest n ih =>
    have ha : a.toNat < 256 := a.toNat_lt
    have hb : b.toNat < 256 := b.toNat_lt
    have hc : c.toNat < 256 := c.toNat_lt
    have hn : n = (a.toNat * 256 + b.toNat) * 256 + c.toNat := rfl
    have hfirst : (n / 262144 * 4 + n / 4096 % 64 / 16).toUInt8 = a := toUInt8_eq (by omega)
    have hsecond : (n / 4096 % 64 % 16 * 16 + n / 64 % 64 / 4).toUInt8 = b :=
      toUInt8_eq (by omega)
    have hthird : (n / 64 % 64 % 4 * 64 + n % 64).toUInt8 = c := toUInt8_eq (by omega)
    rw [decodeChars?_three_bytes (value?_symbol (by omega)) (value?_symbol (by omega))
      (value?_symbol (by omega)) (value?_symbol (by omega)) ih, hfirst, hsecond, hthird]

/-- The written form of a byte string is read as that byte string. -/
theorem decode?_encode (bytes : List UInt8) : decode? (encode bytes) = some bytes := by
  rw [decode?, encode, String.toList_ofList, decodeChars?_encodeBytes]

end ChainFeed.Base64
