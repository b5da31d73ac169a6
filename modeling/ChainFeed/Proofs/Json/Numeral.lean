import ChainFeed.Json.Number
import ChainFeed.Proofs.Text.Integer
import ChainFeed.Text.Utf8
import Mathlib.Data.List.Basic
import Mathlib.Data.List.Induction
import Mathlib.Data.List.TakeWhile

/-!
# Numerals as literals

The decimal numeral of an integer is a number literal of digits only, and these are read without
loss as long as the integer is a word of sixty-four bits, with a sign or without.

A literal has no zeros in front, so its digits are those of the number that they denote.

## Main definitions

- `Number.digitsOf`: the digits of a natural number
- `Number.Canonical`: digits without zeros in front
- `Number.Literal.ofInt`: the literal of an integer
- `Number.IsWord`: integers that are read without loss

## Main results

- `Number.digitsOf_ofDigits`: canonical digits are those of what they denote
- `Number.Literal.scan_toString`: a numeral is read as its literal
- `Number.ofBytes?_toString`: and so as its integer
-/

namespace ChainFeed.Number

variable {d k : Nat} {n : Int} {digits : List Nat} {bytes : List UInt8}

/-! ### Digits -/

/-- The digits of a natural number, from the left. -/
def digitsOf (k : Nat) : List Nat :=
  (Nat.toDigits 10 k).map fun c => c.toNat - 48

/-- Digits that no zero stands in front of, unless it stands alone. -/
structure Canonical (digits : List Nat) : Prop where
  ne_nil : digits ≠ []
  lt_ten : ∀ d ∈ digits, d < 10
  tail_eq_nil : ∀ rest, digits = 0 :: rest → rest = []

theorem digitsOf_of_lt (h : d < 10) : digitsOf d = [d] := by
  rw [digitsOf, Nat.toDigits_of_lt_base h, List.map_singleton,
    Nat.toNat_digitChar_sub_48_of_lt_ten h]

theorem digitsOf_append (hk : 0 < k) (hd : d < 10) : digitsOf (10 * k + d) = digitsOf k ++ [d] := by
  rw [← digitsOf_of_lt hd, digitsOf, ← Nat.toDigits_append_toDigits (by decide) hk hd,
    List.map_append]
  rfl

theorem ofDigits_append_singleton (digits : List Nat) (d : Nat) :
    ofDigits (digits ++ [d]) = 10 * ofDigits digits + d := by
  rw [ofDigits, List.foldl_append, List.foldl_cons, List.foldl_nil, Nat.mul_comm]
  rfl

/-- A number is what its digits denote, and they have no zeros in front. -/
theorem canonical_digitsOf (k : Nat) : Canonical (digitsOf k) ∧ ofDigits (digitsOf k) = k := by
  induction k using Nat.strongRecOn with
  | ind k ih =>
    by_cases hlt : k < 10
    · rw [digitsOf_of_lt hlt]
      refine ⟨⟨List.cons_ne_nil _ _, ?_, ?_⟩, by simp [ofDigits]⟩
      · simpa using hlt
      · rintro rest heq
        exact (List.cons.inj heq).2.symm
    · -- the last digit is split off
      obtain ⟨hcanonical, hvalue⟩ := ih (k / 10) (by omega)
      have hk : k = 10 * (k / 10) + k % 10 := (Nat.div_add_mod k 10).symm
      have hpos : 0 < k / 10 := by omega
      have hmod : k % 10 < 10 := Nat.mod_lt k (by decide)
      rw [hk, digitsOf_append hpos hmod, ofDigits_append_singleton, hvalue]
      refine ⟨⟨by simp, ?_, ?_⟩, rfl⟩
      · intro d hd
        rcases List.mem_append.mp hd with hd | hd
        · exact hcanonical.lt_ten d hd
        · rw [List.mem_singleton.mp hd]
          exact hmod
      · intro rest heq
        -- a zero in front would be all that stands before the last digit
        obtain ⟨front, back, hfront⟩ := List.exists_cons_of_ne_nil hcanonical.ne_nil
        rw [hfront, List.cons_append] at heq
        obtain ⟨rfl, -⟩ := List.cons.inj heq
        have hnil := hcanonical.tail_eq_nil back hfront
        rw [hfront, hnil] at hvalue
        have hzero : ofDigits [0] = 0 := rfl
        omega

theorem ofDigits_digitsOf (k : Nat) : ofDigits (digitsOf k) = k :=
  (canonical_digitsOf k).2

/-- Digits in front of the last one are canonical, and no zero alone. -/
theorem Canonical.of_append_singleton (h : Canonical (digits ++ [d])) (hne : digits ≠ []) :
    Canonical digits ∧ digits ≠ [0] := by
  refine ⟨⟨hne, fun e he => h.lt_ten e (List.mem_append_left _ he), fun rest heq => ?_⟩, ?_⟩
  · have hnil := h.tail_eq_nil (rest ++ [d]) (by rw [heq, List.cons_append])
    exact absurd hnil (by simp)
  · rintro rfl
    exact absurd (h.tail_eq_nil [d] rfl) (List.cons_ne_nil _ _)

/-- Only a zero alone denotes zero. -/
theorem Canonical.ofDigits_pos (h : Canonical digits) (hne : digits ≠ [0]) :
    0 < ofDigits digits := by
  induction digits using List.reverseRecOn with
  | nil => exact absurd rfl h.ne_nil
  | append_singleton front d ih =>
    rw [ofDigits_append_singleton]
    by_cases hfront : front = []
    · subst hfront
      have hd : d ≠ 0 := by
        rintro rfl
        exact hne rfl
      omega
    · obtain ⟨hcanonical, hzero⟩ := h.of_append_singleton hfront
      have := ih hcanonical hzero
      omega

/-- Canonical digits are those of the number that they denote. -/
theorem digitsOf_ofDigits (h : Canonical digits) : digitsOf (ofDigits digits) = digits := by
  induction digits using List.reverseRecOn with
  | nil => exact absurd rfl h.ne_nil
  | append_singleton front d ih =>
    have hd : d < 10 := h.lt_ten d (by simp)
    rw [ofDigits_append_singleton]
    by_cases hfront : front = []
    · subst hfront
      rw [ofDigits, List.foldl_nil, Nat.mul_zero, Nat.zero_add, digitsOf_of_lt hd, List.nil_append]
    · obtain ⟨hcanonical, hzero⟩ := h.of_append_singleton hfront
      rw [digitsOf_append (hcanonical.ofDigits_pos hzero) hd, ih hcanonical]

/-! ### Reading digits -/

/-- The byte of a digit. -/
def digitByte (d : Nat) : UInt8 :=
  (48 + d).toUInt8

theorem toNat_digitByte (h : d < 10) : (digitByte d).toNat = 48 + d :=
  UInt8.toNat_ofNat_of_lt' (show 48 + d < 256 by omega)

theorem isDigit_iff {b : UInt8} : isDigit b = true ↔ 48 ≤ b.toNat ∧ b.toNat ≤ 57 := by
  simp [isDigit, UInt8.le_iff_toNat_le]

theorem isDigit_digitByte (h : d < 10) : isDigit (digitByte d) = true := by
  rw [isDigit_iff, toNat_digitByte h]
  omega

theorem scanDigits_digitBytes (h : ∀ d ∈ digits, d < 10) :
    scanDigits (digits.map digitByte) = (digits, []) := by
  have hdigit : ∀ b ∈ digits.map digitByte, isDigit b = true := by
    intro b hb
    obtain ⟨d, hd, rfl⟩ := List.mem_map.mp hb
    exact isDigit_digitByte (h d hd)
  have hvalue : (digits.map digitByte).map (fun b => b.toNat - 48) = digits := by
    rw [List.map_map]
    refine (List.map_congr_left fun d hd => ?_).trans (List.map_id digits)
    rw [Function.comp_apply, toNat_digitByte (h d hd), Nat.add_sub_cancel_left, id]
  rw [scanDigits, List.takeWhile_eq_self_iff.mpr hdigit, List.dropWhile_eq_nil_iff.mpr hdigit,
    hvalue]

theorem scanWhole_digitBytes (h : Canonical digits) :
    scanWhole (digits.map digitByte) = some (digits, []) := by
  rw [scanWhole, scanDigits_digitBytes h.lt_ten]
  split
  · rename_i heq
    exact absurd (Prod.mk.inj heq).1 h.ne_nil
  · rename_i heq
    exact absurd (h.tail_eq_nil _ (Prod.mk.inj heq).1) (List.cons_ne_nil _ _)
  · rfl

theorem lt_ten_of_mem_scanDigits (hd : d ∈ (scanDigits bytes).1) : d < 10 := by
  obtain ⟨b, hb, rfl⟩ := List.mem_map.mp hd
  have := isDigit_iff.mp (List.mem_takeWhile_imp hb)
  omega

/-- The digits before the point have no zeros in front. -/
theorem canonical_of_scanWhole {rest : List UInt8} (h : scanWhole bytes = some (digits, rest)) :
    Canonical digits := by
  have hdigits : ∀ d ∈ (scanDigits bytes).1, d < 10 := fun d => lt_ten_of_mem_scanDigits
  unfold scanWhole at h
  generalize scanDigits bytes = parts at h hdigits
  obtain ⟨found, rest'⟩ := parts
  split at h
  · cases h
  · cases h
  · rename_i parts hnil hzero
    cases h
    refine ⟨fun hempty => hnil rest (by rw [hempty]), hdigits, ?_⟩
    rintro (_ | ⟨d, ds⟩) rfl
    · rfl
    · exact (hzero d ds rest rfl).elim

/-! ### Literals -/

/-- The literal of an integer: its digits, behind a minus sign if it is negative. -/
def Literal.ofInt (n : Int) : Literal :=
  ⟨n < 0, digitsOf n.natAbs, none, none⟩

theorem encodeChar_of_isDigit {c : Char} (h : c.isDigit = true) :
    Utf8.encodeChar c = [digitByte (c.toNat - 48)] := by
  rw [Char.isDigit, Bool.and_eq_true, decide_eq_true_eq, decide_eq_true_eq] at h
  have hlow : 48 ≤ c.toNat := h.1
  have hhigh : c.toNat ≤ 57 := h.2
  rw [Utf8.encodeChar, digitByte, Nat.add_sub_cancel' hlow]
  exact if_pos (show c.toNat < 128 by omega)

theorem flatMap_encodeChar_toDigits (k : Nat) :
    (Nat.toDigits 10 k).flatMap Utf8.encodeChar = (digitsOf k).map digitByte := by
  rw [digitsOf, List.map_map, ← List.flatMap_singleton' ((Nat.toDigits 10 k).map _),
    List.flatMap_map]
  refine List.flatMap_congr fun c hc => ?_
  exact encodeChar_of_isDigit (Integer.isDigit_of_mem_toDigits hc)

/-- The parts of a literal behind its sign. -/
def Literal.scanParts (negative : Bool) (bytes : List UInt8) : Option (Literal × List UInt8) := do
  let (whole, bytes) ← scanWhole bytes
  let (fraction, bytes) ← scanFraction bytes
  let (exponent, bytes) ← scanExponent bytes
  return (⟨negative, whole, fraction, exponent⟩, bytes)

theorem Literal.scan_minus (bytes : List UInt8) :
    Literal.scan (0x2D :: bytes) = Literal.scanParts true bytes := rfl

theorem Literal.scan_of_ne (h : ∀ rest, bytes ≠ 0x2D :: rest) :
    Literal.scan bytes = Literal.scanParts false bytes := by
  unfold Literal.scan Literal.scanParts
  split
  · rename_i rest heq
    split at heq
    · exact absurd rfl (h _)
    · cases heq
      rfl

/-- Digits alone are a literal. -/
theorem Literal.scanParts_digitBytes (h : Canonical digits) (negative : Bool) :
    Literal.scanParts negative (digits.map digitByte) =
      some (⟨negative, digits, none, none⟩, []) := by
  rw [Literal.scanParts, scanWhole_digitBytes h]
  rfl

/-- A numeral is read as the literal of its integer. -/
theorem Literal.scan_toString (n : Int) :
    Literal.scan (Utf8.encode (toString n)) = some (.ofInt n, []) := by
  obtain ⟨hcanonical, -⟩ := canonical_digitsOf n.natAbs
  rw [Utf8.encode, Integer.toList_toString, List.flatMap_append, flatMap_encodeChar_toDigits,
    Literal.ofInt]
  by_cases hneg : n < 0
  · rw [if_neg (Int.not_le.mpr hneg), decide_eq_true hneg]
    exact (Literal.scan_minus _).trans (Literal.scanParts_digitBytes hcanonical true)
  · rw [if_pos (Int.not_lt.mp hneg), decide_eq_false hneg, List.flatMap_nil, List.nil_append,
      Literal.scan_of_ne, Literal.scanParts_digitBytes hcanonical]
    -- the byte of a digit is no sign
    intro rest heq
    obtain ⟨d, ds, hds⟩ := List.exists_cons_of_ne_nil hcanonical.ne_nil
    rw [hds, List.map_cons] at heq
    have hd := toNat_digitByte (hcanonical.lt_ten d (hds ▸ List.mem_cons_self))
    rw [(List.cons.inj heq).1] at hd
    have hminus : UInt8.toNat 0x2D = 45 := rfl
    omega

/-! ### Integers -/

/-- Integers that are words of sixty-four bits, with a sign or without. -/
def IsWord (n : Int) : Prop :=
  -9223372036854775808 ≤ n ∧ n < 18446744073709551616

instance (n : Int) : Decidable (IsWord n) :=
  inferInstanceAs (Decidable (_ ∧ _))

/-- The literal of an integer is read as that integer, if it is a word. -/
theorem Literal.value?_ofInt (h : IsWord n) : (Literal.ofInt n).value? = some (.integer n) := by
  obtain ⟨hlow, hhigh⟩ := h
  rw [Literal.value?, Literal.ofInt]
  dsimp only
  rw [ofDigits_digitsOf]
  by_cases hneg : n < 0
  · have habs : -(n.natAbs : Int) = n := by omega
    rw [if_pos (decide_eq_true hneg), if_neg (by simp; omega), habs]
  · have habs : (n.natAbs : Int) = n := by omega
    rw [if_neg (by simp [hneg]), if_pos (by omega), habs]

/-- The numeral of a word is read as that word. -/
theorem ofBytes?_toString (h : IsWord n) :
    ofBytes? (Utf8.encode (toString n)) = some (.integer n) := by
  rw [ofBytes?, Literal.scan_toString]
  exact Literal.value?_ofInt h

end ChainFeed.Number
