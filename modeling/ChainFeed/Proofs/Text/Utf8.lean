import ChainFeed.Text.Utf8
import Mathlib.Tactic.SplitIfs

/-!
# Text as bytes and back

Reading undoes writing: the bytes of a character are read as that character, whatever stands behind
them, and the bytes of a text as that text. Nothing else is read: bytes that are read as a text are
the bytes of that text.

## Main results

- `step_encodeChar`: the front of the bytes of a text is its first character
- `eq_of_step_eq_char`: a character is read off no bytes but its own
- `decode?_eq_some_iff`: the bytes that are read as a text are the bytes of that text
-/

namespace ChainFeed.Utf8

variable {a b c d : UInt8} {n : Nat}

theorem toNat_toUInt8 (h : n < 256) : n.toUInt8.toNat = n :=
  UInt8.toNat_ofNat_of_lt' h

/-! ### Continuation bytes -/

theorem isTail_iff : isTail b = true ↔ 128 ≤ b.toNat ∧ b.toNat ≤ 191 := by
  simp [isTail, UInt8.le_iff_toNat_le]

theorem isTail_toUInt8 (h : n < 64) : isTail (0x80 + n).toUInt8 = true := by
  rw [isTail_iff, toNat_toUInt8 (by omega)]
  omega

theorem tailBits_toUInt8 (h : n < 64) : tailBits (0x80 + n).toUInt8 = n := by
  rw [tailBits, toNat_toUInt8 (by omega)]
  omega

/-- The second of three bytes leaves out what two bytes can write, and surrogates. -/
theorem isSecondOfThree_iff :
    isSecondOfThree a b = true ↔ (128 ≤ b.toNat ∧ b.toNat ≤ 191) ∧
      (a.toNat = 0xE0 → 0xA0 ≤ b.toNat) ∧ (a.toNat = 0xED → b.toNat ≤ 0x9F) := by
  have hfirst : a = 0xE0 ↔ a.toNat = 0xE0 := UInt8.toNat_inj.symm
  have hsecond : a = 0xED ↔ a.toNat = 0xED := UInt8.toNat_inj.symm
  unfold isSecondOfThree
  split_ifs with h1 h2
  · have ha := hfirst.mp h1
    simp only [Bool.and_eq_true, decide_eq_true_eq, UInt8.le_iff_toNat_le, UInt8.reduceToNat]
    omega
  · have ha := hsecond.mp h2
    simp only [Bool.and_eq_true, decide_eq_true_eq, UInt8.le_iff_toNat_le, UInt8.reduceToNat]
    omega
  · have ha := mt hfirst.mpr h1
    have ha' := mt hsecond.mpr h2
    rw [isTail_iff]
    omega

/-- The second of four bytes leaves out what three bytes can write, and what exceeds the last code
point. -/
theorem isSecondOfFour_iff :
    isSecondOfFour a b = true ↔ (128 ≤ b.toNat ∧ b.toNat ≤ 191) ∧
      (a.toNat = 0xF0 → 0x90 ≤ b.toNat) ∧ (a.toNat = 0xF4 → b.toNat ≤ 0x8F) := by
  have hfirst : a = 0xF0 ↔ a.toNat = 0xF0 := UInt8.toNat_inj.symm
  have hlast : a = 0xF4 ↔ a.toNat = 0xF4 := UInt8.toNat_inj.symm
  unfold isSecondOfFour
  split_ifs with h1 h2
  · have ha := hfirst.mp h1
    simp only [Bool.and_eq_true, decide_eq_true_eq, UInt8.le_iff_toNat_le, UInt8.reduceToNat]
    omega
  · have ha := hlast.mp h2
    simp only [Bool.and_eq_true, decide_eq_true_eq, UInt8.le_iff_toNat_le, UInt8.reduceToNat]
    omega
  · have ha := mt hfirst.mpr h1
    have ha' := mt hlast.mpr h2
    rw [isTail_iff]
    omega

/-! ### Reading one character -/

theorem step_one {rest : List UInt8} (ha : a.toNat < 128) :
    step (a :: rest) = .char (Char.ofNat a.toNat) rest := by
  have hsmall : a < 0x80 := UInt8.lt_iff_toNat_lt.mpr ha
  simp only [step, if_pos hsmall]

theorem step_two {rest : List UInt8} (ha : 0xC2 ≤ a.toNat) (ha' : a.toNat ≤ 0xDF)
    (hb : isTail b = true) :
    step (a :: b :: rest) = .char (Char.ofNat (a.toNat % 32 * 64 + tailBits b)) rest := by
  simp [step, UInt8.lt_iff_toNat_lt, UInt8.le_iff_toNat_le, ha, ha', hb,
    show ¬ a.toNat < 128 by omega]

theorem step_three {rest : List UInt8} (ha : 0xE0 ≤ a.toNat) (ha' : a.toNat ≤ 0xEF)
    (hb : isSecondOfThree a b = true) (hc : isTail c = true) :
    step (a :: b :: c :: rest) =
      .char (Char.ofNat ((a.toNat % 16 * 64 + tailBits b) * 64 + tailBits c)) rest := by
  simp [step, UInt8.lt_iff_toNat_lt, UInt8.le_iff_toNat_le, ha, ha', hb, hc,
    show ¬ a.toNat < 128 by omega, show ¬ a.toNat ≤ 0xDF by omega]

theorem step_four {rest : List UInt8} (ha : 0xF0 ≤ a.toNat) (ha' : a.toNat ≤ 0xF4)
    (hb : isSecondOfFour a b = true) (hc : isTail c = true) (hd : isTail d = true) :
    step (a :: b :: c :: d :: rest) =
      .char (Char.ofNat
        (((a.toNat % 8 * 64 + tailBits b) * 64 + tailBits c) * 64 + tailBits d)) rest := by
  simp [step, UInt8.lt_iff_toNat_lt, UInt8.le_iff_toNat_le, ha, ha', hb, hc, hd,
    show ¬ a.toNat < 128 by omega, show ¬ a.toNat ≤ 0xDF by omega,
    show ¬ a.toNat ≤ 0xEF by omega]

/-- The bytes of a character are read as that character. -/
theorem step_encodeChar (c : Char) (rest : List UInt8) :
    step (encodeChar c ++ rest) = .char c rest := by
  -- a character is no surrogate, which the bounds on second bytes rely on
  have hvalid : c.toNat < 0xD800 ∨ 0xDFFF < c.toNat ∧ c.toNat < 0x110000 := c.valid
  have hc : Char.ofNat c.toNat = c := Char.ofNat_toNat c
  unfold encodeChar
  generalize c.toNat = n at hvalid hc
  dsimp only
  split_ifs with h1 h2 h3
  · have ha : n.toUInt8.toNat = n := toNat_toUInt8 (by omega)
    rw [List.singleton_append, step_one (by omega), ha, hc]
  · have ha : (0xC0 + n / 64).toUInt8.toNat = 0xC0 + n / 64 := toNat_toUInt8 (by omega)
    rw [List.cons_append, List.singleton_append,
      step_two (by omega) (by omega) (isTail_toUInt8 (by omega)), ha, tailBits_toUInt8 (by omega),
      ← hc]
    congr 2
    omega
  · have ha : (0xE0 + n / 4096).toUInt8.toNat = 0xE0 + n / 4096 := toNat_toUInt8 (by omega)
    have hb : (0x80 + n / 64 % 64).toUInt8.toNat = 0x80 + n / 64 % 64 := toNat_toUInt8 (by omega)
    have hsecond :
        isSecondOfThree (0xE0 + n / 4096).toUInt8 (0x80 + n / 64 % 64).toUInt8 = true := by
      rw [isSecondOfThree_iff, ha, hb]
      omega
    rw [List.cons_append, List.cons_append, List.singleton_append,
      step_three (by omega) (by omega) hsecond (isTail_toUInt8 (by omega)), ha,
      tailBits_toUInt8 (by omega), tailBits_toUInt8 (by omega), ← hc]
    congr 2
    omega
  · have ha : (0xF0 + n / 262144).toUInt8.toNat = 0xF0 + n / 262144 := toNat_toUInt8 (by omega)
    have hb : (0x80 + n / 4096 % 64).toUInt8.toNat = 0x80 + n / 4096 % 64 :=
      toNat_toUInt8 (by omega)
    have hsecond :
        isSecondOfFour (0xF0 + n / 262144).toUInt8 (0x80 + n / 4096 % 64).toUInt8 = true := by
      rw [isSecondOfFour_iff, ha, hb]
      omega
    rw [List.cons_append, List.cons_append, List.cons_append, List.singleton_append,
      step_four (by omega) (by omega) hsecond (isTail_toUInt8 (by omega))
        (isTail_toUInt8 (by omega)), ha,
      tailBits_toUInt8 (by omega), tailBits_toUInt8 (by omega), tailBits_toUInt8 (by omega), ← hc]
    congr 2
    omega

/-! ### What a character was read off -/

theorem toNat_ofNat (h : n.isValidChar) : (Char.ofNat n).toNat = n := by
  rw [Char.ofNat, dif_pos h]
  rfl

/-- A byte is the number that its parts make up. -/
theorem toUInt8_eq (h : n = a.toNat) : n.toUInt8 = a := by
  rw [h]
  exact UInt8.ofNat_toNat

theorem encodeChar_one (ha : a.toNat < 128) : encodeChar (Char.ofNat a.toNat) = [a] := by
  have hvalid : a.toNat.isValidChar := .inl (by omega)
  rw [encodeChar, toNat_ofNat hvalid, if_pos ha, toUInt8_eq rfl]

theorem encodeChar_two (ha : 0xC2 ≤ a.toNat) (ha' : a.toNat ≤ 0xDF) (hb : isTail b = true) :
    encodeChar (Char.ofNat (a.toNat % 32 * 64 + tailBits b)) = [a, b] := by
  have hb := isTail_iff.mp hb
  have htail : tailBits b = b.toNat - 128 := by rw [tailBits]; omega
  have hvalid : (a.toNat % 32 * 64 + tailBits b).isValidChar := .inl (by omega)
  rw [encodeChar, toNat_ofNat hvalid, if_neg (by omega), if_pos (by omega),
    toUInt8_eq (a := a) (by omega), toUInt8_eq (a := b) (by omega)]

theorem encodeChar_three (ha : 0xE0 ≤ a.toNat) (ha' : a.toNat ≤ 0xEF)
    (hb : isSecondOfThree a b = true) (hc : isTail c = true) :
    encodeChar (Char.ofNat ((a.toNat % 16 * 64 + tailBits b) * 64 + tailBits c)) = [a, b, c] := by
  -- the second byte keeps the number above the overlong forms and out of the surrogates
  have hb := isSecondOfThree_iff.mp hb
  have hc := isTail_iff.mp hc
  have htail : tailBits b = b.toNat - 128 := by rw [tailBits]; omega
  have htail' : tailBits c = c.toNat - 128 := by rw [tailBits]; omega
  have hvalid : ((a.toNat % 16 * 64 + tailBits b) * 64 + tailBits c).isValidChar := by
    rw [Nat.isValidChar]
    omega
  rw [encodeChar, toNat_ofNat hvalid, if_neg (by omega), if_neg (by omega), if_pos (by omega),
    toUInt8_eq (a := a) (by omega), toUInt8_eq (a := b) (by omega),
    toUInt8_eq (a := c) (by omega)]

theorem encodeChar_four (ha : 0xF0 ≤ a.toNat) (ha' : a.toNat ≤ 0xF4)
    (hb : isSecondOfFour a b = true) (hc : isTail c = true) (hd : isTail d = true) :
    encodeChar (Char.ofNat
      (((a.toNat % 8 * 64 + tailBits b) * 64 + tailBits c) * 64 + tailBits d)) = [a, b, c, d] := by
  have hb := isSecondOfFour_iff.mp hb
  have hc := isTail_iff.mp hc
  have hd := isTail_iff.mp hd
  have htail : tailBits b = b.toNat - 128 := by rw [tailBits]; omega
  have htail' : tailBits c = c.toNat - 128 := by rw [tailBits]; omega
  have htail'' : tailBits d = d.toNat - 128 := by rw [tailBits]; omega
  have hvalid :
      (((a.toNat % 8 * 64 + tailBits b) * 64 + tailBits c) * 64 + tailBits d).isValidChar := by
    rw [Nat.isValidChar]
    omega
  rw [encodeChar, toNat_ofNat hvalid, if_neg (by omega), if_neg (by omega), if_neg (by omega),
    toUInt8_eq (a := a) (by omega), toUInt8_eq (a := b) (by omega),
    toUInt8_eq (a := c) (by omega), toUInt8_eq (a := d) (by omega)]

/-- A character is read off its own bytes. -/
theorem eq_of_step_eq_char {bytes rest : List UInt8} {char : Char}
    (h : step bytes = .char char rest) : bytes = encodeChar char ++ rest := by
  cases bytes with
  | nil => cases h
  | cons a bytes =>
    simp only [step, UInt8.lt_iff_toNat_lt, UInt8.le_iff_toNat_le, Bool.and_eq_true,
      decide_eq_true_eq] at h
    split at h
    · rename_i ha
      obtain ⟨rfl, rfl⟩ := Step.char.inj h
      rw [encodeChar_one ha]
      rfl
    split at h
    · rename_i ha
      split at h
      · cases h
      split at h
      · rename_i hb
        obtain ⟨rfl, rfl⟩ := Step.char.inj h
        rw [encodeChar_two ha.1 ha.2 hb]
        rfl
      · cases h
    split at h
    · rename_i ha
      split at h
      · cases h
      split at h
      · rename_i hb
        split at h
        · cases h
        split at h
        · rename_i hc
          obtain ⟨rfl, rfl⟩ := Step.char.inj h
          rw [encodeChar_three ha.1 ha.2 hb hc]
          rfl
        · cases h
      · cases h
    split at h
    · rename_i ha
      split at h
      · cases h
      split at h
      · rename_i hb
        split at h
        · cases h
        split at h
        · rename_i hc
          split at h
          · cases h
          split at h
          · rename_i hd
            obtain ⟨rfl, rfl⟩ := Step.char.inj h
            rw [encodeChar_four ha.1 ha.2 hb hc hd]
            rfl
          · cases h
        · cases h
      · cases h
    · cases h

/-! ### Reading a text -/

theorem encodeChar_ne_nil (c : Char) : encodeChar c ≠ [] := by
  unfold encodeChar
  dsimp only
  split_ifs <;> exact List.cons_ne_nil _ _

theorem decodeFrom_flatMap_encodeChar (total : Nat) (cs : List Char) (fuel : Nat)
    (h : cs.length ≤ fuel) : decodeFrom total fuel (cs.flatMap encodeChar) = .ok cs := by
  -- each character uses one unit of fuel, and at least one byte
  induction cs generalizing fuel with
  | nil => cases fuel <;> rfl
  | cons c cs ih =>
    cases fuel with
    | zero => exact absurd h (Nat.not_succ_le_zero _)
    | succ fuel =>
      rw [List.flatMap_cons]
      cases hbytes : encodeChar c ++ cs.flatMap encodeChar with
      | nil => exact absurd (List.append_eq_nil_iff.mp hbytes).1 (encodeChar_ne_nil c)
      | cons b rest =>
        rw [decodeFrom, ← hbytes, step_encodeChar]
        · dsimp only
          rw [ih fuel (Nat.le_of_succ_le_succ h)]
        · exact List.cons_ne_nil b rest

theorem length_le_length_flatMap_encodeChar (cs : List Char) :
    cs.length ≤ (cs.flatMap encodeChar).length := by
  induction cs with
  | nil => exact Nat.le_refl _
  | cons c cs ih =>
    have hpos := List.length_pos_iff.mpr (encodeChar_ne_nil c)
    rw [List.flatMap_cons, List.length_append, List.length_cons]
    omega

/-- The bytes of a text are read as that text. -/
theorem decode?_encode (s : String) : decode? (encode s) = some s := by
  rw [decode?, decode, encode,
    decodeFrom_flatMap_encodeChar _ _ _ (length_le_length_flatMap_encodeChar s.toList)]
  exact congrArg some String.ofList_toList

theorem eq_of_decodeFrom_eq_ok {total fuel : Nat} {bytes : List UInt8} {cs : List Char}
    (h : decodeFrom total fuel bytes = .ok cs) : bytes = cs.flatMap encodeChar := by
  induction fuel generalizing bytes cs with
  | zero =>
    cases bytes with
    | nil => cases h; rfl
    | cons b bytes => cases h
  | succ fuel ih =>
    cases bytes with
    | nil => cases h; rfl
    | cons b bytes =>
      rw [decodeFrom] at h
      · split at h
        · rename_i char rest hstep
          split at h
          · rename_i tail htail
            obtain rfl := Except.ok.inj h
            rw [eq_of_step_eq_char hstep, ih htail, List.flatMap_cons]
          · cases h
        · cases h
        · cases h
      · exact List.cons_ne_nil b bytes

/-- Bytes are read as a text just if they are the bytes of that text. -/
theorem decode?_eq_some_iff {bytes : List UInt8} {s : String} :
    decode? bytes = some s ↔ encode s = bytes := by
  refine ⟨fun h => ?_, fun h => h ▸ decode?_encode s⟩
  rw [decode?, decode] at h
  cases hchars : decodeFrom bytes.length bytes.length bytes with
  | error fault =>
    rw [hchars] at h
    cases h
  | ok cs =>
    rw [hchars] at h
    obtain rfl : String.ofList cs = s := Option.some.inj h
    rw [encode, String.toList_ofList]
    exact (eq_of_decodeFrom_eq_ok hchars).symm

end ChainFeed.Utf8
