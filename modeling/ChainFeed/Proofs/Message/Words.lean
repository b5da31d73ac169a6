import ChainFeed.Proofs.Decimal.Exact
import ChainFeed.Proofs.Message.Gathering

/-!
# What the words of a message mean

A number of a message is a word of sixty-four bits, or the low half of one. What a word means for a
kind of field is fixed by the format: kinds of thirty-two bits keep the low half before anything
else is done, and the zigzag order is undone on the bits that are kept. The decoder of a schema
gives each word its meaning, with one exception: for the kind `sint32` it undoes the zigzag order on
all sixty-four bits and keeps the low half of the result, in which the lowest bit of the upper half
is left as the sign.

## Main definitions

- `unzigzagBits`: the zigzag order undone, on words of any width
- `FieldKind.Carries`: the bytes of a word in a field of some kind
- `FieldKind.Means`: the JSON that a word stands for
- `Schema.ReadsWords`: how a field of words is read

## Main results

- `toInt_unzigzagBits`: a word without its zigzag order, as an integer
- `Schema.means_ofWord_iff`: which words are given their meaning
- `Schema.readsWords`: how all kinds of words are read, alone and in packed chunks
- `Schema.sint32_differs`: a word that is not given its meaning
-/

namespace ChainFeed

open Wire

/-! ### The zigzag order on words -/

section Zigzag

variable {width : Nat}

/-- The signed word of a place in the order `0, -1, 1, -2, …`. -/
def unzigzagBits (w : BitVec width) : BitVec width :=
  (w >>> 1) ^^^ -(w &&& BitVec.ofNat width 1)

theorem and_one_bits (hwidth : 0 < width) (w : BitVec width) :
    w &&& BitVec.ofNat width 1 =
      if w.toNat % 2 = 0 then BitVec.ofNat width 0 else BitVec.ofNat width 1 := by
  have hone : (BitVec.ofNat width 1).toNat = 1 := BitVec.toNat_one hwidth
  apply BitVec.eq_of_toNat_eq
  rw [BitVec.toNat_and, hone, Nat.and_one_is_mod]
  split
  · rw [BitVec.toNat_zero]
    assumption
  · rw [hone]
    omega

/-- Flipping all bits of a small word makes it negative. -/
theorem toInt_not_bits {w : BitVec width} (h : 2 * (w.toNat + 1) ≤ 2 ^ width) :
    (~~~w).toInt = -(w.toNat + 1) := by
  have hcycle : (2 ^ width - 1 - w.toNat : Int) = ((2 ^ width : Nat) : Int) + -(w.toNat + 1) := by
    push_cast
    ring
  rw [BitVec.toInt_not, hcycle, Int.add_bmod_left]
  exact Int.bmod_eq_of_le (by omega) (by omega)

/-- A word without its zigzag order is the integer of its place. -/
theorem toInt_unzigzagBits (hwidth : 0 < width) (w : BitVec width) :
    (unzigzagBits w).toInt = unzigzag w.toNat := by
  obtain ⟨n, rfl⟩ : ∃ n, width = n + 1 := ⟨width - 1, by omega⟩
  have hlt := w.isLt
  rw [Nat.pow_succ] at hlt
  have hhalf : (w >>> 1).toNat = w.toNat / 2 := by
    rw [BitVec.toNat_ushiftRight, Nat.shiftRight_one]
  rw [unzigzagBits, unzigzag, and_one_bits hwidth]
  -- an even place keeps the bits of its half, an odd one flips them
  split
  · rw [BitVec.neg_zero, BitVec.xor_zero,
      BitVec.toInt_eq_toNat_of_lt (by rw [hhalf, Nat.pow_succ]; omega), hhalf]
  · rw [BitVec.neg_one_eq_allOnes, BitVec.xor_allOnes,
      toInt_not_bits (by rw [hhalf, Nat.pow_succ]; omega), hhalf]

end Zigzag

/-! ### Words and their meaning -/

namespace Wire

/-- Eight bytes or fewer are the low bytes of a word. -/
theorem exists_littleEndianBytes {count : Nat} {written : List UInt8}
    (h : written.length = count) (hcount : count ≤ 8) :
    ∃ w : BitVec 64, written = littleEndianBytes count w.toNat := by
  have hlt := littleEndian_lt written
  have hpow : 256 ^ written.length ≤ 2 ^ 64 :=
    Nat.pow_le_pow_right (by decide : 0 < 256) (h.le.trans hcount)
  refine ⟨BitVec.ofNat 64 (littleEndian written), ?_⟩
  rw [BitVec.toNat_ofNat, Nat.mod_eq_of_lt (hlt.trans_le hpow), ← h,
    littleEndianBytes_littleEndian]

end Wire

namespace FieldKind

variable {kind : FieldKind} {written : List UInt8}

/-- The bytes of a word: a varint of it, its four low bytes, or all eight. -/
inductive Carries (kind : FieldKind) (w : BitVec 64) : List UInt8 → Prop
  | varint {written : List UInt8} (hshape : kind.wireType = .varint) (h : Varint w.toNat written) :
    Carries kind w written
  | thirtyTwoBit (hshape : kind.wireType = .thirtyTwoBit) :
    Carries kind w (littleEndianBytes 4 w.toNat)
  | sixtyFourBit (hshape : kind.wireType = .sixtyFourBit) :
    Carries kind w (littleEndianBytes 8 w.toNat)

/-- The bytes of words one after the other. -/
inductive CarriesAll (kind : FieldKind) : List (BitVec 64) → List UInt8 → Prop
  | nil : CarriesAll kind [] []
  | cons {w : BitVec 64} {words : List (BitVec 64)} {front rest : List UInt8}
    (h : kind.Carries w front) (hrest : CarriesAll kind words rest) :
    CarriesAll kind (w :: words) (front ++ rest)

theorem Carries.length_pos {w : BitVec 64} (h : kind.Carries w written) : 0 < written.length := by
  cases h with
  | varint _ h => exact h.length_pos
  | thirtyTwoBit | sixtyFourBit => exact Nat.succ_pos _

/-- The JSON of a number of thirty-two bits: the number of its sign and size, or null. -/
def MeansSingle (bits : UInt32) (json : Json) : Prop :=
  if Single.isFinite bits then
    ∃ x : Binary64, json = .number (.float x) ∧ x.isFinite = true ∧
      x.isNegative = Single.isNegative bits ∧ x.size = Single.size bits
  else json = .null

/-- The JSON that a word stands for in a field of a kind; only numbers and truth values are
words. -/
def Means : (kind : FieldKind) → BitVec 64 → Json → Prop
  | .bool, w, json => json = .bool (decide (w ≠ 0))
  | .int32, w, json | .enum, w, json | .sfixed32, w, json => json = .int (w.setWidth 32).toInt
  | .int64, w, json | .sfixed64, w, json => json = .int w.toInt
  | .uint32, w, json | .fixed32, w, json => json = .nat (w.setWidth 32).toNat
  | .uint64, w, json | .fixed64, w, json => json = .nat w.toNat
  | .sint32, w, json => json = .int (unzigzagBits (w.setWidth 32)).toInt
  | .sint64, w, json => json = .int (unzigzagBits w).toInt
  | .float, w, json => MeansSingle ⟨w.setWidth 32⟩ json
  | .double, w, json =>
    json = if Binary64.isFinite ⟨⟨w⟩⟩ then .number (.float ⟨⟨w⟩⟩) else .null
  | .string, _, _ | .bytes, _, _ | .message, _, _ => False

/-- Every complete payload of a kind of numbers carries a word. -/
theorem exists_carries (hshape : kind.wireType ≠ .lengthDelimited)
    (h : Payload kind.wireType written) : ∃ w, kind.Carries w written := by
  cases hkind : kind.wireType with
  | varint =>
    rw [hkind] at h
    obtain ⟨n, hn⟩ : ∃ n, Varint n written := by
      cases h with
      | varint h => exact ⟨_, h⟩
    refine ⟨BitVec.ofNat 64 n, .varint hkind ?_⟩
    rwa [BitVec.toNat_ofNat, Nat.mod_eq_of_lt hn.lt]
  | sixtyFourBit =>
    rw [hkind] at h
    have hlength : written.length = 8 := by
      cases h with
      | sixtyFourBit h => exact h
    obtain ⟨w, rfl⟩ := exists_littleEndianBytes hlength (by decide)
    exact ⟨w, .sixtyFourBit hkind⟩
  | thirtyTwoBit =>
    rw [hkind] at h
    have hlength : written.length = 4 := by
      cases h with
      | thirtyTwoBit h => exact h
    obtain ⟨w, rfl⟩ := exists_littleEndianBytes hlength (by decide)
    exact ⟨w, .thirtyTwoBit hkind⟩
  | lengthDelimited => exact absurd hkind hshape
  | startGroup | endGroup =>
    rw [hkind] at h
    cases h

end FieldKind

/-! ### The decoder on words -/

namespace Schema

/-- What the decoder makes of a word. -/
def ofWord (kind : FieldKind) (w : BitVec 64) : Json :=
  match kind.wireType with
  | .varint => ofVarint kind w.toNat
  | .thirtyTwoBit => ofFixed kind (littleEndianBytes 4 w.toNat)
  | _ => ofFixed kind (littleEndianBytes 8 w.toNat)

variable {kind : FieldKind}

theorem lowSigned_thirtyTwo (w : BitVec 64) : lowSigned 32 w.toNat = (w.setWidth 32).toInt :=
  (BitVec.toInt_setWidth w).symm

theorem lowSigned_toNat {width : Nat} (w : BitVec width) : lowSigned width w.toNat = w.toInt :=
  (BitVec.toInt_eq_toNat_bmod w).symm

theorem littleEndian_four (w : BitVec 64) :
    littleEndian (littleEndianBytes 4 w.toNat) = (w.setWidth 32).toNat :=
  (littleEndian_littleEndianBytes 4 w.toNat).trans (BitVec.toNat_setWidth 32 w).symm

theorem littleEndian_eight (w : BitVec 64) :
    littleEndian (littleEndianBytes 8 w.toNat) = w.toNat :=
  (littleEndian_littleEndianBytes 8 w.toNat).trans (Nat.mod_eq_of_lt w.isLt)

theorem ofWord_sint32 (w : BitVec 64) :
    ofWord .sint32 w = .int ((unzigzagBits w).setWidth 32).toInt := by
  have hall : unzigzag w.toNat = (unzigzagBits w).toInt := (toInt_unzigzagBits (by decide) w).symm
  rw [BitVec.toInt_setWidth, ofWord]
  simp only [FieldKind.wireType, ofVarint]
  rw [hall, BitVec.toInt_eq_toNat_bmod, Int.bmod_bmod_of_dvd (by decide)]

/-- Undoing the zigzag order and keeping the low half may change places unless bit 32 is set. -/
theorem bmod_unzigzag_eq_iff (w : BitVec 64) :
    Int.bmod (unzigzag w.toNat) 4294967296 = unzigzag (w.toNat % 4294967296) ↔
      w.getLsbD 32 = false := by
  have hbit : w.getLsbD 32 = decide (w.toNat / 2 ^ 32 % 2 = 1) :=
    Nat.testBit_eq_decide_div_mod_eq
  rw [hbit, decide_eq_false_iff_not, Int.bmod_def]
  -- both halvings lose the lowest bit, and only the one of the whole word moves bit 32 down
  unfold unzigzag
  split <;> split <;> omega

theorem meansSingle_widen? (bits : UInt32) :
    FieldKind.MeansSingle bits (((Binary64.widen? bits).map ofFloat).getD .null) := by
  unfold FieldKind.MeansSingle
  split
  · rename_i hfinite
    obtain ⟨x, hwiden, hx, hsign, hsize⟩ := Binary64.widen?_eq_some hfinite
    rw [hwiden, Option.map_some, Option.getD_some, ofFloat, if_pos hx]
    exact ⟨x, rfl, hx, hsign, hsize⟩
  · rename_i hfinite
    rw [Binary64.widen?_eq_none (Bool.not_eq_true _ ▸ hfinite)]
    rfl

/-- The decoder gives a word its meaning, except a word of kind `sint32` in which bit 32 is set. -/
theorem means_ofWord_iff (hshape : kind.wireType ≠ .lengthDelimited) (w : BitVec 64) :
    kind.Means w (ofWord kind w) ↔ (kind = .sint32 → w.getLsbD 32 = false) := by
  by_cases hkind : kind = .sint32
  · subst hkind
    have hlow : (unzigzagBits (w.setWidth 32)).toInt = unzigzag (w.toNat % 4294967296) :=
      (toInt_unzigzagBits (by decide) _).trans (congrArg unzigzag (BitVec.toNat_setWidth 32 w))
    rw [← bmod_unzigzag_eq_iff, FieldKind.Means, hlow]
    simp only [ofWord, FieldKind.wireType, ofVarint, Json.int, Json.number.injEq,
      Number.integer.injEq, forall_const]
  · refine iff_of_true ?_ fun h => absurd h hkind
    cases kind with
    | string | bytes | message => exact absurd rfl hshape
    | sint32 => exact absurd rfl hkind
    | bool =>
      refine congrArg Json.bool ?_
      rw [Bool.eq_iff_iff, bne_iff_ne, decide_eq_true_iff, ne_eq, ne_eq, ← BitVec.toNat_inj]
      rfl
    | int32 | enum => exact congrArg Json.int (lowSigned_thirtyTwo w)
    | int64 => exact congrArg Json.int (lowSigned_toNat w)
    | uint32 => exact congrArg Json.nat (BitVec.toNat_setWidth 32 w).symm
    | uint64 => rfl
    | sint64 => exact congrArg Json.int (toInt_unzigzagBits (by decide) w).symm
    | fixed32 => exact congrArg Json.nat (littleEndian_four w)
    | fixed64 => exact congrArg Json.nat (littleEndian_eight w)
    | sfixed32 =>
      refine congrArg Json.int ?_
      rw [littleEndian_four, lowSigned_toNat]
    | sfixed64 =>
      refine congrArg Json.int ?_
      rw [littleEndian_eight, lowSigned_toNat]
    | float =>
      have hbits : (littleEndian (littleEndianBytes 4 w.toNat)).toUInt32 = ⟨w.setWidth 32⟩ := by
        rw [littleEndian_four]
        exact UInt32.ofNat_toNat
      rw [FieldKind.Means, ← hbits]
      exact meansSingle_widen? _
    | double =>
      have hbits : (littleEndian (littleEndianBytes 8 w.toNat)).toUInt64 = ⟨w⟩ := by
        rw [littleEndian_eight]
        exact UInt64.ofNat_toNat
      rw [FieldKind.Means, ← hbits]
      rfl

variable {nested : String → List UInt8 → Except DynamicFault Json} {field : SchemaField}
  {w : BitVec 64} {written chunk : List UInt8} {words : List (BitVec 64)} {name : String}
  {out : Members Json}

theorem decodeValue_of_carries (h : field.kind.Carries w written) (rest : List UInt8) :
    decodeValue nested field (written ++ rest) = .ok (ofWord field.kind w, rest) := by
  cases h with
  | varint hshape h => rw [decodeValue_varint hshape h, ofWord, hshape]
  | thirtyTwoBit hshape =>
    rw [decodeValue_thirtyTwoBit hshape (length_littleEndianBytes 4 _), ofWord, hshape]
  | sixtyFourBit hshape =>
    rw [decodeValue_sixtyFourBit hshape (length_littleEndianBytes 8 _), ofWord, hshape]

/-! ### Packed chunks -/

/-- The values that stand under the name of a repeated field. -/
def valuesUnder (name : String) (out : Members Json) : List Json :=
  match out.get? name with
  | some (.array values) => values
  | _ => []

theorem push_eq_insert (value : Json) :
    push name value out = out.insert name (.array (valuesUnder name out ++ [value])) := by
  unfold push valuesUnder
  rcases out.get? name with - | json
  · rfl
  · cases json <;> rfl

theorem valuesUnder_push (value : Json) :
    valuesUnder name (push name value out) = valuesUnder name out ++ [value] := by
  rw [push_eq_insert, valuesUnder, Members.get?_insert_self]

/-- A chunk adds what its words are read as, behind what a field has already. -/
theorem decodePacked_of_carriesAll (nested : String → List UInt8 → Except DynamicFault Json)
    (h : field.kind.CarriesAll words chunk) {fuel : Nat} (hfuel : chunk.length < fuel)
    (out : Members Json) :
    ∃ next, decodePacked nested field fuel out chunk = .ok next ∧
      valuesUnder field.name next = valuesUnder field.name out ++ words.map (ofWord field.kind) ∧
      ∀ other, other ≠ field.name → next.get? other = out.get? other := by
  -- each word takes at least one byte, so the fuel outlasts the chunk
  induction h generalizing fuel out with
  | nil =>
    refine ⟨out, ?_, by simp, fun _ _ => rfl⟩
    cases fuel <;> rfl
  | @cons w words front rest hword hrest ih =>
    have hpos := hword.length_pos
    rw [List.length_append] at hfuel
    obtain ⟨fuel, rfl⟩ : ∃ f, fuel = f + 1 := ⟨fuel - 1, by omega⟩
    obtain ⟨next, hnext, hvalues, hothers⟩ :=
      ih (show rest.length < fuel by omega) (push field.name (ofWord field.kind w) out)
    refine ⟨next, ?_, ?_, fun other hother => ?_⟩
    · rw [decodePacked, decodeValue_of_carries hword]
      · exact hnext
      · intro hnil
        rw [(List.append_eq_nil_iff.mp hnil).1] at hpos
        exact Nat.lt_irrefl 0 hpos
    · rw [hvalues, valuesUnder_push, List.map_cons, List.append_assoc, List.singleton_append]
    · rw [hothers other hother, get?_push_of_ne (Ne.symm hother)]

/-! ### Fields of words -/

/-- How the words of a field are read. -/
structure ReadsWords (nested : String → List UInt8 → Except DynamicFault Json)
    (field : SchemaField) : Prop where
  /-- Every complete payload of the field is the bytes of a word. -/
  complete : ∀ written, Payload field.kind.wireType written → ∃ w, field.kind.Carries w written
  /-- A word is read from any of its bytes, and only from them. -/
  value : ∀ w written rest, field.kind.Carries w written →
    decodeValue nested field (written ++ rest) = .ok (ofWord field.kind w, rest)
  /-- A word is read as what it means, unless the kind is `sint32` and bit 32 is set. -/
  meaning : ∀ w, field.kind.Means w (ofWord field.kind w) ↔
    (field.kind = .sint32 → w.getLsbD 32 = false)
  /-- For the kind `sint32` the zigzag order is undone before the low half is kept. -/
  zigzagged : field.kind = .sint32 → ∀ w,
    ofWord field.kind w = .int ((unzigzagBits w).setWidth 32).toInt
  /-- A signed number of thirty-two bits is read from its place in the zigzag order. -/
  signed32 : field.kind = .sint32 → ∀ (n : Int32) written rest, Varint (zigzag n.toInt) written →
    decodeValue nested field (written ++ rest) = .ok (.int n.toInt, rest)
  /-- A signed number of sixty-four bits is read from its place in the zigzag order. -/
  signed64 : field.kind = .sint64 → ∀ (n : Int64) written rest, Varint (zigzag n.toInt) written →
    decodeValue nested field (written ++ rest) = .ok (.int n.toInt, rest)
  /-- The words of a packed chunk are each read as they are alone, in their order, behind the values
  that the field has already. -/
  packed : field.repeated = true → ∀ words chunk written out rest,
    field.kind.CarriesAll words chunk → Delimited chunk written →
    ∃ next, decodeRecord nested field .lengthDelimited out (written ++ rest) = .ok (next, rest) ∧
      valuesUnder field.name next = valuesUnder field.name out ++ words.map (ofWord field.kind) ∧
      ∀ other, other ≠ field.name → next.get? other = out.get? other

/-- All kinds of numbers and truth values are read as words. -/
theorem readsWords (nested : String → List UInt8 → Except DynamicFault Json) (field : SchemaField)
    (hshape : field.kind.wireType ≠ .lengthDelimited) : ReadsWords nested field where
  complete _ h := FieldKind.exists_carries hshape h
  value _ _ rest h := decodeValue_of_carries h rest
  meaning := means_ofWord_iff hshape
  zigzagged hkind w := by
    rw [hkind]
    exact ofWord_sint32 w
  signed32 hkind n written rest h :=
    (show (Scalar.sint32 n).Written written from .varint rfl rfl h).decodeValue_append hkind rest
  signed64 hkind n written rest h :=
    (show (Scalar.sint64 n).Written written from .varint rfl rfl h).decodeValue_append hkind rest
  packed hrepeated words chunk written out rest hwords h := by
    have hpacked : isPacked field .lengthDelimited = true :=
      isPacked_iff.mpr ⟨hrepeated, rfl, hshape⟩
    obtain ⟨next, hnext, hvalues, hothers⟩ :=
      decodePacked_of_carriesAll nested hwords (Nat.lt_succ_self _) out
    refine ⟨next, ?_, hvalues, hothers⟩
    rw [decodeRecord, if_pos hpacked, readDelimited_append h]
    dsimp only
    rw [hnext]
    rfl

/-- A repeated field of small numbers. -/
def amounts : SchemaField :=
  ⟨"amounts", 1, .int32, true, none⟩

/-- A varint with seven low bits and seven high ones, from bit 28 on. -/
theorem varint_spread (low top : UInt8) (hlow : 128 ≤ low.toNat) (htop : top.toNat < 128) :
    Varint (low.toNat - 128 + 268435456 * top.toNat) [low, 0x80, 0x80, 0x80, top] := by
  have hlt := low.toNat_lt
  have hzero : (0x80 : UInt8).toNat = 128 := rfl
  have hdigits := Digits.more hlow (.more (b := 0x80) hzero.ge (.more (b := 0x80) hzero.ge
    (.more (b := 0x80) hzero.ge (.last htop))))
  have hsum : low.toNat - 128 + 128 * (128 - 128 + 128 * (128 - 128 + 128 * (128 - 128 +
      128 * top.toNat))) = low.toNat - 128 + 268435456 * top.toNat := by omega
  rw [hzero, hsum] at hdigits
  exact ⟨hdigits, by simp, by omega⟩

/-- A number above the range of the kind is read as its low half. -/
theorem readsWords_amounts :
    amounts.kind.wireType ≠ .lengthDelimited ∧
      decodeValue (fun _ _ => .error .depthExceeded) amounts [0x85, 0x80, 0x80, 0x80, 0x10] =
        .ok (.int 5, []) := by
  have hshape : amounts.kind.wireType ≠ .lengthDelimited := by decide
  have hlaws := readsWords (fun _ _ => .error .depthExceeded) amounts hshape
  have hcarries : amounts.kind.Carries 0x100000005 [0x85, 0x80, 0x80, 0x80, 0x10] :=
    .varint rfl (varint_spread 0x85 0x10 (by decide) (by decide))
  have hword : ofWord amounts.kind 0x100000005 = .int 5 :=
    ((hlaws.meaning 0x100000005).mpr fun hkind => absurd hkind (by decide)).trans
      (congrArg Json.int (by decide))
  exact ⟨hshape, hword ▸ hlaws.value _ _ [] hcarries⟩

set_option maxRecDepth 1000 in
/-- The bits above the low half are not part of a number of kind `sint32`, so the first bit above
it stands for zero; it is read as the least number instead. -/
theorem sint32_differs :
    FieldKind.sint32.Carries 0x100000000 [0x80, 0x80, 0x80, 0x80, 0x10] ∧
      FieldKind.sint32.Means 0x100000000 (.int 0) ∧
      ¬ FieldKind.sint32.Means 0x100000000 (.int (-2147483648)) ∧
      decode ⟨[("t.M", [⟨"a", 1, .sint32, false, none⟩])]⟩ "t.M"
        [0x08, 0x80, 0x80, 0x80, 0x80, 0x10] = .ok (.object [("a", .int (-2147483648))]) := by
  have hzero : (unzigzagBits ((0x100000000 : BitVec 64).setWidth 32)).toInt = 0 := by decide
  refine ⟨.varint rfl (varint_spread 0x80 0x10 (by decide) (by decide)),
    congrArg Json.int hzero.symm, ?_, ?_⟩
  · intro hmeans
    rw [FieldKind.Means, hzero] at hmeans
    exact nomatch hmeans
  · rfl

end Schema

end ChainFeed
