import ChainFeed.Proofs.Wire.Format

/-!
# Records of a message

The readers read nothing but what the relations of the wire format allow: what a reader has read is
the front of its bytes. So bytes that were read to their end are records one behind the other, each
a field number with its content. Of which message type they are does not matter here.

## Main definitions

- `Content`: what stands behind the key of a record
- `Framed`: bytes as records
- `payloadsOf`: the byte strings under a field number

## Main results

- `varint?_eq_some`, `readKey_eq_ok`, `split?_eq_some`: what was read is the front of the bytes
-/

namespace ChainFeed.Wire

variable {n number : Nat} {bytes front rest written payload : List UInt8}

/-! ### What was read -/

theorem varintWithin?_eq_some {room : Nat} (h : varintWithin? room bytes = some (n, rest)) :
    ∃ front, Digits n front ∧ front.length ≤ room ∧ n < 2 ^ (7 * room - 6) ∧
      bytes = front ++ rest := by
  induction room generalizing bytes n with
  | zero => cases h
  | succ room ih =>
    cases bytes with
    | nil => cases h
    | cons b bytes =>
      rw [varintWithin?] at h
      split at h
      · rename_i hsmall
        have hlt : b.toNat < 128 := UInt8.lt_iff_toNat_lt.mp hsmall
        split at h
        · cases h
        · rename_i hlast
          obtain ⟨rfl, rfl⟩ := Prod.mk.inj (Option.some.inj h)
          refine ⟨[b], .last hlt, Nat.succ_le_succ (Nat.zero_le room), ?_, rfl⟩
          -- the tenth byte holds one bit, the others have place for seven
          by_cases hroom : room = 0
          · have hone : b ≤ 1 := by simpa [hroom] using hlast
            have := UInt8.le_iff_toNat_le.mp hone
            subst hroom
            exact Nat.lt_succ_of_le this
          · have hpow : 2 ^ 7 ≤ 2 ^ (7 * (room + 1) - 6) :=
              Nat.pow_le_pow_right (by omega) (by omega)
            omega
      · rename_i hbig
        obtain ⟨⟨m, tail⟩, hread, heq⟩ := Option.map_eq_some_iff.mp h
        obtain ⟨rfl, rfl⟩ := Prod.mk.inj heq
        obtain ⟨front, hdigits, hlength, hlt, rfl⟩ := ih hread
        have hmark : 128 ≤ b.toNat := by
          rw [UInt8.lt_iff_toNat_lt] at hbig
          exact Nat.le_of_not_lt hbig
        have hpos := hdigits.length_pos
        refine ⟨b :: front, .more hmark hdigits, Nat.succ_le_succ hlength, ?_, rfl⟩
        have hb := b.toNat_lt
        rw [show 7 * (room + 1) - 6 = 7 * room - 6 + 7 by omega, Nat.pow_add]
        omega

theorem varint?_eq_some (h : varint? bytes = some (n, rest)) :
    ∃ front, Varint n front ∧ bytes = front ++ rest := by
  obtain ⟨front, hdigits, hlength, hlt, heq⟩ := varintWithin?_eq_some h
  exact ⟨front, ⟨hdigits, hlength, hlt⟩, heq⟩

theorem readKey_eq_ok {wireType : WireType} (h : readKey bytes = .ok ((number, wireType), rest)) :
    ∃ key, Key number wireType key ∧ bytes = key ++ rest := by
  rw [readKey] at h
  split at h
  · cases h
  · rename_i code tail hread
    split at h
    · cases h
    · rename_i hle
      split at h
      · cases h
      · rename_i found hfound
        split at h
        · cases h
        · rename_i hpos
          obtain ⟨heq, rfl⟩ := Prod.mk.inj (Except.ok.inj h)
          obtain ⟨rfl, rfl⟩ := Prod.mk.inj heq
          obtain ⟨front, hvarint, rfl⟩ := varint?_eq_some hread
          have hcode : 8 * (code / 8) + found.code = code := by
            rw [WireType.code_of_ofNat? hfound]
            omega
          exact ⟨front, ⟨hcode.symm ▸ hvarint, by omega, by omega⟩, rfl⟩

theorem split?_eq_some (h : split? n bytes = some (front, rest)) :
    front.length = n ∧ bytes = front ++ rest := by
  rw [split?] at h
  split at h
  · rename_i hle
    obtain ⟨rfl, rfl⟩ := Prod.mk.inj (Option.some.inj h)
    exact ⟨List.length_take_of_le hle, (List.take_append_drop n bytes).symm⟩
  · cases h

/-! ### Records -/

/-- What stands behind the key of a record. -/
inductive Content where
  | varint (n : Nat)
  | sixtyFourBit (bytes : List UInt8)
  | lengthDelimited (payload : List UInt8)
  | thirtyTwoBit (bytes : List UInt8)

namespace Content

/-- The shape of a content. -/
def wireType : Content → WireType
  | .varint _ => .varint
  | .sixtyFourBit _ => .sixtyFourBit
  | .lengthDelimited _ => .lengthDelimited
  | .thirtyTwoBit _ => .thirtyTwoBit

/-- The byte string that a content is. -/
def payload? : Content → Option (List UInt8)
  | .lengthDelimited payload => some payload
  | _ => none

/-- The bytes of a content. -/
inductive Written : Content → List UInt8 → Prop
  | varint {n : Nat} {written : List UInt8} (h : Varint n written) : Written (.varint n) written
  | sixtyFourBit {bytes : List UInt8} (h : bytes.length = 8) : Written (.sixtyFourBit bytes) bytes
  | lengthDelimited {payload written : List UInt8} (h : Delimited payload written) :
    Written (.lengthDelimited payload) written
  | thirtyTwoBit {bytes : List UInt8} (h : bytes.length = 4) : Written (.thirtyTwoBit bytes) bytes

theorem Written.toPayload {content : Content} (h : content.Written written) :
    Payload content.wireType written := by
  cases h with
  | varint h => exact .varint h
  | sixtyFourBit h => exact .sixtyFourBit h
  | lengthDelimited h => exact .lengthDelimited h
  | thirtyTwoBit h => exact .thirtyTwoBit h

theorem Written.length_pos {content : Content} (h : content.Written written) :
    0 < written.length := by
  cases h with
  | varint h => exact h.length_pos
  | sixtyFourBit h | thirtyTwoBit h => omega
  | lengthDelimited h =>
    obtain ⟨hlength⟩ := h
    rw [List.length_append]
    exact Nat.add_pos_left hlength.length_pos _

end Content

/-- Bytes that are records, each a field number and a content. -/
inductive Framed : List (Nat × Content) → List UInt8 → Prop
  | nil : Framed [] []
  | cons {number : Nat} {content : Content} {frames : List (Nat × Content)}
    {key written rest : List UInt8} (hkey : Key number content.wireType key)
    (h : content.Written written) (hrest : Framed frames rest) :
    Framed ((number, content) :: frames) (key ++ (written ++ rest))

/-- The byte strings that stand under a field number, in order. -/
def payloadsOf (number : Nat) (frames : List (Nat × Content)) : List (List UInt8) :=
  frames.filterMap fun frame => if frame.1 = number then frame.2.payload? else none

@[simp] theorem payloadsOf_nil : payloadsOf number [] = [] := rfl

theorem payloadsOf_cons_self (frames : List (Nat × Content)) :
    payloadsOf number ((number, .lengthDelimited payload) :: frames) =
      payload :: payloadsOf number frames :=
  List.filterMap_cons_some (if_pos rfl)

theorem payloadsOf_cons_of_ne {other : Nat} {content : Content} (h : other ≠ number)
    (frames : List (Nat × Content)) :
    payloadsOf number ((other, content) :: frames) = payloadsOf number frames :=
  List.filterMap_cons_none (if_neg h)

end ChainFeed.Wire
