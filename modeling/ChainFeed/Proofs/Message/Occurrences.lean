import ChainFeed.Proofs.Except
import ChainFeed.Proofs.Message.Gathering
import ChainFeed.Proofs.Wire.Framing

/-!
# What the decoder of a schema has read

Bytes that are accepted as a message of a schema are records one behind the other. Each record of a
declared field holds one value of it, and what the message comes to is gathered from these values.
Only messages without packed fields are looked at: their repeated fields are texts, byte strings or
messages.

## Main definitions

- `Schema.valueOf`: the value that the content of a record is
- `Schema.Holds`: records, and the values that they hold for fields

## Main results

- `Schema.decodeRecord_cases`: what a record of a declared field can be
- `Schema.decodeRecords_eq_ok`: what was read are records, and what came of them was gathered
- `Schema.decodeMessage_eq_ok`: the same for whole messages
-/

namespace ChainFeed.Schema

open Wire

variable {decoder : String → List UInt8 → Except DynamicFault Json} {field : SchemaField}
  {fields : List SchemaField} {bytes front rest payload : List UInt8} {out final : Members Json}
  {value json : Json} {n fuel : Nat} {wireType : WireType} {frames : List (Nat × Content)}
  {occurrences : List (SchemaField × Json)}

/-! ### One record -/

theorem readVarint_eq_ok (h : readVarint bytes = .ok (n, rest)) :
    ∃ written, Varint n written ∧ bytes = written ++ rest :=
  varint?_eq_some (eq_some_of_elim_eq_ok h)

theorem readFixed_eq_ok (h : readFixed n bytes = .ok (front, rest)) :
    front.length = n ∧ bytes = front ++ rest :=
  split?_eq_some (eq_some_of_elim_eq_ok h)

theorem readDelimited_eq_ok (h : readDelimited bytes = .ok (payload, rest)) :
    ∃ written, Delimited payload written ∧ bytes = written ++ rest := by
  rw [readDelimited] at h
  split at h
  · cases h
  · rename_i length tail hlength
    obtain ⟨written, hvarint, rfl⟩ := readVarint_eq_ok hlength
    obtain ⟨rfl, rfl⟩ := readFixed_eq_ok h
    exact ⟨written ++ payload, ⟨hvarint⟩, (List.append_assoc ..).symm⟩

/-- What was passed over is the content of a record. -/
theorem skip_eq_ok (h : skip wireType bytes = .ok rest) :
    ∃ (content : Content) (written : List UInt8), content.wireType = wireType ∧
      content.Written written ∧ bytes = written ++ rest := by
  unfold skip at h
  split at h
  · obtain ⟨⟨n, _⟩, hread, rfl⟩ := exists_of_map_eq_ok h
    obtain ⟨written, hvarint, rfl⟩ := readVarint_eq_ok hread
    exact ⟨.varint n, written, rfl, .varint hvarint, rfl⟩
  · obtain ⟨⟨front, _⟩, hread, rfl⟩ := exists_of_map_eq_ok h
    obtain ⟨hlength, rfl⟩ := readFixed_eq_ok hread
    exact ⟨.sixtyFourBit front, front, rfl, .sixtyFourBit hlength, rfl⟩
  · obtain ⟨⟨front, _⟩, hread, rfl⟩ := exists_of_map_eq_ok h
    obtain ⟨hlength, rfl⟩ := readFixed_eq_ok hread
    exact ⟨.thirtyTwoBit front, front, rfl, .thirtyTwoBit hlength, rfl⟩
  · obtain ⟨⟨payload, _⟩, hread, rfl⟩ := exists_of_map_eq_ok h
    obtain ⟨written, hdelimited, rfl⟩ := readDelimited_eq_ok hread
    exact ⟨.lengthDelimited payload, written, rfl, .lengthDelimited hdelimited, rfl⟩
  · cases h
  · cases h

/-- The value of a field that the content of a record is. -/
def valueOf (decoder : String → List UInt8 → Except DynamicFault Json) (field : SchemaField) :
    Content → Except DynamicFault Json
  | .varint n => .ok (ofVarint field.kind n)
  | .sixtyFourBit bytes | .thirtyTwoBit bytes => .ok (ofFixed field.kind bytes)
  | .lengthDelimited payload => ofDelimited decoder field payload

theorem decodeValue_eq_ok (h : decodeValue decoder field bytes = .ok (value, rest)) :
    ∃ (content : Content) (written : List UInt8), content.wireType = field.kind.wireType ∧
      content.Written written ∧ bytes = written ++ rest ∧
      valueOf decoder field content = .ok value := by
  unfold decodeValue at h
  split at h
  · rename_i hshape
    obtain ⟨⟨n, _⟩, hread, heq⟩ := exists_of_map_eq_ok h
    obtain ⟨rfl, rfl⟩ := Prod.mk.inj heq
    obtain ⟨written, hvarint, rfl⟩ := readVarint_eq_ok hread
    exact ⟨.varint n, written, hshape.symm, .varint hvarint, rfl, rfl⟩
  · rename_i hshape
    obtain ⟨⟨front, _⟩, hread, heq⟩ := exists_of_map_eq_ok h
    obtain ⟨rfl, rfl⟩ := Prod.mk.inj heq
    obtain ⟨hlength, rfl⟩ := readFixed_eq_ok hread
    exact ⟨.thirtyTwoBit front, front, hshape.symm, .thirtyTwoBit hlength, rfl, rfl⟩
  · rename_i hshape
    obtain ⟨⟨front, _⟩, hread, heq⟩ := exists_of_map_eq_ok h
    obtain ⟨rfl, rfl⟩ := Prod.mk.inj heq
    obtain ⟨hlength, rfl⟩ := readFixed_eq_ok hread
    exact ⟨.sixtyFourBit front, front, hshape.symm, .sixtyFourBit hlength, rfl, rfl⟩
  · rename_i hvarint hthirtyTwo hsixtyFour
    -- no kind has the shape of a group
    have hshape : field.kind.wireType = .lengthDelimited := by
      generalize field.kind = kind at hvarint hthirtyTwo hsixtyFour
      cases kind <;> first | rfl | contradiction
    split at h
    · cases h
    · rename_i payload tail hread
      obtain ⟨written, hdelimited, rfl⟩ := readDelimited_eq_ok hread
      obtain ⟨value, hvalue, heq⟩ := exists_of_map_eq_ok h
      obtain ⟨rfl, rfl⟩ := Prod.mk.inj heq
      exact ⟨.lengthDelimited payload, written, hshape.symm, .lengthDelimited hdelimited, rfl,
        hvalue⟩

/-- A field whose values never come in chunks. -/
def Unpacked (field : SchemaField) : Prop :=
  field.repeated = true → field.kind.wireType = .lengthDelimited

theorem Unpacked.isPacked_eq (h : Unpacked field) (wireType : WireType) :
    isPacked field wireType = false := by
  rw [← Bool.not_eq_true, isPacked_iff]
  exact fun ⟨hrepeated, _, hshape⟩ => hshape (h hrepeated)

/-- A record that was read is a packed chunk, or else one value of the shape of its field. -/
theorem decodeRecord_cases (h : decodeRecord decoder field wireType out bytes = .ok (final, rest)) :
    (∃ chunk written, isPacked field wireType = true ∧ Delimited chunk written ∧
      bytes = written ++ rest ∧
      decodePacked decoder field (chunk.length + 1) out chunk = .ok final) ∨
    (∃ value, isPacked field wireType = false ∧ wireType = field.kind.wireType ∧
      decodeValue decoder field bytes = .ok (value, rest) ∧ final = add out (field, value)) := by
  rw [decodeRecord] at h
  split at h
  · rename_i hpacked
    split at h
    · cases h
    · rename_i chunk tail hread
      obtain ⟨final, hfinal, heq⟩ := exists_of_map_eq_ok h
      obtain ⟨rfl, rfl⟩ := Prod.mk.inj heq
      obtain ⟨written, hdelimited, rfl⟩ := readDelimited_eq_ok hread
      exact .inl ⟨chunk, written, hpacked, hdelimited, rfl, hfinal⟩
  · rename_i hpacked
    split at h
    · rename_i hshape
      obtain ⟨⟨value, _⟩, hvalue, heq⟩ := exists_of_map_eq_ok h
      obtain ⟨rfl, rfl⟩ := Prod.mk.inj heq
      exact .inr ⟨value, Bool.eq_false_iff.mpr hpacked, hshape, hvalue, rfl⟩
    · cases h

/-- A record of a field without chunks holds one value of it. -/
theorem decodeRecord_eq_ok (hunpacked : Unpacked field)
    (h : decodeRecord decoder field wireType out bytes = .ok (final, rest)) :
    ∃ (content : Content) (written : List UInt8) (value : Json), content.wireType = wireType ∧
      wireType = field.kind.wireType ∧ content.Written written ∧ bytes = written ++ rest ∧
      valueOf decoder field content = .ok value ∧ final = add out (field, value) := by
  rcases decodeRecord_cases h with ⟨_, _, hpacked, -⟩ | ⟨value, -, rfl, hvalue, rfl⟩
  · rw [hunpacked.isPacked_eq] at hpacked
    cases hpacked
  · obtain ⟨content, written, hcontent, hwritten, rfl, hvalueOf⟩ := decodeValue_eq_ok hvalue
    exact ⟨content, written, value, hcontent, rfl, hwritten, rfl, hvalueOf, rfl⟩

/-! ### All records -/

/-- Records, and the values that they hold for fields. -/
inductive Holds (decoder : String → List UInt8 → Except DynamicFault Json)
    (fields : List SchemaField) : List (Nat × Content) → List (SchemaField × Json) → Prop
  | nil : Holds decoder fields [] []
  | undeclared {number : Nat} {content : Content} {frames : List (Nat × Content)}
    {occurrences : List (SchemaField × Json)}
    (hfind : fields.find? (fun field => field.number.toNat = number) = none)
    (hrest : Holds decoder fields frames occurrences) :
    Holds decoder fields ((number, content) :: frames) occurrences
  | declared {number : Nat} {content : Content} {field : SchemaField} {value : Json}
    {frames : List (Nat × Content)} {occurrences : List (SchemaField × Json)}
    (hfind : fields.find? (fun field => field.number.toNat = number) = some field)
    (hshape : content.wireType = field.kind.wireType)
    (hvalue : valueOf decoder field content = .ok value)
    (hrest : Holds decoder fields frames occurrences) :
    Holds decoder fields ((number, content) :: frames) ((field, value) :: occurrences)

/-- Each value is one of the first field of some number. -/
theorem Holds.exists_find? (h : Holds decoder fields frames occurrences) :
    ∀ occurrence ∈ occurrences, ∃ number,
      fields.find? (fun field => field.number.toNat = number) = some occurrence.1 := by
  induction h with
  | nil => exact fun occurrence hmem => absurd hmem List.not_mem_nil
  | undeclared _ _ ih => exact ih
  | declared hfind _ _ _ ih =>
    intro occurrence hmem
    rcases List.mem_cons.mp hmem with rfl | hrest
    · exact ⟨_, hfind⟩
    · exact ih occurrence hrest

/-- Bytes that were read to their end are records, and their values were added one by one. -/
theorem decodeRecords_eq_ok (hunpacked : ∀ field ∈ fields, Unpacked field)
    (hfuel : bytes.length < fuel) (h : decodeRecords decoder fields fuel out bytes = .ok final) :
    ∃ frames occurrences, Framed frames bytes ∧ Holds decoder fields frames occurrences ∧
      final = occurrences.foldl add out := by
  -- each record takes at least one byte, so the fuel outlasts the records
  induction fuel generalizing out bytes with
  | zero => exact absurd hfuel (Nat.not_lt_zero _)
  | succ fuel ih =>
    cases bytes with
    | nil =>
      rw [decodeRecords] at h
      exact ⟨[], [], .nil, .nil, (Except.ok.inj h).symm⟩
    | cons b bytes =>
      simp only [decodeRecords] at h
      split at h
      · cases h
      · rename_i number wireType tail hread
        obtain ⟨key, hkey, heq⟩ := readKey_eq_ok hread
        rw [heq] at hfuel ⊢
        split at h
        · rename_i hfind
          split at h
          · cases h
          · rename_i rest hskip
            obtain ⟨content, written, rfl, hwritten, rfl⟩ := skip_eq_ok hskip
            have hlength := hkey.length_lt written rest
            obtain ⟨frames, occurrences, hframed, hholds, rfl⟩ := ih (by omega) h
            exact ⟨(number, content) :: frames, occurrences, .cons hkey hwritten hframed,
              .undeclared hfind hholds, rfl⟩
        · rename_i field hfind
          split at h
          · cases h
          · rename_i next rest hrecord
            have hfield := hunpacked field (List.mem_of_find?_eq_some hfind)
            obtain ⟨content, written, value, rfl, hshape, hwritten, rfl, hvalue, rfl⟩ :=
              decodeRecord_eq_ok hfield hrecord
            have hlength := hkey.length_lt written rest
            obtain ⟨frames, occurrences, hframed, hholds, rfl⟩ := ih (by omega) h
            exact ⟨(number, content) :: frames, (field, value) :: occurrences,
              .cons hkey hwritten hframed, .declared hfind hshape hvalue hholds, rfl⟩

/-- A message that was read is made of what its records hold. -/
theorem decodeMessage_eq_ok {schema : Schema} {room : Nat} {name : String}
    (hunpacked : ∀ field ∈ schema.fields name, Unpacked field)
    (h : schema.decodeMessage (room + 1) name bytes = .ok json) :
    ∃ frames occurrences, Framed frames bytes ∧
      Holds (schema.decodeMessage room) (schema.fields name) frames occurrences ∧
      json = .object (fillAbsent (schema.fields name) (gather occurrences)) := by
  rw [decodeMessage] at h
  obtain ⟨final, hfinal, rfl⟩ := exists_of_map_eq_ok h
  obtain ⟨frames, occurrences, hframed, hholds, rfl⟩ :=
    decodeRecords_eq_ok hunpacked (Nat.lt_succ_self _) hfinal
  exact ⟨frames, occurrences, hframed, hholds, rfl⟩

end ChainFeed.Schema
