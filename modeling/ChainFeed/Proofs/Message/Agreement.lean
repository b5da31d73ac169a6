import ChainFeed.Proofs.Message.Level

/-!
# Built-in decoders and decoders of a schema

Whatever the decoder of a schema accepts as a message of a layout that it describes, the built-in
decoder accepts, too. Their payloads are the same, unless the records of a single message have to be
merged: a delegation may have the denomination of its amount in one record and the number in the
next, and the decoder of a schema then loses the denomination.

## Main results

- `Layout.follows_of_plain`: without single messages the decoders agree
- `decoders_agree_iff`: when the payloads of a message are the same
- `splitDelegation_differs`: a delegation of which they are not
-/

namespace ChainFeed

open Wire

/-! ### Whole messages -/

variable {schema : Schema} {layout : Layout} {name : String} {bytes : List UInt8} {json : Json}
  {depth : Nat}

/-- A schema that describes a layout gives a level of it. -/
theorem Schema.Describes.level (h : schema.Describes name layout) (hregular : layout.Regular)
    {room : Nat} (hfollows : ∀ {declared target nested}, declared ∈ layout.fields →
      declared.2.2.2 = FieldType.message nested → schema.Describes target nested →
        nested.Follows (schema.decodeMessage room target)) :
    Level (schema.decodeMessage room) (schema.fields name) layout := by
  obtain ⟨hfields, hlayout, hnested⟩ := h
  refine ⟨hregular, hfields, hlayout, ?_⟩
  intro field hfield declared hmem hdeclares nested htype
  have hkind : field.kind = .message := by
    rw [hdeclares.kind_eq, htype]
    rfl
  obtain ⟨target, htarget⟩ := Option.isSome_iff_exists.mp (hdeclares.isSome_message hkind)
  rw [htarget]
  have hreads := hnested field hfield declared hmem hdeclares nested htype target htarget
  exact hfollows hmem htype hreads

/-- Without single messages both decoders agree, on all levels. -/
theorem Layout.follows_of_plain (hplain : layout.Plain depth) (hdepth : depth < maxNesting)
    (hdescribes : schema.Describes name layout) (room : Nat) :
    layout.Follows (schema.decodeMessage room name) := by
  -- the induction is on the levels of the layout; the room of the decoder shrinks along with them
  induction depth generalizing layout name room with
  | zero => cases hplain
  | succ depth ih =>
    cases room with
    | zero =>
      constructor
      · intro bytes json hdecode
        cases hdecode
      · intro bytes json hdecode
        cases hdecode
    | succ room =>
      have hshallow := shallow_of_plain hplain
      have hlevel : Level (schema.decodeMessage room) (schema.fields name) layout := by
        refine hdescribes.level (regular_of_shallow hshallow) ?_
        rintro ⟨number, label, occurrence, type⟩ target nested hmem rfl htarget
        exact ih (repeated_of_plain hplain hmem).2 (by omega) htarget room
      constructor
      · intro bytes json hdecode values
        obtain ⟨frames, occurrences, hframed, hholds, -⟩ :=
          Schema.decodeMessage_eq_ok hlevel.unpacked hdecode
        obtain ⟨puts, hreads, -⟩ := hlevel.reads hholds hframed values
        exact ⟨_, hreads⟩
      · intro bytes json hdecode
        obtain ⟨frames, occurrences, hframed, hholds, rfl⟩ :=
          Schema.decodeMessage_eq_ok hlevel.unpacked hdecode
        obtain ⟨final, hreads, hiff⟩ := hlevel.agreement hshallow (by omega) hholds hframed
        refine ⟨final, hreads, (hiff.mpr ?_).symm⟩
        intro number label nested hmem
        cases (repeated_of_plain hplain hmem).1

/-- With single messages at the first level only, the decoders differ in these at most. -/
theorem Layout.agreement_of_shallow (hshallow : layout.Shallow depth)
    (hdepth : depth + 1 < maxNesting) (hdescribes : schema.Describes name layout)
    (hrun : (Decoder.dynamic schema name).run bytes = .ok json) :
    ∃ frames payload, Framed frames bytes ∧ (Decoder.builtin layout).run bytes = .ok payload ∧
      (json = payload ↔
        ∀ number name nested, (number, name, .single, .message nested) ∈ layout.fields →
          ∀ front last, payloadsOf number frames = front ++ [last] →
            (Decoder.builtin nested).run (front ++ [last]).flatten =
              (Decoder.builtin nested).run last) := by
  have hlevel : Level (schema.decodeMessage Schema.maxDepth) (schema.fields name) layout := by
    refine hdescribes.level (regular_of_shallow hshallow) ?_
    rintro ⟨number, label, occurrence, type⟩ target nested hmem rfl htarget
    exact follows_of_plain (plain_of_shallow hshallow hmem) (by omega) htarget _
  have hdecode : schema.decodeMessage (Schema.maxDepth + 1) name bytes = .ok json :=
    of_mapError_eq_ok hrun
  obtain ⟨frames, occurrences, hframed, hholds, rfl⟩ :=
    Schema.decodeMessage_eq_ok hlevel.unpacked hdecode
  obtain ⟨final, hreads, hiff⟩ := hlevel.agreement hshallow (by omega) hholds hframed
  exact ⟨frames, _, hframed, Level.run_builtin hreads (nests_of_shallow hshallow) hdepth, hiff⟩

/-- The message types that have a payload: those inside of others, and those with a type url. -/
def Layout.shown : List Layout :=
  [coin, bankSide, remoteHeight, signerInfo, fee, authInfo] ++ builtin.map (·.2)

/-- Whatever the decoder of a schema accepts as a message of a type that is also built in, the
built-in decoder accepts, too. Both payloads are the same exactly if no single message differs
between all its records, one behind the other, and the last of them. -/
theorem decoders_agree_iff {schema : Schema} {name : String} {layout : Layout}
    (hmem : layout ∈ Layout.shown) (hdescribes : schema.Describes name layout) {bytes : List UInt8}
    {json : Json} (hrun : (Decoder.dynamic schema name).run bytes = .ok json) :
    ∃ frames payload, Framed frames bytes ∧ (Decoder.builtin layout).run bytes = .ok payload ∧
      (json = payload ↔
        ∀ number name nested, (number, name, .single, .message nested) ∈ layout.fields →
          ∀ front last, payloadsOf number frames = front ++ [last] →
            (Decoder.builtin nested).run (front ++ [last]).flatten =
              (Decoder.builtin nested).run last) := by
  have hshallow : ∀ layout ∈ Layout.shown, layout.Shallow 2 := by decide
  exact Layout.agreement_of_shallow (hshallow layout hmem) (by decide) hdescribes hrun

/-! ### A delegation whose amount comes in two records -/

section Delegation

/-- A schema file with delegations and coins. -/
def stakingFile : SchemaFile where
  package := "d"
  messages :=
    [⟨"Coin", [⟨"denom", 1, .string, false, none⟩, ⟨"amount", 2, .string, false, none⟩]⟩,
      ⟨"MsgDelegate", [⟨"delegator_address", 1, .string, false, none⟩,
        ⟨"validator_address", 2, .string, false, none⟩,
        ⟨"amount", 3, .message, false, some "Coin"⟩]⟩]

/-- The messages of the file. -/
def stakingSchema : Schema where
  messages :=
    [("d.Coin", [⟨"denom", 1, .string, false, none⟩, ⟨"amount", 2, .string, false, none⟩]),
      ("d.MsgDelegate", [⟨"delegator_address", 1, .string, false, none⟩,
        ⟨"validator_address", 2, .string, false, none⟩,
        ⟨"amount", 3, .message, false, some "d.Coin"⟩])]

/-- One record of the amount has the denomination, the next one has the number. -/
def splitDelegation : List UInt8 :=
  [26, 7, 10, 5, 117, 97, 116, 111, 109, 26, 3, 18, 1, 55]

/-- The payload of a delegation between nobody. -/
def delegation (denom amount : String) : Json :=
  .object [("amount", .object [("amount", .string amount), ("denom", .string denom)]),
    ("delegator_address", .string ""), ("validator_address", .string "")]

theorem describes_coin : stakingSchema.Describes "d.Coin" .coin := by
  refine ⟨by decide, by decide, ?_⟩
  rintro field - declared hdeclared - nested htype
  -- a coin has texts only
  have htexts : ∀ declared ∈ Layout.coin.fields, declared.2.2.2.nested? = none := by decide
  have hnone := htexts declared hdeclared
  rw [htype] at hnone
  cases hnone

theorem describes_delegate : stakingSchema.Describes "d.MsgDelegate" .delegate := by
  refine ⟨by decide, by decide, ?_⟩
  intro field hfield declared hdeclared hdeclares nested htype target htarget
  have hkind : field.kind = .message := by
    rw [hdeclares.kind_eq, htype]
    rfl
  -- the amount is the only message on both sides
  have hcoin : ∀ field ∈ stakingSchema.fields "d.MsgDelegate", field.kind = .message →
      field.message = some "d.Coin" := by decide
  have hamount : nested = .coin := by
    simp only [Layout.delegate, Layout.fields, List.mem_cons, List.not_mem_nil,
      or_false] at hdeclared
    rcases hdeclared with rfl | rfl | rfl
    · cases htype
    · cases htype
    · cases htype
      rfl
  have htargetEq := (hcoin field hfield hkind).symm.trans htarget
  cases htargetEq
  rw [hamount]
  exact describes_coin

theorem run_dynamic_splitDelegation :
    (Decoder.dynamic stakingSchema "d.MsgDelegate").run splitDelegation =
      .ok (delegation "" "7") := by
  rfl

theorem run_builtin_splitDelegation :
    (Decoder.builtin .delegate).run splitDelegation = .ok (delegation "uatom" "7") := by
  have hdecode : Layout.delegate.decode splitDelegation =
      .ok [.text "", .text "", .message [.text "uatom", .text "7"]] := by
    rfl
  rw [Decoder.run, hdecode]
  simp only [Layout.delegate, Layout.coin, Layout.single, Layout.toJson, Layout.membersToJson,
    FieldValue.toJson]
  -- members are sorted by their names
  simp only [Json.ofMembers, Members.ofList, List.foldl_cons, List.foldl_nil, Members.insert,
    String.reduceEq, String.reduceLT, ↓reduceIte, delegation]

/-- The amount is one coin for the built-in decoder, and for the decoder of the schema only what its
last record has. -/
theorem splitDelegation_differs :
    stakingFile.resolve "s.json" = .ok stakingSchema ∧
    stakingSchema.Describes "d.MsgDelegate" .delegate ∧
    (Decoder.dynamic stakingSchema "d.MsgDelegate").run splitDelegation =
      .ok (delegation "" "7") ∧
    (Decoder.builtin .delegate).run splitDelegation = .ok (delegation "uatom" "7") ∧
    delegation "" "7" ≠ delegation "uatom" "7" := by
  refine ⟨rfl, describes_delegate, run_dynamic_splitDelegation, run_builtin_splitDelegation, ?_⟩
  intro heq
  simp [delegation] at heq

/-- The decoders of delegations on those bytes. -/
theorem decoders_agree_iff_splitDelegation :
    .delegate ∈ Layout.shown ∧ stakingSchema.Describes "d.MsgDelegate" .delegate ∧
    (Decoder.dynamic stakingSchema "d.MsgDelegate").run splitDelegation =
      .ok (delegation "" "7") ∧
    ∃ frames payload, Framed frames splitDelegation ∧
      (Decoder.builtin .delegate).run splitDelegation = .ok payload ∧
      (delegation "" "7" = payload ↔
        ∀ number name nested, (number, name, .single, .message nested) ∈ Layout.delegate.fields →
          ∀ front last, payloadsOf number frames = front ++ [last] →
            (Decoder.builtin nested).run (front ++ [last]).flatten =
              (Decoder.builtin nested).run last) := by
  have hmem : .delegate ∈ Layout.shown := by simp [Layout.shown, Layout.builtin]
  exact ⟨hmem, describes_delegate, run_dynamic_splitDelegation,
    decoders_agree_iff hmem describes_delegate run_dynamic_splitDelegation⟩

end Delegation

end ChainFeed
