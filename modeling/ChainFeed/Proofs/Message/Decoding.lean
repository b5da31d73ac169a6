import ChainFeed.Proofs.Message.Gathering

/-!
# Decoding undoes serializing

Whatever serialization of a value a decoder of its message type is given, it gives the object of
that value. The bytes are followed record by record: each record leaves the members that its
occurrences make, and at the end of the bytes these are the members of the value. Nested messages
are covered by induction on how deep they may nest.

## Main results

- `Record.decodeRecords_append`: what one record does
- `Schema.decodeMessage_of_serializes`: messages at any level
- `Schema.decode_of_serializes`: messages of at most `maxDepth` levels, from the outermost one
-/

namespace ChainFeed

open Wire Schema

variable {schema : Schema} {field : SchemaField} {fields : List SchemaField} {item : Item}
  {occurrences : List (SchemaField × Item)} {written bytes : List UInt8}
  {decoder : String → List UInt8 → Except DynamicFault Json}

theorem Scalar.Written.length_pos {scalar : Scalar} (h : scalar.Written written) :
    0 < written.length := by
  cases h with
  | varint _ _ h => exact h.length_pos
  | thirtyTwoBit => exact Nat.succ_pos _
  | sixtyFourBit => exact Nat.succ_pos _
  | lengthDelimited _ h =>
    obtain ⟨hlength⟩ := h
    rw [List.length_append]
    exact Nat.add_pos_left hlength.length_pos _

/-! ### One value -/

/-- A decoder reads the messages among some values, of whatever type they are. -/
def ReadsNested (schema : Schema) (decoder : String → List UInt8 → Except DynamicFault Json)
    (items : List Item) : Prop :=
  ∀ nested, Item.message nested ∈ items → ∀ target payload,
    schema.Serializes target nested payload →
      decoder target payload = .ok (MessageValue.toJson schema target nested)

theorem Item.Written.decodeValue_append (h : Item.Written schema field item written)
    (hread : ReadsNested schema decoder [item]) (rest : List UInt8) :
    decodeValue decoder field (written ++ rest) = .ok (field.itemJson schema item, rest) := by
  cases h with
  | scalar hkind h => exact h.decodeValue_append hkind rest
  | @message _ target value payload _ hkind htarget hpayload h =>
    have hshape : field.kind.wireType = .lengthDelimited := by rw [hkind]; rfl
    have hnested :
        ofDelimited decoder field payload = .ok (MessageValue.toJson schema target value) := by
      rw [ofDelimited, hkind, htarget]
      exact hread value (List.mem_singleton.mpr rfl) target payload hpayload
    rw [decodeValue_lengthDelimited hshape h, hnested, SchemaField.itemJson, htarget]
    rfl

/-- The values of a packed chunk are added one after the other. -/
theorem Chunk.decodePacked {values : List Scalar} {chunk : List UInt8}
    (h : Chunk field.kind values chunk) {fuel : Nat} (hfuel : chunk.length < fuel)
    (out : Members Json) :
    decodePacked decoder field fuel out chunk =
      .ok (values.foldl (fun out value => push field.name value.toJson out) out) := by
  -- each value takes at least one byte, so the fuel outlasts the chunk
  induction h generalizing fuel out with
  | nil => cases fuel <;> rfl
  | @cons value values front rest hvalue h hrest ih =>
    have hpos := h.length_pos
    rw [List.length_append] at hfuel
    obtain ⟨fuel, rfl⟩ : ∃ f, fuel = f + 1 := ⟨fuel - 1, by omega⟩
    rw [Schema.decodePacked, h.decodeValue_append hvalue]
    · exact ih (by omega) _
    · intro hnil
      rw [(List.append_eq_nil_iff.mp hnil).1] at hpos
      exact Nat.lt_irrefl 0 hpos

/-! ### One record -/

/-- An occurrence as JSON. -/
def occurrenceJson (schema : Schema) (occurrence : SchemaField × Item) : SchemaField × Json :=
  (occurrence.1, occurrence.1.itemJson schema occurrence.2)

theorem decodeRecord_of_written (h : Item.Written schema field item written)
    (hread : ReadsNested schema decoder [item]) (out : Members Json) (rest : List UInt8) :
    decodeRecord decoder field field.kind.wireType out (written ++ rest) =
      .ok (add out (field, field.itemJson schema item), rest) := by
  rw [decodeRecord, isPacked_wireType_eq, if_neg Bool.false_ne_true, if_pos rfl,
    h.decodeValue_append hread]
  rfl

theorem decodeRecord_of_chunk {values : List Scalar} {chunk : List UInt8}
    (hrepeated : field.repeated = true) (hshape : field.kind.wireType ≠ .lengthDelimited)
    (hchunk : Chunk field.kind values chunk) (h : Delimited chunk written) (out : Members Json)
    (rest : List UInt8) :
    decodeRecord decoder field .lengthDelimited out (written ++ rest) =
      .ok (values.foldl (fun out value => add out (field, value.toJson)) out, rest) := by
  have hpacked : isPacked field .lengthDelimited = true :=
    isPacked_iff.mpr ⟨hrepeated, rfl, hshape⟩
  -- adding to a repeated field is what the chunk does with each value
  have hadd : (fun out value => add out (field, Scalar.toJson value)) =
      fun out value => push field.name value.toJson out := by
    funext out value
    exact if_pos hrepeated
  rw [decodeRecord, if_pos hpacked, readDelimited_append h]
  dsimp only
  rw [hchunk.decodePacked (Nat.lt_succ_self _), hadd]
  rfl

section Step

variable {number fuel : Nat} {wireType : WireType} {key after rest : List UInt8}
  {out next : Members Json}

theorem Key.append_ne_nil (h : Key number wireType key) : key ++ after ≠ [] := by
  intro hnil
  have hpos := h.varint.length_pos
  rw [(List.append_eq_nil_iff.mp hnil).1] at hpos
  exact Nat.lt_irrefl 0 hpos

theorem decodeRecords_of_undeclared (hkey : Key number wireType key)
    (hfields : ∀ field ∈ fields, field.number.toNat ≠ number)
    (h : skip wireType after = .ok rest) :
    decodeRecords decoder fields (fuel + 1) out (key ++ after) =
      decodeRecords decoder fields fuel out rest := by
  have hfind : fields.find? (fun field => field.number.toNat = number) = none :=
    List.find?_eq_none.mpr fun field hfield => by simpa using hfields field hfield
  rw [decodeRecords, readKey_append hkey]
  · dsimp only
    rw [hfind]
    dsimp only
    rw [h]
  · exact Key.append_ne_nil hkey

theorem decodeRecords_of_declared (hnumbers : (fields.map (·.number)).Nodup)
    (hfield : field ∈ fields) (hkey : Key field.number.toNat wireType key)
    (h : decodeRecord decoder field wireType out after = .ok (next, rest)) :
    decodeRecords decoder fields (fuel + 1) out (key ++ after) =
      decodeRecords decoder fields fuel next rest := by
  have hfind :
      fields.find? (fun other => other.number.toNat = field.number.toNat) = some field := by
    have hmap := hnumbers.map (f := UInt32.toNat) fun a b hab => UInt32.toNat_inj.mp hab
    rw [List.map_map] at hmap
    exact find?_of_mem_of_nodup hmap hfield
  rw [decodeRecords, readKey_append hkey]
  · dsimp only
    rw [hfind]
    dsimp only
    rw [h]
  · exact Key.append_ne_nil hkey

end Step

/-- A record adds its occurrences to what has been read, and what stands behind it is read next. -/
theorem Record.decodeRecords_append (h : Record schema fields occurrences bytes)
    (hnumbers : (fields.map (·.number)).Nodup)
    (hread : ReadsNested schema decoder (occurrences.map (·.2))) (fuel : Nat) (out : Members Json)
    (rest : List UInt8) :
    decodeRecords decoder fields (fuel + 1) out (bytes ++ rest) =
      decodeRecords decoder fields fuel
        ((occurrences.map (occurrenceJson schema)).foldl add out) rest := by
  cases h with
  | undeclared hfields hkey h =>
    rw [List.append_assoc]
    exact decodeRecords_of_undeclared hkey hfields (skip_append h rest)
  | value hfield hkey h =>
    rw [List.append_assoc]
    exact decodeRecords_of_declared hnumbers hfield hkey (decodeRecord_of_written h hread out rest)
  | packed hfield hrepeated hshape hkey hchunk h =>
    rw [List.append_assoc, List.map_map, List.foldl_map]
    exact decodeRecords_of_declared hnumbers hfield hkey
      (decodeRecord_of_chunk hrepeated hshape hchunk h out rest)

theorem Record.length_pos (h : Record schema fields occurrences bytes) : 0 < bytes.length := by
  cases h with
  | undeclared _ hkey | value _ hkey | packed _ _ _ hkey =>
    exact List.length_pos_iff.mpr (Key.append_ne_nil hkey)

/-! ### All records -/

/-- Records are read to their end, with room for one more than there are bytes. -/
theorem Records.decodeRecords_eq : {occurrences : List (SchemaField × Item)} →
    {bytes : List UInt8} → Records schema fields occurrences bytes →
    (hnumbers : (fields.map (·.number)).Nodup) →
    (hread : ReadsNested schema decoder (occurrences.map (·.2))) → (fuel : Nat) →
    (hfuel : bytes.length < fuel) → (out : Members Json) →
    decodeRecords decoder fields fuel out bytes =
      .ok ((occurrences.map (occurrenceJson schema)).foldl add out)
  | _, _, .nil, _, _, fuel, _, out => by cases fuel <;> rfl
  | _, _, @Records.cons _ _ front rest _ _ h hrest, hnumbers, hread, fuel, hfuel, out => by
    have hpos := h.length_pos
    rw [List.length_append] at hfuel
    obtain ⟨fuel, rfl⟩ : ∃ f, fuel = f + 1 := ⟨fuel - 1, by omega⟩
    rw [List.map_append] at hread
    have hfront : ReadsNested schema decoder (front.map (·.2)) := fun nested hmem =>
      hread nested (List.mem_append_left _ hmem)
    have htail : ReadsNested schema decoder (rest.map (·.2)) := fun nested hmem =>
      hread nested (List.mem_append_right _ hmem)
    rw [h.decodeRecords_append hnumbers hfront,
      hrest.decodeRecords_eq hnumbers htail fuel (by omega), List.map_append, List.foldl_append]

/-- What holds of the occurrences in each record holds of all of them. -/
theorem Records.forall_mem {P : SchemaField × Item → Prop}
    (hrecord : ∀ {occurrences bytes}, Record schema fields occurrences bytes →
      ∀ occurrence ∈ occurrences, P occurrence) :
    {occurrences : List (SchemaField × Item)} → {bytes : List UInt8} →
    Records schema fields occurrences bytes → ∀ occurrence ∈ occurrences, P occurrence
  | _, _, .nil, _, hmem => absurd hmem List.not_mem_nil
  | _, _, .cons h hrest, occurrence, hmem => by
    rcases List.mem_append.mp hmem with hmem | hmem
    · exact hrecord h occurrence hmem
    · exact hrest.forall_mem hrecord occurrence hmem

theorem Records.mem_fields (h : Records schema fields occurrences bytes) :
    ∀ occurrence ∈ occurrences, occurrence.1 ∈ fields := by
  refine h.forall_mem fun h occurrence hmem => ?_
  cases h with
  | undeclared => exact absurd hmem List.not_mem_nil
  | value hfield => exact List.mem_singleton.mp hmem ▸ hfield
  | packed hfield =>
    obtain ⟨value, -, rfl⟩ := List.mem_map.mp hmem
    exact hfield

theorem Records.kind_of_message (h : Records schema fields occurrences bytes) :
    ∀ occurrence ∈ occurrences, ∀ nested, occurrence.2 = .message nested →
      occurrence.1.kind = .message := by
  refine h.forall_mem fun h occurrence hmem nested heq => ?_
  cases h with
  | undeclared => exact absurd hmem List.not_mem_nil
  | value _ _ h =>
    cases List.mem_singleton.mp hmem
    cases heq
    cases h
    assumption
  | packed =>
    obtain ⟨value, -, rfl⟩ := List.mem_map.mp hmem
    exact nomatch heq

/-! ### Whole messages -/

theorem Carried.mem_of_message {occurring values : List Item} {nested : MessageValue}
    (h : Carried field occurring values) (hkind : field.kind = .message)
    (hmem : .message nested ∈ occurring) : .message nested ∈ values := by
  cases h with
  | repeated | message => exact hmem
  | last _ hzero =>
    rw [hkind] at hzero
    exact nomatch hzero

/-- The occurrences that carry values make the same member as the values themselves. -/
theorem Carried.collect_eq {occurring values : List Item} (h : Carried field occurring values) :
    field.collect (occurring.map (field.itemJson schema)) =
      field.collect (values.map (field.itemJson schema)) := by
  cases h with
  | repeated | message => rfl
  | @last zero _ _ hrepeated hzero _ hlast =>
    -- The default of a field is the JSON of the value that stands for an absent one.
    have hdefault (items : List Item) : field.collect (items.map (field.itemJson schema)) =
        field.itemJson schema (items.getLast?.getD (.scalar zero)) := by
      have hjson : field.itemJson schema (.scalar zero) = field.kind.absentValue :=
        Scalar.toJson_zero? hzero
      rw [SchemaField.collect, hrepeated, if_neg Bool.false_ne_true, List.getLast?_map, ← hjson,
        Option.getD_map]
    rw [hdefault, hdefault, hlast]

theorem Schema.fields_eq_or_mem (schema : Schema) (name : String) :
    schema.fields name = [] ∨ ∃ message ∈ schema.messages, schema.fields name = message.2 := by
  rw [Schema.fields]
  -- of messages of one name the last one counts
  cases hfind : schema.messages.reverse.lookup name with
  | none => exact .inl rfl
  | some fields =>
    obtain ⟨front, back, hsplit, -⟩ := List.lookup_eq_some_iff.mp hfind
    refine .inr ⟨(name, fields), List.mem_reverse.mp ?_, rfl⟩
    rw [hsplit]
    exact List.mem_append_right _ (List.mem_cons_self ..)

theorem Schema.Distinct.nodup_names (h : schema.Distinct) (name : String) :
    ((schema.fields name).map (·.name)).Nodup := by
  rcases schema.fields_eq_or_mem name with heq | ⟨message, hmem, heq⟩
  · rw [heq]
    exact List.nodup_nil
  · rw [heq]
    exact h.names message hmem

theorem Schema.Distinct.nodup_numbers (h : schema.Distinct) (name : String) :
    ((schema.fields name).map (·.number)).Nodup := by
  rcases schema.fields_eq_or_mem name with heq | ⟨message, hmem, heq⟩
  · rw [heq]
    exact List.nodup_nil
  · rw [heq]
    exact h.numbers message hmem

/-- A message is read as its object if the messages directly in it are. -/
theorem Schema.decodeMessage_of_readsNested (hdistinct : schema.Distinct) {room : Nat}
    {name : String} {value : MessageValue}
    (hread : ∀ number, ReadsNested schema (schema.decodeMessage room) (value number))
    (h : schema.Serializes name value bytes) :
    schema.decodeMessage (room + 1) name bytes = .ok (value.toJson schema name) := by
  obtain @⟨_, _, occurrences, _, hrecords, hcarried⟩ := h
  -- every nested message that occurs is one of the value, so it can be read
  have hocc : ReadsNested schema (schema.decodeMessage room) (occurrences.map (·.2)) := by
    intro nested hmem
    obtain ⟨⟨field, item⟩, hmem, rfl⟩ := List.mem_map.mp hmem
    have hkind := hrecords.kind_of_message _ hmem nested rfl
    exact hread _ nested ((hcarried field (hrecords.mem_fields _ hmem)).mem_of_message hkind
      (mem_occurrencesOf.mpr hmem))
  have hfields : ∀ occurrence ∈ occurrences.map (occurrenceJson schema),
      occurrence.1 ∈ schema.fields name := by
    intro occurrence hmem
    obtain ⟨source, hsource, rfl⟩ := List.mem_map.mp hmem
    exact hrecords.mem_fields source hsource
  -- what occurs of a field makes the same member as its values
  have hmembers : (schema.fields name).map (fun field => (field.name,
        field.collect (occurrencesOf field (occurrences.map (occurrenceJson schema))))) =
      (schema.fields name).map fun field =>
        (field.name, field.collect ((value field.number.toNat).map (field.itemJson schema))) := by
    refine List.map_congr_left fun field hfield => ?_
    rw [show occurrenceJson schema = fun o => (o.1, o.1.itemJson schema o.2) from rfl,
      occurrencesOf_map fun field => field.itemJson schema, (hcarried field hfield).collect_eq]
  rw [decodeMessage, hrecords.decodeRecords_eq (hdistinct.nodup_numbers name) hocc _
    (Nat.lt_succ_self _), Except.map, ← gather,
    fillAbsent_gather (hdistinct.nodup_names name) hfields, hmembers, MessageValue.toJson_eq]
  rfl

/-- A message is read from any of its serializations, with room for the messages in it. -/
theorem Schema.decodeMessage_of_serializes (hdistinct : schema.Distinct) {room : Nat}
    {name : String} {value : MessageValue} (hdepth : value.Within room)
    (h : schema.Serializes name value bytes) :
    schema.decodeMessage (room + 1) name bytes = .ok (value.toJson schema name) := by
  -- the depth of the value bounds the depth of the recursion
  induction room generalizing name value bytes with
  | zero =>
    exact decodeMessage_of_readsNested hdistinct
      (fun number nested hmem => absurd hmem (hdepth number nested)) h
  | succ room ih =>
    exact decodeMessage_of_readsNested hdistinct
      (fun number nested hmem target payload => ih (hdepth number nested hmem)) h

/-- The dynamic decoder undoes every serialization of a value. -/
theorem Schema.decode_of_serializes (hdistinct : schema.Distinct) {name : String}
    {value : MessageValue} (hdepth : value.Within maxDepth)
    (h : schema.Serializes name value bytes) :
    schema.decode name bytes = .ok (value.toJson schema name) :=
  decodeMessage_of_serializes hdistinct hdepth h

/-! ### A serialization that is not the shortest one -/

section Node

/-- The text of a node; the last one counts. -/
def nodeLabel : SchemaField :=
  ⟨"label", 1, .string, false, none⟩

/-- The numbers of a node. -/
def nodeCounts : SchemaField :=
  ⟨"counts", 2, .uint32, true, none⟩

/-- A node inside a node. -/
def nodeChild : SchemaField :=
  ⟨"child", 3, .message, false, some "Node"⟩

/-- Messages that may hold themselves. -/
def nodeSchema : Schema :=
  ⟨[("Node", [nodeLabel, nodeCounts, nodeChild])]⟩

/-- A node with a child that has nothing. -/
def nodeValue : MessageValue
  | 1 => [.scalar (.string "b")]
  | 2 => [.scalar (.uint32 1), .scalar (.uint32 300), .scalar (.uint32 2)]
  | 3 => [.message fun _ => []]
  | _ => []

/-- A label that is superseded, two counts in a chunk, a padded zero in field 9, the child, one more
count, the label. -/
def nodeBytes : List UInt8 :=
  [0x0A, 1, 97, 0x12, 3, 1, 0xAC, 2, 0x48, 0x80, 0, 0x1A, 0, 0x10, 2, 0x0A, 1, 98]

theorem record_nodeLabel {text : String} {letter : UInt8} (h : Utf8.encode text = [letter]) :
    Record nodeSchema (nodeSchema.fields "Node") [(nodeLabel, .scalar (.string text))]
      ([0x0A] ++ ([1] ++ [letter])) := by
  have hkey : Key nodeLabel.number.toNat nodeLabel.kind.wireType [0x0A] :=
    key_singleton 0x0A (by decide) rfl (by decide)
  have htext : Delimited [letter] ([1] ++ [letter]) := ⟨varint_singleton 1 (by decide)⟩
  have htext? : (Scalar.string text).text? = some [letter] := congrArg some h
  exact .value (by decide) hkey (.scalar rfl (.lengthDelimited htext? htext))

theorem serializes_nodeChild : nodeSchema.Serializes "Node" (fun _ => []) [] := by
  refine .mk .nil fun field hfield => ?_
  have hcases : field = nodeLabel ∨ field = nodeCounts ∨ field = nodeChild := by
    simpa [nodeSchema, Schema.fields] using hfield
  rcases hcases with rfl | rfl | rfl
  · exact .last rfl rfl (Nat.zero_le _) rfl
  · exact .repeated rfl
  · exact .message rfl rfl (Nat.zero_le _)

theorem serializes_nodeValue : nodeSchema.Serializes "Node" nodeValue nodeBytes := by
  have hone : (Scalar.uint32 1).Written [1] := .varint rfl rfl (varint_singleton 1 (by decide))
  have hthreeHundred : (Scalar.uint32 300).Written [0xAC, 2] :=
    .varint rfl rfl (varint_pair 0xAC 2 (by decide) (by decide))
  have hchunk : Chunk nodeCounts.kind [.uint32 1, .uint32 300] [1, 0xAC, 2] :=
    .cons rfl hone (.cons rfl hthreeHundred .nil)
  have hpacked : Record nodeSchema (nodeSchema.fields "Node")
      [(nodeCounts, .scalar (.uint32 1)), (nodeCounts, .scalar (.uint32 300))]
      ([0x12] ++ ([3] ++ [1, 0xAC, 2])) :=
    .packed (by decide) rfl (by decide) (key_singleton 0x12 (by decide) rfl (by decide)) hchunk
      ⟨varint_singleton 3 (by decide)⟩
  have hnine : Key 9 .varint [0x48] := key_singleton 0x48 (by decide) rfl (by decide)
  have hundeclared : Record nodeSchema (nodeSchema.fields "Node") [] ([0x48] ++ [0x80, 0]) :=
    .undeclared (by decide) hnine (.varint (varint_pair 0x80 0 (by decide) (by decide)))
  have hchild : Record nodeSchema (nodeSchema.fields "Node")
      [(nodeChild, .message fun _ => [])] ([0x1A] ++ ([0] ++ [])) :=
    .value (by decide) (key_singleton 0x1A (by decide) rfl (by decide))
      (.message rfl rfl serializes_nodeChild ⟨varint_singleton 0 (by decide)⟩)
  have hcount : Record nodeSchema (nodeSchema.fields "Node")
      [(nodeCounts, .scalar (.uint32 2))] ([0x10] ++ [2]) :=
    .value (by decide) (key_singleton 0x10 (by decide) rfl (by decide))
      (.scalar rfl (.varint rfl rfl (varint_singleton 2 (by decide))))
  have hsuperseded := record_nodeLabel (show Utf8.encode "a" = [97] from rfl)
  have hlabel := record_nodeLabel (show Utf8.encode "b" = [98] from rfl)
  have hrecords := Records.cons hsuperseded (.cons hpacked (.cons hundeclared (.cons hchild
    (.cons hcount (.cons hlabel .nil)))))
  refine .mk hrecords fun field hfield => ?_
  have hcases : field = nodeLabel ∨ field = nodeCounts ∨ field = nodeChild := by
    simpa [nodeSchema, Schema.fields] using hfield
  rcases hcases with rfl | rfl | rfl
  · exact .last rfl rfl (Nat.le_refl _) rfl
  · exact .repeated rfl
  · exact .message rfl rfl (Nat.le_refl _)

theorem within_nodeValue : nodeValue.Within maxDepth := by
  intro number nested hmem
  unfold nodeValue at hmem
  split at hmem
  · exact nomatch List.mem_singleton.mp hmem
  · simp at hmem
  · cases List.mem_singleton.mp hmem
    exact fun _ _ hmem => absurd hmem List.not_mem_nil
  · exact absurd hmem List.not_mem_nil

/-- The node is read from these bytes. -/
theorem decode_nodeBytes :
    nodeSchema.Distinct ∧ nodeValue.Within maxDepth ∧
      nodeSchema.Serializes "Node" nodeValue nodeBytes ∧
      nodeSchema.decode "Node" nodeBytes = .ok (nodeValue.toJson nodeSchema "Node") := by
  have hdistinct : nodeSchema.Distinct := ⟨by decide, by decide⟩
  exact ⟨hdistinct, within_nodeValue, serializes_nodeValue,
    decode_of_serializes hdistinct within_nodeValue serializes_nodeValue⟩

end Node

end ChainFeed
