import ChainFeed.Node.Status
import ChainFeed.Proofs.Json.Alike
import ChainFeed.Proofs.Node.Adaptors

/-!
# Spellings of node responses

Nodes differ in how they spell a response: an integer may be a number or a text, what is empty or
zero may be left out, be null, or be written, and members that are of no interest may stand between
the others. However a response is respelled in this way, even one that is refused, it is decoded
alike.

## Main definitions

- `Form.Same`, `Form.SameWithin`, `Form.SameList`, `Form.SameObject`: spellings of parts
- `Block.Respelled`, `BlockResults.Respelled`, `NodeStatus.Respelled`: spellings of responses

## Main results

- `Protocol.decodeBlock_respelled`, `Protocol.decodeResults_respelled`,
  `NodeStatus.decode_respelled`: the decoders do not tell spellings apart
- `Protocol.responses_respelled`: all of them
-/

namespace ChainFeed

variable {α β : Type} {k : Nat} {m m' : Option Json} {v w : Json}

/-! ### Spellings of parts -/

namespace Form

/-- Two parts are the same, or spell the same thing. -/
def Same (P : β → Option Json → Prop) (m m' : Option Json) : Prop :=
  m = m' ∨ ∃ b, P b m ∧ P b m'

/-- Two parts are the same, or both are there and one respells the other. -/
def SameWithin (R : Json → Json → Prop) (m m' : Option Json) : Prop :=
  m = m' ∨ ∃ v w, m = some v ∧ m' = some w ∧ R v w

/-- A list without items, which may be left out. -/
def IsEmptyList (m : Option Json) : Prop :=
  m = some (.array []) ∨ IsNothing m

theorem IsEmptyList.isList {P : α → Json → Prop} (h : IsEmptyList m) : IsList P [] m :=
  h.imp (fun h => ⟨[], h, .nil⟩) fun h => ⟨rfl, h⟩

/-- Two arrays are respelled item by item. -/
def SameItems (R : Json → Json → Prop) (v w : Json) : Prop :=
  ∃ vs ws, v = .array vs ∧ w = .array ws ∧ List.Forall₂ R vs ws

/-- Two lists are respelled item by item, or both are empty. -/
def SameList (R : Json → Json → Prop) (m m' : Option Json) : Prop :=
  SameWithin (SameItems R) m m' ∨ IsEmptyList m ∧ IsEmptyList m'

/-- Two lists are respelled item by item, or both are missing; an empty list is not missing. -/
def SameReport (R : Json → Json → Prop) (m m' : Option Json) : Prop :=
  SameWithin (SameItems R) m m' ∨ IsNothing m ∧ IsNothing m'

/-- Two values are the same, or they are objects that respell each other, by what they have under
each name. -/
def SameObject (S : (String → Option Json) → (String → Option Json) → Prop) (v w : Json) : Prop :=
  v = w ∨ ∃ ms ns : Members Json, v = .object ms ∧ w = .object ns ∧ ms.Sorted ∧ ns.Sorted ∧
    S (fun name => ms.get? name) fun name => ns.get? name

theorem SameWithin.of_some {R : Json → Json → Prop} (h : R v w) :
    SameWithin R (some v) (some w) :=
  .inr ⟨v, w, rfl, rfl, h⟩

theorem SameObject.of_sorted {S : (String → Option Json) → (String → Option Json) → Prop}
    {ms ns : Members Json} (hms : ms.Sorted) (hns : ns.Sorted)
    (h : S (fun name => ms.get? name) fun name => ns.get? name) :
    SameObject S (.object ms) (.object ns) :=
  .inr ⟨ms, ns, rfl, rfl, hms, hns, h⟩

theorem IsNothing.isText (h : IsNothing m) : IsText "" m :=
  .inr ⟨rfl, h⟩

theorem IsNothing.isInteger (h : IsNothing m) : IsInteger 0 m :=
  .inr ⟨rfl, .inl h⟩

theorem IsNumeral.isInteger {n : Int} (h : IsNumeral n v) : IsInteger n (some v) :=
  .inl ⟨v, rfl, h⟩

/-- A word of 64 bits that may be left out if it is zero. -/
def IsUInt64 (n : UInt64) : Option Json → Prop :=
  IsInteger n.toNat

/-- A word of 32 bits that may be left out if it is zero. -/
def IsUInt32 (n : UInt32) : Option Json → Prop :=
  IsInteger n.toNat

/-- A signed word of 64 bits that may be left out if it is zero. -/
def IsInt64 (n : Int64) : Option Json → Prop :=
  IsInteger n.toInt

/-- A word of 64 bits that must be there. -/
def IsHeight (n : UInt64) (m : Option Json) : Prop :=
  ∃ v, m = some v ∧ IsNumeral n.toNat v

end Form

open Form

/-! ### Spellings of responses -/

/-- Spellings of an attribute. -/
def Attribute.Respelled : Json → Json → Prop :=
  SameObject fun old new =>
    Same IsText (old "key") (new "key") ∧ Same IsText (old "value") (new "value") ∧
    Same IsFlag (old "index") (new "index")

/-- Spellings of an event. -/
def Event.Respelled : Json → Json → Prop :=
  SameObject fun old new =>
    old "type" = new "type" ∧
    SameList Attribute.Respelled (old "attributes") (new "attributes")

/-- Spellings of a transaction result. -/
def TxResult.Respelled : Json → Json → Prop :=
  SameObject fun old new =>
    Same IsUInt32 (old "code") (new "code") ∧
    Same IsText (old "codespace") (new "codespace") ∧
    Same IsText (old "log") (new "log") ∧
    Same IsText (old "info") (new "info") ∧
    Same IsText (old "data") (new "data") ∧
    Same IsInt64 (old "gas_wanted") (new "gas_wanted") ∧
    Same IsInt64 (old "gas_used") (new "gas_used") ∧
    SameList Event.Respelled (old "events") (new "events")

/-- Spellings of block results. -/
def BlockResults.Respelled : Json → Json → Prop :=
  SameObject fun old new =>
    Same IsHeight (old "height") (new "height") ∧
    SameList TxResult.Respelled (old "txs_results") (new "txs_results") ∧
    SameReport Event.Respelled (old "begin_block_events") (new "begin_block_events") ∧
    SameReport Event.Respelled (old "end_block_events") (new "end_block_events") ∧
    SameReport Event.Respelled (old "finalize_block_events") (new "finalize_block_events")

/-- Spellings of a block id. -/
def HashRespelled : Json → Json → Prop :=
  SameObject fun old new => Same IsText (old "hash") (new "hash")

/-- Spellings of versions. -/
def Version.Respelled : Json → Json → Prop :=
  SameObject fun old new =>
    Same IsUInt64 (old "block") (new "block") ∧ Same IsUInt64 (old "app") (new "app")

/-- Spellings of a header. -/
def Header.Respelled : Json → Json → Prop :=
  SameObject fun old new =>
    SameWithin Version.Respelled (old "version") (new "version") ∧
    old "chain_id" = new "chain_id" ∧
    Same IsHeight (old "height") (new "height") ∧
    old "time" = new "time" ∧
    (Same PreviousForm (old "last_block_id") (new "last_block_id") ∨
      SameWithin HashRespelled (old "last_block_id") (new "last_block_id")) ∧
    Same IsText (old "data_hash") (new "data_hash") ∧
    Same IsText (old "app_hash") (new "app_hash") ∧
    Same IsText (old "proposer_address") (new "proposer_address")

/-- Spellings of the record around the transactions. -/
def TxsRespelled : Json → Json → Prop :=
  SameObject fun old new => SameList Eq (old "txs") (new "txs")

/-- Spellings of what stands beside the block id. -/
def BodyRespelled : Json → Json → Prop :=
  SameObject fun old new =>
    SameWithin Header.Respelled (old "header") (new "header") ∧
    SameWithin TxsRespelled (old "data") (new "data")

/-- Spellings of a block. -/
def Block.Respelled : Json → Json → Prop :=
  SameObject fun old new =>
    SameWithin HashRespelled (old "block_id") (new "block_id") ∧
    SameWithin BodyRespelled (old "block") (new "block")

namespace NodeStatus

/-- Spellings of the network and the version of a node. -/
def InfoRespelled : Json → Json → Prop :=
  SameObject fun old new =>
    old "network" = new "network" ∧ old "version" = new "version"

/-- Spellings of the heights that a node has. -/
def SyncRespelled : Json → Json → Prop :=
  SameObject fun old new =>
    Same IsHeight (old "latest_block_height") (new "latest_block_height") ∧
    Same (fun (_ : Unit) => IsNothing) (old "latest_block_time") (new "latest_block_time") ∧
    Same IsUInt64 (old "earliest_block_height") (new "earliest_block_height")

/-- Spellings of a status. -/
def Respelled : Json → Json → Prop :=
  SameObject fun old new =>
    SameWithin InfoRespelled (old "node_info") (new "node_info") ∧
    SameWithin SyncRespelled (old "sync_info") (new "sync_info")

end NodeStatus

/-! ### Parts are read alike -/

namespace Reader

variable {E : α → α → Prop} {reader : Reader α} {default : α} {P : β → Option Json → Prop}
  {R : Json → Json → Prop}

theorem alikePart_of_same {f : β → α} (h : Same P m m')
    (hread : ∀ b m, P b m → reader.ReadsMember k default m (f b)) :
    reader.AlikePart k Eq default m m' := by
  rcases h with rfl | ⟨b, hm, hm'⟩
  · exact .refl (fun _ => rfl) m
  · exact alikePart_of_reads (hread b m hm) (hread b m' hm') rfl

theorem alikePart_text (h : Same IsText m m') : stringOrEmpty.AlikePart k Eq "" m m' :=
  alikePart_of_same h fun _ _ => readsMember_text

theorem alikePart_flag (h : Same IsFlag m m') : bool.AlikePart k Eq false m m' :=
  alikePart_of_same h fun _ _ => readsMember_flag

theorem alikePart_uint64 (h : Same IsUInt64 m m') : uint64OrZero.AlikePart k Eq 0 m m' :=
  alikePart_of_same h fun _ _ => readsMember_uint64

theorem alikePart_uint32 (h : Same IsUInt32 m m') : uint32OrZero.AlikePart k Eq 0 m m' :=
  alikePart_of_same h fun _ _ => readsMember_uint32

theorem alikePart_int64 (h : Same IsInt64 m m') : int64OrZero.AlikePart k Eq 0 m m' :=
  alikePart_of_same h fun _ _ => readsMember_int64

/-- Texts that are not spelled alike are both empty. -/
theorem eq_or_isText_empty (h : Same IsText m m') : m = m' ∨ IsText "" m ∧ IsText "" m' := by
  rcases h with heq | ⟨s, hm, hm'⟩
  · exact .inl heq
  · by_cases hs : s = ""
    · rw [hs] at hm hm'
      exact .inr ⟨hm, hm'⟩
    -- a text that is not empty cannot be left out
    · have hm := hm.resolve_right fun h => hs h.1
      have hm' := hm'.resolve_right fun h => hs h.1
      exact .inl (hm.trans hm'.symm)

theorem alikePart_base64 (h : Same IsText m m') : base64OrEmpty.AlikePart k Eq [] m m' := by
  rcases eq_or_isText_empty h with rfl | ⟨hm, hm'⟩
  · exact .refl (fun _ => rfl) m
  · have hempty : Base64.encode [] = "" := rfl
    rw [← hempty] at hm hm'
    exact alikePart_of_reads (readsMember_base64 hm) (readsMember_base64 hm') rfl

/-- Optional texts are the same if a missing one counts as empty. -/
def SameText (a b : Option String) : Prop :=
  a.getD "" = b.getD ""

theorem alikePart_optional_text (h : Same IsText m m') :
    string.option.AlikePart k SameText none m m' := by
  rcases h with rfl | ⟨s, hm, hm'⟩
  · exact .refl (E := SameText) (fun _ => rfl) m
  · obtain ⟨a, ha, has⟩ := exists_readsMember_text (k := k) hm
    obtain ⟨b, hb, hbs⟩ := exists_readsMember_text (k := k) hm'
    exact alikePart_of_reads ha hb (has.trans hbs.symm)

theorem readsMember_nothing (h : IsNothing m) : reader.option.ReadsMember k none m none := by
  rcases h with rfl | rfl
  · rfl
  · exact reads_option_null

theorem orNull_of_ne_null {u : Json} (h : u ≠ .null) (depth : Nat) :
    orNull default reader depth (.ofJson u) = reader depth (.ofJson u) := by
  rw [orNull, Reader.map, option_of_ne_null h]
  cases reader depth (.ofJson u) <;> rfl

theorem readsMember_emptyList (h : IsEmptyList m) :
    (listOrEmpty reader).ReadsMember (k + 1) [] m [] := by
  rcases h with rfl | rfl | rfl
  · exact (reads_list .nil).orNull (nofun) []
  · rfl
  · exact reads_orNull_null []

theorem alikePart_list (hE : ∀ a, E a a) (hitem : ∀ v w, R v w → reader.Alike k E v w)
    (h : SameList R m m') :
    (listOrEmpty reader).AlikePart (k + 1) (List.Forall₂ E) [] m m' := by
  have hrefl (as : List α) : List.Forall₂ E as as := List.forall₂_same.mpr fun a _ => hE a
  rcases h with (rfl | ⟨v, w, rfl, rfl, vs, ws, rfl, rfl, h⟩) | ⟨hm, hm'⟩
  · exact .refl hrefl m
  · intro depth hdepth
    show Agree Eq _ (orNull [] (list reader) depth _) (orNull [] (list reader) depth _)
    rw [orNull_of_ne_null (u := .array vs) nofun, orNull_of_ne_null (u := .array ws) nofun]
    exact alike_list (h.imp fun _ _ => hitem _ _) depth hdepth
  · exact alikePart_of_reads (readsMember_emptyList hm) (readsMember_emptyList hm') .nil

theorem alikePart_base64List (h : SameList Eq m m') : base64List.AlikePart (k + 1) Eq [] m m' := by
  rcases h with (rfl | ⟨v, w, rfl, rfl, vs, ws, rfl, rfl, h⟩) | ⟨hm, hm'⟩
  · exact .refl (fun _ => rfl) m
  · rw [List.forall₂_eq_eq_eq] at h
    rw [h]
    exact .refl (fun _ => rfl) _
  · exact alikePart_of_reads (readsMember_base64List hm.isList)
      (readsMember_base64List hm'.isList) rfl

theorem alikePart_report (hE : ∀ a, E a a) (hitem : ∀ v w, R v w → reader.Alike k E v w)
    (h : SameReport R m m') :
    (list reader).option.AlikePart (k + 1) (Option.Rel (List.Forall₂ E)) none m m' := by
  have hrefl (as : Option (List α)) : Option.Rel (List.Forall₂ E) as as := by
    cases as with
    | none => exact .none
    | some as => exact .some (List.forall₂_same.mpr fun a _ => hE a)
  rcases h with (rfl | ⟨v, w, rfl, rfl, vs, ws, rfl, rfl, h⟩) | ⟨hm, hm'⟩
  · exact .refl hrefl m
  · exact ((alike_list (h.imp fun _ _ => hitem _ _)).option nofun nofun).part
  · exact alikePart_of_reads (readsMember_nothing hm) (readsMember_nothing hm') .none

theorem alike_of_sameObject {S : (String → Option Json) → (String → Option Json) → Prop}
    {fields : Fields α} (hE : ∀ a, E a a) (h : SameObject S v w)
    (hfields : ∀ ms ns : Members Json, ms.Sorted → ns.Sorted →
      S (fun name => ms.get? name) (fun name => ns.get? name) → fields.Alike k E ms ns) :
    (record fields).Alike (k + 1) E v w := by
  rcases h with rfl | ⟨ms, ns, rfl, rfl, hms, hns, h⟩
  · exact .refl hE v
  · exact alike_record (hfields ms ns hms hns h)

end Reader

namespace Fields

variable {ms ns : Members Json} {name : String} {reader : Reader α} {R : Json → Json → Prop}

theorem alike_required_of_eq (hms : ms.Sorted) (hns : ns.Sorted)
    (h : ms.get? name = ns.get? name) : (required name reader).Alike k Eq ms ns :=
  alike_required hms hns (fun _ => rfl) (.inl h)

theorem alike_required_of_sameWithin (hms : ms.Sorted) (hns : ns.Sorted)
    (h : SameWithin R (ms.get? name) (ns.get? name))
    (hread : ∀ v w, R v w → reader.Alike k Eq v w) : (required name reader).Alike k Eq ms ns :=
  alike_required hms hns (fun _ => rfl)
    (h.imp_right fun ⟨v, w, hv, hw, h⟩ => ⟨v, w, hv, hw, hread v w h⟩)

theorem alike_height (hms : ms.Sorted) (hns : ns.Sorted)
    (h : Same IsHeight (ms.get? name) (ns.get? name)) :
    (required name .uint64Numeral).Alike k Eq ms ns := by
  refine alike_required hms hns (fun _ => rfl) (h.imp_right fun ⟨n, hm, hm'⟩ => ?_)
  obtain ⟨v, hv, hnumeral⟩ := hm
  obtain ⟨w, hw, hnumeral'⟩ := hm'
  refine ⟨v, w, hv, hw, fun depth hdepth => ?_⟩
  rw [Reader.reads_uint64Numeral hnumeral depth hdepth,
    Reader.reads_uint64Numeral hnumeral' depth hdepth]
  exact .ok rfl

end Fields

/-! ### Block results are read alike -/

theorem mapM_eq_of_forall₂ {γ : Type} {f : α → Option γ} {g : β → Option γ} {as : List α}
    {bs : List β} (h : List.Forall₂ (fun a b => f a = g b) as bs) : as.mapM f = bs.mapM g := by
  induction h with
  | nil => rfl
  | cons hhead _ ih => rw [List.mapM_cons, List.mapM_cons, hhead, ih]

namespace Node

/-- Attributes as written that decode alike. -/
def WireAttribute.Like (a b : WireAttribute) : Prop :=
  ∀ text, a.decode? text = b.decode? text

/-- Events as written that decode alike. -/
def WireEvent.Like (a b : WireEvent) : Prop :=
  ∀ text, a.decode? text = b.decode? text

/-- Transaction results as written that decode alike. -/
def WireTxResult.Like (a b : WireTxResult) : Prop :=
  ∀ text, a.decode? text = b.decode? text

/-- Block results as written that decode alike. -/
def WireResults.Like (a b : WireResults) : Prop :=
  ∀ text split, a.normalize? text split = b.normalize? text split

theorem alike_attribute (h : Attribute.Respelled v w) :
    WireAttribute.reader.Alike 1 WireAttribute.Like v w := by
  refine Reader.alike_of_sameObject (fun _ _ => rfl) h fun ms ns hms hns hsame => ?_
  obtain ⟨hkey, hvalue, hindex⟩ := hsame
  refine (((Fields.alike_withDefault hms hns (Reader.alikePart_optional_text hkey)).map hms hns
    ?_).seq hms hns (Fields.alike_withDefault hms hns (Reader.alikePart_optional_text hvalue))).seq
    hms hns (Fields.alike_withDefault hms hns (Reader.alikePart_flag hindex))
  rintro key key' hkey value value' hvalue index _ rfl text
  simp only [WireAttribute.decode?, show key.getD "" = key'.getD "" from hkey,
    show value.getD "" = value'.getD "" from hvalue]

theorem alike_event (h : Event.Respelled v w) :
    WireEvent.reader.Alike 3 WireEvent.Like v w := by
  refine Reader.alike_of_sameObject (fun _ _ => rfl) h fun ms ns hms hns hsame => ?_
  obtain ⟨hkind, hattributes⟩ := hsame
  refine ((Fields.alike_required_of_eq hms hns hkind).map hms hns ?_).seq hms hns
    (Fields.alike_withDefault hms hns
      (Reader.alikePart_list (fun _ _ => rfl) (fun _ _ => alike_attribute) hattributes))
  rintro kind _ rfl as bs has text
  simp only [WireEvent.decode?, mapM_eq_of_forall₂ (has.imp fun _ _ h => h text)]

theorem alike_txResult (h : TxResult.Respelled v w) :
    WireTxResult.reader.Alike 5 WireTxResult.Like v w := by
  refine Reader.alike_of_sameObject (fun _ _ => rfl) h fun ms ns hms hns hsame => ?_
  obtain ⟨hcode, hcodespace, hlog, hinfo, hdata, hwanted, hused, hevents⟩ := hsame
  refine ((((((((Fields.alike_withDefault hms hns (Reader.alikePart_uint32 hcode)).map hms hns
    ?_).seq hms hns (Fields.alike_withDefault hms hns (Reader.alikePart_text hcodespace))).seq
    hms hns (Fields.alike_withDefault hms hns (Reader.alikePart_text hlog))).seq
    hms hns (Fields.alike_withDefault hms hns (Reader.alikePart_text hinfo))).seq
    hms hns (Fields.alike_withDefault hms hns (Reader.alikePart_base64 hdata))).seq
    hms hns (Fields.alike_withDefault hms hns (Reader.alikePart_int64 hwanted))).seq
    hms hns (Fields.alike_withDefault hms hns (Reader.alikePart_int64 hused))).seq
    hms hns (Fields.alike_withDefault hms hns
      (Reader.alikePart_list (fun _ _ => rfl) (fun _ _ => alike_event) hevents))
  -- only the events are read as things that may differ, and they decode alike
  rintro code _ rfl codespace _ rfl log _ rfl info _ rfl data _ rfl wanted _ rfl used _ rfl as bs
    has text
  simp only [WireTxResult.decode?, mapM_eq_of_forall₂ (has.imp fun _ _ h => h text)]

/-- Reports of events decode alike. -/
theorem decodeEvents?_eq {as bs : Option (List WireEvent)}
    (h : Option.Rel (List.Forall₂ WireEvent.Like) as bs) (text : String → Option (List UInt8)) :
    WireResults.decodeEvents? text as = WireResults.decodeEvents? text bs := by
  cases h with
  | none => rfl
  | some h =>
    simp only [WireResults.decodeEvents?, mapM_eq_of_forall₂ (h.imp fun _ _ h => h text)]

theorem alike_results (h : BlockResults.Respelled v w) :
    WireResults.reader.Alike 7 WireResults.Like v w := by
  refine Reader.alike_of_sameObject (fun _ _ _ => rfl) h fun ms ns hms hns hsame => ?_
  obtain ⟨hheight, hresults, hbegins, hends, hcommon⟩ := hsame
  have hreport {m m' : Option Json} (h : SameReport Event.Respelled m m') :
      (Reader.list WireEvent.reader).option.AlikePart 6
        (Option.Rel (List.Forall₂ WireEvent.Like)) none m m' :=
    Reader.alikePart_report (fun _ _ => rfl) (fun _ _ h => (alike_event h).mono (by decide)) h
  refine (((((Fields.alike_height hms hns hheight).map hms hns ?_).seq hms hns
    (Fields.alike_withDefault hms hns
      (Reader.alikePart_list (fun _ _ => rfl) (fun _ _ => alike_txResult) hresults))).seq hms hns
    (Fields.alike_withDefault hms hns (hreport hbegins))).seq hms hns
    (Fields.alike_withDefault hms hns (hreport hends))).seq hms hns
    (Fields.alike_withDefault hms hns (hreport hcommon))
  rintro height _ rfl txs txs' htxs begins begins' hbegins ends ends' hends common common' hcommon
    text split
  simp only [WireResults.normalize?, mapM_eq_of_forall₂ (htxs.imp fun _ _ h => h text),
    decodeEvents?_eq hbegins, decodeEvents?_eq hends, decodeEvents?_eq hcommon]

end Node

/-- Block results are decoded alike from each spelling, whatever the protocol version. -/
theorem Protocol.decodeResults_respelled (protocol : Protocol) (h : BlockResults.Respelled v w) :
    protocol.decodeResults v = protocol.decodeResults w := by
  rw [decodeResults, decodeResults, Reader.response, Reader.response]
  rcases (Node.alike_results h Reader.maxDepth (by decide)).cases_eq with
    ⟨a, b, hv, hw, hab⟩ | ⟨fault, _, hv, hw, rfl⟩
  · simp only [Reader.ofJson, hv, hw, hab _ _]
  · simp only [Reader.ofJson, hv, hw]

/-! ### Blocks and status are read alike -/

theorem Reader.response_eq_of_alike {reader : Reader α} {name : String}
    (h : reader.Alike k Eq v w) (hk : k ≤ Reader.maxDepth) :
    reader.response name v = reader.response name w := by
  have heq : reader.ofJson v = reader.ofJson w := (h Reader.maxDepth hk).eq
  rw [Reader.response, Reader.response, heq]

namespace Node

theorem alike_blockHash (h : HashRespelled v w) : blockHash.Alike 1 Eq v w :=
  Reader.alike_of_sameObject (fun _ => rfl) h fun _ _ hms hns hhash =>
    Fields.alike_withDefault hms hns (Reader.alikePart_text hhash)

theorem alike_version (h : Version.Respelled v w) : version.Alike 1 Eq v w := by
  refine Reader.alike_of_sameObject (fun _ => rfl) h fun ms ns hms hns ⟨hblock, happ⟩ => ?_
  exact ((Fields.alike_withDefault hms hns (Reader.alikePart_uint64 hblock)).map_eq
    hms hns _).seq_eq hms hns (Fields.alike_withDefault hms hns (Reader.alikePart_uint64 happ))

/-- Ids of the block before that are the same once an empty hash counts as none. -/
def SamePrevious (a b : Option String) : Prop :=
  a.filter (· != "") = b.filter (· != "")

theorem alikePart_previous (h : Same PreviousForm m m' ∨ SameWithin HashRespelled m m') :
    blockHash.option.AlikePart 1 SamePrevious none m m' := by
  have hrefl (m : Option Json) : blockHash.option.AlikePart 1 SamePrevious none m m :=
    .refl (E := SamePrevious) (fun _ => rfl) m
  rcases h with (rfl | ⟨previous, hm, hm'⟩) | rfl | ⟨v, w, rfl, rfl, h⟩
  · exact hrefl m
  · obtain ⟨a, ha, hfilter⟩ := exists_readsMember_previous hm
    obtain ⟨b, hb, hfilter'⟩ := exists_readsMember_previous hm'
    exact Reader.alikePart_of_reads ha hb (hfilter.trans hfilter'.symm)
  · exact hrefl m
  -- only objects are respelled, so neither id is null
  · have hread := alike_blockHash h
    rcases h with rfl | ⟨ms, ns, rfl, rfl, -⟩
    · exact hrefl (some v)
    · intro depth hdepth
      refine (hread.option nofun nofun depth hdepth).imp fun a b hab => ?_
      cases hab with
      | none => rfl
      | some h => rw [h, SamePrevious]

theorem alike_header (h : Header.Respelled v w) : header.Alike 2 Eq v w := by
  refine Reader.alike_of_sameObject (fun _ => rfl) h fun ms ns hms hns hsame => ?_
  obtain ⟨hversion, hchain, hheight, htime, hprevious, hdata, happ, hproposer⟩ := hsame
  have hlast : ((·.filter (· != "")) <$>
      Fields.withDefault "last_block_id" none blockHash.option).Alike 1 Eq ms ns :=
    (Fields.alike_withDefault hms hns (alikePart_previous hprevious)).map hms hns fun _ _ h => h
  exact ((((((((Fields.alike_required_of_sameWithin hms hns hversion
    fun _ _ => alike_version).map_eq hms hns _).seq_eq
    hms hns (Fields.alike_required_of_eq hms hns hchain)).seq_eq
    hms hns (Fields.alike_height hms hns hheight)).seq_eq
    hms hns (Fields.alike_required_of_eq hms hns htime)).seq_eq
    hms hns hlast).seq_eq
    hms hns (Fields.alike_withDefault hms hns (Reader.alikePart_text hdata))).seq_eq
    hms hns (Fields.alike_withDefault hms hns (Reader.alikePart_text happ))).seq_eq
    hms hns (Fields.alike_withDefault hms hns (Reader.alikePart_text hproposer))

theorem alike_txs (h : TxsRespelled v w) : txs.Alike 2 Eq v w :=
  Reader.alike_of_sameObject (fun _ => rfl) h fun _ _ hms hns htxs =>
    Fields.alike_withDefault hms hns (Reader.alikePart_base64List htxs)

theorem alike_blockBody (h : BodyRespelled v w) : blockBody.Alike 3 Eq v w := by
  refine Reader.alike_of_sameObject (fun _ => rfl) h fun ms ns hms hns ⟨hheader, htxs⟩ => ?_
  exact ((Fields.alike_required_of_sameWithin hms hns hheader fun _ _ => alike_header).map_eq
    hms hns _).seq_eq hms hns
    (Fields.alike_required_of_sameWithin hms hns htxs fun _ _ => alike_txs)

theorem alike_block (h : Block.Respelled v w) : block.Alike 4 Eq v w := by
  refine Reader.alike_of_sameObject (fun _ => rfl) h fun ms ns hms hns ⟨hhash, hbody⟩ => ?_
  exact ((Fields.alike_required_of_sameWithin hms hns hhash
    fun _ _ h => (alike_blockHash h).mono (by decide)).map_eq hms hns _).seq_eq hms hns
    (Fields.alike_required_of_sameWithin hms hns hbody fun _ _ => alike_blockBody)

end Node

/-- Blocks are decoded alike from each spelling, whatever the protocol version. -/
theorem Protocol.decodeBlock_respelled (protocol : Protocol) (h : Block.Respelled v w) :
    protocol.decodeBlock v = protocol.decodeBlock w :=
  Reader.response_eq_of_alike (Node.alike_block h) (by decide)

namespace NodeStatus

theorem alike_nodeInfo (h : InfoRespelled v w) : nodeInfoReader.Alike 1 Eq v w := by
  refine Reader.alike_of_sameObject (fun _ => rfl) h fun ms ns hms hns ⟨hnetwork, hversion⟩ => ?_
  exact ((Fields.alike_required_of_eq hms hns hnetwork).map_eq hms hns _).seq_eq hms hns
    (Fields.alike_required_of_eq hms hns hversion)

theorem alike_syncInfo (h : SyncRespelled v w) : syncInfoReader.Alike 1 Eq v w := by
  refine Reader.alike_of_sameObject (fun _ => rfl) h fun ms ns hms hns hsame => ?_
  obtain ⟨hlatest, htime, hearliest⟩ := hsame
  have hread : Reader.instant.option.AlikePart 0 Eq none (ms.get? "latest_block_time")
      (ns.get? "latest_block_time") :=
    Reader.alikePart_of_same htime fun _ _ => Reader.readsMember_nothing
  exact (((Fields.alike_height hms hns hlatest).map_eq hms hns _).seq_eq
    hms hns (Fields.alike_withDefault hms hns hread)).seq_eq
    hms hns (Fields.alike_withDefault hms hns (Reader.alikePart_uint64 hearliest))

theorem alike_status (h : Respelled v w) : reader.Alike 2 Eq v w := by
  refine Reader.alike_of_sameObject (fun _ => rfl) h fun ms ns hms hns ⟨hinfo, hsync⟩ => ?_
  exact ((Fields.alike_required_of_sameWithin hms hns hinfo fun _ _ => alike_nodeInfo).map_eq
    hms hns _).seq_eq hms hns
    (Fields.alike_required_of_sameWithin hms hns hsync fun _ _ => alike_syncInfo)

/-- A status is decoded alike from each spelling. -/
theorem decode_respelled (h : Respelled v w) : decode v = decode w :=
  Reader.response_eq_of_alike (alike_status h) (by decide)

end NodeStatus

/-- No response is told apart from its other spellings, whether it is accepted or refused. -/
theorem Protocol.responses_respelled :
    (∀ (protocol : Protocol) v w, Block.Respelled v w →
      protocol.decodeBlock v = protocol.decodeBlock w) ∧
    (∀ (protocol : Protocol) v w, BlockResults.Respelled v w →
      protocol.decodeResults v = protocol.decodeResults w) ∧
    ∀ v w, NodeStatus.Respelled v w → NodeStatus.decode v = NodeStatus.decode w :=
  ⟨fun protocol _ _ => protocol.decodeBlock_respelled,
    fun protocol _ _ => protocol.decodeResults_respelled, fun _ _ => NodeStatus.decode_respelled⟩

section Spellings

/-- A header in which everything is left out that may be. -/
def sparseHeader : Json :=
  .object [("chain_id", .string "testchain-1"), ("height", .string "5"),
    ("time", .string "2024-01-01T00:00:06Z"), ("version", .object [])]

/-- The same header, in which more is written. -/
def fullHeader : Json :=
  .object [("app_hash", .null), ("chain_id", .string "testchain-1"), ("height", .int 5),
    ("last_block_id", .object [("hash", .string "")]), ("time", .string "2024-01-01T00:00:06Z"),
    ("version", .object [("app", .string "0"), ("block", .null)])]

theorem header_respelled : Header.Respelled sparseHeader fullHeader := by
  have hversion : Version.Respelled (.object [])
      (.object [("app", .string "0"), ("block", .null)]) := by
    refine .of_sorted (by decide) (by decide) ⟨.inr ⟨0, ?_, ?_⟩, .inr ⟨0, ?_, ?_⟩⟩
    · exact IsNothing.isInteger (.inl rfl)
    · exact IsNothing.isInteger (.inr rfl)
    · exact IsNothing.isInteger (.inl rfl)
    · exact IsNumeral.isInteger (.inl rfl)
  have hhash : HashForm "" (.object [("hash", .string "")]) := ⟨_, rfl, by decide, .inl rfl⟩
  have hprevious : Same PreviousForm none (some (.object [("hash", .string "")])) :=
    .inr ⟨none, .inl (.inl rfl), .inr ⟨_, rfl, hhash⟩⟩
  have happ : Same IsText none (some .null) :=
    .inr ⟨"", IsNothing.isText (.inl rfl), IsNothing.isText (.inr rfl)⟩
  exact .of_sorted (by decide) (by decide) ⟨.of_some hversion, rfl,
    .inr ⟨5, ⟨_, rfl, .inl rfl⟩, ⟨_, rfl, .inr rfl⟩⟩, rfl, .inl hprevious, .inl rfl, happ, .inl rfl⟩

/-- A block without transactions. -/
def blockOfHeader (header : Json) : Json :=
  .object [("block", .object [("data", .object []), ("header", header)]), ("block_id", .object [])]

theorem block_respelled :
    Block.Respelled (blockOfHeader sparseHeader) (blockOfHeader fullHeader) := by
  have hbody : BodyRespelled (.object [("data", .object []), ("header", sparseHeader)])
      (.object [("data", .object []), ("header", fullHeader)]) :=
    .of_sorted (by decide) (by decide) ⟨.of_some header_respelled, .inl rfl⟩
  exact .of_sorted (by decide) (by decide) ⟨.inl rfl, .of_some hbody⟩

/-- Block results with an event that has no type, and another spelling of them. -/
def sparseResults : Json :=
  .object [("begin_block_events", .array [.object []]), ("height", .string "5"),
    ("txs_results", .array [.object [("gas_used", .string "7")]])]

def fullResults : Json :=
  .object [("begin_block_events", .array [.object []]), ("end_block_events", .null),
    ("height", .int 5), ("moniker", .bool true),
    ("txs_results", .array [.object [("code", .int 0), ("gas_used", .int 7), ("log", .null)]])]

theorem results_respelled : BlockResults.Respelled sparseResults fullResults := by
  have hcode : Same IsUInt32 none (some (.int 0)) :=
    .inr ⟨0, IsNothing.isInteger (.inl rfl), IsNumeral.isInteger (.inr rfl)⟩
  have hlog : Same IsText none (some .null) :=
    .inr ⟨"", IsNothing.isText (.inl rfl), IsNothing.isText (.inr rfl)⟩
  have hused : Same IsInt64 (some (.string "7")) (some (.int 7)) :=
    .inr ⟨7, IsNumeral.isInteger (.inl rfl), IsNumeral.isInteger (.inr rfl)⟩
  have htx : TxResult.Respelled (.object [("gas_used", .string "7")])
      (.object [("code", .int 0), ("gas_used", .int 7), ("log", .null)]) :=
    .of_sorted (by decide) (by decide)
      ⟨hcode, .inl rfl, hlog, .inl rfl, .inl rfl, .inl rfl, hused, .inl (.inl rfl)⟩
  have htxs : SameItems TxResult.Respelled (.array [.object [("gas_used", .string "7")]])
      (.array [.object [("code", .int 0), ("gas_used", .int 7), ("log", .null)]]) :=
    ⟨_, _, rfl, rfl, .cons htx .nil⟩
  exact .of_sorted (by decide) (by decide) ⟨.inr ⟨5, ⟨_, rfl, .inl rfl⟩, ⟨_, rfl, .inr rfl⟩⟩,
    .inl (.of_some htxs), .inl (.inl rfl), .inr ⟨.inl rfl, .inr rfl⟩, .inl (.inl rfl)⟩

/-- A status without an earliest height, and another spelling of it. -/
def sparseStatus : Json :=
  .object [("node_info", .object []), ("sync_info", .object [("latest_block_height", .string "9")])]

def fullStatus : Json :=
  .object [("node_info", .object []), ("sync_info", .object [("earliest_block_height", .string ""),
    ("latest_block_height", .int 9), ("latest_block_time", .null)])]

theorem status_respelled : NodeStatus.Respelled sparseStatus fullStatus := by
  have hearliest : Same IsUInt64 none (some (.string "")) :=
    .inr ⟨0, IsNothing.isInteger (.inl rfl), .inr ⟨rfl, .inr rfl⟩⟩
  have hsync : NodeStatus.SyncRespelled (.object [("latest_block_height", .string "9")])
      (.object [("earliest_block_height", .string ""), ("latest_block_height", .int 9),
        ("latest_block_time", .null)]) :=
    .of_sorted (by decide) (by decide) ⟨.inr ⟨9, ⟨_, rfl, .inl rfl⟩, ⟨_, rfl, .inr rfl⟩⟩,
      .inr ⟨(), .inl rfl, .inr rfl⟩, hearliest⟩
  exact .of_sorted (by decide) (by decide) ⟨.inl rfl, .of_some hsync⟩

theorem Protocol.responses_respelled_full :
    comet38.decodeResults sparseResults = comet38.decodeResults fullResults ∧
    NodeStatus.decode sparseStatus = NodeStatus.decode fullStatus ∧
    comet38.decodeBlock (blockOfHeader sparseHeader) =
      comet38.decodeBlock (blockOfHeader fullHeader) := by
  obtain ⟨hblock, hresults, hstatus⟩ := responses_respelled
  exact ⟨hresults _ _ _ results_respelled, hstatus _ _ status_respelled,
    hblock _ _ _ block_respelled⟩

end Spellings

end ChainFeed
