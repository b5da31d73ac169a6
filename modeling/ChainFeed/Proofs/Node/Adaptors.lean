import ChainFeed.Proofs.Json.Reading
import ChainFeed.Proofs.Node.Form

/-!
# Reading what nodes write

Each form of a block is read as that block, and each form of block results as those results, so that
data does not depend on the protocol version under which it was reported.
-/

namespace ChainFeed

open Form

variable {α β : Type} {k : Nat} {member : Option Json} {value : Json}

/-! ### Parts -/

namespace Reader

theorem readsMember_text {s : String} (h : IsText s member) :
    stringOrEmpty.ReadsMember k "" member s := by
  rcases h with rfl | ⟨rfl, rfl | rfl⟩
  · exact (reads_string s).orNull (nofun) ""
  · rfl
  · exact reads_orNull_null ""

/-- A text that is missing is told apart only before it is decoded. -/
theorem exists_readsMember_text {s : String} (h : IsText s member) :
    ∃ read : Option String, string.option.ReadsMember k none member read ∧ read.getD "" = s := by
  rcases h with rfl | ⟨rfl, rfl | rfl⟩
  · exact ⟨some s, (reads_string s).option (nofun), rfl⟩
  · exact ⟨none, rfl, rfl⟩
  · exact ⟨none, reads_option_null, rfl⟩

theorem readsMember_flag {b : Bool} (h : IsFlag b member) :
    bool.ReadsMember k false member b := by
  rcases h with rfl | ⟨rfl, rfl⟩
  · exact reads_bool b
  · rfl

section Integer

variable {number : Reader α} {ofText? : String → Option α} {n : Int} {a : α}

theorem reads_numeral (htext : ofText? (toString n) = some a) (hnumber : number.Reads k (.int n) a)
    (h : IsNumeral n value) : (numeral number ofText?).Reads k value a := by
  intro depth hdepth
  rcases h with rfl | rfl
  · simp only [Document.ofJson, numeral, htext]
  · exact hnumber depth hdepth

theorem readsMember_integer {default : α} (htext : ofText? (toString n) = some a)
    (hnumber : number.Reads k (.int n) a) (hzero : n = 0 → a = default) (h : IsInteger n member) :
    (numeralOr default number ofText?).ReadsMember k default member a := by
  rcases h with ⟨value, rfl, hvalue⟩ | ⟨hn, (rfl | rfl) | rfl⟩
  · -- no integer is written as the empty text
    have hne : toString n ≠ "" := by
      intro hempty
      have hlist := Integer.toList_toString n
      rw [hempty] at hlist
      exact Nat.toDigits_ne_nil (List.append_eq_nil_iff.mp hlist.symm).2
    intro depth hdepth
    rw [← reads_numeral htext hnumber hvalue depth hdepth]
    rcases hvalue with rfl | rfl
    · rw [Document.ofJson, numeralOr]
      · intro heq
        cases heq
      · simpa using hne
    · rfl
  · exact hzero hn
  · exact fun _ _ => congrArg Except.ok (hzero hn).symm
  · exact fun _ _ => congrArg Except.ok (hzero hn).symm

end Integer

theorem readsMember_uint64 {n : UInt64} (h : IsInteger n.toNat member) :
    uint64OrZero.ReadsMember k 0 member n :=
  readsMember_integer (Integer.uint64?_toString n) (reads_uint64 n)
    (fun hzero => UInt64.toNat_inj.mp (Int.natCast_eq_zero.mp hzero)) h

theorem readsMember_uint32 {n : UInt32} (h : IsInteger n.toNat member) :
    uint32OrZero.ReadsMember k 0 member n :=
  readsMember_integer (Integer.uint32?_toString n) (reads_uint32 n)
    (fun hzero => UInt32.toNat_inj.mp (Int.natCast_eq_zero.mp hzero)) h

theorem readsMember_int64 {n : Int64} (h : IsInteger n.toInt member) :
    int64OrZero.ReadsMember k 0 member n :=
  readsMember_integer (Integer.int64?_toString n) (reads_int64 n)
    (fun hzero => Int64.toInt_inj.mp hzero) h

theorem reads_uint64Numeral {n : UInt64} (h : IsNumeral n.toNat value) :
    uint64Numeral.Reads k value n :=
  reads_numeral (Integer.uint64?_toString n) (reads_uint64 n) h

theorem readsMember_base64 {bytes : List UInt8} (h : IsText (Base64.encode bytes) member) :
    base64OrEmpty.ReadsMember k [] member bytes := by
  have hread : stringOrEmpty.ReadsMember k "" member (Base64.encode bytes) := readsMember_text h
  cases member with
  | some value => exact Reads.filterMap hread (Base64.decode?_encode bytes)
  | none =>
    have hbytes := Base64.decode?_encode bytes
    rw [show Base64.encode bytes = "" from hread] at hbytes
    exact (Option.some.inj hbytes).symm

/-- Items are read one by one, each so that it decodes to what it stands for. -/
theorem exists_forall₂_reads {P : β → Json → Prop} {reader : Reader α} {decode? : α → Option β}
    {xs : List β} {items : List Json} (h : List.Forall₂ P xs items)
    (hitem : ∀ x item, P x item → ∃ a, reader.Reads k item a ∧ decode? a = some x) :
    ∃ as, List.Forall₂ (fun a item => reader.Reads k item a) as items ∧
      as.mapM decode? = some xs := by
  induction h with
  | nil => exact ⟨[], .nil, rfl⟩
  | cons hhead _ ih =>
    obtain ⟨a, hread, hdecode⟩ := hitem _ _ hhead
    obtain ⟨as, hreads, hdecodes⟩ := ih
    refine ⟨a :: as, .cons hread hreads, ?_⟩
    rw [List.mapM_cons, hdecode, hdecodes]
    rfl

theorem exists_readsMember_list {P : β → Json → Prop} {reader : Reader α} {decode? : α → Option β}
    {xs : List β} (h : IsList P xs member)
    (hitem : ∀ x item, P x item → ∃ a, reader.Reads k item a ∧ decode? a = some x) :
    ∃ as, (listOrEmpty reader).ReadsMember (k + 1) [] member as ∧ as.mapM decode? = some xs := by
  rcases h with ⟨items, rfl, hitems⟩ | ⟨rfl, rfl | rfl⟩
  · obtain ⟨as, hreads, hdecodes⟩ := exists_forall₂_reads hitems hitem
    exact ⟨as, (reads_list hreads).orNull (nofun) [], hdecodes⟩
  · exact ⟨[], rfl, rfl⟩
  · exact ⟨[], reads_orNull_null [], rfl⟩

theorem readsMember_base64List {txs : List (List UInt8)}
    (h : IsList (fun tx item => item = .string (Base64.encode tx)) txs member) :
    base64List.ReadsMember (k + 1) [] member txs := by
  obtain ⟨texts, hread, hdecode⟩ := exists_readsMember_list (k := k) h fun tx item hitem =>
    ⟨Base64.encode tx, hitem ▸ reads_string _, Base64.decode?_encode tx⟩
  cases member with
  | some value => exact Reads.filterMap hread hdecode
  | none =>
    rw [show texts = [] from hread] at hdecode
    exact (Option.some.inj hdecode).symm

end Reader

/-! ### Block results -/

namespace Protocol

variable {protocol : Protocol}

theorem attributeBytes?_eq {bytes : List UInt8} {s : String} (h : protocol.AttributeText bytes s) :
    protocol.attributeBytes? s = some bytes := by
  cases protocol with
  | tendermint34 => exact (show s = Base64.encode bytes from h) ▸ Base64.decode?_encode bytes
  | tendermint37 => exact congrArg some h
  | comet38 => exact congrArg some h

theorem exists_reads_attribute {a : Attribute} (h : protocol.AttributeForm a value) :
    ∃ wire, Node.WireAttribute.reader.Reads 1 value wire ∧
      wire.decode? protocol.attributeBytes? = some a := by
  obtain ⟨members, rfl, hnodup, ⟨key, hkey, hkeyForm⟩, ⟨val, hval, hvalForm⟩, hindex⟩ := h
  obtain ⟨keyRead, hkeyRead, rfl⟩ := Reader.exists_readsMember_text (k := 0) hkeyForm
  obtain ⟨valRead, hvalRead, rfl⟩ := Reader.exists_readsMember_text (k := 0) hvalForm
  refine ⟨⟨keyRead, valRead, a.index⟩, Reader.reads_record ?_, ?_⟩
  · exact (((Fields.reads_withDefault hnodup hkeyRead).map _).seq
      (Fields.reads_withDefault hnodup hvalRead)).seq
      (Fields.reads_withDefault hnodup (Reader.readsMember_flag hindex))
  · simp only [Node.WireAttribute.decode?, attributeBytes?_eq hkey, attributeBytes?_eq hval]
    rfl

theorem exists_reads_event {event : Event} (h : protocol.EventForm event value) :
    ∃ wire, Node.WireEvent.reader.Reads 3 value wire ∧
      wire.decode? protocol.attributeBytes? = some event := by
  obtain ⟨members, rfl, hnodup, hkind, hattributes⟩ := h
  obtain ⟨wires, hread, hdecode⟩ :=
    Reader.exists_readsMember_list hattributes fun _ _ => exists_reads_attribute
  refine ⟨⟨event.kind, wires⟩, Reader.reads_record ?_, ?_⟩
  · exact ((Fields.reads_required hnodup hkind (Reader.reads_string _)).map _).seq
      (Fields.reads_withDefault hnodup hread)
  · rw [Node.WireEvent.decode?, hdecode]
    rfl

theorem exists_readsMember_events {events : Option (List Event)}
    (h : protocol.EventsForm events member) (hk : 4 ≤ k) :
    ∃ wires, (Reader.list Node.WireEvent.reader).option.ReadsMember k none member wires ∧
      Node.WireResults.decodeEvents? protocol.attributeBytes? wires = some events := by
  cases events with
  | none =>
    rcases h with rfl | rfl
    · exact ⟨none, rfl, rfl⟩
    · exact ⟨none, Reader.reads_option_null, rfl⟩
  | some events =>
    obtain ⟨items, rfl, hitems⟩ := h
    obtain ⟨wires, hread, hdecode⟩ :=
      Reader.exists_forall₂_reads hitems fun _ _ => exists_reads_event
    refine ⟨some wires, ((Reader.reads_list hread).mono hk).option (nofun), ?_⟩
    rw [Node.WireResults.decodeEvents?, hdecode]
    rfl

theorem exists_reads_txResult {result : TxResult} (h : protocol.TxResultForm result value) :
    ∃ wire, Node.WireTxResult.reader.Reads 5 value wire ∧
      wire.decode? protocol.attributeBytes? = some result := by
  obtain ⟨members, rfl, hnodup, hcode, hcodespace, hlog, hinfo, hdata, hwanted, hused, hevents⟩ := h
  obtain ⟨wires, hread, hdecode⟩ :=
    Reader.exists_readsMember_list hevents fun _ _ => exists_reads_event
  refine ⟨⟨{ result with events := [] }, wires⟩, Reader.reads_record ?_, ?_⟩
  · exact ((((((((Fields.reads_withDefault hnodup (Reader.readsMember_uint32 hcode)).map _).seq
      (Fields.reads_withDefault hnodup (Reader.readsMember_text hcodespace))).seq
      (Fields.reads_withDefault hnodup (Reader.readsMember_text hlog))).seq
      (Fields.reads_withDefault hnodup (Reader.readsMember_text hinfo))).seq
      (Fields.reads_withDefault hnodup (Reader.readsMember_base64 hdata))).seq
      (Fields.reads_withDefault hnodup (Reader.readsMember_int64 hwanted))).seq
      (Fields.reads_withDefault hnodup (Reader.readsMember_int64 hused))).seq
      (Fields.reads_withDefault hnodup hread)
  · rw [Node.WireTxResult.decode?, hdecode]
    rfl

/-- Block results are read from each of their forms; the newest version puts the events of the
common list where they belong. -/
theorem decodeResults_of_form {results : BlockResults} {common : Option (List Event)}
    (h : protocol.ResultsForm results common value) :
    protocol.decodeResults value = .ok (if protocol = .comet38 then
      Node.WireResults.splitEvents results common else results) := by
  obtain ⟨members, rfl, hnodup, ⟨height, hheight, hheightForm⟩, htxs, hbegin, hend, hcommon⟩ := h
  obtain ⟨txs, htxsRead, htxsDecode⟩ :=
    Reader.exists_readsMember_list htxs fun _ _ => exists_reads_txResult
  obtain ⟨begins, hbeginRead, hbeginDecode⟩ :=
    exists_readsMember_events hbegin (show 4 ≤ 6 by decide)
  obtain ⟨ends, hendRead, hendDecode⟩ := exists_readsMember_events hend (show 4 ≤ 6 by decide)
  obtain ⟨commons, hcommonRead, hcommonDecode⟩ :=
    exists_readsMember_events hcommon (show 4 ≤ 6 by decide)
  have hread : Node.WireResults.reader.Reads 7 (.object members)
      ⟨results.height, txs, begins, ends, commons⟩ := by
    refine Reader.reads_record ?_
    exact (((((Fields.reads_required hnodup hheight
      (Reader.reads_uint64Numeral hheightForm)).map _).seq
      (Fields.reads_withDefault hnodup htxsRead)).seq
      (Fields.reads_withDefault hnodup hbeginRead)).seq
      (Fields.reads_withDefault hnodup hendRead)).seq
      (Fields.reads_withDefault hnodup hcommonRead)
  rw [decodeResults, Reader.response, hread.ofJson (by decide)]
  simp only [Node.WireResults.normalize?, htxsDecode, hbeginDecode, hendDecode, hcommonDecode]
  by_cases hsplit : protocol = .comet38
  · simp [hsplit]
  · simp [hsplit]

end Protocol

/-! ### Blocks -/

namespace Node

theorem reads_blockHash {hash : String} (h : HashForm hash value) :
    blockHash.Reads 1 value hash := by
  obtain ⟨members, rfl, hnodup, hhash⟩ := h
  exact Reader.reads_record (Fields.reads_withDefault hnodup (Reader.readsMember_text hhash))

/-- The id of the block before is read first, and dropped if its hash is empty. -/
theorem exists_readsMember_previous {previous : Option String} (h : PreviousForm previous member) :
    ∃ read, blockHash.option.ReadsMember 1 none member read ∧
      read.filter (· != "") = previous := by
  have hobject {hash : String} {id : Json} (h : HashForm hash id) :
      blockHash.option.Reads 1 id (some hash) := by
    refine (reads_blockHash h).option ?_
    rintro rfl
    exact nomatch h
  cases previous with
  | some hash =>
    obtain ⟨hne, id, rfl, hid⟩ := h
    exact ⟨some hash, hobject hid, Option.filter_some_pos (bne_iff_ne.mpr hne)⟩
  | none =>
    rcases h with (rfl | rfl) | ⟨id, rfl, hid⟩
    · exact ⟨none, rfl, rfl⟩
    · exact ⟨none, Reader.reads_option_null, rfl⟩
    · exact ⟨some "", hobject hid, rfl⟩

theorem reads_version {v : Version} (h : v.Form value) : version.Reads 1 value v := by
  obtain ⟨members, rfl, hnodup, hblock, happ⟩ := h
  refine Reader.reads_record ?_
  exact ((Fields.reads_withDefault hnodup (Reader.readsMember_uint64 hblock)).map _).seq
    (Fields.reads_withDefault hnodup (Reader.readsMember_uint64 happ))

theorem reads_instant {t : Instant} (h : t.Form value) : Reader.instant.Reads k value t := by
  obtain ⟨hordinary, s, rfl, hspelled⟩ := h
  exact (Reader.reads_string s).filterMap (Instant.parse?_of_spelled hordinary hspelled)

theorem reads_header {header : Header} (h : header.Form value) :
    Node.header.Reads 2 value header := by
  obtain ⟨members, rfl, hnodup, ⟨version, hversion, hversionForm⟩, hchain,
    ⟨height, hheight, hheightForm⟩, ⟨time, htime, htimeForm⟩, hprevious, hdata, happ,
    hproposer⟩ := h
  obtain ⟨previous, hpreviousRead, hfilter⟩ := exists_readsMember_previous hprevious
  have hlast : ((·.filter (· != "")) <$>
      Fields.withDefault "last_block_id" none blockHash.option).Reads 1 members
        header.lastBlockHash :=
    hfilter ▸ (Fields.reads_withDefault hnodup hpreviousRead).map _
  refine Reader.reads_record ?_
  exact ((((((((Fields.reads_required hnodup hversion (reads_version hversionForm)).map _).seq
    (Fields.reads_required hnodup hchain (Reader.reads_string _))).seq
    (Fields.reads_required hnodup hheight (Reader.reads_uint64Numeral hheightForm))).seq
    (Fields.reads_required hnodup htime (reads_instant htimeForm))).seq
    hlast).seq
    (Fields.reads_withDefault hnodup (Reader.readsMember_text hdata))).seq
    (Fields.reads_withDefault hnodup (Reader.readsMember_text happ))).seq
    (Fields.reads_withDefault hnodup (Reader.readsMember_text hproposer))

theorem reads_txs {blockTxs : List (List UInt8)} (h : TxsForm blockTxs value) :
    txs.Reads 2 value blockTxs := by
  obtain ⟨members, rfl, hnodup, htxs⟩ := h
  exact Reader.reads_record
    (Fields.reads_withDefault hnodup (Reader.readsMember_base64List (k := 0) htxs))

theorem reads_block {b : ChainFeed.Block} (h : b.Form value) : block.Reads 4 value b := by
  obtain ⟨members, rfl, hnodup, ⟨id, hid, hidForm⟩, body, hbody, hbodyForm⟩ := h
  have hread : blockBody.Reads 3 body (b.header, b.txs) := by
    obtain ⟨members, rfl, hnodup, ⟨head, hhead, hheadForm⟩, data, hdata, hdataForm⟩ := hbodyForm
    refine Reader.reads_record ?_
    exact ((Fields.reads_required hnodup hhead (reads_header hheadForm)).map _).seq
      (Fields.reads_required hnodup hdata (reads_txs hdataForm))
  refine Reader.reads_record ?_
  exact ((Fields.reads_required hnodup hid ((reads_blockHash hidForm).mono (by decide))).map _).seq
    (Fields.reads_required hnodup hbody hread)

end Node

/-- A block is read from each of its forms, whatever the protocol version. -/
theorem Protocol.decodeBlock_of_form (protocol : Protocol) {block : Block} (h : block.Form value) :
    protocol.decodeBlock value = .ok block := by
  rw [decodeBlock, Reader.response, (Node.reads_block h).ofJson (by decide)]

end ChainFeed
