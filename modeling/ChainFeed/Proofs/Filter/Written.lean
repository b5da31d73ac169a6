import ChainFeed.Filter.Basic
import ChainFeed.Proofs.Json.ReadBack

/-!
# Filters as they are written

A filter is written with the parts that it has, and read back with just these: a part that is left
out stays apart from one that is empty, and so does a filter that is left out from one without
parts. The handler around a filter says by one of its members for what the filter is; the reader of
handlers takes this member out and reads the others accordingly.

## Main definitions

- `MessageFilter.IsSorted`, `EventFilter.IsSorted`, `Handler.IsSorted`: the maps in a filter are
  sorted by name, down to the objects in their values

## Main results

- `Reader.reads_tagged`: a tagged record is read from its tag and its other members
- `BlockFilter.inverts_reader`, `TxFilter.inverts_reader`, `MessageFilter.inverts_reader`,
  `EventFilter.inverts_reader`: each filter is read back
- `Handler.inverts_reader`: each handler is read back
-/

namespace ChainFeed

variable {α τ : Type}

/-! ### Members that may be left out -/

namespace Json

variable {name key : String} {write : α → Json} {x : Option α}

@[simp] theorem get?_reverse_memberIf :
    Members.get? name (memberIf key write x).reverse =
      if key = name then x.map write else none := by
  cases x with
  | none => exact (ite_self _).symm
  | some a => rfl

theorem forall_mem_memberIf {P : String × Json → Prop} :
    (∀ entry ∈ memberIf name write x, P entry) ↔ ∀ a ∈ x, P (name, write a) := by
  cases x with
  | none => exact iff_of_true (fun _ h => absurd h List.not_mem_nil) nofun
  | some a => simp [memberIf]

end Json

/-! ### Filters -/

namespace BlockFilter

theorem inverts_reader (filter : BlockFilter) : reader.Inverts toJson filter := by
  have hwrite : filter.toJson = .ofMembers
      (Json.memberIf "modulo" (fun n => .nat n.toNat) filter.modulo ++
        Json.memberIf "lookBackSecs" (fun n => .nat n.toNat) filter.lookBackSecs) := rfl
  refine Reader.inverts_record hwrite (.seq (.map ?modulo BlockFilter.mk) ?lookBackSecs) ?sorted
  case modulo =>
    exact Fields.readsBack_optional (by simp) (fun n _ => Reader.inverts_uint64 n) (fun _ => nofun)
  case lookBackSecs =>
    exact Fields.readsBack_optional (by simp) (fun n _ => Reader.inverts_uint64 n) (fun _ => nofun)
  case sorted =>
    simp only [List.forall_mem_append, Json.forall_mem_memberIf]
    exact ⟨fun _ _ => rfl, fun _ _ => rfl⟩

end BlockFilter

namespace TxFilter

theorem inverts_reader (filter : TxFilter) : reader.Inverts toJson filter := by
  have hwrite : filter.toJson =
      .ofMembers (Json.memberIf "includeFailedTx" .bool filter.includeFailedTx) := rfl
  refine Reader.inverts_record hwrite (.map ?includeFailedTx TxFilter.mk) ?sorted
  case includeFailedTx =>
    exact Fields.readsBack_optional (by simp) (fun b _ => Reader.inverts_bool b) (fun _ => nofun)
  case sorted =>
    rw [Json.forall_mem_memberIf]
    exact fun _ _ => rfl

end TxFilter

namespace MessageFilter

/-- The values of a filter are sorted, and so are the objects in them. -/
def IsSorted (filter : MessageFilter) : Prop :=
  ∀ values ∈ filter.values, (Json.object values).isSorted = true

theorem inverts_values {values : Members Json} (h : (Json.object values).isSorted = true) :
    (Reader.members .json).Inverts .object values := by
  obtain ⟨hsorted, hvalues⟩ := Json.isSorted_object_iff.mp h
  have hinverts := Reader.inverts_members hsorted
    fun entry hentry => Reader.inverts_json (hvalues entry hentry)
  simpa using hinverts

theorem inverts_reader {filter : MessageFilter} (h : filter.IsSorted) :
    reader.Inverts toJson filter := by
  have hwrite : filter.toJson = .ofMembers (("type", .string filter.kind) ::
      Json.memberIf "values" .object filter.values ++
      Json.memberIf "contractCall" .string filter.contractCall ++
      Json.memberIf "includeFailedTx" .bool filter.includeFailedTx) := rfl
  refine Reader.inverts_record hwrite
    (.seq (.seq (.seq (.map ?kind MessageFilter.mk) ?values) ?contractCall) ?includeFailedTx)
    ?sorted
  case kind =>
    exact Fields.readsBack_required (by simp [Members.get?_cons])
      (Reader.inverts_string filter.kind)
  case values =>
    exact Fields.readsBack_optional (by simp [Members.get?_cons])
      (fun values hvalues => inverts_values (h values hvalues)) (fun _ => nofun)
  case contractCall =>
    exact Fields.readsBack_optional (by simp [Members.get?_cons])
      (fun s _ => Reader.inverts_string s) (fun _ => nofun)
  case includeFailedTx =>
    exact Fields.readsBack_optional (by simp [Members.get?_cons])
      (fun b _ => Reader.inverts_bool b) (fun _ => nofun)
  case sorted =>
    simp only [List.forall_mem_append, List.forall_mem_cons, Json.forall_mem_memberIf]
    exact ⟨⟨⟨rfl, h⟩, fun _ _ => rfl⟩, fun _ _ => rfl⟩

/-- Filters that are read are sorted. -/
theorem yields_reader : reader.Yields IsSorted := by
  have hvalues : (Reader.option (.members .json)).Yields fun values =>
      ∀ entries ∈ values, (Json.object entries).isSorted = true := by
    apply Reader.Yields.option
    intro depth tree entries hread
    exact Json.isSorted_object_iff.mpr
      (Reader.yields_members Reader.yields_json depth tree entries hread)
  refine Reader.yields_record (.seq (.seq (.seq (.map
      (Fields.yields_required (Reader.yields_true _)) ?_)
      (Fields.yields_withDefault hvalues nofun))
      (Fields.yields_withDefault (Reader.yields_true _) trivial))
      (Fields.yields_withDefault (Reader.yields_true _) trivial))
  exact fun kind _ values hvalues _ _ _ _ => hvalues

end MessageFilter

namespace EventFilter

/-- The maps in a filter are sorted. -/
structure IsSorted (filter : EventFilter) : Prop where
  messageFilter : ∀ inner ∈ filter.messageFilter, inner.IsSorted
  attributes : ∀ attributes ∈ filter.attributes, attributes.Sorted

theorem inverts_attributes {attributes : Members String} (h : attributes.Sorted) :
    (Reader.members .string).Inverts attributesToJson attributes :=
  Reader.inverts_members h fun entry _ => Reader.inverts_string entry.2

theorem inverts_reader {filter : EventFilter} (h : filter.IsSorted) :
    reader.Inverts toJson filter := by
  have hwrite : filter.toJson = .ofMembers (("type", .string filter.kind) ::
      Json.memberIf "messageFilter" MessageFilter.toJson filter.messageFilter ++
      Json.memberIf "attributes" attributesToJson filter.attributes) := rfl
  have hmessage : ∀ inner ∈ filter.messageFilter,
      MessageFilter.reader.Inverts MessageFilter.toJson inner :=
    fun inner hinner => MessageFilter.inverts_reader (h.messageFilter inner hinner)
  have hattributes : ∀ attributes ∈ filter.attributes,
      (Reader.members .string).Inverts attributesToJson attributes :=
    fun attributes hmem => inverts_attributes (h.attributes attributes hmem)
  refine Reader.inverts_record hwrite
    (.seq (.seq (.map ?kind EventFilter.mk) ?messageFilter) ?attributes) ?sorted
  case kind =>
    exact Fields.readsBack_required (by simp [Members.get?_cons])
      (Reader.inverts_string filter.kind)
  case messageFilter =>
    exact Fields.readsBack_optional (by simp [Members.get?_cons]) hmessage (fun _ => nofun)
  case attributes =>
    exact Fields.readsBack_optional (by simp [Members.get?_cons]) hattributes (fun _ => nofun)
  case sorted =>
    simp only [List.forall_mem_append, List.forall_mem_cons, Json.forall_mem_memberIf]
    exact ⟨⟨rfl, fun inner hinner => (hmessage inner hinner).sorted⟩,
      fun attributes hmem => (hattributes attributes hmem).sorted⟩

/-- Filters that are read are sorted. -/
theorem yields_reader : reader.Yields IsSorted := by
  have hattributes : (Reader.option (.members .string)).Yields fun attributes =>
      ∀ entries ∈ attributes, entries.Sorted := by
    apply Reader.Yields.option
    intro depth tree entries hread
    exact (Reader.yields_members (Reader.yields_true _) depth tree entries hread).1
  refine Reader.yields_record (.seq (.seq (.map
      (Fields.yields_required (Reader.yields_true _)) ?_)
      (Fields.yields_withDefault MessageFilter.yields_reader.option nofun))
      (Fields.yields_withDefault hattributes nofun))
  exact fun kind _ inner hinner attributes hsorted => ⟨hinner, hsorted⟩

end EventFilter

/-! ### Tagged records -/

namespace Reader

variable {members : Members Json} {tagName : String} {tag : Reader τ} {body : τ → Reader α}
  {t : τ} {a : α} {k depth : Nat}

/-- The tag is taken out of the members, wherever it stands, and the others are kept. -/
theorem tagAndRest_ofMembers (hnodup : (members.map (·.1)).Nodup) (hdepth : k ≤ depth)
    (htag : ∀ value, members.get? tagName = some value → tag.Reads k value t)
    (hjson : ∀ member ∈ members, ∃ value, json.Reads k member.2 value) :
    tagAndRest tagName tag depth (Document.ofMembers members) =
      .ok ((members.get? tagName).map fun _ => t,
        Document.ofMembers (members.filter fun member => member.1 ≠ tagName)) := by
  induction members with
  | nil => rfl
  | cons member rest ih =>
    rw [List.map_cons, List.nodup_cons] at hnodup
    obtain ⟨hmember, hrest⟩ := List.forall_mem_cons.mp hjson
    rw [Document.ofMembers, tagAndRest, Members.get?_cons]
    by_cases hkey : member.1 = tagName
    · have hnone : Members.get? tagName rest = none := by
        refine Members.get?_eq_none_iff.mpr fun other hother heq => hnodup.1 ?_
        exact List.mem_map.mpr ⟨other, hother, heq.trans hkey.symm⟩
      have hread : tag depth (.ofJson member.2) = .ok t := by
        refine htag member.2 ?_ depth hdepth
        rw [Members.get?_cons, if_pos hkey]
      have hothers := ih hnodup.2 (fun value h => nomatch hnone.symm.trans h) hrest
      rw [hnone] at hothers
      rw [if_pos hkey, if_pos hkey, hread, List.filter_cons_of_neg (by simpa using hkey)]
      simp only [hothers]
      rfl
    · obtain ⟨value, hvalue⟩ := hmember
      have hothers := ih hnodup.2
        (fun value h => htag value (by rw [Members.get?_cons, if_neg hkey, h])) hrest
      rw [if_neg hkey, if_neg hkey, hvalue depth hdepth,
        List.filter_cons_of_pos (by simpa using hkey), hothers]
      rfl

/-- A tagged record is read from its tag and its other members. -/
theorem reads_tagged {value : Json} (hnodup : (members.map (·.1)).Nodup)
    (hget : members.get? tagName = some value) (htag : tag.Reads k value t)
    (hjson : ∀ member ∈ members, ∃ value, json.Reads k member.2 value)
    (hbody : (body t).Reads (k + 1) (.object (members.filter fun member => member.1 ≠ tagName)) a) :
    (tagged tagName tag body).Reads (k + 1) (.object members) a := by
  intro depth hdepth
  have hread := hbody depth hdepth
  obtain ⟨inside, rfl, hinside⟩ := exists_room_inside hdepth
  have htag' : ∀ other, members.get? tagName = some other → tag.Reads k other t := by
    intro other hother
    rw [← Option.some.inj (hget.symm.trans hother)]
    exact htag
  rw [Document.ofJson, tagged,
    tagAndRest_ofMembers hnodup hinside htag' hjson, hget]
  exact hread

/-- A tagged record is read back from its tag and its other members. -/
theorem inverts_tagged {write : α → Json} {entries : List (String × Json)} {value : Json}
    (hwrite : write a = .ofMembers entries)
    (hsorted : ∀ entry ∈ entries, entry.2.isSorted = true)
    (hget : Members.get? tagName entries.reverse = some value) (htag : tag.Reads 0 value t)
    (hbody : (body t).Reads (Json.ofMembers entries).depth
      (.object ((Members.ofList entries).filter fun member => member.1 ≠ tagName)) a) :
    (tagged tagName tag body).Inverts write a where
  reads := by
    rw [← Members.get?_ofList] at hget
    rw [hwrite]
    refine reads_tagged (Members.sorted_ofList entries).nodup hget (htag.mono (Nat.zero_le _)) ?_
      hbody
    intro member hmember
    have hle := Json.depth_le_of_mem_members hmember
    have hread := reads_json member.2 (hsorted member (Members.mem_of_mem_ofList hmember))
    exact ⟨member.2, hread.mono hle⟩
  sorted := by
    rw [hwrite]
    exact Json.isSorted_ofMembers hsorted

end Reader

/-! ### Handlers -/

namespace Handler

/-- The maps in the filter of a handler are sorted, as they are in all handlers that are read. -/
def IsSorted : Handler → Prop
  | .block _ | .transaction _ => True
  | .message filter => ∀ inner ∈ filter, inner.IsSorted
  | .event filter => ∀ inner ∈ filter, inner.IsSorted

/-- A handler is read back if its filter is: its kind stands in a member of its own, and says how
the filter is read. -/
theorem inverts_of_filter {kind : Kind} {name : String} {filterReader : Reader α}
    {write : α → Json} {filter : Option α} {handler : Handler} {wrap : Option α → Handler}
    (hkind : Kind.reader.Reads 0 (.string name) kind)
    (hbody : bodyReader kind = (Reader.filterOnly filterReader).map wrap)
    (hwrite : handler.toJson =
      .ofMembers (("kind", .string name) :: Json.memberIf "filter" write filter))
    (hwrap : wrap filter = handler) (h : ∀ a ∈ filter, filterReader.Inverts write a)
    (hne : ∀ a, write a ≠ .null) : reader.Inverts toJson handler := by
  refine Reader.inverts_tagged hwrite ?_ (by simp [Members.get?_cons]) hkind ?_
  · rw [List.forall_mem_cons, Json.forall_mem_memberIf]
    exact ⟨rfl, fun a ha => (h a ha).sorted⟩
  · -- without the kind there is still the filter, under the same name
    rw [hbody]
    generalize hentries :
      ("kind", Json.string name) :: Json.memberIf "filter" write filter = entries
    have hnodup : (((Members.ofList entries).filter fun member => member.1 ≠ "kind").map
        (·.1)).Nodup :=
      (Members.sorted_ofList entries).nodup.sublist (List.filter_sublist.map _)
    have hget : (Members.ofList entries).get? "filter" = filter.map write := by
      simp [Members.get?_ofList, ← hentries, Members.get?_cons]
    refine (Reader.reads_record (Fields.reads_optional hnodup ?_ (fun a ha => ?_) hne)).map hwrap
    · rw [Members.get?_filter_of_ne (by decide : "filter" ≠ "kind"), hget]
    · obtain rfl : filter = some a := ha
      have hle := Json.depth_le_of_mem_members (Members.mem_of_get?_eq_some hget)
      exact (h a rfl).reads.mono hle

/-- Each handler is read back. -/
theorem inverts_reader {handler : Handler} (h : handler.IsSorted) :
    reader.Inverts toJson handler := by
  cases handler with
  | block filter =>
    exact inverts_of_filter ((Reader.reads_string "block").filterMap rfl) rfl rfl rfl
      (fun a _ => a.inverts_reader) (fun _ => nofun)
  | transaction filter =>
    exact inverts_of_filter ((Reader.reads_string "transaction").filterMap rfl) rfl rfl rfl
      (fun a _ => a.inverts_reader) (fun _ => nofun)
  | message filter =>
    exact inverts_of_filter ((Reader.reads_string "message").filterMap rfl) rfl rfl rfl
      (fun a ha => MessageFilter.inverts_reader (h a ha)) (fun _ => nofun)
  | event filter =>
    exact inverts_of_filter ((Reader.reads_string "event").filterMap rfl) rfl rfl rfl
      (fun a ha => EventFilter.inverts_reader (h a ha)) (fun _ => nofun)

theorem yields_filterOnly {filterReader : Reader α} {P : α → Prop} (h : filterReader.Yields P) :
    (Reader.filterOnly filterReader).Yields fun filter => ∀ a ∈ filter, P a :=
  Reader.yields_record (Fields.yields_withDefault h.option nofun)

/-- Handlers that are read are sorted. -/
theorem yields_reader : reader.Yields IsSorted := by
  apply Reader.yields_tagged
  intro kind
  cases kind with
  | block => exact (Reader.yields_true _).map fun _ _ => trivial
  | transaction => exact (Reader.yields_true _).map fun _ _ => trivial
  | message => exact (yields_filterOnly MessageFilter.yields_reader).map fun _ h => h
  | event => exact (yields_filterOnly EventFilter.yields_reader).map fun _ h => h

/-- The handlers whose maps are sorted are those that are read from something. -/
theorem isSorted_iff_exists_reader {handler : Handler} :
    handler.IsSorted ↔ ∃ depth tree, reader depth tree = .ok handler := by
  constructor
  · intro h
    exact ⟨_, _, (inverts_reader h).reads _ le_rfl⟩
  · rintro ⟨depth, tree, h⟩
    exact yields_reader depth tree handler h

end Handler

end ChainFeed
