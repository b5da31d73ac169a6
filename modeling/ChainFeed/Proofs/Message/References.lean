import ChainFeed.Message.Schema
import ChainFeed.Proofs.Except

/-!
# Names that refer to messages

A field of kind message names its type, and the name refers to a declared message: the one of this
full name, or else the one of this name in the package, whatever dots stand in front. A file is
resolved if all such names refer to a message, and its schema then has the declared messages in
order, with the message that each field leads to. Otherwise the first field of which this is not so
is the error.

## Main definitions

- `SchemaFile.Refers`: the declared name that a type name refers to
- `SchemaFile.Sound`: a field whose type, if it has one, is declared
- `SchemaFile.ResolvesField`, `SchemaFile.ResolvesMessage`: what a declaration is resolved to
- `SchemaFile.FirstOffence`: the first field that is not sound, and what is wrong with it

## Main results

- `SchemaFile.resolveName?_eq_some_iff`: the full name before the name in the package
- `SchemaFile.resolve_eq_ok_iff`, `SchemaFile.exists_resolve_iff`: when a file is resolved, and to
  what
- `SchemaFile.resolve_eq_error_iff`: the first field that is not sound is the error
-/

namespace ChainFeed.SchemaFile

variable {file : SchemaFile} {path message typeName bare target : String}
  {field : FieldDeclaration} {resolved : SchemaField} {schema : Schema} {fault : SchemaError}

/-! ### Names that refer to a message -/

/-- A type name is some dots and a bare name behind them, which itself starts with none. -/
def Stripped (typeName bare : String) : Prop :=
  ∃ dots, typeName.toList = List.replicate dots '.' ++ bare.toList ∧ bare.toList.head? ≠ some '.'

theorem stripped_bareName (typeName : String) : Stripped typeName (bareName typeName) := by
  -- the dots are those that are taken off
  refine ⟨(typeName.toList.takeWhile (· = '.')).length, ?_, ?_⟩
  · have hdots : typeName.toList.takeWhile (· = '.') =
        List.replicate (typeName.toList.takeWhile (· = '.')).length '.' := by
      refine List.eq_replicate_iff.mpr ⟨rfl, fun c hc => ?_⟩
      exact of_decide_eq_true (List.all_eq_true.mp List.all_takeWhile c hc)
    rw [← hdots, bareName, String.toList_ofList, List.takeWhile_append_dropWhile]
  · rw [bareName, String.toList_ofList]
    intro hhead
    have hnot := List.head?_dropWhile_not (fun c : Char => decide (c = '.')) typeName.toList
    rw [hhead] at hnot
    exact of_decide_eq_false hnot rfl

theorem Stripped.eq_bareName (h : Stripped typeName bare) : bare = bareName typeName := by
  obtain ⟨dots, hname, hhead⟩ := h
  have hdots : ∀ c ∈ List.replicate dots '.', decide (c = '.') = true := by
    intro c hc
    exact decide_eq_true (List.eq_of_mem_replicate hc)
  have hbare : bare.toList.dropWhile (fun c => decide (c = '.')) = bare.toList := by
    cases hchars : bare.toList with
    | nil => rfl
    | cons c chars =>
      rw [hchars, List.head?_cons] at hhead
      exact List.dropWhile_cons_of_neg fun hc => hhead (congrArg some (of_decide_eq_true hc))
  rw [bareName, hname, List.dropWhile_append_of_pos hdots, hbare, String.ofList_toList]

/-- A type name refers to the declared message of its bare name, or else to the one of this name in
the package. -/
inductive Refers (file : SchemaFile) (typeName : String) : String → Prop
  | full {bare : String} (h : Stripped typeName bare) (hfull : bare ∈ file.declared) :
    Refers file typeName bare
  | relative {bare : String} (h : Stripped typeName bare) (hfull : bare ∉ file.declared)
    (hrelative : file.qualify bare ∈ file.declared) : Refers file typeName (file.qualify bare)

theorem Refers.mem_declared (h : file.Refers typeName target) : target ∈ file.declared := by
  cases h with
  | full _ hfull => exact hfull
  | relative _ _ hrelative => exact hrelative

theorem resolveName?_eq_some_iff :
    file.resolveName? typeName = some target ↔ file.Refers typeName target := by
  have hbare := stripped_bareName typeName
  unfold resolveName?
  dsimp only
  -- the name in the package is tried only if the full name is not declared
  by_cases hfull : bareName typeName ∈ file.declared
  · rw [List.find?_cons_of_pos (List.contains_iff_mem.mpr hfull)]
    constructor
    · rintro ⟨⟩
      exact .full hbare hfull
    · rintro (⟨h, -⟩ | ⟨h, hnot, -⟩)
      · rw [h.eq_bareName]
      · exact absurd (h.eq_bareName ▸ hfull) hnot
  · rw [List.find?_cons_of_neg (fun h => hfull (List.contains_iff_mem.mp h))]
    by_cases hrelative : file.qualify (bareName typeName) ∈ file.declared
    · rw [List.find?_cons_of_pos (List.contains_iff_mem.mpr hrelative)]
      constructor
      · rintro ⟨⟩
        exact .relative hbare hfull hrelative
      · rintro (⟨h, hmem⟩ | ⟨h, -, -⟩)
        · exact absurd (h.eq_bareName ▸ hmem) hfull
        · rw [h.eq_bareName]
    · rw [List.find?_cons_of_neg (fun h => hrelative (List.contains_iff_mem.mp h))]
      constructor
      · rintro ⟨⟩
      · rintro (⟨h, hmem⟩ | ⟨h, -, hmem⟩)
        · exact absurd (h.eq_bareName ▸ hmem) hfull
        · exact absurd (h.eq_bareName ▸ hmem) hrelative

/-- Both readings of the name are declared. -/
example : (SchemaFile.mk "p" [⟨"p.B", []⟩, ⟨"B", []⟩]).resolveName? "..p.B" = some "p.B" := by
  decide +kernel

theorem resolveName?_eq_none_iff (h : Stripped typeName bare) :
    file.resolveName? typeName = none ↔
      bare ∉ file.declared ∧ file.qualify bare ∉ file.declared := by
  rw [h.eq_bareName, resolveName?]
  simp only [List.find?_eq_none, List.forall_mem_cons, List.contains_iff_mem, List.not_mem_nil,
    false_implies, implies_true, and_true]

/-! ### Fields that lead somewhere -/

/-- A field of kind message has a type, which is declared by its bare name or by this name in the
package. -/
def Sound (file : SchemaFile) (field : FieldDeclaration) : Prop :=
  field.kind = .message → ∃ typeName bare, field.typeName = some typeName ∧
    Stripped typeName bare ∧ (bare ∈ file.declared ∨ file.qualify bare ∈ file.declared)

/-- Where a field leads: to the message that its type refers to, if it is of kind message. -/
inductive LeadsTo (file : SchemaFile) (field : FieldDeclaration) : Option String → Prop
  | nowhere (h : field.kind ≠ .message) : LeadsTo file field none
  | message {typeName target : String} (hkind : field.kind = .message)
    (htype : field.typeName = some typeName) (h : file.Refers typeName target) :
    LeadsTo file field (some target)

/-- What is wrong with a field of kind message: it has no type, or one that is not declared. -/
inductive Offends (file : SchemaFile) (path message : String) (field : FieldDeclaration) :
    SchemaError → Prop
  | missing (hkind : field.kind = .message) (htype : field.typeName = none) :
    Offends file path message field (.missingTypeName path message field.name)
  | undeclared {typeName bare : String} (hkind : field.kind = .message)
    (htype : field.typeName = some typeName) (h : Stripped typeName bare)
    (hfull : bare ∉ file.declared) (hrelative : file.qualify bare ∉ file.declared) :
    Offends file path message field (.unresolvedType path message field.name bare)

theorem resolveType_eq_ok_iff (path message : String) {found : Option String} :
    file.resolveType path message field = .ok found ↔ file.LeadsTo field found := by
  unfold resolveType
  by_cases hkind : field.kind = .message
  · rw [if_pos hkind]
    constructor
    · intro h
      split at h
      · cases h
      · rename_i typeName htype
        split at h
        · rename_i name hname
          cases h
          exact .message hkind htype (resolveName?_eq_some_iff.mp hname)
        · cases h
    · rintro (hnot | ⟨-, htype, h⟩)
      · exact absurd hkind hnot
      · rw [htype]
        dsimp only
        rw [resolveName?_eq_some_iff.mpr h]
  · rw [if_neg hkind]
    constructor
    · rintro ⟨⟩
      exact .nowhere hkind
    · rintro (- | ⟨hmessage, -, -⟩)
      · rfl
      · exact absurd hmessage hkind

theorem resolveType_eq_error_iff :
    file.resolveType path message field = .error fault ↔
      file.Offends path message field fault := by
  unfold resolveType
  by_cases hkind : field.kind = .message
  · rw [if_pos hkind]
    constructor
    · intro h
      split at h
      · rename_i htype
        cases h
        exact .missing hkind htype
      · rename_i typeName htype
        split at h
        · cases h
        · rename_i hnone
          cases h
          have hbare := stripped_bareName typeName
          obtain ⟨hfull, hrelative⟩ := (resolveName?_eq_none_iff hbare).mp hnone
          exact .undeclared hkind htype hbare hfull hrelative
    · rintro (⟨-, htype⟩ | ⟨-, htype, h, hfull, hrelative⟩)
      · rw [htype]
      · rw [htype]
        dsimp only
        rw [(resolveName?_eq_none_iff h).mpr ⟨hfull, hrelative⟩, h.eq_bareName]
  · rw [if_neg hkind]
    constructor
    · rintro ⟨⟩
    · rintro (⟨hmessage, -⟩ | ⟨hmessage, -, -, -, -⟩)
      · exact absurd hmessage hkind
      · exact absurd hmessage hkind

/-- The fields that lead somewhere or need not are the sound ones. -/
theorem exists_leadsTo_iff : (∃ found, file.LeadsTo field found) ↔ file.Sound field := by
  constructor
  · rintro ⟨_, hnot | ⟨hkind, htype, ⟨h, hfull⟩ | ⟨h, -, hrelative⟩⟩⟩ hmessage
    · exact absurd hmessage hnot
    · exact ⟨_, _, htype, h, .inl hfull⟩
    · exact ⟨_, _, htype, h, .inr hrelative⟩
  · intro hsound
    by_cases hkind : field.kind = .message
    · obtain ⟨typeName, bare, htype, h, hdeclared⟩ := hsound hkind
      -- where both names are declared the field leads to the full one
      by_cases hfull : bare ∈ file.declared
      · exact ⟨some bare, .message hkind htype (.full h hfull)⟩
      · exact ⟨_, .message hkind htype (.relative h hfull (hdeclared.resolve_left hfull))⟩
    · exact ⟨none, .nowhere hkind⟩

/-- What a field is resolved to: the same field, with the message that it leads to. -/
structure ResolvesField (file : SchemaFile) (field : FieldDeclaration) (resolved : SchemaField) :
    Prop where
  name : resolved.name = field.name
  number : resolved.number = field.number
  kind : resolved.kind = field.kind
  repeated : resolved.repeated = field.repeated
  leads : file.LeadsTo field resolved.message

theorem resolveField_eq_ok_iff :
    file.resolveField path message field = .ok resolved ↔ file.ResolvesField field resolved := by
  rw [resolveField, map_eq_ok_iff]
  simp only [resolveType_eq_ok_iff]
  constructor
  · rintro ⟨found, hleads, rfl⟩
    exact ⟨rfl, rfl, rfl, rfl, hleads⟩
  · obtain ⟨name, number, kind, repeated, found⟩ := resolved
    rintro ⟨rfl, rfl, rfl, rfl, hleads⟩
    exact ⟨found, hleads, rfl⟩

/-- A resolved field of kind message has a message that its declaration refers to. -/
theorem ResolvesField.exists_refers (h : file.ResolvesField field resolved)
    (hkind : field.kind = .message) : ∃ typeName target, field.typeName = some typeName ∧
      file.Refers typeName target ∧ resolved.message = some target := by
  have hleads := h.leads
  -- the message is what the cases tell apart, so it must be a variable
  generalize resolved.message = found at hleads ⊢
  cases hleads with
  | nowhere hnot => exact absurd hkind hnot
  | message _ htype hrefers => exact ⟨_, _, htype, hrefers, rfl⟩

theorem exists_resolveField_iff (path message : String) :
    (∃ resolved, file.resolveField path message field = .ok resolved) ↔ file.Sound field := by
  simp only [resolveField_eq_ok_iff, ← exists_leadsTo_iff]
  constructor
  · rintro ⟨resolved, h⟩
    exact ⟨resolved.message, h.leads⟩
  · rintro ⟨found, hfound⟩
    exact ⟨⟨field.name, field.number, field.kind, field.repeated, found⟩,
      rfl, rfl, rfl, rfl, hfound⟩

theorem resolveField_eq_error_iff :
    file.resolveField path message field = .error fault ↔
      file.Offends path message field fault := by
  rw [resolveField, map_eq_error_iff, resolveType_eq_error_iff]

/-! ### Messages with resolved fields -/

/-- What a message is resolved to: its full name, and its fields in order. -/
def ResolvesMessage (file : SchemaFile) (message : MessageDeclaration)
    (entry : String × List SchemaField) : Prop :=
  entry.1 = file.qualify message.name ∧ List.Forall₂ file.ResolvesField message.fields entry.2

theorem resolveMessage_eq_ok_iff {message : MessageDeclaration}
    {entry : String × List SchemaField} :
    file.resolveMessage path message = .ok entry ↔ file.ResolvesMessage message entry := by
  rw [resolveMessage, ResolvesMessage, map_eq_ok_iff]
  simp only [mapM_eq_ok_iff, resolveField_eq_ok_iff]
  constructor
  · rintro ⟨fields, hfields, rfl⟩
    exact ⟨rfl, hfields⟩
  · rintro ⟨hname, hfields⟩
    exact ⟨entry.2, hfields, hname ▸ rfl⟩

/-- A schema has what the messages of its file are resolved to, in order. -/
theorem resolve_eq_ok_iff :
    file.resolve path = .ok schema ↔
      List.Forall₂ file.ResolvesMessage file.messages schema.messages := by
  rw [resolve, map_eq_ok_iff]
  simp only [mapM_eq_ok_iff, resolveMessage_eq_ok_iff]
  constructor
  · rintro ⟨messages, hmessages, rfl⟩
    exact hmessages
  · intro hmessages
    exact ⟨schema.messages, hmessages, rfl⟩

/-! ### The first field that leads nowhere -/

/-- The first field of a message that is not sound, and what is wrong with it. -/
inductive FirstStray (file : SchemaFile) (path : String) (message : MessageDeclaration) :
    SchemaError → Prop
  | mk {before behind : List FieldDeclaration} {field : FieldDeclaration} {fault : SchemaError}
    (hsplit : message.fields = before ++ field :: behind)
    (hbefore : ∀ earlier ∈ before, file.Sound earlier)
    (h : file.Offends path message.name field fault) : FirstStray file path message fault

/-- The first field of a file that is not sound, in the order of declaration, and what is wrong with
it. -/
inductive FirstOffence (file : SchemaFile) (path : String) : SchemaError → Prop
  | mk {before behind : List MessageDeclaration} {message : MessageDeclaration}
    {fault : SchemaError} (hsplit : file.messages = before ++ message :: behind)
    (hbefore : ∀ earlier ∈ before, ∀ field ∈ earlier.fields, file.Sound field)
    (h : file.FirstStray path message fault) : FirstOffence file path fault

theorem exists_resolveMessage_iff (path : String) {message : MessageDeclaration} :
    (∃ entry, file.resolveMessage path message = .ok entry) ↔
      ∀ field ∈ message.fields, file.Sound field := by
  simp only [resolveMessage_eq_ok_iff, ← exists_resolveField_iff path message.name,
    resolveField_eq_ok_iff]
  constructor
  · rintro ⟨entry, -, hfields⟩ field hfield
    obtain ⟨resolved, -, hresolved⟩ := exists_of_mem_of_forall₂ hfields.flip hfield
    exact ⟨resolved, hresolved⟩
  · intro h
    obtain ⟨fields, hfields⟩ := exists_forall₂_of_forall h
    exact ⟨(file.qualify message.name, fields), rfl, hfields⟩

theorem resolveMessage_eq_error_iff {message : MessageDeclaration} :
    file.resolveMessage path message = .error fault ↔ file.FirstStray path message fault := by
  rw [resolveMessage, map_eq_error_iff, mapM_eq_error_iff]
  simp only [exists_resolveField_iff, resolveField_eq_error_iff]
  constructor
  · rintro ⟨before, field, behind, hsplit, hbefore, h⟩
    exact .mk hsplit hbefore h
  · rintro ⟨hsplit, hbefore, h⟩
    exact ⟨_, _, _, hsplit, hbefore, h⟩

theorem exists_resolve_iff (path : String) :
    (∃ schema, file.resolve path = .ok schema) ↔
      ∀ message ∈ file.messages, ∀ field ∈ message.fields, file.Sound field := by
  simp only [resolve_eq_ok_iff, ← exists_resolveMessage_iff path, resolveMessage_eq_ok_iff]
  constructor
  · rintro ⟨schema, h⟩ message hmessage
    obtain ⟨entry, -, hentry⟩ := exists_of_mem_of_forall₂ h.flip hmessage
    exact ⟨entry, hentry⟩
  · intro h
    obtain ⟨entries, hentries⟩ := exists_forall₂_of_forall h
    exact ⟨⟨entries⟩, hentries⟩

theorem resolve_eq_error_iff :
    file.resolve path = .error fault ↔ file.FirstOffence path fault := by
  rw [resolve, map_eq_error_iff, mapM_eq_error_iff]
  -- the messages in front of the error are resolved, so all their fields are sound
  simp only [exists_resolveMessage_iff, resolveMessage_eq_error_iff]
  constructor
  · rintro ⟨before, message, behind, hsplit, hbefore, h⟩
    exact .mk hsplit hbefore h
  · rintro ⟨hsplit, hbefore, h⟩
    exact ⟨_, _, _, hsplit, hbefore, h⟩

end ChainFeed.SchemaFile
