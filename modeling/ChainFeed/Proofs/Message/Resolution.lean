import ChainFeed.Message.Registry
import ChainFeed.Proofs.Message.References

/-!
# Schemas of files

A schema has the messages of its file in the order of their declaration, each with its fields
resolved. Where a name is declared more than once the last declaration counts: a file whose
superseded declarations are taken out has the same decoder.

## Main definitions

- `SchemaFile.Loads`: a text declares a file, and a schema has what the file is resolved to
- `SchemaFile.Refuses`: why a file is not used
- `SchemaFile.withMessages`: the same package with other messages

## Main results

- `SchemaFile.load_eq_ok_iff`, `SchemaFile.load_eq_error_iff`: how a file comes to its schema
- `SchemaFile.names_of_resolve`: the messages of a schema are those declared
- `SchemaFile.fields_of_resolve`: of declarations of one name the last one counts
- `SchemaFile.resolve_without`: superseded declarations do not matter to the decoder
-/

namespace ChainFeed

/-! ### Reading a file -/

namespace SchemaFile

variable {file : SchemaFile} {path : String} {schema : Schema} {text : Except FileError String}
  {fault : SchemaError}

/-- A text that can be read declares the messages of a file. -/
inductive Declares : Except FileError String → SchemaFile → Prop
  | mk {text : String} {file : SchemaFile} (h : reader.ofText (Utf8.encode text) = .ok file) :
    Declares (.ok text) file

/-- A text declares the messages of a file, and the schema has what they are resolved to. -/
structure Loads (path : String) (text : Except FileError String) (file : SchemaFile)
    (schema : Schema) : Prop where
  declares : Declares text file
  resolve_eq : file.resolve path = .ok schema

/-- Why a file is not used: there is no text, the text declares no messages, or a field in it leads
nowhere. -/
inductive Refuses (path : String) : Except FileError String → SchemaError → Prop
  | unreadable {error : FileError} : Refuses path (.error error) (.unreadable path error)
  | malformed {text : String} {fault : ReadFault}
    (h : reader.ofText (Utf8.encode text) = .error fault) :
    Refuses path (.ok text) (.malformed path fault)
  | stray {text : Except FileError String} {file : SchemaFile} {fault : SchemaError}
    (hdeclares : Declares text file) (h : file.FirstOffence path fault) : Refuses path text fault

theorem load_eq_ok_iff : load path text = .ok schema ↔ ∃ file, Loads path text file schema := by
  constructor
  · intro h
    unfold load at h
    split at h
    · cases h
    · split at h
      · cases h
      · rename_i file hread
        exact ⟨file, .mk hread, h⟩
  · rintro ⟨file, ⟨hread⟩, h⟩
    unfold load
    dsimp only
    rw [hread]
    exact h

theorem load_eq_error_iff : load path text = .error fault ↔ Refuses path text fault := by
  constructor
  · intro h
    unfold load at h
    split at h
    · cases h
      exact .unreadable
    · split at h
      · rename_i hread
        cases h
        exact .malformed hread
      · rename_i hread
        exact .stray (.mk hread) (resolve_eq_error_iff.mp h)
  · rintro (- | h | ⟨⟨hread⟩, h⟩)
    · rfl
    · simp only [load, h]
    · simp only [load, hread]
      exact resolve_eq_error_iff.mpr h

/-! ### Names -/

theorem qualify_inj {name other : String} :
    file.qualify name = file.qualify other ↔ name = other := by
  refine ⟨fun h => ?_, congrArg file.qualify⟩
  unfold qualify at h
  split at h
  · exact h
  · exact (String.append_right_inj _).mp h

/-- The messages of a schema are those declared. -/
theorem names_of_resolve (h : file.resolve path = .ok schema) : schema.names = file.declared := by
  have hnames : List.Forall₂ (· = ·) (file.messages.map fun message => file.qualify message.name)
      (schema.messages.map (·.1)) := by
    rw [List.forall₂_map_left_iff, List.forall₂_map_right_iff]
    exact (resolve_eq_ok_iff.mp h).imp fun _ _ hresolved => hresolved.1.symm
  rw [List.forall₂_eq_eq_eq] at hnames
  exact hnames.symm

end SchemaFile

/-! ### Redeclared messages -/

/-- A list that corresponds to another one splits where that one does. -/
theorem exists_of_forall₂_split {α β : Type} {R : α → β → Prop} {front behind : List α} {x : α}
    {ys : List β} (h : List.Forall₂ R (front ++ x :: behind) ys) :
    ∃ fs y bs, ys = fs ++ y :: bs ∧ List.Forall₂ R front fs ∧ R x y ∧
      List.Forall₂ R behind bs := by
  induction front generalizing ys with
  | nil =>
    obtain ⟨y, bs, hy, hbs, rfl⟩ := List.forall₂_cons_left_iff.mp h
    exact ⟨[], y, bs, rfl, .nil, hy, hbs⟩
  | cons first front ih =>
    obtain ⟨f, ys, hf, hys, rfl⟩ := List.forall₂_cons_left_iff.mp h
    obtain ⟨fs, y, bs, rfl, hfs, hy, hbs⟩ := ih hys
    exact ⟨f :: fs, y, bs, rfl, .cons hf hfs, hy, hbs⟩

namespace Schema

variable {schema other : Schema} {name key : String} {fields : List SchemaField}
  {front behind : List (String × List SchemaField)}

theorem fields_of_last (hsplit : schema.messages = front ++ (name, fields) :: behind)
    (hlast : ∀ later ∈ behind, later.1 ≠ name) : schema.fields name = fields := by
  have hlookup : schema.messages.reverse.lookup name = some fields := by
    refine List.lookup_eq_some_iff.mpr ⟨behind.reverse, front.reverse, ?_, fun later hmem => ?_⟩
    · rw [hsplit, List.reverse_append, List.reverse_cons, List.append_assoc, List.singleton_append]
    · rw [bne_iff_ne]
      exact (hlast later (List.mem_reverse.mp hmem)).symm
  rw [Schema.fields, hlookup, Option.getD_some]

theorem lookup_filter_of_ne (h : name ≠ key) (entries : List (String × List SchemaField)) :
    (entries.filter fun entry => entry.1 ≠ key).lookup name = entries.lookup name := by
  induction entries with
  | nil => rfl
  | cons entry entries ih =>
    by_cases hkey : entry.1 = key
    · have hne : (name == entry.1) = false := beq_false_of_ne (hkey ▸ h)
      rw [List.filter_cons_of_neg (by simpa using hkey), List.lookup_cons, hne, ih]
    · rw [List.filter_cons_of_pos (by simpa using hkey), List.lookup_cons, List.lookup_cons, ih]

/-- Messages of a name that stands again behind them do not count. -/
theorem fields_of_without (hsplit : schema.messages = front ++ (key, fields) :: behind)
    (hother : other.messages = (front.filter fun entry => entry.1 ≠ key) ++ (key, fields) :: behind)
    (name : String) : other.fields name = schema.fields name := by
  have hlookup : other.messages.reverse.lookup name = schema.messages.reverse.lookup name := by
    rw [hsplit, hother, List.reverse_append, List.reverse_append, List.lookup_append,
      List.lookup_append, List.reverse_cons, List.lookup_append]
    by_cases hname : name = key
    · have hself : [(key, fields)].lookup name = some fields := hname ▸ List.lookup_cons_self
      rw [hself, Option.or_assoc, Option.or_assoc, Option.some_or, Option.some_or]
    · rw [← List.filter_reverse, lookup_filter_of_ne hname]
  rw [Schema.fields, Schema.fields, hlookup]

/-- What is read of a message depends on the fields of messages only. -/
theorem decode_congr (h : ∀ name, schema.fields name = other.fields name) :
    schema.decode = other.decode := by
  have hmessage : ∀ room, schema.decodeMessage room = other.decodeMessage room := by
    intro room
    induction room with
    | zero => rfl
    | succ room ih =>
      funext name bytes
      rw [decodeMessage, decodeMessage, ih, h name]
  funext name bytes
  rw [decode, decode, hmessage]

end Schema

namespace SchemaFile

variable {file : SchemaFile} {path : String} {schema : Schema}
  {front behind : List MessageDeclaration} {message : MessageDeclaration}

/-- Of declarations of one name the last one counts. -/
theorem resolvesField_of_last (h : file.resolve path = .ok schema)
    (hsplit : file.messages = front ++ message :: behind)
    (hlast : ∀ later ∈ behind, later.name ≠ message.name) :
    List.Forall₂ file.ResolvesField message.fields
      (schema.fields (file.qualify message.name)) := by
  have hforall := resolve_eq_ok_iff.mp h
  rw [hsplit] at hforall
  obtain ⟨fs, ⟨name, fields⟩, bs, hmessages, -, ⟨rfl, hfields⟩, hbehind⟩ :=
    exists_of_forall₂_split hforall
  rw [Schema.fields_of_last hmessages]
  · exact hfields
  · intro later hmem
    obtain ⟨declaration, hdeclaration, hresolved⟩ := exists_of_mem_of_forall₂ hbehind hmem
    rw [hresolved.1]
    exact fun heq => hlast declaration hdeclaration (qualify_inj.mp heq)

theorem fields_of_resolve (h : file.resolve path = .ok schema)
    (hsplit : file.messages = front ++ message :: behind)
    (hlast : ∀ later ∈ behind, later.name ≠ message.name) :
    message.fields.mapM (file.resolveField path message.name) =
      .ok (schema.fields (file.qualify message.name)) := by
  simp only [mapM_eq_ok_iff, resolveField_eq_ok_iff]
  exact resolvesField_of_last h hsplit hlast

/-- A message whose name no other one has is resolved to its own fields. -/
theorem resolvesField_of_mem (h : file.resolve path = .ok schema)
    (hnames : (file.messages.map (·.name)).Nodup) (hmem : message ∈ file.messages) :
    List.Forall₂ file.ResolvesField message.fields (schema.fields (file.qualify message.name)) := by
  obtain ⟨front, behind, hsplit⟩ := List.append_of_mem hmem
  have hlast : ∀ later ∈ behind, later.name ≠ message.name := by
    intro later hlater heq
    rw [hsplit, List.map_append, List.map_cons] at hnames
    have hcons := (List.nodup_append.mp hnames).2.1
    exact (List.nodup_cons.mp hcons).1 (heq ▸ List.mem_map_of_mem hlater)
  exact resolvesField_of_last h hsplit hlast

/-- The same package with other messages. -/
def withMessages (file : SchemaFile) (messages : List MessageDeclaration) : SchemaFile :=
  { file with messages }

theorem declared_withMessages (messages : List MessageDeclaration) :
    (file.withMessages messages).declared = messages.map fun message => file.qualify message.name :=
  rfl

theorem Refers.withMessages {messages : List MessageDeclaration} {typeName target : String}
    (hdeclared : ∀ name, name ∈ (file.withMessages messages).declared ↔ name ∈ file.declared)
    (h : file.Refers typeName target) : (file.withMessages messages).Refers typeName target := by
  cases h with
  | full hbare hfull => exact .full hbare ((hdeclared _).mpr hfull)
  | relative hbare hfull hrelative =>
    exact .relative hbare (mt (hdeclared _).mp hfull) ((hdeclared _).mpr hrelative)

/-- Where the names that are declared are the same, declarations are resolved alike. -/
theorem ResolvesMessage.withMessages {messages : List MessageDeclaration}
    {entry : String × List SchemaField}
    (hdeclared : ∀ name, name ∈ (file.withMessages messages).declared ↔ name ∈ file.declared)
    (h : file.ResolvesMessage message entry) :
    (file.withMessages messages).ResolvesMessage message entry := by
  refine ⟨h.1, h.2.imp fun field resolved hresolved => { hresolved with leads := ?_ }⟩
  have hleads := hresolved.leads
  generalize resolved.message = found at hleads ⊢
  cases hleads with
  | nowhere hkind => exact .nowhere hkind
  | message hkind htype hrefers => exact .message hkind htype (hrefers.withMessages hdeclared)

/-- A name that is left out in front of a declaration of it is still declared. -/
theorem mem_declared_without (hsplit : file.messages = front ++ message :: behind) (name : String) :
    name ∈ (file.withMessages ((front.filter fun earlier => earlier.name ≠ message.name) ++
      message :: behind)).declared ↔ name ∈ file.declared := by
  rw [declared_withMessages, declared, hsplit]
  simp only [List.map_append, List.mem_append, List.map_cons, List.mem_cons]
  by_cases hname : name = file.qualify message.name
  · simp only [hname, true_or, or_true]
  · refine or_congr_left ⟨fun hmem => (List.filter_sublist.map _).subset hmem, fun hmem => ?_⟩
    obtain ⟨earlier, hearlier, rfl⟩ := List.mem_map.mp hmem
    have hne : earlier.name ≠ message.name := mt (congrArg file.qualify) hname
    exact List.mem_map_of_mem (List.mem_filter.mpr ⟨hearlier, decide_eq_true hne⟩)

/-- Declarations of a name that is declared again behind them do not matter to the decoder. -/
theorem resolve_without (h : file.resolve path = .ok schema)
    (hsplit : file.messages = front ++ message :: behind) :
    ∃ other, (file.withMessages ((front.filter fun earlier => earlier.name ≠ message.name) ++
        message :: behind)).resolve path = .ok other ∧
      (∀ name, other.fields name = schema.fields name) ∧ other.decode = schema.decode := by
  have hforall := resolve_eq_ok_iff.mp h
  rw [hsplit] at hforall
  obtain ⟨fs, ⟨name, fields⟩, bs, hmessages, hfront, hmessage, hbehind⟩ :=
    exists_of_forall₂_split hforall
  obtain rfl : name = file.qualify message.name := hmessage.1
  have hfiltered : List.Forall₂ file.ResolvesMessage
      (front.filter fun earlier => earlier.name ≠ message.name)
      (fs.filter fun entry => entry.1 ≠ file.qualify message.name) := by
    refine List.rel_filter (fun earlier entry hentry => ?_) hfront
    simp only [hentry.1, decide_eq_true_eq, ne_eq, qualify_inj]
  have hfields : ∀ name, (Schema.mk ((fs.filter fun entry => entry.1 ≠ file.qualify message.name) ++
      (file.qualify message.name, fields) :: bs)).fields name = schema.fields name :=
    Schema.fields_of_without hmessages rfl
  refine ⟨⟨_⟩, resolve_eq_ok_iff.mpr ?_, hfields, Schema.decode_congr hfields⟩
  have hresolves := List.rel_append hfiltered (.cons hmessage hbehind)
  exact hresolves.imp fun _ _ hresolved => hresolved.withMessages (mem_declared_without hsplit)

end SchemaFile

end ChainFeed
