import ChainFeed.Proofs.Json.Members
import ChainFeed.Proofs.Message.Resolution

/-!
# The history of a registry

A registry is what its registrations leave: those of its start, those of callers, and those of
schema files that were loaded. The last registration of a type url counts. A call that loads files
makes the registrations of the files in front of the first that cannot be used, file by file in the
order of declaration, and none of that file or of those behind it.

## Main definitions

- `Registry.Change`, `Registry.after`: calls that change a registry, and what they lead to
- `Registry.Loading`: how a call that loads files goes
- `Registry.History`: what a registry holds after its registrations

## Main results

- `Registry.after_eq`: a registry is its registrations, put in in order
- `Registry.loading_loadSchemas`: which files a call loads, and what it answers
- `Registry.history_after`: what a registry holds after any calls
-/

namespace ChainFeed

/-- The decoders of the messages that a file declares, in the order of declaration. -/
def SchemaFile.decoders (file : SchemaFile) (schema : Schema) : List (String × Decoder) :=
  file.messages.map fun message =>
    ("/" ++ file.qualify message.name, .dynamic schema (file.qualify message.name))

theorem SchemaFile.schemaDecoders_eq {file : SchemaFile} {path : String} {schema : Schema}
    (h : file.resolve path = .ok schema) :
    Registry.schemaDecoders schema = file.decoders schema := by
  rw [Registry.schemaDecoders, names_of_resolve h, declared, List.map_map]
  rfl

/-- Of declarations of one name the last one counts: all decoders under its type url read what a
file reads in which only the last one stands. -/
def SchemaFile.CountsLast (file : SchemaFile) (path : String) (schema : Schema) : Prop :=
  ∀ front message behind, file.messages = front ++ message :: behind →
    (∀ later ∈ behind, later.name ≠ message.name) →
      ∃ other, (file.withMessages ((front.filter fun earlier => earlier.name ≠ message.name) ++
          message :: behind)).resolve path = .ok other ∧
        message.fields.mapM (file.resolveField path message.name) =
          .ok (other.fields (file.qualify message.name)) ∧
        ∀ entry ∈ file.decoders schema, entry.1 = "/" ++ file.qualify message.name →
          entry.2.run = Decoder.run (.dynamic other (file.qualify message.name))

theorem SchemaFile.countsLast_of_resolve {file : SchemaFile} {path : String} {schema : Schema}
    (h : file.resolve path = .ok schema) : file.CountsLast path schema := by
  intro front message behind hsplit hlast
  obtain ⟨other, hother, hfields, hdecode⟩ := resolve_without h hsplit
  refine ⟨other, hother, ?_, fun entry hmem hurl => ?_⟩
  · rw [hfields]
    exact fields_of_resolve h hsplit hlast
  · obtain ⟨declaration, -, rfl⟩ := List.mem_map.mp hmem
    have hname : file.qualify declaration.name = file.qualify message.name :=
      (String.append_right_inj _).mp hurl
    funext bytes
    rw [hname, Decoder.run, Decoder.run, hdecode]

namespace Registry

/-! ### Calls -/

/-- A call that changes a registry. -/
inductive Change where
  | register (typeUrl : String) (decoder : Decoder)
  /-- Loads files by `read`, which may give other texts at another call. -/
  | load (read : String → Except FileError String) (paths : List String)

/-- What a registry starts with. -/
inductive Start where
  | empty
  | withDefaults

/-- The registry at the start. -/
def Start.registry : Start → Registry
  | .empty => Registry.empty
  | .withDefaults => Registry.withDefaults

/-- The registrations at the start. -/
def Start.registrations : Start → List (String × Decoder)
  | .empty => []
  | .withDefaults => Layout.builtin.map fun (typeUrl, layout) => (typeUrl, .builtin layout)

/-- The registry behind a call. -/
def apply (registry : Registry) : Change → Registry
  | .register typeUrl decoder => registry.register typeUrl decoder
  | .load read paths => (registry.loadSchemas read paths).1

/-- The registry behind all calls. -/
def after (start : Start) (changes : List Change) : Registry :=
  changes.foldl apply start.registry

/-- The schemas of the files in front of the first that cannot be used. -/
def loaded (read : String → Except FileError String) (paths : List String) : List Schema :=
  ((paths.map fun path => SchemaFile.load path (read path)).takeWhile Except.isOk).filterMap
    Except.toOption

/-- The registrations that a call makes. -/
def Change.registrations : Change → List (String × Decoder)
  | .register typeUrl decoder => [(typeUrl, decoder)]
  | .load read paths => (loaded read paths).flatMap schemaDecoders

/-- All registrations of a history, in order. -/
def registrations (start : Start) (changes : List Change) : List (String × Decoder) :=
  start.registrations ++ changes.flatMap Change.registrations

variable {registry other : Registry} {typeUrl path : String} {decoder : Decoder}
  {entries front behind : List (String × Decoder)} {read : String → Except FileError String}
  {paths : List String} {schema : Schema} {fault : SchemaError}

/-! ### Registrations -/

/-- The last of some registrations of a type url. -/
def LastOf (entries : List (String × Decoder)) (typeUrl : String) (decoder : Decoder) : Prop :=
  ∃ front behind, entries = front ++ (typeUrl, decoder) :: behind ∧
    ∀ later ∈ behind, later.1 ≠ typeUrl

theorem lookup_reverse_eq_some_iff :
    entries.reverse.lookup typeUrl = some decoder ↔ LastOf entries typeUrl decoder := by
  rw [List.lookup_eq_some_iff]
  constructor
  · rintro ⟨behind, front, hsplit, hbehind⟩
    refine ⟨front.reverse, behind.reverse, ?_, fun later hmem heq => ?_⟩
    · rw [← List.reverse_reverse entries, hsplit, List.reverse_append, List.reverse_cons,
        List.append_assoc, List.singleton_append]
    · exact bne_iff_ne.mp (hbehind later (List.mem_reverse.mp hmem)) heq.symm
  · rintro ⟨front, behind, rfl, hbehind⟩
    refine ⟨behind.reverse, front.reverse, ?_, fun later hmem => bne_iff_ne.mpr fun heq => ?_⟩
    · rw [List.reverse_append, List.reverse_cons, List.append_assoc, List.singleton_append]
    · exact hbehind later (List.mem_reverse.mp hmem) heq.symm

/-- Decoders that are registered in order are members that are put in in order. -/
theorem decoders_registerAll (registry : Registry) (entries : List (String × Decoder)) :
    (registry.registerAll entries).decoders =
      entries.foldl (fun members entry => members.insert entry.1 entry.2) registry.decoders := by
  rw [registerAll]
  induction entries generalizing registry with
  | nil => rfl
  | cons entry entries ih =>
    rw [List.foldl_cons, ih]
    rfl

theorem registerAll_append (registry : Registry) (entries others : List (String × Decoder)) :
    registry.registerAll (entries ++ others) = (registry.registerAll entries).registerAll others :=
  List.foldl_append

/-- The last of some registrations of a type url counts, and without any what was there before. -/
theorem find?_registerAll (registry : Registry) (entries : List (String × Decoder))
    (typeUrl : String) :
    (registry.registerAll entries).find? typeUrl =
      (entries.reverse.lookup typeUrl).or (registry.find? typeUrl) := by
  -- registrations are made from the front, so the induction takes them from the back
  induction entries using List.reverseRecOn with
  | nil => rfl
  | append_singleton entries entry ih =>
    have hregister : registry.registerAll (entries ++ [entry]) =
        (registry.registerAll entries).register entry.1 entry.2 := registerAll_append ..
    rw [hregister, find?, register, Members.get?_insert, List.reverse_append,
      List.reverse_singleton, List.singleton_append, List.lookup_cons]
    by_cases hurl : entry.1 = typeUrl
    · rw [if_pos hurl, hurl, beq_self_eq_true]
      rfl
    · rw [if_neg hurl, beq_false_of_ne (Ne.symm hurl)]
      exact ih

/-- Which decoder a registry has is all that matters to a message. -/
theorem decode_congr (h : registry.find? typeUrl = other.find? typeUrl) (bytes : List UInt8) :
    registry.decode typeUrl bytes = other.decode typeUrl bytes := by
  rw [decode, decode, h]

/-! ### Files -/

theorem loaded_cons_of_ok (h : SchemaFile.load path (read path) = .ok schema)
    (paths : List String) : loaded read (path :: paths) = schema :: loaded read paths := by
  rw [loaded, List.map_cons, h, List.takeWhile_cons_of_pos rfl]
  rfl

theorem loaded_cons_of_error (h : SchemaFile.load path (read path) = .error fault)
    (paths : List String) : loaded read (path :: paths) = [] := by
  rw [loaded, List.map_cons, h, List.takeWhile_cons_of_neg Bool.false_ne_true]
  rfl

/-- A call that loads files makes their registrations. -/
theorem loadSchemas_fst (registry : Registry) (read : String → Except FileError String)
    (paths : List String) :
    (registry.loadSchemas read paths).1 =
      registry.registerAll (Change.load read paths).registrations := by
  induction paths generalizing registry with
  | nil => rfl
  | cons path paths ih =>
    rw [loadSchemas, Change.registrations]
    cases hload : SchemaFile.load path (read path) with
    | error fault =>
      rw [loaded_cons_of_error hload]
      rfl
    | ok schema =>
      rw [loaded_cons_of_ok hload, List.flatMap_cons, registerAll_append]
      exact ih _

/-- How a call that loads files goes: it loads all of them, and answers with their type urls in
order, or those in front of one that cannot be used, and answers why it cannot. -/
inductive Loading (read : String → Except FileError String) :
    List String → List (SchemaFile × Schema) → Except SchemaError (List String) → Prop
  | all {paths : List String} {files : List (SchemaFile × Schema)}
    (h : List.Forall₂ (fun path entry => SchemaFile.Loads path (read path) entry.1 entry.2)
      paths files) :
    Loading read paths files
      (.ok (files.flatMap fun entry => (entry.1.decoders entry.2).map (·.1)))
  | upTo {front behind : List String} {path : String} {files : List (SchemaFile × Schema)}
    {fault : SchemaError}
    (h : List.Forall₂ (fun path entry => SchemaFile.Loads path (read path) entry.1 entry.2)
      front files)
    (hrefuses : SchemaFile.Refuses path (read path) fault) :
    Loading read (front ++ path :: behind) files (.error fault)

/-- One more file in front. -/
theorem Loading.cons {file : SchemaFile} {files : List (SchemaFile × Schema)}
    {answer : Except SchemaError (List String)}
    (hfirst : SchemaFile.Loads path (read path) file schema) (h : Loading read paths files answer) :
    Loading read (path :: paths) ((file, schema) :: files)
      (answer.map fun typeUrls => (file.decoders schema).map (·.1) ++ typeUrls) := by
  cases h with
  | all h => exact .all (.cons hfirst h)
  | upTo h hrefuses =>
    rw [← List.cons_append]
    exact .upTo (.cons hfirst h) hrefuses

/-- No file is loaded if the first cannot be used. -/
theorem loading_of_refuses (h : SchemaFile.Refuses path (read path) fault) (paths : List String) :
    Loading read (path :: paths) [] (.error fault) := by
  rw [← List.nil_append (path :: paths)]
  exact .upTo .nil h

theorem loading_loadSchemas (registry : Registry) (read : String → Except FileError String)
    (paths : List String) :
    ∃ files, Loading read paths files (registry.loadSchemas read paths).2 ∧
      (Change.load read paths).registrations =
        files.flatMap fun entry => entry.1.decoders entry.2 := by
  induction paths generalizing registry with
  | nil => exact ⟨[], .all .nil, rfl⟩
  | cons path paths ih =>
    rw [loadSchemas, Change.registrations]
    cases hload : SchemaFile.load path (read path) with
    | error fault =>
      refine ⟨[], loading_of_refuses (SchemaFile.load_eq_error_iff.mp hload) paths, ?_⟩
      rw [loaded_cons_of_error hload]
      rfl
    | ok schema =>
      obtain ⟨file, hfile⟩ := SchemaFile.load_eq_ok_iff.mp hload
      obtain ⟨files, hloading, hregistrations⟩ := ih (registry.registerAll (schemaDecoders schema))
      have hdecoders : schemaDecoders schema = file.decoders schema :=
        SchemaFile.schemaDecoders_eq hfile.resolve_eq
      refine ⟨(file, schema) :: files, ?_, ?_⟩
      · have hcons := hloading.cons hfile
        rwa [← hdecoders] at hcons
      · rw [loaded_cons_of_ok hload, List.flatMap_cons, List.flatMap_cons, hdecoders]
        exact congrArg _ hregistrations

/-! ### Histories -/

theorem registry_start (start : Start) :
    start.registry = Registry.empty.registerAll start.registrations := by
  cases start <;> rfl

theorem apply_eq (registry : Registry) (change : Change) :
    registry.apply change = registry.registerAll change.registrations := by
  cases change with
  | register => rfl
  | load read paths => exact loadSchemas_fst registry read paths

/-- A registry is its registrations, made in order. -/
theorem after_eq (start : Start) (changes : List Change) :
    after start changes = Registry.empty.registerAll (registrations start changes) := by
  have hfold : ∀ registry : Registry, changes.foldl apply registry =
      registry.registerAll (changes.flatMap Change.registrations) := by
    induction changes with
    | nil => exact fun _ => rfl
    | cons change changes ih =>
      intro registry
      rw [List.foldl_cons, ih, apply_eq, List.flatMap_cons, registerAll_append]
  rw [after, hfold, registry_start, registrations, registerAll_append]

theorem find?_after (start : Start) (changes : List Change) (typeUrl : String) :
    (after start changes).find? typeUrl = (registrations start changes).reverse.lookup typeUrl := by
  rw [after_eq, find?_registerAll]
  exact Option.or_none

/-- What a call that loads files does to a registry. -/
structure LoadsFiles (registry : Registry) (read : String → Except FileError String)
    (paths : List String) (files : List (SchemaFile × Schema)) : Prop where
  /-- The files are those in front of the first that cannot be used. -/
  loading : Loading read paths files (registry.loadSchemas read paths).2
  /-- Their messages are registered, file by file, and nothing else is. -/
  registrations_eq : (Change.load read paths).registrations =
    files.flatMap fun entry => entry.1.decoders entry.2
  /-- Of registrations of one type url the last counts. -/
  registers : ∀ typeUrl decoder, LastOf (Change.load read paths).registrations typeUrl decoder →
    (registry.loadSchemas read paths).1.find? typeUrl = some decoder
  /-- All other decoders stay. -/
  keeps : ∀ typeUrl, (∀ entry ∈ (Change.load read paths).registrations, entry.1 ≠ typeUrl) →
    (registry.loadSchemas read paths).1.find? typeUrl = registry.find? typeUrl
  /-- All decoders of a message that is declared again read what is declared last. -/
  countsLast : ∀ entry ∈ files, ∃ path ∈ paths, entry.1.CountsLast path entry.2

theorem Loading.countsLast {files : List (SchemaFile × Schema)}
    {answer : Except SchemaError (List String)} (h : Loading read paths files answer) :
    ∀ entry ∈ files, ∃ path ∈ paths, entry.1.CountsLast path entry.2 := by
  intro entry hmem
  cases h with
  | all h =>
    obtain ⟨path, hpath, hloads⟩ := exists_of_mem_of_forall₂ h hmem
    exact ⟨path, hpath, SchemaFile.countsLast_of_resolve hloads.resolve_eq⟩
  | upTo h =>
    obtain ⟨path, hpath, hloads⟩ := exists_of_mem_of_forall₂ h hmem
    exact ⟨path, List.mem_append_left _ hpath, SchemaFile.countsLast_of_resolve hloads.resolve_eq⟩

theorem exists_loadsFiles (registry : Registry) (read : String → Except FileError String)
    (paths : List String) : ∃ files, registry.LoadsFiles read paths files := by
  obtain ⟨files, hloading, hregistrations⟩ := loading_loadSchemas registry read paths
  refine ⟨files, hloading, hregistrations, fun typeUrl decoder hlast => ?_, fun typeUrl hne => ?_,
    hloading.countsLast⟩
  · rw [loadSchemas_fst, find?_registerAll, lookup_reverse_eq_some_iff.mpr hlast, Option.some_or]
  · have hnone : (Change.load read paths).registrations.reverse.lookup typeUrl = none :=
      List.lookup_eq_none_iff.mpr fun entry hmem =>
        bne_iff_ne.mpr (hne entry (List.mem_reverse.mp hmem)).symm
    rw [loadSchemas_fst, find?_registerAll, hnone, Option.none_or]

/-- What a registry holds after its registrations. -/
structure History (start : Start) (changes : List Change) : Prop where
  /-- Type urls that were registered have a decoder. -/
  contains_iff : ∀ typeUrl, (after start changes).contains typeUrl = true ↔
    ∃ decoder, (typeUrl, decoder) ∈ registrations start changes
  /-- They are listed. -/
  mem_typeUrls_iff : ∀ typeUrl, typeUrl ∈ (after start changes).typeUrls ↔
    ∃ decoder, (typeUrl, decoder) ∈ registrations start changes
  /-- Each of them is listed once. -/
  nodup_typeUrls : (after start changes).typeUrls.Nodup
  /-- Messages are decoded by the decoder that was registered last. -/
  decode_eq : ∀ typeUrl decoder, LastOf (registrations start changes) typeUrl decoder →
    ∀ bytes, (after start changes).decode typeUrl bytes =
      (Registry.empty.register typeUrl decoder).decode typeUrl bytes
  /-- Files are loaded up to the first that cannot be used. -/
  exists_loads : ∀ read paths, ∃ files, (after start changes).LoadsFiles read paths files

/-- Calls leave a registry with what they registered, the last registration of each type url. -/
theorem history_after (start : Start) (changes : List Change) : History start changes := by
  have hcontains : ∀ typeUrl, (after start changes).contains typeUrl = true ↔
      ∃ decoder, (typeUrl, decoder) ∈ registrations start changes := by
    intro typeUrl
    have hfind := find?_after start changes typeUrl
    rw [find?] at hfind
    rw [Registry.contains, Members.contains, hfind, List.lookup_isSome_iff]
    simp only [List.mem_reverse, beq_iff_eq, Prod.exists, exists_and_right, exists_eq_right']
  have hsorted : (after start changes).decoders.Sorted := by
    rw [after_eq, decoders_registerAll]
    exact Members.sorted_ofList _
  refine ⟨hcontains, fun typeUrl => ?_, hsorted.nodup, fun typeUrl decoder hlast bytes => ?_,
    exists_loadsFiles _⟩
  · rw [← hcontains, Registry.contains, Members.contains_iff_mem]
    rfl
  · refine decode_congr ?_ bytes
    rw [find?_after, lookup_reverse_eq_some_iff.mpr hlast, find?, register,
      Members.get?_insert_self]

end Registry

end ChainFeed
