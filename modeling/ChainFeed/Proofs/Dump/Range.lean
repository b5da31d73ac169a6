import ChainFeed.Proofs.Dump.Printing
import ChainFeed.Proofs.Except
import ChainFeed.Proofs.Feed.Delivery
import ChainFeed.Proofs.Json.Printer
import ChainFeed.Proofs.Node.Form

/-!
# A dump of a range of heights

On a machine whose files and node stay the same, what is read or answered depends on the question
only. A dump then prints each height of its range once and in order, and the batches in which the
heights are fetched cannot be seen: they only say how far a dump comes that meets a height without
a block, which ends it before the first height of its batch.

All this takes a list of the heights. Where there can be none, or there is no memory for it, the
program is stopped in front of the first height, whatever the node holds.

## Main definitions

- `Dump.Machine.Steady`: a machine whose files and node stay the same
- `Dump.pairOf`, `Dump.recordsAt`: what a node holds at a height, and its records
- `Dump.Ready`: a steady machine with all that a dump needs before its first height
- `Dump.Dumps`: what a dump prints, and its exit code
- `Dump.heightsBefore`: how many heights of a range stand before the batch of one of them
- `Dump.RangeDumps`: what becomes of a range of heights

## Main results

- `Dump.printsInRange_writeBatches`, `Dump.printsInRange_writeBatches_error`: a list of heights
- `Dump.collect_eq_ok_iff`: when there is a list of the heights
- `Dump.Ready.prints_run`: what a dump prints is decided by its range
- `Dump.dumps_range`: a whole dump
-/

namespace ChainFeed.Dump

variable {σ : Type} {lines : σ → List Json} {machine : Machine (StateM σ)} {feed : FeedOptions}
  {files : String → Except FileError String} {node : NodeCall → Except ConnectionError Json}

/-! ### Steady machines -/

variable (machine feed lines files node) in
/-- A machine that prints what is written to it, and whose files and node stay the same. -/
structure Machine.Steady : Prop where
  reads : ∀ path, Prints lines (machine.readText path) [] (files path)
  answers : ∀ call, Prints lines (JsonRpc.transport machine.exchange feed.node.url
    feed.node.maxResponseSize.toNat call).run [] (node call)
  now : ∀ s, lines (machine.now.run s).2 = lines s
  waits : ∀ milliseconds, Prints lines (machine.pause milliseconds) [] ()
  writes : ∀ record, Prints lines (machine.write record) [record] ()

/-! ### Files -/

/-- Handlers are those of a file, or there is one for every block. -/
def HandlersOf (files : String → Except FileError String) :
    Option String → List Handler → Prop
  | none, handlers => handlers = [.block none]
  | some path, handlers => ∃ text, files path = .ok text ∧
      (Reader.list Handler.reader).ofText (Utf8.encode text) = .ok handlers

theorem prints_loadHandlers (h : machine.Steady lines feed files node) {path : Option String}
    {handlers : List Handler} (hhandlers : HandlersOf files path handlers) :
    Prints lines (loadHandlers machine path).run [] (.ok handlers) := by
  cases path with
  | none =>
    obtain rfl : handlers = [.block none] := hhandlers
    exact prints_pure _
  | some path =>
    obtain ⟨text, htext, hread⟩ := hhandlers
    rw [loadHandlers]
    refine (h.reads path).run_lift.run_bind ?_
    rw [htext]
    dsimp only
    rw [hread]
    exact prints_pure _

/-- The schemas depend on the texts at their own paths only. -/
theorem loadSchemas_congr {read read' : String → Except FileError String} {paths : List String}
    (h : ∀ path ∈ paths, read path = read' path) (registry : Registry) :
    registry.loadSchemas read paths = registry.loadSchemas read' paths := by
  induction paths generalizing registry with
  | nil => rfl
  | cons path paths ih =>
    obtain ⟨hfirst, hrest⟩ := List.forall_mem_cons.mp h
    rw [Registry.loadSchemas, Registry.loadSchemas, hfirst]
    cases SchemaFile.load path (read' path) with
    | error e => rfl
    | ok schema =>
      dsimp only
      rw [ih hrest]

theorem lookup_map_of_mem {β : Type} {f : String → β} {paths : List String} {path : String}
    (h : path ∈ paths) : (paths.map fun path => (path, f path)).lookup path = some (f path) := by
  induction paths with
  | nil => exact absurd h List.not_mem_nil
  | cons head paths ih =>
    rw [List.map_cons, List.lookup_cons]
    by_cases heq : path = head
    · rw [heq, beq_self_eq_true]
    · rw [beq_false_of_ne heq]
      exact ih ((List.mem_cons.mp h).resolve_left heq)

theorem prints_readAll (h : machine.Steady lines feed files node) (directory : String)
    (paths : List String) :
    Prints lines
      (paths.mapM fun path => do
        return (path, ← machine.readText (Directory.join directory path))) []
      (paths.map fun path => (path, files (Directory.join directory path))) := by
  induction paths with
  | nil => exact prints_pure _
  | cons path paths ih =>
    rw [List.mapM_cons, List.map_cons]
    have hread : Prints lines (do return (path, ← machine.readText (Directory.join directory path)))
        [] (path, files (Directory.join directory path)) := (h.reads _).bind (prints_pure _)
    exact hread.bind (ih.bind (prints_pure _))

theorem prints_loadRegistry {options : DumpOptions}
    (h : machine.Steady lines feed files node) {registry : Registry} {typeUrls : List String}
    (hload : Registry.withDefaults.loadSchemas
      (fun path => files (Directory.join options.schemaDir path)) options.schemas =
        (registry, .ok typeUrls)) :
    Prints lines (loadRegistry machine options).run [] (.ok registry) := by
  rw [loadRegistry]
  refine (prints_readAll h options.schemaDir options.schemas).run_lift.run_bind ?_
  dsimp only
  rw [loadSchemas_congr (fun path hpath => by rw [lookup_map_of_mem hpath, Option.getD_some]),
    hload]
  exact prints_pure _

/-! ### The node -/

/-- What a node holds at a height. -/
def pairOf (protocol : Protocol) (node : NodeCall → Except ConnectionError Json)
    (height : UInt64) : Except FetchError BlockPair :=
  Batch.pairAt protocol (fun call => node call.call) 0 height

section Node

variable {transport : Transport (StateM σ)} {client : NodeClient} {α : Type}

theorem prints_query (h : ∀ call, Prints lines (transport call).run [] (node call))
    (call : NodeCall) (decode : Json → Except DecodeError α) :
    Prints lines (NodeClient.query transport call decode).run []
      (readAnswer decode (node call)) := by
  rw [NodeClient.query]
  exact (h call).run_lift.run_bind_silent fun answer => prints_liftM (readAnswer decode answer)

theorem prints_fetchPair (h : ∀ call, Prints lines (transport call).run [] (node call))
    (height : UInt64) :
    Prints lines (client.fetchPair transport height).run []
      (pairOf client.protocol node height) := by
  rw [NodeClient.fetchPair, pairOf, Batch.pairAt]
  exact (prints_query h (.block height) _).run_bind_silent fun block =>
    (prints_query h (.blockResults height) _).run_bind_silent fun results => prints_liftM _

end Node

variable (machine feed) in
/-- A feed without an archive, from a node with this status. -/
def nodeFeed (status : NodeStatus) : Feed (StateM σ) where
  transport := JsonRpc.transport machine.exchange feed.node.url feed.node.maxResponseSize.toNat
  client := ⟨.detect status.nodeVersion, status⟩
  archive := none
  policy := feed.retry
  pause := machine.pause

variable {status : NodeStatus} {value : Json}

theorem prints_queryStatus (h : machine.Steady lines feed files node)
    (hanswer : node .status = .ok value) (hstatus : NodeStatus.decode value = .ok status) :
    Prints lines (NodeClient.queryStatus (nodeFeed machine feed status).transport).run []
      (.ok status) := by
  have hquery := prints_query h.answers .status NodeStatus.decode
  have hread : readAnswer NodeStatus.decode (node .status) = .ok status := by
    rw [hanswer, readAnswer]
    show (NodeStatus.decode value).mapError FetchError.decode = _
    rw [hstatus]
    rfl
  rw [hread] at hquery
  exact hquery

theorem prints_connect (h : machine.Steady lines feed files node)
    (hscheme : feed.node.url.scheme ∈ JsonRpc.schemes) (harchive : feed.archive.network = none)
    (hanswer : node .status = .ok value) (hstatus : NodeStatus.decode value = .ok status) :
    Prints lines (connect machine feed).run [] (.ok (nodeFeed machine feed status)) := by
  rw [connect, JsonRpc.connect, if_pos (List.contains_iff_mem.mpr hscheme)]
  refine (prints_pure (Except.ok _)).run_bind ?_
  rw [Feed.connect, NodeClient.connect]
  refine Prints.run_bind_quiet ((prints_queryStatus h hanswer hstatus).run_bind_quiet
    (prints_pure _)) ?_
  rw [Archive.setUp, harchive]
  exact prints_pure _

variable (status) in
/-- A batch comes to its pairs, after as many attempts as the options ask for. -/
theorem printsInRange_fetchBlocks (h : machine.Steady lines feed files node)
    (registry : Registry) (heights : List UInt64) :
    PrintsInRange lines ((nodeFeed machine feed status).fetchBlocks registry heights) []
      ((feed.retry.outcome (heights.mapM (pairOf (.detect status.nodeVersion) node))).map
        (List.map fun pair => .new pair registry)) := by
  have hpairs : Prints lines
      (NodeClient.fetchPairs (nodeFeed machine feed status).transport
        (nodeFeed machine feed status).client heights).run []
      (heights.mapM (pairOf (.detect status.nodeVersion) node)) := by
    rw [NodeClient.fetchPairs_eq_mapM]
    exact Prints.mapM (prints_fetchPair h.answers) heights
  have hfetch : PrintsInRange lines ((nodeFeed machine feed status).fetchPairs heights) []
      (feed.retry.outcome (heights.mapM (pairOf (.detect status.nodeVersion) node))) := by
    rw [Feed.fetchPairs]
    exact (printsInRange_pure none).bind (RetryPolicy.prints_run h.waits hpairs).run_inRange
  rw [Feed.fetchBlocks]
  exact hfetch.map _

/-! ### Records -/

section Records

variable {handlers : List Handler}

theorem mapM_congr {m : Type → Type} [Monad m] {α β : Type} {f g : α → m β} {as : List α}
    (h : ∀ a ∈ as, f a = g a) [LawfulMonad m] : as.mapM f = as.mapM g := by
  induction as with
  | nil => rfl
  | cons a as ih =>
    obtain ⟨hfirst, hrest⟩ := List.forall_mem_cons.mp h
    rw [List.mapM_cons, List.mapM_cons, hfirst, ih hrest]

/-- Without a limit on the age of blocks the present time does not count. -/
theorem records_eq (hlimit : ∀ filter, .block (some filter) ∈ handlers → filter.lookBackSecs = none)
    (now now' : Instant) : records now handlers = records now' handlers := by
  have hhandler : ∀ handler ∈ handlers, ∀ height,
      handlerRecords now height handler = handlerRecords now' height handler := by
    intro handler hmem height
    cases handler with
    | block filter =>
      cases filter with
      | none => rfl
      | some filter =>
        have hcutoff : ∀ now, filter.cutoff? now = none := fun now => by
          rw [BlockFilter.cutoff?, hlimit filter hmem]
          rfl
        simp only [handlerRecords, BlockFilter.acceptsWith, Option.all_some, BlockFilter.accepts,
          hcutoff]
    | transaction filter => rfl
    | message filter => rfl
    | event filter => rfl
  rw [records, records]
  refine bind_congr fun block => ?_
  dsimp only
  rw [mapM_congr fun handler hmem => hhandler handler hmem block.pair.height]

variable (handlers) in
/-- The records of the block that a node holds at a height; where it holds none there are none. -/
def recordsAt (now : Instant) (registry : Registry) (protocol : Protocol)
    (node : NodeCall → Except ConnectionError Json) (height : UInt64) : List Json :=
  match pairOf protocol node height with
  | .ok pair => ((records now handlers).run (.new pair registry)).run.1
  | .error _ => []

theorem prints_writeBlock (h : machine.Steady lines feed files node)
    (hlimit : ∀ filter, .block (some filter) ∈ handlers → filter.lookBackSecs = none)
    (now : Instant) (block : LazyBlock) :
    Prints lines (writeBlock machine handlers block)
      ((records now handlers).run block).run.1 () := by
  intro s
  have hwrites := Prints.forM h.writes
    ((records (machine.now.run s).1 handlers).run block).run.1
  obtain ⟨hresult, hlines⟩ := hwrites (machine.now.run s).2
  rw [List.flatMap_singleton', h.now] at hlines
  rw [← records_eq hlimit (machine.now.run s).1 now]
  exact ⟨hresult, hlines⟩

end Records

/-! ### Batches of heights -/

theorem exists_mapM_eq_error {ε α β : Type} {f : α → Except ε β} {as : List α} {a : α}
    (hmem : a ∈ as) (h : ∀ b, f a ≠ .ok b) : ∃ e, as.mapM f = .error e := by
  cases hbs : as.mapM f with
  | error e => exact ⟨e, rfl⟩
  | ok bs =>
    obtain ⟨b, -, hb⟩ := exists_of_mem_of_forall₂ (mapM_eq_ok_iff.mp hbs).flip hmem
    exact absurd hb (h b)

section Batches

variable {handlers : List Handler} {registry : Registry} {size : Nat} {heights : List UInt64}

/-- Batches are taken from the front of the heights. -/
theorem writeBatches_eq (feed : Feed (StateM σ)) (registry : Registry) (handlers : List Handler)
    (size : Nat) (hne : heights ≠ []) :
    writeBatches machine feed registry handlers size heights = (do
      let blocks ← feed.fetchBlocks registry (heights.take (size + 1))
      blocks.forM fun block => ExceptT.lift (StateT.lift (writeBlock machine handlers block))
      writeBatches machine feed registry handlers size (heights.drop (size + 1))) := by
  obtain ⟨height, rest, rfl⟩ := List.exists_cons_of_ne_nil hne
  rw [writeBatches]
  rfl

/-- A batch of heights that the node all holds prints their records. -/
theorem flatMap_records {now : Instant} {protocol : Protocol} {batch : List UInt64}
    {pairs : List BlockPair}
    (h : List.Forall₂ (fun height pair => pairOf protocol node height = .ok pair) batch pairs) :
    ((pairs.map fun pair => LazyBlock.new pair registry).flatMap fun block =>
        ((records now handlers).run block).run.1) =
      batch.flatMap (recordsAt handlers now registry protocol node) := by
  induction h with
  | nil => rfl
  | cons hpair _ ih =>
    rw [List.map_cons, List.flatMap_cons, List.flatMap_cons, ih, recordsAt, hpair]

variable (h : machine.Steady lines feed files node)
  (hlimit : ∀ filter, .block (some filter) ∈ handlers → filter.lookBackSecs = none)
  (status : NodeStatus) (registry : Registry) (now : Instant)

include h hlimit

variable (size) in
/-- A batch of heights that the node holds is printed, then the heights behind it. -/
theorem printsInRange_batch {out : List Json} {result : Except FetchError Unit}
    (hne : heights ≠ [])
    (hall : ∀ height ∈ heights.take (size + 1),
      ∃ pair, pairOf (.detect status.nodeVersion) node height = .ok pair)
    (hrest : PrintsInRange lines (writeBatches machine (nodeFeed machine feed status) registry
      handlers size (heights.drop (size + 1))) out result) :
    PrintsInRange lines
      (writeBatches machine (nodeFeed machine feed status) registry handlers size heights)
      ((heights.take (size + 1)).flatMap
        (recordsAt handlers now registry (.detect status.nodeVersion) node) ++ out) result := by
  obtain ⟨pairs, hforall⟩ := exists_forall₂_of_forall hall
  have hfetch := printsInRange_fetchBlocks status h registry (heights.take (size + 1))
  rw [mapM_eq_ok_iff.mpr hforall] at hfetch
  have hwrite := PrintsInRange.forM
    (fun block => (prints_writeBlock h hlimit now block).inRange (ε := FetchError))
    (pairs.map fun pair => LazyBlock.new pair registry)
  rw [flatMap_records hforall] at hwrite
  rw [writeBatches_eq _ registry handlers size hne]
  exact hfetch.bind (hwrite.bind hrest)

variable (size) in
/-- Heights that the node all holds are printed from the first to the last. -/
theorem printsInRange_writeBatches
    (hall : ∀ height ∈ heights,
      ∃ pair, pairOf (.detect status.nodeVersion) node height = .ok pair) :
    PrintsInRange lines
      (writeBatches machine (nodeFeed machine feed status) registry handlers size heights)
      (heights.flatMap (recordsAt handlers now registry (.detect status.nodeVersion) node))
      (.ok ()) := by
  -- the induction is on how many heights are left
  induction hlength : heights.length using Nat.strong_induction_on generalizing heights with
  | _ length ih =>
    by_cases hne : heights = []
    · rw [hne, writeBatches]
      exact printsInRange_pure ()
    · have hshorter : (heights.drop (size + 1)).length < length := by
        have hpos := List.length_pos_iff.mpr hne
        rw [List.length_drop]
        omega
      have hrest := ih _ hshorter (fun height hmem => hall height (List.mem_of_mem_drop hmem)) rfl
      have hbatch := printsInRange_batch size h hlimit status registry now hne
        (fun height hmem => hall height (List.mem_of_mem_take hmem)) hrest
      rwa [← List.flatMap_append, List.take_append_drop] at hbatch

variable (size) in
/-- Heights among which is one that the node does not hold are printed up to the batch of the first
such height. -/
theorem printsInRange_writeBatches_error {before : List UInt64} (behind : List UInt64)
    {failing : UInt64} (hbefore : ∀ height ∈ before,
      ∃ pair, pairOf (.detect status.nodeVersion) node height = .ok pair)
    (hfails : ∀ pair, pairOf (.detect status.nodeVersion) node failing ≠ .ok pair) :
    ∃ e, PrintsInRange lines
      (writeBatches machine (nodeFeed machine feed status) registry handlers size
        (before ++ failing :: behind))
      ((before.take (before.length / (size + 1) * (size + 1))).flatMap
        (recordsAt handlers now registry (.detect status.nodeVersion) node)) (.error e) := by
  have hne (front : List UInt64) : front ++ failing :: behind ≠ [] :=
    List.append_ne_nil_of_right_ne_nil _ (List.cons_ne_nil _ _)
  induction hlength : before.length using Nat.strong_induction_on generalizing before with
  | _ length ih =>
    by_cases hfirst : before.length < size + 1
    · -- the height is in the first batch
      obtain ⟨left, hsize⟩ := Nat.exists_eq_add_of_lt hfirst
      have hmem : failing ∈ (before ++ failing :: behind).take (size + 1) := by
        rw [hsize, Nat.add_assoc, List.take_length_add_append, List.take_succ_cons]
        exact List.mem_append_right _ List.mem_cons_self
      obtain ⟨e, he⟩ := exists_mapM_eq_error hmem hfails
      have hfetch := printsInRange_fetchBlocks status h registry
        ((before ++ failing :: behind).take (size + 1))
      rw [he] at hfetch
      rw [writeBatches_eq _ registry handlers size (hne before), ← hlength,
        Nat.div_eq_of_lt hfirst, Nat.zero_mul, List.take_zero]
      exact ⟨_, hfetch.bind_error⟩
    · -- the first batch is a full one, and the height is in one of those behind it
      rw [Nat.not_lt] at hfirst
      obtain ⟨front, rest, rfl, hfront⟩ :
          ∃ front rest, before = front ++ rest ∧ front.length = size + 1 :=
        ⟨_, _, (List.take_append_drop (size + 1) before).symm, List.length_take_of_le hfirst⟩
      obtain ⟨hheld, hrest⟩ := List.forall_mem_append.mp hbefore
      have hshorter : rest.length < length := by
        rw [← hlength, List.length_append]
        omega
      obtain ⟨e, he⟩ := ih _ hshorter hrest rfl
      have hcut : (front ++ rest).take (length / (size + 1) * (size + 1)) =
          front ++ rest.take (rest.length / (size + 1) * (size + 1)) := by
        rw [← hlength, List.length_append, ← hfront, Nat.add_div_left _ (by omega), Nat.succ_mul,
          Nat.add_comm _ front.length, List.take_length_add_append]
      rw [hcut, List.flatMap_append, List.append_assoc]
      have htake : (front ++ (rest ++ failing :: behind)).take (size + 1) = front :=
        List.take_left' hfront
      have hdrop : (front ++ (rest ++ failing :: behind)).drop (size + 1) =
          rest ++ failing :: behind := List.drop_left' hfront
      have hbatch := printsInRange_batch size h hlimit status registry now
        (List.append_assoc front rest _ ▸ hne (front ++ rest)) (htake.symm ▸ hheld)
        (hdrop.symm ▸ he)
      rw [htake] at hbatch
      exact ⟨e, hbatch⟩

end Batches

/-! ### Lists of heights -/

section Between

variable {first last height : UInt64} {memory : Nat}

theorem toNat_toUInt64 {n : Nat} (h : n < 18446744073709551616) : n.toUInt64.toNat = n :=
  UInt64.toNat_ofNat_of_lt' h

theorem mem_heights {first count : Nat} :
    height ∈ heights first count ↔ ∃ i < count, height = (first + i).toUInt64 := by
  constructor
  · intro hmem
    obtain ⟨n, hn, rfl⟩ := List.mem_map.mp hmem
    obtain ⟨hle, hlt⟩ := List.mem_range'_1.mp hn
    exact ⟨n - first, by omega, by rw [Nat.add_sub_cancel' hle]⟩
  · rintro ⟨i, hi, rfl⟩
    exact List.mem_map_of_mem (List.mem_range'_1.mpr ⟨Nat.le_add_right first i, by omega⟩)

/-- A range holds what is neither below its first nor above its last height. -/
theorem mem_between : height ∈ between first last ↔ first ≤ height ∧ height ≤ last := by
  have hlast := last.toNat_lt
  rw [between, span, mem_heights, UInt64.le_iff_toNat_le, UInt64.le_iff_toNat_le]
  constructor
  · rintro ⟨i, hi, rfl⟩
    rw [toNat_toUInt64 (by omega)]
    omega
  · rintro ⟨hfirst, hlast⟩
    refine ⟨height.toNat - first.toNat, by omega, ?_⟩
    rw [Nat.add_sub_cancel' hfirst]
    exact UInt64.ofNat_toNat.symm

/-- Each height of a range stands in it once, and they rise. -/
theorem pairwise_between (first last : UInt64) : (between first last).Pairwise (· < ·) := by
  have hlast := last.toNat_lt
  rw [between, span, heights, List.pairwise_map]
  refine List.Pairwise.imp_of_mem (fun {m n} hm hn hlt => ?_) (List.pairwise_lt_range' 1)
  have hm := List.mem_range'_1.mp hm
  have hn := List.mem_range'_1.mp hn
  rw [UInt64.lt_iff_toNat_lt, toNat_toUInt64 (by omega), toNat_toUInt64 (by omega)]
  exact hlt

/-- A range is divided by each of its heights. -/
theorem between_eq_append (hfirst : first ≤ height) (hlast : height ≤ last) :
    between first last = heights first.toNat (height.toNat - first.toNat) ++
      height :: heights (height.toNat + 1) (last.toNat - height.toNat) := by
  rw [UInt64.le_iff_toNat_le] at hfirst hlast
  have hspan : span first last =
      (height.toNat - first.toNat) + (last.toNat - height.toNat + 1) := by
    rw [span]
    omega
  rw [between, hspan, heights, ← List.range'_append_1, Nat.add_sub_cancel' hfirst,
    List.range'_succ, List.map_append, List.map_cons, Nat.toUInt64_eq, UInt64.ofNat_toNat]
  rfl

/-- There is a list of the heights of a range, and memory for it. -/
def Fits (memory : Nat) (first last : UInt64) : Prop :=
  span first last < 2 ^ 60 ∧ 8 * span first last ≤ memory

instance (memory : Nat) (first last : UInt64) : Decidable (Fits memory first last) :=
  inferInstanceAs (Decidable (_ ∧ _))

theorem collect_eq_ok_iff {heights : List UInt64} :
    collect memory first last = .ok heights ↔
      Fits memory first last ∧ heights = between first last := by
  rw [collect, Fits, maxListBytes]
  split
  · exact iff_of_false nofun (by omega)
  · split
    · exact iff_of_false nofun (by omega)
    · rw [Except.ok.injEq, eq_comm, and_iff_right (by omega)]

/-- A range for which there is no list, or no memory for one. -/
theorem collect_eq_error_iff {reason : Crash} :
    collect memory first last = .error reason ↔
      (2 ^ 60 ≤ span first last ∧ reason = .capacityOverflow) ∨
        (span first last < 2 ^ 60 ∧ memory < 8 * span first last ∧
          reason = .outOfMemory (8 * span first last)) := by
  rw [collect, maxListBytes]
  split
  · rw [Except.error.injEq, eq_comm, and_iff_right (by omega)]
    exact (or_iff_left (by omega)).symm
  · rw [or_iff_right (by omega), and_iff_right (by omega)]
    split
    · rename_i hmemory
      rw [Except.error.injEq, eq_comm, and_iff_right hmemory]
    · rename_i hmemory
      exact iff_of_false nofun fun h => hmemory h.1

end Between

/-! ### Whole dumps -/

variable {options : DumpOptions} {handlers : List Handler} {registry : Registry}
  {status : NodeStatus} {first last : UInt64}

variable (machine options lines files node handlers registry status first last) in
/-- A steady machine with all that a dump without an archive needs before its first batch. -/
structure Ready : Prop where
  steady : machine.Steady lines options.feed files node
  handlers : HandlersOf files options.filters handlers
  registry : ∃ typeUrls, Registry.withDefaults.loadSchemas
    (fun path => files (Directory.join options.schemaDir path)) options.schemas =
      (registry, .ok typeUrls)
  scheme : options.feed.node.url.scheme ∈ JsonRpc.schemes
  archive : options.feed.archive.network = none
  answer : ∃ value, node .status = .ok value ∧ NodeStatus.decode value = .ok status
  first_eq : options.first.getD status.latestHeight = first
  last_eq : options.last.getD first = last
  first_le : first ≤ last

theorem Ready.prints_range
    (h : Ready lines machine files node options handlers registry status first last) :
    Prints lines (range options (nodeFeed machine options.feed status)).run []
      (.ok (first, last)) := by
  obtain ⟨value, hanswer, hstatus⟩ := h.answer
  have hend : ∀ start, start = first → Prints lines
      (if options.last.getD start < start then throw (.emptyRange start (options.last.getD start))
        else return (start, options.last.getD start) :
          ExceptT DumpError (StateM σ) (UInt64 × UInt64)).run [] (.ok (first, last)) := by
    rintro start rfl
    rw [h.last_eq, if_neg (UInt64.not_lt.mpr h.first_le)]
    exact prints_pure _
  rw [range]
  cases hfirst : options.first with
  | some start =>
    have heq := h.first_eq
    rw [hfirst] at heq
    exact (prints_pure _).run_bind (hend start heq)
  | none =>
    have heq := h.first_eq
    rw [hfirst] at heq
    have hlatest : Prints lines
        (nodeFeed machine options.feed status).latestHeight.run [] (.ok status.latestHeight) :=
      (prints_queryStatus h.steady hanswer hstatus).run_bind (prints_pure _)
    exact (hlatest.run_adapt DumpError.fetch).run_bind (hend _ heq)

/-- What a dump prints is what belongs to all blocks, then what its range prints. -/
theorem Ready.prints_run
    (h : Ready lines machine files node options handlers registry status first last)
    {batchSize : UInt64} {out : List Json} {result : Except DumpError Unit}
    (hrange : Prints lines (writeRange machine (nodeFeed machine options.feed status) registry
      handlers batchSize first last).run out result) :
    Prints lines (run machine { options with batchSize }).run (queries handlers ++ out) result := by
  obtain ⟨value, hanswer, hstatus⟩ := h.answer
  obtain ⟨typeUrls, hload⟩ := h.registry
  have hqueries := Prints.forM h.steady.writes (queries handlers)
  rw [List.flatMap_singleton'] at hqueries
  have hconnect := (prints_connect h.steady h.scheme h.archive hanswer hstatus).run_adapt
    DumpError.fetch
  exact (prints_loadHandlers h.steady h.handlers).run_bind <| hqueries.run_lift.run_bind <|
    (prints_loadRegistry h.steady hload).run_bind <| hconnect.run_bind <|
    h.prints_range.run_bind hrange

variable (lines) in
/-- A dump that prints `out` and ends with an exit code. -/
def Dumps (machine : Machine (StateM σ)) (options : DumpOptions) (out : List Json)
    (code : UInt32) : Prop :=
  ∃ result, Prints lines (run machine options).run out result ∧ exitCode result = code

/-- A dump has one exit code. -/
theorem Dumps.code_eq {out out' : List Json} {code code' : UInt32} (s : σ)
    (h : Dumps lines machine options out code) (h' : Dumps lines machine options out' code') :
    code = code' := by
  obtain ⟨result, hprints, rfl⟩ := h
  obtain ⟨result', hprints', rfl⟩ := h'
  rw [← (hprints s).1, ← (hprints' s).1]

/-- No height is fetched if there is no list of them. -/
theorem Ready.dumps_of_crash
    (h : Ready lines machine files node options handlers registry status first last)
    (batchSize : UInt64) {reason : Crash}
    (hcollect : collect machine.memory first last = .error reason) :
    Dumps lines machine { options with batchSize } (queries handlers)
      (exitCode (.error (.crash reason))) := by
  have hrange : Prints lines (writeRange machine (nodeFeed machine options.feed status) registry
      handlers batchSize first last).run [] (.error (.crash reason)) := by
    rw [writeRange, hcollect]
    exact (prints_liftM _).run_bind_error
  have hrun := h.prints_run hrange
  rw [List.append_nil] at hrun
  exact ⟨_, hrun, rfl⟩

/-- What is printed of the heights of a range if there is a list of them. -/
theorem Ready.dumps_of_fits
    (h : Ready lines machine files node options handlers registry status first last)
    {batchSize : UInt64} (hfits : Fits machine.memory first last) {out : List Json}
    {result : Except FetchError Unit}
    (hbatches : PrintsInRange lines (writeBatches machine (nodeFeed machine options.feed status)
      registry handlers (batchSize.toNat - 1) (between first last)) out result) :
    Dumps lines machine { options with batchSize } (queries handlers ++ out)
      (exitCode (result.mapError DumpError.fetch)) := by
  have hrange : Prints lines (writeRange machine (nodeFeed machine options.feed status) registry
      handlers batchSize first last).run out (result.mapError DumpError.fetch) := by
    rw [writeRange, collect_eq_ok_iff.mpr ⟨hfits, rfl⟩]
    exact (prints_liftM _).run_bind <|
      (hbatches .new).run_lift.run_bind_quiet (prints_liftM _)
  exact ⟨_, h.prints_run hrange, rfl⟩

/-- How many heights of a range stand before the batch of one of them. -/
def heightsBefore (batchSize first height : UInt64) : Nat :=
  let size := max batchSize.toNat 1
  (height.toNat - first.toNat) / size * size

variable (lines machine node options handlers registry status first last) in
/-- What becomes of a range of heights. -/
structure RangeDumps (now : Instant) (batchSize : UInt64) : Prop where
  /-- There is no list of so many heights: the program panics in front of the first of them. -/
  overflows : 2 ^ 60 ≤ span first last →
    Dumps lines machine { options with batchSize } (queries handlers) 101
  /-- It is aborted there if there is no memory for the list. -/
  aborts : span first last < 2 ^ 60 → machine.memory < 8 * span first last →
    Dumps lines machine { options with batchSize } (queries handlers) 134
  /-- Otherwise the records of all heights are printed in order, and the exit code is zero. -/
  complete : Fits machine.memory first last →
    (∀ height, first ≤ height → height ≤ last →
      ∃ pair, pairOf (.detect status.nodeVersion) node height = .ok pair) →
    Dumps lines machine { options with batchSize }
      (queries handlers ++ (between first last).flatMap
        (recordsAt handlers now registry (.detect status.nodeVersion) node)) 0
  /-- If the node does not hold all of them, what is printed ends right before the batch of the
  first that it does not hold, and the exit code is one. -/
  cut : Fits machine.memory first last → ∀ failing, first ≤ failing → failing ≤ last →
    (∀ height, first ≤ height → height < failing →
      ∃ pair, pairOf (.detect status.nodeVersion) node height = .ok pair) →
    (∀ pair, pairOf (.detect status.nodeVersion) node failing ≠ .ok pair) →
    Dumps lines machine { options with batchSize }
      (queries handlers ++
        ((between first last).take (heightsBefore batchSize first failing)).flatMap
          (recordsAt handlers now registry (.detect status.nodeVersion) node)) 1

/-- If there is a list of the heights of its range, a dump prints their records, height by height,
as far as the node holds them, and it prints none of them otherwise. -/
theorem dumps_range
    (h : Ready lines machine files node options handlers registry status first last)
    (hlimit : ∀ filter, .block (some filter) ∈ handlers → filter.lookBackSecs = none)
    (now : Instant) (batchSize : UInt64) :
    RangeDumps lines machine node options handlers registry status first last now batchSize where
  overflows hspan :=
    h.dumps_of_crash batchSize (collect_eq_error_iff.mpr (.inl ⟨hspan, rfl⟩))
  aborts hspan hmemory :=
    h.dumps_of_crash batchSize (collect_eq_error_iff.mpr (.inr ⟨hspan, hmemory, rfl⟩))
  complete hfits hall := by
    have hheld : ∀ height ∈ between first last,
        ∃ pair, pairOf (.detect status.nodeVersion) node height = .ok pair :=
      fun height hmem => hall height (mem_between.mp hmem).1 (mem_between.mp hmem).2
    exact h.dumps_of_fits hfits
      (printsInRange_writeBatches (batchSize.toNat - 1) h.steady hlimit status registry now hheld)
  cut hfits failing hfirst hlast hbefore hfails := by
    have hsplit := between_eq_append hfirst hlast
    have hheld : ∀ height ∈ heights first.toNat (failing.toNat - first.toNat),
        ∃ pair, pairOf (.detect status.nodeVersion) node height = .ok pair := by
      intro height hmem
      -- the heights of the range rise, so those in front of the failing one are less
      have hmem' : height ∈ between first last := by
        rw [hsplit]
        exact List.mem_append_left _ hmem
      have hrise := pairwise_between first last
      rw [hsplit] at hrise
      have hlt := (List.pairwise_append.mp hrise).2.2 height hmem failing List.mem_cons_self
      exact hbefore height (mem_between.mp hmem').1 hlt
    have hlength : (heights first.toNat (failing.toNat - first.toNat)).length =
        failing.toNat - first.toNat := by
      rw [heights, List.length_map, List.length_range']
    obtain ⟨e, he⟩ := printsInRange_writeBatches_error (batchSize.toNat - 1) h.steady hlimit
      status registry now (heights (failing.toNat + 1) (last.toNat - failing.toNat)) hheld hfails
    have hsize : batchSize.toNat - 1 + 1 = max batchSize.toNat 1 := by omega
    have hle := Nat.div_mul_le_self (failing.toNat - first.toNat) (max batchSize.toNat 1)
    rw [hlength, hsize, ← hsplit] at he
    have hcut : (between first last).take (heightsBefore batchSize first failing) =
        (heights first.toNat (failing.toNat - first.toNat)).take
          (heightsBefore batchSize first failing) := by
      rw [hsplit]
      exact List.take_append_of_le_length (hlength.symm ▸ hle)
    rw [hcut]
    exact h.dumps_of_fits hfits he

/-! ### A node that holds one block -/

section Lone

/-- A block without transactions. -/
def lonePair : BlockPair where
  block := ⟨"AB", ⟨⟨0, 0⟩, "c", 5, ⟨0, 0⟩, none, "", "", ""⟩, []⟩
  results := ⟨5, [], none, none⟩
  counts_eq := rfl

/-- What a node says that holds this block only. -/
def loneAnswers : List (NodeCall × Json) :=
  [(.status, .ofMembers [
      ("node_info", .ofMembers [("network", .string "c"), ("version", .string "0.37.2")]),
      ("sync_info", .ofMembers [("latest_block_height", .string "5")])]),
    (.block 5, lonePair.block.report),
    (.blockResults 5, lonePair.results.report Base64.encode none)]

/-- The server of that node. -/
def loneServer (request : Http.Request) : Option Http.Response :=
  (loneAnswers.find? fun answer =>
    request.body = some (Utf8.encode (JsonRpc.request answer.1).render)).map fun answer =>
      ⟨200, Utf8.encode (Json.ofMembers [("id", .nat 0), ("result", answer.2)]).render⟩

/-- A machine without files, and with that server. -/
def loneMachine : Machine (StateM (List Json)) where
  readText _ := pure (.error .notFound)
  exchange request := pure (loneServer request)
  now := pure ⟨0, 0⟩
  pause _ := pure ()
  write record := modify (· ++ [record])

/-- What the node answers. -/
def loneNode (call : NodeCall) : Except ConnectionError Json :=
  JsonRpc.interpret 104857600
    (loneServer ⟨NodeOptions.default.url.render, some (Utf8.encode (JsonRpc.request call).render)⟩)

/-- A dump from the present height of the node on. -/
def loneOptions (last : UInt64) : DumpOptions :=
  { DumpOptions.default with last := some last }

theorem ready_lone (last : UInt64) (h : 5 ≤ last) :
    Ready id loneMachine (fun _ => .error .notFound) loneNode (loneOptions last) [.block none]
      .withDefaults ⟨"0.37.2", "c", 5, none, 0⟩ 5 last where
  steady := {
    reads := fun _ => prints_pure _
    answers := fun _ => prints_pure _
    now := fun _ => rfl
    waits := fun _ => prints_pure _
    writes := fun _ _ => ⟨rfl, rfl⟩ }
  handlers := rfl
  registry := ⟨[], rfl⟩
  scheme := show "http" ∈ JsonRpc.schemes by decide
  archive := rfl
  answer := by
    have hstatus : ((loneNode .status).toOption.bind fun value =>
        (NodeStatus.decode value).toOption) = some ⟨"0.37.2", "c", 5, none, 0⟩ := by decide +kernel
    obtain ⟨value, hvalue, hdecode⟩ := Option.bind_eq_some_iff.mp hstatus
    exact ⟨value, eq_ok_of_toOption_eq hvalue, eq_ok_of_toOption_eq hdecode⟩
  first_eq := rfl
  last_eq := rfl
  first_le := h

theorem exists_pairOf_loneNode : ∃ pair, pairOf (.detect "0.37.2") loneNode 5 = .ok pair := by
  have hfive : (pairOf (.detect "0.37.2") loneNode 5).toOption.isSome = true := by
    -- the kernel is quick with characters, but not with texts
    simp only [pairOf, Batch.pairAt, Batch.blockAt, Batch.resultsAt, BatchCall.call, loneNode,
      loneServer, Json.encode_render]
    decide +kernel
  obtain ⟨pair, hpair⟩ := Option.isSome_iff_exists.mp hfive
  exact ⟨pair, eq_ok_of_toOption_eq hpair⟩

theorem pairOf_loneNode_ne_ok (pair : BlockPair) :
    pairOf (.detect "0.37.2") loneNode 6 ≠ .ok pair := by
  intro hpair
  have hsix : (pairOf (.detect "0.37.2") loneNode 6).toOption = none := by decide +kernel
  rw [hpair] at hsix
  cases hsix

theorem lookBackSecs_eq_none_of_mem (filter : BlockFilter)
    (h : Handler.block (some filter) ∈ [Handler.block none]) : filter.lookBackSecs = none := by
  obtain heq := List.mem_singleton.mp h
  cases heq

/-- The block alone is a whole range; with the height behind it the dump fails, after the block has
been printed. -/
theorem dumps_range_lone :
    Ready id loneMachine (fun _ => .error .notFound) loneNode (loneOptions 5) [.block none]
      .withDefaults ⟨"0.37.2", "c", 5, none, 0⟩ 5 5 ∧
    Dumps id loneMachine { loneOptions 5 with batchSize := 0 }
      (queries [.block none] ++ (between 5 5).flatMap
        (recordsAt [.block none] ⟨0, 0⟩ .withDefaults (.detect "0.37.2") loneNode)) 0 ∧
    heightsBefore 0 5 6 = 1 ∧
    Dumps id loneMachine { loneOptions 6 with batchSize := 0 }
      (queries [.block none] ++ ((between 5 6).take (heightsBefore 0 5 6)).flatMap
        (recordsAt [.block none] ⟨0, 0⟩ .withDefaults (.detect "0.37.2") loneNode)) 1 := by
  have hfive : Fits loneMachine.memory 5 5 := by decide
  have hsix : Fits loneMachine.memory 5 6 := by decide
  have hholds : ∀ height, 5 ≤ height → height ≤ 5 →
      ∃ pair, pairOf (.detect "0.37.2") loneNode height = .ok pair := fun height hle hge => by
    obtain rfl := UInt64.le_antisymm hge hle
    exact exists_pairOf_loneNode
  have hbefore : ∀ height : UInt64, 5 ≤ height → height < 6 →
      ∃ pair, pairOf (.detect "0.37.2") loneNode height = .ok pair := fun height hle hlt => by
    refine hholds height hle (UInt64.le_iff_toNat_le.mpr ?_)
    exact Nat.le_of_lt_succ (UInt64.lt_iff_toNat_lt.mp hlt)
  have hwhole := dumps_range (ready_lone 5 (by decide)) lookBackSecs_eq_none_of_mem ⟨0, 0⟩ 0
  have hcut := dumps_range (ready_lone 6 (by decide)) lookBackSecs_eq_none_of_mem ⟨0, 0⟩ 0
  exact ⟨ready_lone 5 (by decide), hwhole.complete hfive hholds, by decide,
    hcut.cut hsix 6 (by decide) (by decide) hbefore pairOf_loneNode_ne_ok⟩

/-- Of a range up to the last height of all, nothing is printed of the block, though the node holds
it and the height behind it alone should end the dump. -/
theorem dumps_overflowing_lone :
    Ready id loneMachine (fun _ => .error .notFound) loneNode (loneOptions 18446744073709551615)
      [.block none] .withDefaults ⟨"0.37.2", "c", 5, none, 0⟩ 5 18446744073709551615 ∧
    (∃ pair, pairOf (.detect "0.37.2") loneNode 5 = .ok pair) ∧
    (∀ pair, pairOf (.detect "0.37.2") loneNode 6 ≠ .ok pair) ∧ heightsBefore 1 5 6 = 1 ∧
    Dumps id loneMachine { loneOptions 18446744073709551615 with batchSize := 1 }
      (queries [.block none]) 101 ∧
    ¬ Dumps id loneMachine { loneOptions 18446744073709551615 with batchSize := 1 }
      (queries [.block none] ++
        recordsAt [.block none] ⟨0, 0⟩ .withDefaults (.detect "0.37.2") loneNode 5) 1 := by
  have hready := ready_lone 18446744073709551615 (by decide)
  have hcollect : collect loneMachine.memory 5 18446744073709551615 = .error .capacityOverflow :=
    collect_eq_error_iff.mpr (.inl ⟨by decide, rfl⟩)
  have hcrash := hready.dumps_of_crash 1 hcollect
  exact ⟨hready, exists_pairOf_loneNode, pairOf_loneNode_ne_ok, by decide, hcrash,
    fun hdumps => absurd (hcrash.code_eq [] hdumps) (by decide)⟩

end Lone

end ChainFeed.Dump
