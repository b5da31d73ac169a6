import ChainFeed.Proofs.Archive.Growing
import ChainFeed.Proofs.Feed.Provenance
import ChainFeed.Proofs.Json.Printer
import ChainFeed.Proofs.Node.Normalization

/-!
# Archive and node are interchangeable

A chain has one block pair at each of its heights. A node reports it in the form of its own version,
and an archive stores some of it in the form of version 0.37. Any question to the archive may fail,
at any moment and for any reason, and its answers may depend on all that has happened. A feed with
the archive then gives every batch as a feed without it does, whatever was asked before: the pairs
of the chain, from the archive alone or from the node alone.

## Main definitions

- `Chain`: the block pairs of a chain
- `Transport.Reports`, `Archive.Loaded.Stores`: a node and a bundle that have the data of a chain
- `Feed.after`: what is left after a history of batches

## Main results

- `Feed.exec_chain`: a batch comes to the pairs of the chain, from one source
- `Feed.exec_after_history`: with the archive and without it
-/

namespace ChainFeed

open Archive (reply)

/-- The block pairs of a chain, each at its height. -/
structure Chain where
  /-- The pair at a height that the chain has reached. -/
  pair? : UInt64 → Option BlockPair
  height_eq : ∀ {height pair}, pair? height = some pair →
    pair.height = height ∧ pair.results.height = height

/-- The pairs at some heights of a chain, in the order of the heights. -/
def Chain.Has (chain : Chain) (heights : List UInt64) (pairs : List BlockPair) : Prop :=
  List.Forall₂ (fun height pair => chain.pair? height = some pair) heights pairs

/-- The versions of nodes that report the events outside transactions in two lists. -/
inductive Protocol.OfVersion : Protocol → String → Prop
  | tendermint34 (patch : String) : OfVersion .tendermint34 ("0.34." ++ patch)
  | tendermint37 (patch : String) : OfVersion .tendermint37 ("0.37." ++ patch)

variable {σ : Type} {chain : Chain} {protocol : Protocol} {log : σ → List Exchange}

/-- A node answers questions about the heights of a chain in the form of a protocol version. -/
structure Transport.Reports (transport : Transport (StateM σ)) (protocol : Protocol)
    (chain : Chain) : Prop where
  block : ∀ {height pair}, chain.pair? height = some pair → ∀ s,
    ∃ value, (reply (transport (.block height)) s).1 = .ok value ∧ pair.block.Form value
  results : ∀ {height pair}, chain.pair? height = some pair → ∀ s,
    ∃ value, (reply (transport (.blockResults height)) s).1 = .ok value ∧
      protocol.ResultsForm pair.results none value

/-- The entries of a bundle are those of a chain, in the form of version 0.37. -/
def Archive.Loaded.Stores (loaded : Archive.Loaded) (chain : Chain) : Prop :=
  ∀ height entry pair, loaded.entries.lookup height = some entry →
    chain.pair? height = some pair →
    pair.block.Form entry.block ∧
      Protocol.tendermint37.ResultsForm pair.results none entry.results

/-! ### Both sources -/

theorem Protocol.OfVersion.detect_eq {version : String} (h : protocol.OfVersion version) :
    detect version = protocol := by
  cases h with
  | tendermint34 patch => simp [detect, startsWith]
  | tendermint37 patch => simp [detect, startsWith]

theorem Protocol.OfVersion.ne_comet38 {version : String} (h : protocol.OfVersion version) :
    protocol ≠ .comet38 := by
  cases h with
  | tendermint34 patch => decide
  | tendermint37 patch => decide

theorem Protocol.decodeResults_of_form_of_ne {results : BlockResults} {value : Json}
    (hprotocol : protocol ≠ .comet38) (h : protocol.ResultsForm results none value) :
    protocol.decodeResults value = .ok results := by
  rw [decodeResults_of_form h, if_neg hprotocol]

/-- What a bundle of the chain has for a height is the pair of the chain. -/
theorem Archive.Loaded.pair_eq {loaded : Archive.Loaded} {height : UInt64} {pair found : BlockPair}
    (h : loaded.Stores chain) (hpair : chain.pair? height = some pair)
    (hfound : loaded.pair height = .ok found) : found = pair := by
  obtain ⟨entry, hentry, hblock, hresults, -⟩ := Archive.Loaded.exists_entry hfound
  obtain ⟨hblockForm, hresultsForm⟩ := h _ _ _ hentry hpair
  rw [Protocol.decodeBlock_of_form _ hblockForm] at hblock
  rw [Protocol.decodeResults_of_form_of_ne (by decide) hresultsForm] at hresults
  obtain ⟨block, results, counts⟩ := pair
  obtain ⟨block', results', counts'⟩ := found
  obtain rfl : block = block' := Except.ok.inj hblock
  obtain rfl : results = results' := Except.ok.inj hresults
  rfl

/-- A node of the chain answers questions about a height with the pair at that height. -/
theorem Transport.Reports.answers {transport : Transport (StateM σ)}
    (h : transport.Reports protocol chain) (hprotocol : protocol ≠ .comet38) {height : UInt64}
    {pair : BlockPair} (hpair : chain.pair? height = some pair) :
    transport.Answers protocol height pair where
  block s := by
    obtain ⟨value, hvalue, hform⟩ := h.block hpair s
    exact ⟨value, hvalue, protocol.decodeBlock_of_form hform⟩
  results s := by
    obtain ⟨value, hvalue, hform⟩ := h.results hpair s
    exact ⟨value, hvalue, Protocol.decodeResults_of_form_of_ne hprotocol hform⟩

/-! ### Batches -/

namespace Feed

variable {feed : Feed (StateM σ)} {heights : List UInt64} {pairs : List BlockPair}
  {fetcher : Archive.Fetcher}

/-- A feed of a chain: its node reports the chain in the form of its version, and an archive, if
there is one, stores some of it. -/
structure Follows (feed : Feed (StateM σ)) (protocol : Protocol) (chain : Chain)
    (log : σ → List Exchange) : Prop where
  version : protocol.OfVersion feed.client.status.nodeVersion
  client : feed.client.protocol = .detect feed.client.status.nodeVersion
  node : feed.transport.Reports protocol chain
  archive : ∀ source, feed.archive = some source → source.Loads (·.Stores chain)
  notes : feed.Notes log

theorem Follows.protocol_eq (h : feed.Follows protocol chain log) :
    feed.client.protocol = protocol :=
  h.client.trans h.version.detect_eq

/-- The same feed without its archive. -/
def withoutArchive (feed : Feed (StateM σ)) : Feed (StateM σ) :=
  { feed with archive := none }

theorem Follows.withoutArchive (h : feed.Follows protocol chain log) :
    feed.withoutArchive.Follows protocol chain log where
  version := h.version
  client := h.client
  node := h.node
  archive _ hsource := nomatch hsource
  notes := ⟨h.notes.transport, fun _ hsource => (nomatch hsource), h.notes.pause⟩

/-- A batch comes to the pairs of the chain. The node is asked nothing, or all questions of the
batch. -/
theorem exec_chain (h : feed.Follows protocol chain log) (hkeeps : fetcher.Keeps (·.Stores chain))
    (hpairs : chain.Has heights pairs) (s : σ) :
    (feed.exec heights fetcher s).1 = .ok pairs ∧
    (log (feed.exec heights fetcher s).2.2 = log s ∨
      ∃ exchanges, log (feed.exec heights fetcher s).2.2 = log s ++ exchanges ∧
        exchanges.map (·.1) = (Batch.calls heights).map BatchCall.call) := by
  rcases (exec_cases h.notes h.archive hkeeps heights s).2 with
    ⟨served, hserved, hlog, hloaded⟩ | ⟨s', hlog, hresult, hstate⟩
  · have heq : served = pairs := by
      clear hserved hlog
      induction hpairs generalizing served with
      | nil => exact List.forall₂_nil_left_iff.mp hloaded
      | cons hpair _ ih =>
        obtain ⟨head, tail, ⟨loaded, hstores, hhead⟩, htail, rfl⟩ :=
          List.forall₂_cons_left_iff.mp hloaded
        rw [Archive.Loaded.pair_eq hstores hpair hhead, ih tail htail]
    exact ⟨heq ▸ hserved, .inl hlog⟩
  · have hprotocol : feed.client.protocol ≠ .comet38 := h.protocol_eq ▸ h.version.ne_comet38
    have hnode : feed.transport.Reports feed.client.protocol chain := h.protocol_eq ▸ h.node
    have hok : (reply (feed.client.fetchPairs feed.transport heights) s').1 = .ok pairs :=
      feed.client.fetchPairs_eq (hpairs.imp fun _ _ => hnode.answers hprotocol) s'
    obtain ⟨exchanges, hexchanges, htranscript⟩ :=
      feed.client.fetchPairs_transcript h.notes.transport heights s'
    rw [hresult, hstate, fromNode, feed.policy.reply_run_of_ok hok, hexchanges, hlog]
    exact ⟨hok, .inr ⟨exchanges, rfl, (htranscript pairs hok).calls_eq⟩⟩

/-- What the fetcher of the archive remembers after a history of batches, and the state that is
left; an error of a batch is no end. -/
def after (feed : Feed (StateM σ)) (history : List (List UInt64)) (start : Archive.Fetcher × σ) :
    Archive.Fetcher × σ :=
  history.foldl (fun (fetcher, s) heights => (feed.exec heights fetcher s).2) start

theorem keeps_after (h : feed.Follows protocol chain log) (history : List (List UInt64))
    (hkeeps : fetcher.Keeps (·.Stores chain)) (s : σ) :
    (feed.after history (fetcher, s)).1.Keeps (·.Stores chain) := by
  induction history generalizing fetcher s with
  | nil => exact hkeeps
  | cons heights history ih =>
    exact ih (exec_cases h.notes h.archive hkeeps heights s).1 (feed.exec heights fetcher s).2.2

/-- Whatever was asked before, a batch of heights of the chain comes to their pairs, with the
archive as without it; and one source serves the whole batch, since the node is asked nothing or
everything. -/
theorem exec_after_history (h : feed.Follows protocol chain log) (history : List (List UInt64))
    (hpairs : chain.Has heights pairs) (s : σ) :
    let (fetcher, now) := feed.after history (.new, s)
    let (fetcher', now') := feed.withoutArchive.after history (.new, s)
    (feed.exec heights fetcher now).1 = .ok pairs ∧
    (feed.withoutArchive.exec heights fetcher' now').1 = .ok pairs ∧
    (log (feed.exec heights fetcher now).2.2 = log now ∨
      ∃ exchanges, log (feed.exec heights fetcher now).2.2 = log now ++ exchanges ∧
        exchanges.map (·.1) = (Batch.calls heights).map BatchCall.call) := by
  have hkeeps := keeps_after h history Archive.Fetcher.keeps_new s
  have hkeeps' := keeps_after h.withoutArchive history Archive.Fetcher.keeps_new s
  obtain ⟨hok, hlog⟩ := exec_chain h hkeeps hpairs (feed.after history (.new, s)).2
  obtain ⟨hok', -⟩ := exec_chain h.withoutArchive hkeeps' hpairs
    (feed.withoutArchive.after history (.new, s)).2
  exact ⟨hok, hok', hlog⟩

end Feed

/-! ### A chain of two blocks -/

/-- What holds of the data of a growing archive holds of every bundle when it is loaded. -/
theorem Archive.Growing.loads {archive : Archive.Growing} {outages : Nat → Option ArchiveError}
    {P : Archive.Loaded → Prop}
    (h : ∀ (bundle : Archive.Bundle) range loaded,
      bundle.unpack range (archive.stored bundle) = .ok loaded → P loaded) :
    (archive.source outages).Loads P := by
  intro bundle now stored hstored range loaded hloaded
  rw [reply_retrieve] at hstored
  cases hout : outages now with
  | some e =>
    rw [hout] at hstored
    exact nomatch hstored
  | none =>
    rw [hout] at hstored
    obtain rfl := Except.ok.inj hstored
    exact h bundle range loaded hloaded

section TwoBlocks

/-- A block without transactions, before which something happened. -/
def shortPair (height : UInt64) : BlockPair where
  block := ⟨"", ⟨⟨0, 0⟩, "c", height, ⟨0, 0⟩, none, "", "", ""⟩, []⟩
  results := ⟨height, [],
    some [⟨"t", [⟨Utf8.encode "k", Utf8.encode "v", false⟩]⟩], none⟩
  counts_eq := rfl

/-- Blocks at the heights 1 and 2. -/
def twoBlocks : Chain where
  pair? height := if height = 1 ∨ height = 2 then some (shortPair height) else none
  height_eq := by
    intro height pair h
    split at h
    · obtain rfl := Option.some.inj h
      exact ⟨rfl, rfl⟩
    · exact nomatch h

theorem eq_shortPair {height : UInt64} {pair : BlockPair}
    (h : twoBlocks.pair? height = some pair) : pair = shortPair height := by
  unfold twoBlocks at h
  dsimp only at h
  split at h
  · exact (Option.some.inj h).symm
  · exact nomatch h

theorem shortPair_form (height : UInt64) :
    (shortPair height).block.Form (shortPair height).block.report := by
  have htime : Instant.IsOrdinary ⟨0, 0⟩ := ⟨by decide, by decide, by decide⟩
  exact Block.form_report htime nofun

/-- A node of version 0.34 that notes what it is asked. -/
def twoBlocksNode : Transport (StateM (Nat × List Exchange)) := fun call =>
  ExceptT.mk fun (now, asked) =>
    let answer : Except ConnectionError Json := match call with
      | .status => .error ⟨.generic, ""⟩
      | .block height => .ok (shortPair height).block.report
      | .blockResults height => .ok ((shortPair height).results.report Base64.encode none)
    (answer, now, asked ++ [(call, answer)])

theorem twoBlocksNode_reports : twoBlocksNode.Reports .tendermint34 twoBlocks where
  block := by
    intro height pair h s
    rw [eq_shortPair h]
    exact ⟨_, rfl, shortPair_form height⟩
  results := by
    intro height pair h s
    rw [eq_shortPair h]
    exact ⟨_, rfl, Protocol.resultsForm_report (Protocol.covers_encode _)⟩

/-- The first block as version 0.37 writes it. -/
def firstEntry : Archive.Entry :=
  ⟨(shortPair 1).block.report, (shortPair 1).results.report Utf8.text none⟩

theorem firstEntry_forms :
    (shortPair 1).block.Form firstEntry.block ∧
      Protocol.tendermint37.ResultsForm (shortPair 1).results none firstEntry.results := by
  refine ⟨shortPair_form 1, Protocol.resultsForm_report
    (Protocol.covers_text (by decide) fun event hevent a ha => ?_)⟩
  obtain rfl : event = ⟨"t", [⟨Utf8.encode "k", Utf8.encode "v", false⟩]⟩ := by
    simpa [BlockResults.events, shortPair] using hevent
  obtain rfl := List.mem_singleton.mp ha
  exact ⟨⟨"k", rfl⟩, "v", rfl⟩

/-- The entries of a bundle with the first block. -/
def firstEntries : Json :=
  .array [.object [("key", .string "1"),
    ("value", .object [("block", firstEntry.block), ("block_results", firstEntry.results)])]]

theorem parse_firstEntries :
    Archive.Entries.parse 0 (Utf8.encode firstEntries.render) = .ok [(1, firstEntry)] := by
  -- texts are compared by their characters, and values by their texts
  have hchars : ((Archive.Entries.parse 0 (firstEntries.chars.flatMap Utf8.encodeChar)).toOption.map
      (·.map fun entry => (entry.1, entry.2.block.chars, entry.2.results.chars))) =
        some [(1, firstEntry.block.chars, firstEntry.results.chars)] := by
    decide +kernel
  rw [Json.encode_render]
  cases hparse : Archive.Entries.parse 0 (firstEntries.chars.flatMap Utf8.encodeChar) with
  | error e =>
    rw [hparse] at hchars
    cases hchars
  | ok entries =>
    rw [hparse] at hchars
    obtain ⟨⟨height, block, results⟩, rest, rfl, hentry, hrest⟩ :=
      List.map_eq_cons_iff.mp (Option.some.inj hchars)
    obtain rfl := List.map_eq_nil_iff.mp hrest
    simp only [Prod.mk.injEq] at hentry
    obtain ⟨rfl, hblock, hresults⟩ := hentry
    have hblock : block = firstEntry.block := Json.render_injective (congrArg String.ofList hblock)
    have hresults : results = firstEntry.results :=
      Json.render_injective (congrArg String.ofList hresults)
    rw [hblock, hresults]

/-- What is known of the bundle with the first block. -/
def firstBundle : Archive.Bundle :=
  ⟨0, "first", 0, 0, "1", "1", ""⟩

/-- An archive of that bundle. -/
def firstArchive : Archive.Growing where
  newest _ := 0
  newest_mono _ := UInt64.le_refl _
  newest_lt _ := by decide
  bundle _ := firstBundle
  preliminary _ id := .error (.bundleNotFound id)
  stored bundle := if bundle = firstBundle then Utf8.encode firstEntries.render else []
  range _ := ⟨1, 1⟩
  heightRange_bundle _ := by decide
  first_le_last _ := by decide
  last_lt_first := by
    intro id now h
    exact absurd h (by grind)

theorem stores_firstArchive (bundle : Archive.Bundle) (range : Archive.HeightRange)
    (loaded : Archive.Loaded) (h : bundle.unpack range (firstArchive.stored bundle) = .ok loaded) :
    loaded.Stores twoBlocks := by
  unfold Archive.Bundle.unpack firstArchive at h
  dsimp only at h
  by_cases hbundle : bundle = firstBundle
  · have hdata : firstBundle.decompress (Utf8.encode firstEntries.render) =
        .ok (Utf8.encode firstEntries.render) := if_pos rfl
    rw [hbundle, if_pos rfl, hdata, show firstBundle.id = 0 from rfl] at h
    dsimp only at h
    rw [parse_firstEntries] at h
    obtain rfl := Except.ok.inj h
    intro height entry pair hentry hpair
    have hlookup : (match height == 1 with
        | true => some firstEntry
        | false => none) = some entry := hentry
    split at hlookup
    · rename_i heq
      obtain rfl := eq_of_beq heq
      rw [eq_shortPair hpair, ← Option.some.inj hlookup]
      exact firstEntry_forms
    · exact nomatch hlookup
  -- there is nothing but that bundle
  · rw [if_neg hbundle] at h
    unfold Archive.Bundle.decompress at h
    split_ifs at h
    · exact nomatch h
    · exact nomatch h

/-- Questions are put to the archive at moments of its own, the third of which is an outage. -/
def twoBlocksFeed : Feed (StateM (Nat × List Exchange)) where
  transport := twoBlocksNode
  client := ⟨.detect "0.34.24", ⟨"0.34.24", "c", 2, none, 1⟩⟩
  archive := some (firstArchive.source fun now =>
    if now = 2 then some (.metadataRequestFailed "" "") else none).ofFirst
  policy := ⟨3, 1, 8⟩
  pause _ := pure ()

theorem twoBlocksFeed_follows : twoBlocksFeed.Follows .tendermint34 twoBlocks Prod.snd where
  version := .tendermint34 "24"
  client := rfl
  node := twoBlocksNode_reports
  archive := by
    intro source hsource
    obtain rfl := Option.some.inj hsource
    exact (Archive.Growing.loads stores_firstArchive).ofFirst
  notes := by
    refine ⟨fun call s => ?_, fun source hsource => ?_, fun _ _ => rfl⟩
    · cases call <;> rfl
    · obtain rfl := Option.some.inj hsource
      exact Archive.Source.leaves_ofFirst _

/-- A batch after one that meets the outage. -/
theorem exec_after_history_twoBlocks :
    twoBlocksFeed.Follows .tendermint34 twoBlocks Prod.snd ∧
    twoBlocks.Has [1, 1] [shortPair 1, shortPair 1] ∧
    (let (fetcher, now) := twoBlocksFeed.after [[1, 2]] (.new, 0, [])
      let (fetcher', now') := twoBlocksFeed.withoutArchive.after [[1, 2]] (.new, 0, [])
      (twoBlocksFeed.exec [1, 1] fetcher now).1 = .ok [shortPair 1, shortPair 1] ∧
      (twoBlocksFeed.withoutArchive.exec [1, 1] fetcher' now').1 =
        .ok [shortPair 1, shortPair 1] ∧
      ((twoBlocksFeed.exec [1, 1] fetcher now).2.2.2 = now.2 ∨
        ∃ exchanges, (twoBlocksFeed.exec [1, 1] fetcher now).2.2.2 = now.2 ++ exchanges ∧
          exchanges.map (·.1) = (Batch.calls [1, 1]).map BatchCall.call)) := by
  have hpairs : twoBlocks.Has [1, 1] [shortPair 1, shortPair 1] := .cons rfl (.cons rfl .nil)
  exact ⟨twoBlocksFeed_follows, hpairs,
    Feed.exec_after_history twoBlocksFeed_follows [[1, 2]] hpairs (0, [])⟩

end TwoBlocks

end ChainFeed
