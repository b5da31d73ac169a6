import ChainFeed.Proofs.Archive.Serving
import ChainFeed.Proofs.Feed.Run
import ChainFeed.Proofs.Node.Normalization

/-!
# Where the pairs of a batch come from

A batch that succeeds has one pair for each height, and each pair has as many results as
transactions. Beyond that it depends on the source what is known of the pairs. Bundles of the
archive are checked: the block of an entry has the height that the entry was asked for. Answers of
the node are taken as they are: a pair consists of what the node answered in the last attempt to the
two questions about its height, and nothing makes sure that a block or its results are of that
height.

The exchanges with the node are followed in a log, which is any part of the state that notes each
question with its answer.

## Main definitions

- `Exchange`: a question to the node with its answer
- `Feed.Notes`: a part of the state notes all exchanges
- `Transcript`: the exchanges of an attempt that succeeds

## Main results

- `NodeClient.fetchPairs_transcript`, `RetryPolicy.attemptFrom_noted`: what the node was asked
- `Feed.exec_provenance`: where the pairs of a batch come from
-/

namespace ChainFeed

open Archive (reply reply_bind reply_pure)

/-- A question to the node with its answer. -/
abbrev Exchange :=
  NodeCall × Except ConnectionError Json

variable {σ α : Type} {log : σ → List Exchange} {transport : Transport (StateM σ)} {s : σ}

/-- A part of the state notes all questions to a node with their answers. -/
def Transport.Notes (transport : Transport (StateM σ)) (log : σ → List Exchange) : Prop :=
  ∀ call s, log (reply (transport call) s).2 = log s ++ [(call, (reply (transport call) s).1)]

/-- A part of the state notes all questions to the node with their answers, and nothing else. -/
structure Feed.Notes (feed : Feed (StateM σ)) (log : σ → List Exchange) : Prop where
  transport : feed.transport.Notes log
  archive : ∀ source, feed.archive = some source → source.Leaves log
  pause : ∀ n s, log ((feed.pause n).run s).2 = log s

/-! ### Attempts -/

/-- The exchanges of an attempt that succeeds: at each height an answer that is read as the block of
the pair, then one that is read as its results. -/
inductive Transcript (protocol : Protocol) :
    List UInt64 → List Exchange → List BlockPair → Prop
  | nil : Transcript protocol [] [] []
  | cons {height : UInt64} {heights : List UInt64} {exchanges : List Exchange}
      {block results : Json} {pair : BlockPair} {pairs : List BlockPair}
      (hblock : protocol.decodeBlock block = .ok pair.block)
      (hresults : protocol.decodeResults results = .ok pair.results)
      (rest : Transcript protocol heights exchanges pairs) :
      Transcript protocol (height :: heights)
        ((.block height, .ok block) :: (.blockResults height, .ok results) :: exchanges)
        (pair :: pairs)

theorem Transcript.length_eq {protocol : Protocol} {heights : List UInt64}
    {exchanges : List Exchange} {pairs : List BlockPair}
    (h : Transcript protocol heights exchanges pairs) : pairs.length = heights.length := by
  induction h with
  | nil => rfl
  | cons _ _ _ ih => rw [List.length_cons, List.length_cons, ih]

/-- The questions of a transcript are those of the batch, each asked once and in order. -/
theorem Transcript.calls_eq {protocol : Protocol} {heights : List UInt64}
    {exchanges : List Exchange} {pairs : List BlockPair}
    (h : Transcript protocol heights exchanges pairs) :
    exchanges.map (·.1) = (Batch.calls heights).map BatchCall.call := by
  suffices hfrom : ∀ position,
      exchanges.map (·.1) = (Batch.callsFrom position heights).map BatchCall.call from hfrom 0
  induction h with
  | nil => exact fun _ => rfl
  | cons _ _ _ ih =>
    intro position
    rw [Batch.callsFrom, List.map_cons, List.map_cons, ih (position + 1)]
    rfl

/-- What questions to the node come to: some exchanges are noted, and a result goes with them. -/
def Noted (log : σ → List Exchange) (s : σ) (ok : List Exchange → α → Prop)
    (run : Except FetchError α × σ) : Prop :=
  ∃ exchanges, log run.2 = log s ++ exchanges ∧ ∀ a, run.1 = .ok a → ok exchanges a

theorem of_readAnswer_eq_ok {decode : Json → Except DecodeError α}
    {answer : Except ConnectionError Json} {a : α} (h : readAnswer decode answer = .ok a) :
    ∃ value, answer = .ok value ∧ decode value = .ok a := by
  obtain ⟨value, hvalue, hdecode⟩ := exists_of_bind_eq_ok h
  exact ⟨value, of_mapError_eq_ok hvalue, of_mapError_eq_ok hdecode⟩

theorem query_noted (h : transport.Notes log) (call : NodeCall)
    (decode : Json → Except DecodeError α) (s : σ) :
    Noted log s (fun exchanges a => ∃ value, exchanges = [(call, .ok value)] ∧ decode value = .ok a)
      (reply (NodeClient.query transport call decode) s) := by
  rw [reply_query]
  refine ⟨_, h call s, fun a ha => ?_⟩
  obtain ⟨value, hvalue, hdecode⟩ := of_readAnswer_eq_ok ha
  exact ⟨value, by rw [hvalue], hdecode⟩

namespace NodeClient

variable (client : NodeClient)

theorem fetchPair_noted (h : transport.Notes log) (height : UInt64) (s : σ) :
    Noted log s (fun exchanges pair => ∃ block results,
        exchanges = [(.block height, .ok block), (.blockResults height, .ok results)] ∧
        client.protocol.decodeBlock block = .ok pair.block ∧
        client.protocol.decodeResults results = .ok pair.results)
      (reply (client.fetchPair transport height) s) := by
  have hblock := query_noted h (.block height) client.protocol.decodeBlock s
  rw [reply_fetchPair, fetchBlock]
  generalize reply (query transport (.block height) _) s = run at hblock ⊢
  obtain ⟨result, s'⟩ := run
  obtain ⟨first, hlog, hok⟩ := hblock
  cases result with
  | error e =>
    refine ⟨first, hlog, ?_⟩
    intro _ ha
    cases ha
  | ok block =>
    obtain ⟨value, rfl, hvalue⟩ := hok _ rfl
    have hresults := query_noted h (.blockResults height) client.protocol.decodeResults s'
    dsimp only at hlog ⊢
    rw [fetchResults]
    generalize reply (query transport (.blockResults height) _) s' = run at hresults ⊢
    obtain ⟨result, s''⟩ := run
    obtain ⟨second, hlog', hok'⟩ := hresults
    dsimp only at hlog'
    rw [hlog, List.append_assoc] at hlog'
    cases result with
    | error e =>
      refine ⟨_, hlog', ?_⟩
      intro _ ha
      cases ha
    | ok results =>
      obtain ⟨value', rfl, hvalue'⟩ := hok' _ rfl
      refine ⟨_, hlog', fun pair hpair => ?_⟩
      obtain ⟨hblockEq, hresultsEq⟩ := BlockPair.of_ofParts_eq_ok (of_mapError_eq_ok hpair)
      exact ⟨value, value', rfl, hblockEq ▸ hvalue, hresultsEq ▸ hvalue'⟩

/-- An attempt that succeeds leaves its transcript. -/
theorem fetchPairs_transcript (h : transport.Notes log) (heights : List UInt64) (s : σ) :
    Noted log s (Transcript client.protocol heights)
      (reply (client.fetchPairs transport heights) s) := by
  rw [fetchPairs_eq_mapM]
  induction heights generalizing s with
  | nil =>
    refine ⟨[], (List.append_nil _).symm, fun pairs hpairs => ?_⟩
    obtain rfl := Except.ok.inj hpairs
    exact .nil
  | cons height heights ih =>
    have hpair := client.fetchPair_noted h height s
    rw [List.mapM_cons, reply_bind]
    generalize reply (client.fetchPair transport height) s = run at hpair ⊢
    obtain ⟨result, s'⟩ := run
    obtain ⟨first, hlog, hok⟩ := hpair
    cases result with
    | error e => exact ⟨first, hlog, fun _ ha => nomatch ha⟩
    | ok pair =>
      obtain ⟨block, results, rfl, hblock, hresults⟩ := hok _ rfl
      have hrest := ih s'
      dsimp only at hlog ⊢
      rw [reply_bind]
      generalize reply (heights.mapM (client.fetchPair transport)) s' = run at hrest ⊢
      obtain ⟨result, s''⟩ := run
      obtain ⟨rest, hlog', hok'⟩ := hrest
      dsimp only at hlog'
      rw [hlog, List.append_assoc] at hlog'
      cases result with
      | error e => exact ⟨_, hlog', fun _ ha => nomatch ha⟩
      | ok pairs =>
        refine ⟨_, hlog', fun all hall => ?_⟩
        obtain rfl := Except.ok.inj hall
        exact .cons hblock hresults (hok' _ rfl)

end NodeClient

/-- Repeated attempts note the exchanges of each of them, and a result goes with those of the
last. -/
theorem RetryPolicy.attemptFrom_noted (policy : RetryPolicy) {pause : Nat → StateM σ Unit}
    (hpause : ∀ n s, log ((pause n).run s).2 = log s)
    {attempt : ExceptT FetchError (StateM σ) α} {ok : List Exchange → α → Prop}
    (h : ∀ s, Noted log s ok (reply attempt s)) (made left : Nat) (s : σ) :
    Noted log s (fun exchanges a => ∃ earlier last, exchanges = earlier ++ last ∧ ok last a)
      (reply (policy.attemptFrom pause attempt made left) s) := by
  have hattempt := h s
  rw [reply_attemptFrom]
  generalize reply attempt s = run at hattempt ⊢
  obtain ⟨result, s'⟩ := run
  obtain ⟨exchanges, hlog, hok⟩ := hattempt
  cases result with
  | ok a => exact ⟨exchanges, hlog, fun a ha => ⟨[], exchanges, rfl, hok a ha⟩⟩
  | error e =>
    dsimp only at hlog ⊢
    split
    · exact ⟨exchanges, hlog, fun _ ha => nomatch ha⟩
    · cases left with
      | zero => exact ⟨exchanges, hlog, fun _ ha => nomatch ha⟩
      -- the exchanges of this attempt stand before those of the next ones
      | succ left =>
        obtain ⟨later, hlater, hok'⟩ := policy.attemptFrom_noted hpause h (made + 1) left
          ((pause (policy.delayAfter (made + 1))).run s').2
        rw [hpause, hlog, List.append_assoc] at hlater
        refine ⟨_, hlater, fun a ha => ?_⟩
        obtain ⟨earlier, last, rfl, hlast⟩ := hok' a ha
        exact ⟨exchanges ++ earlier, last, (List.append_assoc _ _ _).symm, hlast⟩

/-- A node answers the two questions about a height with the halves of a pair, whatever its
state. -/
structure Transport.Answers (transport : Transport (StateM σ)) (protocol : Protocol)
    (height : UInt64) (pair : BlockPair) : Prop where
  block : ∀ s, ∃ value, (reply (transport (.block height)) s).1 = .ok value ∧
    protocol.decodeBlock value = .ok pair.block
  results : ∀ s, ∃ value, (reply (transport (.blockResults height)) s).1 = .ok value ∧
    protocol.decodeResults value = .ok pair.results

theorem readAnswer_ok {decode : Json → Except DecodeError α} {value : Json} {a : α}
    (h : decode value = .ok a) : readAnswer decode (.ok value) = .ok a := by
  show (decode value).mapError _ = _
  rw [h]
  rfl

namespace NodeClient

variable (client : NodeClient)

theorem fetchPair_eq {height : UInt64} {pair : BlockPair}
    (h : transport.Answers client.protocol height pair) (s : σ) :
    (reply (client.fetchPair transport height) s).1 = .ok pair := by
  obtain ⟨block, hblock, hdecode⟩ := h.block s
  rw [reply_fetchPair, fetchBlock, reply_query, hblock, readAnswer_ok hdecode]
  dsimp only
  obtain ⟨results, hresults, hdecode'⟩ := h.results (reply (transport (.block height)) s).2
  have hparts : BlockPair.ofParts pair.block pair.results = .ok pair := dif_pos pair.counts_eq
  rw [fetchResults, reply_query, hresults, readAnswer_ok hdecode']
  dsimp only
  rw [hparts]
  rfl

/-- A batch comes to the pairs with which the node answers. -/
theorem fetchPairs_eq {heights : List UInt64} {pairs : List BlockPair}
    (h : List.Forall₂ (transport.Answers client.protocol) heights pairs) (s : σ) :
    (reply (client.fetchPairs transport heights) s).1 = .ok pairs := by
  rw [fetchPairs_eq_mapM]
  induction h generalizing s with
  | nil => rfl
  | @cons height pair heights pairs hpair _ ih =>
    have hhead := client.fetchPair_eq hpair s
    rw [List.mapM_cons, reply_bind]
    generalize reply (client.fetchPair transport height) s = run at hhead ⊢
    obtain ⟨result, s'⟩ := run
    obtain rfl : result = .ok pair := hhead
    have htail := ih s'
    dsimp only
    rw [reply_bind]
    generalize reply (heights.mapM (client.fetchPair transport)) s' = run at htail ⊢
    obtain ⟨result, s''⟩ := run
    obtain rfl : result = .ok pairs := htail
    rfl

end NodeClient

/-- An attempt that succeeds is the only one. -/
theorem RetryPolicy.reply_run_of_ok (policy : RetryPolicy) {pause : Nat → StateM σ Unit}
    {attempt : ExceptT FetchError (StateM σ) α} {a : α} {s : σ}
    (h : (reply attempt s).1 = .ok a) :
    reply (policy.run pause attempt) s = reply attempt s := by
  rw [run, reply_attemptFrom]
  generalize reply attempt s = run at h ⊢
  obtain ⟨result, s'⟩ := run
  obtain rfl : result = .ok a := h
  rfl

/-! ### Batches -/

namespace Feed

variable {feed : Feed (StateM σ)} {heights : List UInt64} {fetcher : Archive.Fetcher}

theorem fromNode_noted (h : feed.Notes log) (heights : List UInt64) (s : σ) :
    Noted log s
      (fun exchanges pairs => ∃ earlier last, exchanges = earlier ++ last ∧
        Transcript feed.client.protocol heights last pairs)
      (reply (feed.fromNode heights) s) :=
  feed.policy.attemptFrom_noted h.pause
    (fun s => feed.client.fetchPairs_transcript h.transport heights s) 0 _ s

/-- A batch either comes from loaded bundles of the archive, and the node is asked nothing, or it
comes from the node as a whole. -/
theorem exec_cases (h : feed.Notes log) {P : Archive.Loaded → Prop}
    (hloads : ∀ source, feed.archive = some source → source.Loads P) (hkeeps : fetcher.Keeps P)
    (heights : List UInt64) (s : σ) :
    ((feed.exec heights fetcher s).2.1).Keeps P ∧
    ((∃ pairs, (feed.exec heights fetcher s).1 = .ok pairs ∧
        log (feed.exec heights fetcher s).2.2 = log s ∧
        List.Forall₂ (fun height pair => ∃ loaded, P loaded ∧ loaded.pair height = .ok pair)
          heights pairs) ∨
      ∃ s', log s' = log s ∧
        (feed.exec heights fetcher s).1 = (reply (feed.fromNode heights) s').1 ∧
        (feed.exec heights fetcher s).2.2 = (reply (feed.fromNode heights) s').2) := by
  rw [exec_eq]
  cases harchive : feed.archive with
  | none => exact ⟨hkeeps, .inr ⟨s, rfl, rfl, rfl⟩⟩
  | some source =>
    have hserved := Archive.fetchPairs_served (s := s) (h.archive source harchive)
      (hloads source harchive) heights hkeeps
    dsimp only
    generalize (Archive.fetchPairs source heights).exec fetcher s = run at hserved ⊢
    obtain ⟨result, fetcher', s'⟩ := run
    obtain ⟨hview, hkeeps', hanswer⟩ := hserved
    cases result with
    | error e => exact ⟨hkeeps', .inr ⟨s', hview, rfl, rfl⟩⟩
    | ok pairs => exact ⟨hkeeps', .inl ⟨pairs, rfl, hview, hanswer pairs rfl⟩⟩

/-- A batch that succeeds has a pair for each height. Either the node is not asked, and each block
comes from the archive with its height checked; or the pairs are what the node answered in the last
attempt, whatever height that is of. -/
theorem exec_provenance (h : feed.Notes log) {pairs : List BlockPair}
    (hok : (feed.exec heights fetcher s).1 = .ok pairs) :
    pairs.length = heights.length ∧
    (∀ pair ∈ pairs, pair.block.txs.length = pair.results.results.length) ∧
    (log (feed.exec heights fetcher s).2.2 = log s ∧
        List.Forall₂ (fun height pair => pair.height = height) heights pairs ∨
      ∃ earlier last, log (feed.exec heights fetcher s).2.2 = log s ++ (earlier ++ last) ∧
        Transcript feed.client.protocol heights last pairs) := by
  have hcases := (exec_cases h (P := fun _ => True) (fun _ _ _ _ _ _ _ _ _ => trivial)
    (fun _ _ => trivial : fetcher.Keeps _) heights s).2
  rcases hcases with ⟨served, hserved, hlog, hpairs⟩ | ⟨s', hlog, hresult, hstate⟩
  · obtain rfl := Except.ok.inj (hserved.symm.trans hok)
    have hheights : List.Forall₂ (fun height pair => BlockPair.height pair = height)
        heights served := by
      refine hpairs.imp fun height pair hpair => ?_
      obtain ⟨loaded, -, hpair⟩ := hpair
      obtain ⟨_, -, -, -, hheight⟩ := Archive.Loaded.exists_entry hpair
      exact hheight
    exact ⟨hheights.length_eq.symm, fun pair _ => pair.counts_eq, .inl ⟨hlog, hheights⟩⟩
  · obtain ⟨exchanges, hexchanges, hnode⟩ := fromNode_noted h heights s'
    obtain ⟨earlier, last, rfl, hlast⟩ := hnode pairs (hresult.symm.trans hok)
    rw [hstate, ← hlog]
    exact ⟨hlast.length_eq, fun pair _ => pair.counts_eq, .inr ⟨earlier, last, hexchanges, hlast⟩⟩

end Feed

/-! ### A node that strays -/

section Stray

/-- A block without transactions. -/
def strayPair : BlockPair where
  block := ⟨"", ⟨⟨0, 0⟩, "testchain-1", 6, ⟨0, 0⟩, none, "", "", ""⟩, []⟩
  results := ⟨6, [], none, none⟩
  counts_eq := rfl

/-- A node that answers all questions with the same block, and notes what it is asked. -/
def strayNode : Transport (StateM (List Exchange)) := fun call =>
  ExceptT.mk fun asked =>
    let answer : Except ConnectionError Json := match call with
      | .status => .error ⟨.generic, ""⟩
      | .block _ => .ok strayPair.block.report
      | .blockResults _ => .ok (strayPair.results.report Base64.encode none)
    (answer, asked ++ [(call, answer)])

/-- A feed of that node that makes one attempt. -/
def strayFeed : Feed (StateM (List Exchange)) where
  transport := strayNode
  client := ⟨.detect "0.34.24", ⟨"0.34.24", "testchain-1", 10, none, 1⟩⟩
  archive := none
  policy := ⟨1, 0, 0⟩
  pause _ := pure ()

theorem strayFeed_notes : strayFeed.Notes id := by
  refine ⟨fun call s => ?_, fun _ hsource => (nomatch hsource), fun _ _ => rfl⟩
  cases call <;> rfl

theorem strayNode_answers (height : UInt64) :
    strayNode.Answers .tendermint34 height strayPair where
  block _ := by
    have htime : Instant.IsOrdinary ⟨0, 0⟩ := ⟨by decide, by decide, by decide⟩
    exact ⟨_, rfl, Protocol.decodeBlock_of_form _ (Block.form_report htime nofun)⟩
  results _ := by
    refine ⟨_, rfl, ?_⟩
    rw [Protocol.decodeResults_of_form (Protocol.resultsForm_report (Protocol.covers_encode _))]
    rfl

theorem exec_strayFeed : (strayFeed.exec [5] .new []).1 = .ok [strayPair] := by
  have hok : (reply (strayFeed.client.fetchPairs strayFeed.transport [5]) []).1 =
      .ok [strayPair] :=
    strayFeed.client.fetchPairs_eq (.cons (strayNode_answers 5) .nil) []
  rw [Feed.exec_eq]
  show (reply (strayFeed.policy.run _ _) []).1 = _
  rw [strayFeed.policy.reply_run_of_ok hok]
  exact hok

/-- A batch that succeeds although its only answers are of another height. -/
theorem exec_provenance_strayFeed :
    strayFeed.Notes id ∧ (strayFeed.exec [5] .new []).1 = .ok [strayPair] ∧
    [strayPair].length = [(5 : UInt64)].length ∧
    (∀ pair ∈ [strayPair], pair.block.txs.length = pair.results.results.length) ∧
    ((strayFeed.exec [5] .new []).2.2 = [] ∧
        List.Forall₂ (fun height pair => BlockPair.height pair = height) [5] [strayPair] ∨
      ∃ earlier last, (strayFeed.exec [5] .new []).2.2 = [] ++ (earlier ++ last) ∧
        Transcript strayFeed.client.protocol [5] last [strayPair]) :=
  ⟨strayFeed_notes, exec_strayFeed, Feed.exec_provenance strayFeed_notes exec_strayFeed⟩

/-- The block at height 5 is asked for, and the block at height 6 is given without an error. -/
theorem exec_other_height :
    ∃ pair, (strayFeed.exec [5] .new []).1 = .ok [pair] ∧
      pair.height ≠ 5 ∧ pair.results.height ≠ 5 :=
  ⟨strayPair, exec_strayFeed, by decide, by decide⟩

end Stray

end ChainFeed
