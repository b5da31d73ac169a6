import ChainFeed.Proofs.Feed.Provenance
import Mathlib.Data.List.Basic

/-!
# Answers in any order

All questions of a batch are on their way at the same time, and their answers come back in any
order. Which answer a question gets does not depend on that order: at two positions of the same
height the answers may differ, but each is the answer to its own question. The slots then only know
which answers have been delivered, not when, so that the order can neither move a pair to another
position nor let a batch through of which a part has failed.

## Main definitions

- `Batch.outcome`: what a batch comes to when its answers are delivered in a given order
- `Batch.pairAt`: what the two answers at a position come to
- `Batch.Pairs`, `Batch.Fails`: the pairs of all positions, and what can go wrong at one of them
- `Batch.Reflects`: a batch after some deliveries

## Main results

- `Batch.Reflects.deliver`: one delivery keeps what the slots say, or is one of the failures
- `Batch.Reflects.deliverAll`: so does a whole order of them
- `Batch.outcome_of_perm`: no order changes the pairs of a batch, and none hides a failure
-/

namespace ChainFeed

namespace Batch

/-! ### Delivery orders -/

/-- Delivers the answers to some questions in their order, up to the first failure. -/
def deliverAll (protocol : Protocol) (answers : BatchCall → Except ConnectionError Json)
    (order : List BatchCall) (batch : Batch) : Except FetchError Batch :=
  order.foldlM (fun batch call => batch.deliver protocol call (answers call)) batch

/-- What a batch comes to when the answers to its questions are delivered in an order. -/
def outcome (protocol : Protocol) (answers : BatchCall → Except ConnectionError Json)
    (heights : List UInt64) (order : List BatchCall) : Except FetchError (List BlockPair) :=
  (deliverAll protocol answers order (start heights)).map pairs

variable (protocol : Protocol) (answers : BatchCall → Except ConnectionError Json)

/-- The block that is answered at a position. -/
def blockAt (position : Nat) (height : UInt64) : Except FetchError Block :=
  readAnswer protocol.decodeBlock (answers ⟨position, height, .block⟩)

/-- The results that are answered at a position. -/
def resultsAt (position : Nat) (height : UInt64) : Except FetchError BlockResults :=
  readAnswer protocol.decodeResults (answers ⟨position, height, .results⟩)

/-- What the two answers at a position come to. -/
def pairAt (position : Nat) (height : UInt64) : Except FetchError BlockPair := do
  let block ← blockAt protocol answers position height
  let results ← resultsAt protocol answers position height
  (BlockPair.ofParts block results).mapError .validation

/-- Pairs that come, position by position, from the answers at these positions. -/
structure Pairs (heights : List UInt64) (pairs : List BlockPair) : Prop where
  length_eq : pairs.length = heights.length
  pair_eq : ∀ {i height pair}, heights[i]? = some height → pairs[i]? = some pair →
    pairAt protocol answers i height = .ok pair

/-- What can go wrong in a batch: a call fails or its answer cannot be read, or a block and its
results do not fit together. -/
inductive Fails (heights : List UInt64) : FetchError → Prop
  | block {i : Nat} {height : UInt64} {e : FetchError} (hheight : heights[i]? = some height)
    (h : blockAt protocol answers i height = .error e) : Fails heights e
  | results {i : Nat} {height : UInt64} {e : FetchError} (hheight : heights[i]? = some height)
    (h : resultsAt protocol answers i height = .error e) : Fails heights e
  | mismatch {i : Nat} {height : UInt64} {block : Block} {results : BlockResults}
    {e : ValidationError} (hheight : heights[i]? = some height)
    (hblock : blockAt protocol answers i height = .ok block)
    (hresults : resultsAt protocol answers i height = .ok results)
    (h : BlockPair.ofParts block results = .error e) : Fails heights (.validation e)

variable {protocol answers} {heights : List UInt64} {batch : Batch} {done order : List BatchCall}
  {call : BatchCall} {position i : Nat} {height : UInt64} {pairs : List BlockPair}
  {e : FetchError}

/-! ### The questions of a batch -/

theorem callsFrom_eq_flatMap (position : Nat) (heights : List UInt64) :
    callsFrom position heights = (heights.zipIdx position).flatMap fun (height, position) =>
      [⟨position, height, .block⟩, ⟨position, height, .results⟩] := by
  induction heights generalizing position with
  | nil => rfl
  | cons height heights ih => rw [callsFrom, ih, List.zipIdx_cons, List.flatMap_cons]; rfl

/-- A batch asks twice at each position, for its height. -/
theorem mem_calls : call ∈ calls heights ↔ heights[call.position]? = some call.height := by
  obtain ⟨position, height, part⟩ := call
  rw [calls, callsFrom_eq_flatMap, List.mem_flatMap]
  constructor
  · rintro ⟨⟨height', position'⟩, hmem, hcall⟩
    have hheight := List.mem_zipIdx_iff_getElem?.mp hmem
    rcases List.mem_pair.mp hcall with heq | heq
    · obtain ⟨rfl, rfl, -⟩ := BatchCall.mk.inj heq
      exact hheight
    · obtain ⟨rfl, rfl, -⟩ := BatchCall.mk.inj heq
      exact hheight
  · intro hheight
    refine ⟨(height, position), List.mem_zipIdx_iff_getElem?.mpr hheight, List.mem_pair.mpr ?_⟩
    cases part
    · exact .inl rfl
    · exact .inr rfl

theorem le_position_of_mem_callsFrom (h : call ∈ callsFrom position heights) :
    position ≤ call.position := by
  rw [callsFrom_eq_flatMap] at h
  obtain ⟨⟨height, position'⟩, hmem, hcall⟩ := List.mem_flatMap.mp h
  have hle := List.le_snd_of_mem_zipIdx hmem
  rcases List.mem_pair.mp hcall with rfl | rfl
  · exact hle
  · exact hle

/-- No question is asked twice, also if a height is. -/
theorem nodup_callsFrom (position : Nat) (heights : List UInt64) :
    (callsFrom position heights).Nodup := by
  induction heights generalizing position with
  | nil => exact List.nodup_nil
  | cons height heights ih =>
    have hlater : ∀ part, ⟨position, height, part⟩ ∉ callsFrom (position + 1) heights :=
      fun part hmem => Nat.not_succ_le_self _ (le_position_of_mem_callsFrom hmem)
    refine List.nodup_cons.mpr ⟨fun hmem => ?_, List.nodup_cons.mpr ⟨hlater _, ih _⟩⟩
    rcases List.mem_cons.mp hmem with heq | hmem
    · exact nomatch congrArg BatchCall.part heq
    · exact hlater _ hmem

/-! ### Slots -/

theorem change_eq_set {f : Slot → Except ValidationError Slot} {slot : Slot}
    (h : batch[i]? = some slot) : change f i batch = (f slot).map (batch.set i) := by
  induction batch generalizing i with
  | nil => cases h
  | cons head batch ih =>
    cases i with
    | zero =>
      obtain rfl := Option.some.inj h
      rw [change]
      rfl
    | succ i =>
      rw [change, ih h]
      cases f slot <;> rfl

section Slots

variable (protocol answers)

/-- The slot at a position once the answers to some questions have been delivered. -/
def slotAfter (done : List BatchCall) (position : Nat) (height : UInt64) :
    Except ValidationError Slot :=
  Slot.ofHalves
    (if ⟨position, height, .block⟩ ∈ done then (blockAt protocol answers position height).toOption
      else none)
    (if ⟨position, height, .results⟩ ∈ done then
        (resultsAt protocol answers position height).toOption
      else none)

end Slots

theorem putBlock_of_ofHalves {block : Block} {results : Option BlockResults} {slot : Slot}
    (h : Slot.ofHalves none results = .ok slot) :
    slot.putBlock block = Slot.ofHalves (some block) results := by
  obtain rfl := Except.ok.inj h
  rfl

theorem putResults_of_ofHalves {block : Option Block} {results : BlockResults} {slot : Slot}
    (h : Slot.ofHalves block none = .ok slot) :
    slot.putResults results = Slot.ofHalves block (some results) := by
  cases block <;> (obtain rfl := Except.ok.inj h; rfl)

/-- An answer is one of the failures, or it goes into the slot of its position as if that had been
waiting for it. -/
theorem delivery_cases (hheight : heights[call.position]? = some call.height) (hnew : call ∉ done)
    {slot : Slot} (hslot : slotAfter protocol answers done call.position call.height = .ok slot) :
    (∃ e, delivery protocol call.part (answers call) = .error e ∧
        Fails protocol answers heights e) ∨
      ∃ f, delivery protocol call.part (answers call) = .ok f ∧
        f slot = slotAfter protocol answers (call :: done) call.position call.height := by
  obtain ⟨position, height, part⟩ := call
  cases part with
  | block =>
    cases hread : blockAt protocol answers position height with
    | error e =>
      refine .inl ⟨e, ?_, .block hheight hread⟩
      exact congrArg (Except.map Slot.putBlock) hread
    | ok block =>
      refine .inr ⟨Slot.putBlock block, congrArg (Except.map Slot.putBlock) hread, ?_⟩
      rw [slotAfter, if_neg hnew] at hslot
      rw [putBlock_of_ofHalves hslot, slotAfter, if_pos List.mem_cons_self, hread]
      simp [Except.toOption]
  | results =>
    cases hread : resultsAt protocol answers position height with
    | error e =>
      refine .inl ⟨e, ?_, .results hheight hread⟩
      exact congrArg (Except.map Slot.putResults) hread
    | ok results =>
      refine .inr ⟨Slot.putResults results, congrArg (Except.map Slot.putResults) hread, ?_⟩
      rw [slotAfter, if_neg hnew] at hslot
      rw [putResults_of_ofHalves hslot, slotAfter, if_pos List.mem_cons_self, hread]
      simp [Except.toOption]

theorem eq_ok_of_toOption {ε α : Type} {p : Prop} [Decidable p] {result : Except ε α} {a : α}
    (h : (if p then result.toOption else none) = some a) : result = .ok a := by
  split at h
  · cases result with
    | error e => cases h
    | ok b =>
      obtain rfl := Option.some.inj h
      rfl
  · cases h

theorem of_ofHalves_eq_error {block? : Option Block} {results? : Option BlockResults}
    {e : ValidationError} (h : Slot.ofHalves block? results? = .error e) :
    ∃ block results, block? = some block ∧ results? = some results ∧
      BlockPair.ofParts block results = .error e := by
  cases block? with
  | none => cases h
  | some block =>
    cases results? with
    | none => cases h
    | some results =>
      refine ⟨block, results, rfl, rfl, ?_⟩
      rw [Slot.ofHalves] at h
      cases hparts : BlockPair.ofParts block results with
      | error e' =>
        rw [hparts] at h
        exact congrArg Except.error (Except.error.inj h)
      | ok pair =>
        rw [hparts] at h
        cases h

/-- Two halves that do not fit are one of the failures. -/
theorem fails_of_slotAfter (hheight : heights[position]? = some height) {e : ValidationError}
    (h : slotAfter protocol answers done position height = .error e) :
    Fails protocol answers heights (.validation e) := by
  obtain ⟨block, results, hblock, hresults, hparts⟩ := of_ofHalves_eq_error h
  exact .mismatch hheight (eq_ok_of_toOption hblock) (eq_ok_of_toOption hresults) hparts

/-- A slot into which both answers have been delivered has the pair of its position. -/
theorem paired_of_slotAfter {slot : Slot} {block : Block} {results : BlockResults}
    (hblock : blockAt protocol answers position height = .ok block)
    (hresults : resultsAt protocol answers position height = .ok results)
    (hdone : ∀ part, ⟨position, height, part⟩ ∈ done)
    (h : slotAfter protocol answers done position height = .ok slot) :
    ∃ pair, slot = .paired pair ∧ pairAt protocol answers position height = .ok pair := by
  rw [slotAfter, if_pos (hdone _), if_pos (hdone _), hblock, hresults] at h
  rw [pairAt, hblock, hresults]
  show ∃ pair, slot = .paired pair ∧ (BlockPair.ofParts block results).mapError _ = .ok pair
  change (BlockPair.ofParts block results).map Slot.paired = .ok slot at h
  cases hparts : BlockPair.ofParts block results with
  | error e =>
    rw [hparts] at h
    cases h
  | ok pair =>
    rw [hparts] at h
    exact ⟨pair, (Except.ok.inj h).symm, rfl⟩

theorem slotAfter_cons_of_ne (h : position ≠ call.position) :
    slotAfter protocol answers (call :: done) position height =
      slotAfter protocol answers done position height := by
  have hne : ∀ part, (⟨position, height, part⟩ : BatchCall) ≠ call := fun part heq =>
    h (congrArg BatchCall.position heq)
  simp only [slotAfter, List.mem_cons, hne, false_or]

/-! ### Deliveries -/

variable (protocol answers heights done) in
/-- A batch in which the answers to some questions have been delivered. -/
structure Reflects (batch : Batch) : Prop where
  length_eq : batch.length = heights.length
  answered : ∀ call ∈ done, ∃ f, delivery protocol call.part (answers call) = .ok f
  slot : ∀ {i height}, heights[i]? = some height →
    ∃ slot, batch[i]? = some slot ∧ slotAfter protocol answers done i height = .ok slot

variable (protocol answers heights) in
theorem reflects_start : Reflects protocol answers heights [] (start heights) where
  length_eq := List.length_map _
  answered := nofun
  slot {i height} hheight := by
    refine ⟨.waiting none none, ?_, rfl⟩
    rw [start, List.getElem?_map, hheight]
    rfl

/-- One more answer keeps what the slots say, unless it is one of the failures. -/
theorem Reflects.deliver (h : Reflects protocol answers heights done batch)
    (hcall : call ∈ calls heights) (hnew : call ∉ done) :
    (∃ next, batch.deliver protocol call (answers call) = .ok next ∧
        Reflects protocol answers heights (call :: done) next) ∨
      ∃ e, batch.deliver protocol call (answers call) = .error e ∧
        Fails protocol answers heights e := by
  have hheight := mem_calls.mp hcall
  obtain ⟨slot, hslot, hafter⟩ := h.slot hheight
  rw [Batch.deliver]
  rcases delivery_cases hheight hnew hafter with ⟨e, hread, hfails⟩ | ⟨f, hread, hf⟩
  · rw [hread]
    exact .inr ⟨e, rfl, hfails⟩
  · rw [hread]
    show (∃ next, (batch.change f call.position).mapError _ = _ ∧ _) ∨
      ∃ e, (batch.change f call.position).mapError _ = _ ∧ _
    rw [change_eq_set hslot, hf]
    cases hnext : slotAfter protocol answers (call :: done) call.position call.height with
    | error e => exact .inr ⟨_, rfl, fails_of_slotAfter hheight hnext⟩
    | ok next =>
      refine .inl ⟨_, rfl, ?_, ?_, ?_⟩
      · rw [List.length_set, h.length_eq]
      · exact List.forall_mem_cons.mpr ⟨⟨f, hread⟩, h.answered⟩
      · intro i height hi
        -- at another position of the same height the answers are other ones
        by_cases hposition : i = call.position
        · obtain rfl := hposition
          obtain rfl := Option.some.inj (hheight.symm.trans hi)
          exact ⟨next, List.getElem?_set_self (List.getElem?_eq_some_iff.mp hslot).1, hnext⟩
        · obtain ⟨slot', hslot', hafter'⟩ := h.slot hi
          refine ⟨slot', ?_, ?_⟩
          · rw [List.getElem?_set_ne (Ne.symm hposition), hslot']
          · rw [slotAfter_cons_of_ne hposition, hafter']

/-- Answers that are delivered in any order keep what the slots say, up to a failure. -/
theorem Reflects.deliverAll (h : Reflects protocol answers heights done batch)
    (hcalls : ∀ call ∈ order, call ∈ calls heights) (hnodup : order.Nodup)
    (hnew : ∀ call ∈ order, call ∉ done) :
    (∃ last, Batch.deliverAll protocol answers order batch = .ok last ∧
        Reflects protocol answers heights (order.reverse ++ done) last) ∨
      ∃ e, Batch.deliverAll protocol answers order batch = .error e ∧
        Fails protocol answers heights e := by
  -- each delivery adds its question to `done`, so this has to grow along with the order
  induction order generalizing done batch with
  | nil => exact .inl ⟨batch, rfl, h⟩
  | cons call order ih =>
    obtain ⟨hcall, hcalls⟩ := List.forall_mem_cons.mp hcalls
    obtain ⟨hfirst, hnew⟩ := List.forall_mem_cons.mp hnew
    obtain ⟨hnot, hnodup⟩ := List.nodup_cons.mp hnodup
    rw [Batch.deliverAll, List.foldlM_cons]
    rcases h.deliver hcall hfirst with ⟨next, hnext, hreflects⟩ | ⟨e, he, hfails⟩
    · have hnew' : ∀ other ∈ order, other ∉ call :: done := fun other hother hmem => by
        rcases List.mem_cons.mp hmem with rfl | hmem
        · exact hnot hother
        · exact hnew other hother hmem
      rw [hnext, List.reverse_cons, List.append_assoc]
      exact ih hreflects hcalls hnodup hnew'
    · rw [he]
      exact .inr ⟨e, rfl, hfails⟩

/-! ### Whole batches -/

theorem eq_map_pairs (h : ∀ slot ∈ batch, ∃ pair, slot = .paired pair) :
    batch = batch.pairs.map .paired := by
  induction batch with
  | nil => rfl
  | cons slot batch ih =>
    obtain ⟨⟨pair, rfl⟩, hrest⟩ := List.forall_mem_cons.mp h
    exact congrArg (.paired pair :: ·) (ih hrest)

/-- Once all answers have been delivered, the slots hold the pairs of their positions. -/
theorem Reflects.pairs_pairs (h : Reflects protocol answers heights done batch)
    (hall : ∀ call ∈ calls heights, call ∈ done) :
    Pairs protocol answers heights batch.pairs := by
  have hpair : ∀ {i height}, heights[i]? = some height →
      ∃ pair, batch[i]? = some (.paired pair) ∧ pairAt protocol answers i height = .ok pair := by
    intro i height hheight
    have hdone : ∀ part, ⟨i, height, part⟩ ∈ done := fun part => hall _ (mem_calls.mpr hheight)
    obtain ⟨_, hf⟩ := h.answered _ (hdone .block)
    obtain ⟨block, hblock, -⟩ := exists_of_map_eq_ok hf
    obtain ⟨_, hf⟩ := h.answered _ (hdone .results)
    obtain ⟨results, hresults, -⟩ := exists_of_map_eq_ok hf
    obtain ⟨slot, hslot, hafter⟩ := h.slot hheight
    obtain ⟨pair, rfl, hpair⟩ := paired_of_slotAfter hblock hresults hdone hafter
    exact ⟨pair, hslot, hpair⟩
  have hmap : batch = batch.pairs.map .paired := by
    refine eq_map_pairs fun slot hslot => ?_
    obtain ⟨i, hi⟩ := List.getElem?_of_mem hslot
    obtain ⟨hlt, -⟩ := List.getElem?_eq_some_iff.mp hi
    obtain ⟨pair, hpaired, -⟩ := hpair (List.getElem?_eq_getElem (h.length_eq ▸ hlt))
    exact ⟨pair, Option.some.inj (hi.symm.trans hpaired)⟩
  refine ⟨?_, fun {i height pair} hheight hi => ?_⟩
  · rw [← h.length_eq, hmap, List.length_map, ← hmap]
  · obtain ⟨found, hfound, hpair⟩ := hpair hheight
    rw [hmap, List.getElem?_map, hi] at hfound
    obtain rfl : pair = found := Slot.paired.inj (Option.some.inj hfound)
    exact hpair

theorem Pairs.exists_pairAt (h : Pairs protocol answers heights pairs)
    (hheight : heights[i]? = some height) :
    ∃ pair, pairAt protocol answers i height = .ok pair := by
  obtain ⟨hlt, -⟩ := List.getElem?_eq_some_iff.mp hheight
  exact ⟨_, h.pair_eq hheight (List.getElem?_eq_getElem (h.length_eq ▸ hlt))⟩

theorem Pairs.unique {others : List BlockPair} (h : Pairs protocol answers heights pairs)
    (hothers : Pairs protocol answers heights others) : pairs = others := by
  refine List.ext_getElem (h.length_eq.trans hothers.length_eq.symm) fun i hi hi' => ?_
  have hheight := List.getElem?_eq_getElem (h.length_eq ▸ hi)
  have hpair := h.pair_eq hheight (List.getElem?_eq_getElem hi)
  rw [hothers.pair_eq hheight (List.getElem?_eq_getElem hi')] at hpair
  exact (Except.ok.inj hpair).symm

/-- Where something fails there is no pair. -/
theorem Fails.exists_pairAt (h : Fails protocol answers heights e) :
    ∃ i height e', heights[i]? = some height ∧ pairAt protocol answers i height = .error e' := by
  cases h with
  | @block i height _ hheight hread =>
    refine ⟨i, height, e, hheight, ?_⟩
    rw [pairAt, hread]
    rfl
  | @results i height _ hheight hread =>
    refine ⟨i, height, ?_⟩
    rw [pairAt, hread]
    cases blockAt protocol answers i height with
    | error e' => exact ⟨e', hheight, rfl⟩
    | ok block => exact ⟨e, hheight, rfl⟩
  | @mismatch i height block results e hheight hblock hresults hparts =>
    refine ⟨i, height, .validation e, hheight, ?_⟩
    rw [pairAt, hblock, hresults]
    show (BlockPair.ofParts block results).mapError _ = _
    rw [hparts]
    rfl

/-- In any order a batch comes to its pairs or to one of its failures. -/
theorem outcome_cases (horder : order.Perm (calls heights)) :
    (∃ pairs, outcome protocol answers heights order = .ok pairs ∧
        Pairs protocol answers heights pairs) ∨
      ∃ e, outcome protocol answers heights order = .error e ∧
        Fails protocol answers heights e := by
  have hdelivered := (reflects_start protocol answers heights).deliverAll
    (fun call hmem => horder.mem_iff.mp hmem) (horder.nodup_iff.mpr (nodup_callsFrom 0 heights))
    fun _ _ => List.not_mem_nil
  rw [outcome]
  rcases hdelivered with ⟨last, hlast, hreflects⟩ | ⟨e, he, hfails⟩
  · rw [hlast]
    refine .inl ⟨_, rfl, hreflects.pairs_pairs fun call hcall => ?_⟩
    rw [List.append_nil, List.mem_reverse]
    exact horder.mem_iff.mpr hcall
  · rw [he]
    exact .inr ⟨e, rfl, hfails⟩

theorem run_eq_deliverAll {transport : Transport Id}
    (h : ∀ call ∈ order, (transport call.call).run = answers call) (batch : Batch) :
    (run transport protocol order batch).run = deliverAll protocol answers order batch := by
  induction order generalizing batch with
  | nil => rfl
  | cons call order ih =>
    obtain ⟨hcall, hrest⟩ := List.forall_mem_cons.mp h
    rw [deliverAll, List.foldlM_cons, ← hcall]
    show (liftM (batch.deliver protocol call (transport call.call).run) >>=
      run transport protocol order).run = _
    cases batch.deliver protocol call (transport call.call).run with
    | error e => rfl
    | ok next => exact ih hrest next

/-- A client asks the questions of a batch in order, which is one of the orders in which their
answers may come. -/
theorem run_fetchPairs {status : NodeStatus} {transport : Transport Id}
    (h : ∀ call ∈ calls heights, (transport call.call).run = answers call) :
    (NodeClient.fetchPairs transport ⟨protocol, status⟩ heights).run =
      outcome protocol answers heights (calls heights) := by
  rw [outcome, ← run_eq_deliverAll h, NodeClient.fetchPairs, ExceptT.run_bind]
  cases (run transport protocol (calls heights) (start heights)).run <;> rfl

/-- The outcome of a batch does not depend on the order in which the answers come: if there is a
pair at each position, these are the pairs, and if something fails, it is one of the failures and no
pair. A client that asks its questions in order is a case of this. -/
theorem outcome_of_perm (protocol : Protocol) (answers : BatchCall → Except ConnectionError Json)
    (heights : List UInt64) :
    ((∀ i height, heights[i]? = some height →
        ∃ pair, pairAt protocol answers i height = .ok pair) →
      ∃ pairs, Pairs protocol answers heights pairs ∧
        ∀ order, order.Perm (calls heights) →
          outcome protocol answers heights order = .ok pairs) ∧
    ((∃ e, Fails protocol answers heights e) →
      ∀ order, order.Perm (calls heights) →
        ∃ e, Fails protocol answers heights e ∧
          outcome protocol answers heights order = .error e) ∧
    ∀ (status : NodeStatus) (transport : Transport Id),
      (∀ call ∈ calls heights, (transport call.call).run = answers call) →
        (NodeClient.fetchPairs transport ⟨protocol, status⟩ heights).run =
          outcome protocol answers heights (calls heights) := by
  refine ⟨fun hpairs => ?_, fun ⟨e, hfails⟩ order horder => ?_, fun _ _ => run_fetchPairs⟩
  -- a position with a pair has no failure, so that only one kind of outcome is left
  · have hnone : ∀ e, ¬ Fails protocol answers heights e := fun e hfails => by
      obtain ⟨i, height, e', hheight, herror⟩ := hfails.exists_pairAt
      obtain ⟨pair, hpair⟩ := hpairs i height hheight
      exact nomatch herror.symm.trans hpair
    rcases outcome_cases (.refl (calls heights)) with ⟨pairs, -, hgiven⟩ | ⟨e, -, hfails⟩
    · refine ⟨pairs, hgiven, fun order horder => ?_⟩
      rcases outcome_cases horder with ⟨others, hothers, hgiven'⟩ | ⟨e, -, hfails⟩
      · rw [hothers, hgiven.unique hgiven']
      · exact absurd hfails (hnone e)
    · exact absurd hfails (hnone e)
  · rcases outcome_cases horder with ⟨pairs, -, hgiven⟩ | ⟨e, he, hfails'⟩
    · obtain ⟨i, height, e', hheight, herror⟩ := hfails.exists_pairAt
      obtain ⟨pair, hpair⟩ := hgiven.exists_pairAt hheight
      exact nomatch herror.symm.trans hpair
    · exact ⟨e, hfails', he⟩

/-! ### One height at two positions -/

section Twice

/-- What a node has at a height when it is asked for a batch the `i`-th time. -/
def twicePair (i : Nat) : BlockPair where
  block := ⟨toString i, ⟨⟨0, 0⟩, "testchain-1", 7, ⟨0, 0⟩, none, "", "", ""⟩, []⟩
  results := ⟨7, [], none, none⟩
  counts_eq := rfl

/-- Answers that differ from position to position. -/
def twiceAnswers (call : BatchCall) : Except ConnectionError Json :=
  match call.part with
  | .block => .ok (twicePair call.position).block.report
  | .results => .ok ((twicePair call.position).results.report Base64.encode none)

/-- The same answers, but for one call that fails. -/
def brokenAnswers (call : BatchCall) : Except ConnectionError Json :=
  if call = ⟨1, 7, .results⟩ then .error ⟨.timeout, "late"⟩ else twiceAnswers call

theorem pairAt_twiceAnswers (i : Nat) (height : UInt64) :
    pairAt .tendermint34 twiceAnswers i height = .ok (twicePair i) := by
  have htime : Instant.IsOrdinary ⟨0, 0⟩ := ⟨by decide, by decide, by decide⟩
  have hblock : blockAt .tendermint34 twiceAnswers i height = .ok (twicePair i).block :=
    readAnswer_ok (Protocol.decodeBlock_of_form _ (Block.form_report htime nofun))
  have hresults : resultsAt .tendermint34 twiceAnswers i height = .ok (twicePair i).results := by
    refine readAnswer_ok ?_
    rw [Protocol.decodeResults_of_form (Protocol.resultsForm_report (Protocol.covers_encode _))]
    rfl
  rw [pairAt, hblock, hresults]
  rfl

theorem pairs_twicePair :
    Pairs .tendermint34 twiceAnswers [7, 7] [twicePair 0, twicePair 1] where
  length_eq := rfl
  pair_eq {i height pair} _ hpair := by
    rw [pairAt_twiceAnswers]
    match i with
    | 0 => exact congrArg Except.ok (Option.some.inj hpair)
    | 1 => exact congrArg Except.ok (Option.some.inj hpair)

/-- The results at the second position come first, and the pairs stay at their positions; if they
fail to come, there is no pair at all. -/
theorem outcome_twice :
    [⟨1, 7, .results⟩, ⟨0, 7, .block⟩, ⟨1, 7, .block⟩, ⟨0, 7, .results⟩].Perm (calls [7, 7]) ∧
    outcome .tendermint34 twiceAnswers [7, 7]
        [⟨1, 7, .results⟩, ⟨0, 7, .block⟩, ⟨1, 7, .block⟩, ⟨0, 7, .results⟩] =
      .ok [twicePair 0, twicePair 1] ∧
    ∃ e, Fails .tendermint34 brokenAnswers [7, 7] e ∧
      outcome .tendermint34 brokenAnswers [7, 7]
        [⟨1, 7, .results⟩, ⟨0, 7, .block⟩, ⟨1, 7, .block⟩, ⟨0, 7, .results⟩] = .error e := by
  have horder : [⟨1, 7, .results⟩, ⟨0, 7, .block⟩, ⟨1, 7, .block⟩, ⟨0, 7, .results⟩].Perm
      (calls [7, 7]) := by decide
  have hbroken : Fails .tendermint34 brokenAnswers [7, 7] (.connection ⟨.timeout, "late"⟩) :=
    .results (i := 1) rfl rfl
  refine ⟨horder, ?_, (outcome_of_perm _ brokenAnswers _).2.1 ⟨_, hbroken⟩ _ horder⟩
  obtain ⟨pairs, hpairs, houtcome⟩ := (outcome_of_perm .tendermint34 twiceAnswers [7, 7]).1
    fun i height _ => ⟨_, pairAt_twiceAnswers i height⟩
  rw [houtcome _ horder, hpairs.unique pairs_twicePair]

end Twice

end Batch

end ChainFeed
