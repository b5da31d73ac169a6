import ChainFeed.Feed.Client

/-!
# Batches in order

A batch that is asked in order of its positions comes to the pairs of its heights, one fetched after
the other: slots before the present position hold pairs, the slots behind it are empty, and the
first failure is the failure of the pair.

## Main results

- `Batch.run_pair`: the two questions at a position
- `NodeClient.fetchPairs_eq_mapM`: a batch as the list of its pairs
-/

namespace ChainFeed

variable {m : Type → Type} [Monad m] [LawfulMonad m]

section Lift

variable {ε α β : Type}

theorem liftM_ok_bind (a : α) (f : α → ExceptT ε m β) :
    (liftM (Except.ok a : Except ε α) : ExceptT ε m α) >>= f = f a :=
  pure_bind a f

theorem liftM_error_bind (e : ε) (f : α → ExceptT ε m β) :
    (liftM (Except.error e : Except ε α) : ExceptT ε m α) >>= f = throw e := by
  show ExceptT.mk (pure (Except.error e) >>= _) = _
  rw [pure_bind]
  rfl

end Lift

namespace Batch

/-- The slot behind those that are done is the one at their number. -/
theorem change_append (f : Slot → Except ValidationError Slot) (done : Batch) (slot : Slot)
    (rest : Batch) :
    change f done.length (done ++ slot :: rest) =
      (f slot).map fun slot => done ++ slot :: rest := by
  induction done with
  | nil => rfl
  | cons head done ih =>
    rw [List.length_cons, List.cons_append, change, ih]
    cases f slot <;> rfl

variable {protocol : Protocol} {done rest : Batch} {height : UInt64}
  {answer : Except ConnectionError Json}

theorem deliver_block :
    deliver protocol ⟨done.length, height, .block⟩ answer (done ++ .waiting none none :: rest) =
      (readAnswer protocol.decodeBlock answer).map fun block =>
        done ++ .waiting (some block) none :: rest := by
  rw [deliver, delivery]
  cases readAnswer protocol.decodeBlock answer with
  | error e => rfl
  | ok block =>
    show (change (Slot.putBlock block) done.length _).mapError _ = _
    rw [change_append]
    rfl

theorem deliver_results {block : Block} :
    deliver protocol ⟨done.length, height, .results⟩ answer
        (done ++ .waiting (some block) none :: rest) = do
      let results ← readAnswer protocol.decodeResults answer
      let pair ← (BlockPair.ofParts block results).mapError .validation
      return done ++ .paired pair :: rest := by
  rw [deliver, delivery]
  cases readAnswer protocol.decodeResults answer with
  | error e => rfl
  | ok results =>
    show (change (Slot.putResults results) done.length _).mapError _ =
      (BlockPair.ofParts block results).mapError FetchError.validation >>= fun pair =>
        pure (done ++ .paired pair :: rest)
    rw [change_append]
    show (((BlockPair.ofParts block results).map Slot.paired).map _).mapError _ = _
    cases BlockPair.ofParts block results <;> rfl

variable (transport : Transport m) (client : NodeClient)

/-- The two questions at a position put a pair into its slot. -/
theorem run_pair (done rest : Batch) (height : UInt64) (calls : List BatchCall) :
    run transport client.protocol
        (⟨done.length, height, .block⟩ :: ⟨done.length, height, .results⟩ :: calls)
        (done ++ .waiting none none :: rest) =
      client.fetchPair transport height >>= fun pair =>
        run transport client.protocol calls (done ++ .paired pair :: rest) := by
  rw [run, NodeClient.fetchPair, NodeClient.fetchBlock, NodeClient.query, bind_assoc, bind_assoc]
  refine bind_congr fun answer => ?_
  rw [deliver_block]
  cases readAnswer client.protocol.decodeBlock answer with
  | error e =>
    show liftM (Except.error e) >>= _ = _
    rw [liftM_error_bind, liftM_error_bind]
  | ok block =>
    show liftM (Except.ok _) >>= _ = _
    rw [liftM_ok_bind, liftM_ok_bind, run, NodeClient.fetchResults, NodeClient.query, bind_assoc,
      bind_assoc]
    refine bind_congr fun answer => ?_
    rw [deliver_results]
    cases readAnswer client.protocol.decodeResults answer with
    | error e =>
      show liftM (Except.error e) >>= _ = _
      rw [liftM_error_bind, liftM_error_bind]
    | ok results =>
      rw [liftM_ok_bind]
      show liftM ((BlockPair.ofParts block results).mapError FetchError.validation >>= fun pair =>
        pure (done ++ .paired pair :: rest)) >>= _ = _
      cases BlockPair.ofParts block results with
      | error e =>
        show liftM (Except.error _) >>= _ = liftM (Except.error _) >>= _
        rw [liftM_error_bind, liftM_error_bind]
      | ok pair =>
        show liftM (Except.ok _) >>= _ = liftM (Except.ok _) >>= _
        rw [liftM_ok_bind, liftM_ok_bind]

theorem run_callsFrom (done : List BlockPair) (heights : List UInt64) :
    run transport client.protocol (callsFrom done.length heights)
        (done.map .paired ++ start heights) =
      (fun pairs => (done ++ pairs).map .paired) <$> heights.mapM (client.fetchPair transport) := by
  induction heights generalizing done with
  | nil => simp [run, callsFrom, start]
  | cons height heights ih =>
    have hstep := run_pair transport client (done.map .paired) (start heights) height
      (callsFrom (done.length + 1) heights)
    rw [List.length_map] at hstep
    rw [callsFrom, start, List.map_cons, ← start, hstep, List.mapM_cons, map_bind]
    refine bind_congr fun pair => ?_
    -- the slots that are done are one more
    have hrest := ih (done ++ [pair])
    simp only [List.length_append, List.length_singleton, List.map_append,
      List.append_assoc] at hrest
    refine hrest.trans ?_
    simp

end Batch

/-- A batch is the list of its pairs. -/
theorem NodeClient.fetchPairs_eq_mapM (transport : Transport m) (client : NodeClient)
    (heights : List UInt64) :
    client.fetchPairs transport heights = heights.mapM (client.fetchPair transport) := by
  have hrun := Batch.run_callsFrom transport client [] heights
  have hpairs : ∀ pairs : List BlockPair, Batch.pairs (pairs.map .paired) = pairs := by
    intro pairs
    rw [Batch.pairs, List.filterMap_map]
    exact List.filterMap_some
  rw [fetchPairs, Batch.calls]
  rw [List.length_nil, List.map_nil, List.nil_append] at hrun
  simp [hrun, hpairs]

end ChainFeed
