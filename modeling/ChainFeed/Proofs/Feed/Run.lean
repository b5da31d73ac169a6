import ChainFeed.Feed.Basic
import ChainFeed.Proofs.Archive.Run
import ChainFeed.Proofs.Feed.Batch

/-!
# Running a feed

A feed puts its questions to a node and to an archive, whose answers depend on a state that they may
share. Running it for a batch gives a result, what the fetcher of the archive remembers from then
on, and the state that is left. As for the fetcher alone, each function has one equation that
follows it through all of its outcomes.

## Main definitions

- `ChainFeed.Feed.exec`: what a batch comes to

## Main results

- `reply_query`, `reply_fetchPair`, `RetryPolicy.reply_attemptFrom`: questions to the node
- `Feed.exec_eq`: the archive first, then the node for the whole batch
-/

namespace ChainFeed

open Archive (reply reply_bind reply_lift reply_pure)

variable {σ α : Type}

/-! ### Questions to the node -/

theorem reply_query (transport : Transport (StateM σ)) (call : NodeCall)
    (decode : Json → Except DecodeError α) (s : σ) :
    reply (NodeClient.query transport call decode) s =
      (readAnswer decode (reply (transport call) s).1, (reply (transport call) s).2) := by
  rw [NodeClient.query, reply_bind]
  exact reply_lift _ _

/-- A pair takes two questions, and the second one only if the first was answered. -/
theorem reply_fetchPair (transport : Transport (StateM σ)) (client : NodeClient) (height : UInt64)
    (s : σ) :
    reply (client.fetchPair transport height) s =
      match reply (client.fetchBlock transport height) s with
      | (.error e, s) => (.error e, s)
      | (.ok block, s) =>
        match reply (client.fetchResults transport height) s with
        | (.error e, s) => (.error e, s)
        | (.ok results, s) => ((BlockPair.ofParts block results).mapError .validation, s) := by
  rw [NodeClient.fetchPair, reply_bind]
  rcases reply (client.fetchBlock transport height) s with ⟨_ | block, s⟩
  · rfl
  · dsimp only
    rw [reply_bind]
    rcases reply (client.fetchResults transport height) s with ⟨_ | results, s⟩
    · rfl
    · exact reply_lift _ _

/-- After a failure that another attempt may mend there is a pause, then the next attempt. -/
theorem RetryPolicy.reply_attemptFrom (policy : RetryPolicy) (pause : Nat → StateM σ Unit)
    (attempt : ExceptT FetchError (StateM σ) α) (made left : Nat) (s : σ) :
    reply (policy.attemptFrom pause attempt made left) s =
      match reply attempt s with
      | (.ok a, s) => (.ok a, s)
      | (.error e, s) =>
        if e.isFinal then (.error e, s)
        else
          match left with
          | 0 => (.error (.retriesExhausted (made + 1) e), s)
          | left + 1 =>
            reply (policy.attemptFrom pause attempt (made + 1) left)
              ((pause (policy.delayAfter (made + 1))).run s).2 := by
  have hlift : reply (ExceptT.lift attempt.run : ExceptT FetchError (StateM σ) _) s =
      (.ok (reply attempt s).1, (reply attempt s).2) := rfl
  cases left with
  | zero =>
    rw [attemptFrom, reply_bind, hlift]
    rcases reply attempt s with ⟨e | a, s⟩
    · dsimp only
      by_cases hfinal : e.isFinal = true
      · rw [if_pos hfinal, if_pos hfinal]
        rfl
      · rw [if_neg hfinal, if_neg hfinal]
        rfl
    · rfl
  | succ left =>
    rw [attemptFrom, reply_bind, hlift]
    rcases reply attempt s with ⟨e | a, s⟩
    · dsimp only
      by_cases hfinal : e.isFinal = true
      · rw [if_pos hfinal, if_pos hfinal]
        rfl
      · rw [if_neg hfinal, if_neg hfinal, reply_bind]
        rfl
    · rfl

/-! ### Batches -/

/-- What a batch comes to, what the fetcher of the archive remembers then, and the state that is
left. -/
def Feed.exec (feed : Feed (StateM σ)) (heights : List UInt64) (fetcher : Archive.Fetcher) (s : σ) :
    Except FetchError (List BlockPair) × Archive.Fetcher × σ :=
  let ((result, fetcher), s) := ((feed.fetchPairs heights).run.run fetcher).run s
  (result, fetcher, s)

/-- A batch comes from the archive, or else as a whole from the node. -/
theorem Feed.exec_eq (feed : Feed (StateM σ)) (heights : List UInt64) (fetcher : Archive.Fetcher)
    (s : σ) :
    feed.exec heights fetcher s =
      match feed.archive with
      | none =>
        ((reply (feed.fromNode heights) s).1, fetcher, (reply (feed.fromNode heights) s).2)
      | some source =>
        match (Archive.fetchPairs source heights).exec fetcher s with
        | (.ok pairs, fetcher, s) => (.ok pairs, fetcher, s)
        | (.error _, fetcher, s) =>
          ((reply (feed.fromNode heights) s).1, fetcher, (reply (feed.fromNode heights) s).2) := by
  obtain ⟨transport, client, archive, policy, pause⟩ := feed
  cases archive with
  | none => rfl
  | some source =>
    simp only [exec, fetchPairs, fromArchive?, Archive.Fetch.exec, ExceptT.run_bind,
      ExceptT.run_lift, map_bind, bind_assoc, map_pure, pure_bind, StateT.run_bind]
    rcases ((Archive.fetchPairs source heights).run.run fetcher).run s with
      ⟨⟨_ | pairs, fetcher⟩, s⟩
    · rfl
    · rfl

end ChainFeed
