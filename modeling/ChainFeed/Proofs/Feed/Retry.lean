import ChainFeed.Proofs.Feed.Run
import Mathlib.Data.Nat.Find

/-!
# Which attempt decides

Attempts are repeated until one of them decides: it gives a result, or it fails with an error that
another attempt would meet again. Whether an attempt decides depends on its own outcome only, so the
outcomes that would come about if attempts were made without end say all of what a policy comes to:
the first decisive one among as many as the policy allows, or else the report that none was.

An attempt may change the state that the next one starts from, and so may the pause between the two.

## Main definitions

- `RetryPolicy.attempts`: the greatest number of attempts
- `RetryPolicy.outcomeAt`: the outcomes of attempts without end; `RetryPolicy.scripted`: attempts
  with given outcomes
- `RetryPolicy.noting`: attempts that note their outcomes
- `RetryPolicy.counted`: attempts with a word for their number
- `RetryPolicy.Decides`: what a policy makes of a sequence of outcomes

## Main results

- `reply_attemptFrom_of_decisive`, `reply_attemptFrom_of_indecisive`: which outcome is returned
- `run_decides`: what repeated attempts come to
-/

namespace ChainFeed

open Archive (reply reply_bind)

variable {σ ν α : Type}

/-- An outcome that ends the attempts: a result, or a block and results that do not fit together. -/
def Decisive (outcome : Except FetchError α) : Prop :=
  (∃ a, outcome = .ok a) ∨ ∃ e, outcome = .error (.validation e)

theorem decisive_ok (a : α) : Decisive (.ok a) := .inl ⟨a, rfl⟩

/-- An error ends the attempts exactly if it is final. -/
theorem decisive_error_iff {e : FetchError} :
    Decisive (.error e : Except FetchError α) ↔ e.isFinal = true := by
  constructor
  · rintro (⟨_, h⟩ | ⟨_, h⟩)
    · cases h
    · cases h
      rfl
  · intro h
    cases e with
    | validation e => exact .inr ⟨e, rfl⟩
    | connection | decode | archive | retriesExhausted => cases h

namespace RetryPolicy

variable (policy : RetryPolicy) (pause : Nat → StateM σ Unit)
  (attempt : ExceptT FetchError (StateM σ) α)

/-- The greatest number of attempts; zero counts as one. -/
def attempts (policy : RetryPolicy) : Nat :=
  max 1 policy.maxAttempts.toNat

theorem attempts_eq : policy.attempts = policy.retries + 1 := by
  unfold attempts retries
  omega

/-- The number of attempts is a word of 32 bits. -/
theorem attempts_lt : policy.attempts < 4294967296 := by
  have := policy.maxAttempts.toNat_lt
  unfold attempts
  omega

/-! ### Attempts without end -/

/-- The state in which an attempt would start, if attempts were made without end. The first one has
number zero. -/
def stateAt (s : σ) : Nat → σ
  | 0 => s
  | k + 1 => ((pause (policy.delayAfter (k + 1))).run (reply attempt (stateAt s k)).2).2

/-- The outcome of an attempt, if attempts were made without end. -/
def outcomeAt (s : σ) (k : Nat) : Except FetchError α :=
  (reply attempt (policy.stateAt pause attempt s k)).1

/-- Attempts that come to the outcomes of a sequence, one after the other. -/
def scripted (outcomes : Nat → Except FetchError α) : ExceptT FetchError (StateM Nat) α :=
  ExceptT.mk fun made => (outcomes made, made + 1)

/-- Every sequence of outcomes may come about. -/
theorem outcomeAt_scripted (outcomes : Nat → Except FetchError α) (k : Nat) :
    policy.outcomeAt (fun _ => pure ()) (scripted outcomes) 0 k = outcomes k := by
  have hstate : policy.stateAt (fun _ => pure ()) (scripted outcomes) 0 k = k := by
    induction k with
    | zero => rfl
    | succ k ih => exact congrArg Nat.succ ih
  rw [outcomeAt, hstate]
  rfl

/-! ### Noting the outcomes -/

/-- An attempt that notes its outcome. -/
def noting : ExceptT FetchError (StateM (σ × List (Except FetchError α))) α :=
  ExceptT.mk fun (s, made) =>
    let (outcome, s) := reply attempt s
    (outcome, s, made ++ [outcome])

/-- A pause that leaves what was noted as it is. -/
def pauseBeside (n : Nat) : StateM (σ × ν) Unit :=
  fun (s, noted) => ((), ((pause n).run s).2, noted)

theorem reply_noting (s : σ) (made : List (Except FetchError α)) :
    reply (noting attempt) (s, made) =
      ((reply attempt s).1, (reply attempt s).2, made ++ [(reply attempt s).1]) := rfl

/-- Noting the outcomes changes nothing else. -/
theorem reply_attemptFrom_noting (made left : Nat) (s : σ) (noted : List (Except FetchError α)) :
    ∃ outcomes, reply (policy.attemptFrom (pauseBeside pause) (noting attempt) made left)
        (s, noted) =
      ((reply (policy.attemptFrom pause attempt made left) s).1,
        (reply (policy.attemptFrom pause attempt made left) s).2, noted ++ outcomes) := by
  induction left generalizing made s noted with
  | zero =>
    rw [reply_attemptFrom, reply_attemptFrom, reply_noting]
    rcases reply attempt s with ⟨e | a, s'⟩
    · refine ⟨[.error e], ?_⟩
      dsimp only
      split <;> rfl
    · exact ⟨[.ok a], rfl⟩
  | succ left ih =>
    rw [reply_attemptFrom, reply_attemptFrom, reply_noting]
    rcases reply attempt s with ⟨e | a, s'⟩
    · dsimp only
      split
      · exact ⟨[.error e], rfl⟩
      · obtain ⟨outcomes, h⟩ := ih (made + 1)
          ((pause (policy.delayAfter (made + 1))).run s').2 (noted ++ [.error e])
        refine ⟨.error e :: outcomes, ?_⟩
        rw [List.append_assoc, List.singleton_append] at h
        exact h
    · exact ⟨[.ok a], rfl⟩

/-! ### Which outcome is returned -/

section Decision

variable {policy pause attempt} {s : σ}

/-- Attempts go on behind those that decided nothing. -/
theorem reply_attemptFrom_stateAt_succ {made left : Nat} {noted : List (Except FetchError α)}
    (h : ¬ Decisive (policy.outcomeAt pause attempt s made)) :
    reply (policy.attemptFrom (pauseBeside pause) (noting attempt) made (left + 1))
        (policy.stateAt pause attempt s made, noted) =
      reply (policy.attemptFrom (pauseBeside pause) (noting attempt) (made + 1) left)
        (policy.stateAt pause attempt s (made + 1),
          noted ++ [policy.outcomeAt pause attempt s made]) := by
  rw [reply_attemptFrom, reply_noting, stateAt]
  unfold outcomeAt at h ⊢
  generalize reply attempt (policy.stateAt pause attempt s made) = answer at h ⊢
  obtain ⟨e | a, s'⟩ := answer
  · dsimp only
    rw [if_neg (mt decisive_error_iff.mpr h)]
    rfl
  · exact absurd (decisive_ok a) h

/-- A decisive outcome is returned at once. -/
theorem reply_attemptFrom_stateAt_of_decisive {made left : Nat}
    {noted : List (Except FetchError α)}
    (h : Decisive (policy.outcomeAt pause attempt s made)) :
    ∃ s', reply (policy.attemptFrom (pauseBeside pause) (noting attempt) made left)
        (policy.stateAt pause attempt s made, noted) =
      (policy.outcomeAt pause attempt s made, s',
        noted ++ (List.range' made (made + 1 - made)).map (policy.outcomeAt pause attempt s)) := by
  rw [reply_attemptFrom, reply_noting, Nat.add_sub_cancel_left, List.range'_one, List.map_singleton]
  unfold outcomeAt at h ⊢
  generalize reply attempt (policy.stateAt pause attempt s made) = answer at h ⊢
  obtain ⟨e | a, s'⟩ := answer
  · refine ⟨s', ?_⟩
    dsimp only
    rw [if_pos (decisive_error_iff.mp h)]
  · exact ⟨s', rfl⟩

/-- The first decisive outcome is returned, and no attempt is made after it. -/
theorem reply_attemptFrom_of_decisive {k : Nat} (made left : Nat)
    (noted : List (Except FetchError α)) (hmade : made ≤ k) (hk : k ≤ made + left)
    (hdecisive : Decisive (policy.outcomeAt pause attempt s k))
    (hfirst : ∀ j, made ≤ j → j < k → ¬ Decisive (policy.outcomeAt pause attempt s j)) :
    ∃ s', reply (policy.attemptFrom (pauseBeside pause) (noting attempt) made left)
        (policy.stateAt pause attempt s made, noted) =
      (policy.outcomeAt pause attempt s k, s',
        noted ++ (List.range' made (k + 1 - made)).map (policy.outcomeAt pause attempt s)) := by
  induction left generalizing made noted with
  | zero =>
    obtain rfl : made = k := by omega
    exact reply_attemptFrom_stateAt_of_decisive hdecisive
  | succ left ih =>
    rcases Nat.eq_or_lt_of_le hmade with rfl | hlt
    · exact reply_attemptFrom_stateAt_of_decisive hdecisive
    -- the next attempts are those of the same sequence without its first outcome
    · rw [reply_attemptFrom_stateAt_succ (hfirst made (Nat.le_refl made) hlt),
        show k + 1 - made = k + 1 - (made + 1) + 1 by omega, List.range'_succ, List.map_cons,
        List.append_cons noted _ (List.map _ _)]
      exact ih _ _ hlt (by omega) fun j hj => hfirst j (Nat.le_of_succ_le hj)

/-- If no outcome is decisive, as many attempts are made as there may be, and the error of the last
one is reported. -/
theorem reply_attemptFrom_of_indecisive (made left : Nat) (noted : List (Except FetchError α))
    (h : ∀ j, made ≤ j → j ≤ made + left → ¬ Decisive (policy.outcomeAt pause attempt s j)) :
    ∃ e s', policy.outcomeAt pause attempt s (made + left) = .error e ∧
      reply (policy.attemptFrom (pauseBeside pause) (noting attempt) made left)
          (policy.stateAt pause attempt s made, noted) =
        (.error (.retriesExhausted (made + left + 1) e), s',
          noted ++ (List.range' made (left + 1)).map (policy.outcomeAt pause attempt s)) := by
  induction left generalizing made noted with
  | zero =>
    have hlast := h made (Nat.le_refl made) (Nat.le_refl made)
    rw [reply_attemptFrom, reply_noting, Nat.add_zero, Nat.zero_add, List.range'_one,
      List.map_singleton]
    unfold outcomeAt at hlast ⊢
    generalize reply attempt (policy.stateAt pause attempt s made) = answer at hlast ⊢
    obtain ⟨e | a, s'⟩ := answer
    · refine ⟨e, s', rfl, ?_⟩
      dsimp only
      rw [if_neg (mt decisive_error_iff.mpr hlast)]
    · exact absurd (decisive_ok a) hlast
  | succ left ih =>
    rw [reply_attemptFrom_stateAt_succ (h made (Nat.le_refl made) (Nat.le_add_right _ _)),
      List.range'_succ, List.map_cons, List.append_cons noted _ (List.map _ _),
      show made + (left + 1) = made + 1 + left by omega]
    exact ih _ _ fun j hj hj' => h j (Nat.le_of_succ_le hj) (by omega)

end Decision

/-! ### A word for the number of attempts -/

/-- The number of attempts with the next one, if it is a word. -/
def next? (made : UInt32) : Option UInt32 :=
  if made.toNat + 1 < 4294967296 then some (made + 1) else none

theorem next?_eq_some {made : UInt32} (h : made.toNat + 1 < 4294967296) :
    ∃ next, next? made = some next ∧ next.toNat = made.toNat + 1 := by
  refine ⟨made + 1, if_pos h, ?_⟩
  rw [UInt32.toNat_add, UInt32.toNat_one]
  exact Nat.mod_eq_of_lt h

section Counted

variable {m : Type → Type} [Monad m]

/-- Makes an attempt after `made` others, and up to `left` more if it fails, with a word for the
number of attempts. It gives up, with `none`, as soon as that number is no word. -/
def counted (pause : Nat → m Unit) (attempt : ExceptT FetchError m α) (made : UInt32) :
    (left : Nat) → ExceptT FetchError m (Option α)
  | 0 =>
    match next? made with
    | none => return none
    | some made => do
      match ← ExceptT.lift attempt.run with
      | .ok value => return some value
      | .error e => throw (if e.isFinal then e else .retriesExhausted made.toNat e)
  | left + 1 =>
    match next? made with
    | none => return none
    | some made => do
      match ← ExceptT.lift attempt.run with
      | .ok value => return some value
      | .error e =>
        if e.isFinal then throw e
        else
          ExceptT.lift (pause (policy.delayAfter made.toNat))
          counted pause attempt made left

end Counted

/-- With a word for their number repeated attempts come to the same. -/
theorem reply_counted {made : UInt32} {left : Nat} (h : made.toNat + left + 1 < 4294967296)
    (s : σ) :
    reply (policy.counted pause attempt made left) s =
      let answer := reply (policy.attemptFrom pause attempt made.toNat left) s
      (answer.1.map some, answer.2) := by
  have hlift : ∀ s, reply (ExceptT.lift attempt.run : ExceptT FetchError (StateM σ) _) s =
      (.ok (reply attempt s).1, (reply attempt s).2) := fun _ => rfl
  induction left generalizing made s with
  | zero =>
    obtain ⟨next, hnext, hval⟩ := next?_eq_some (show made.toNat + 1 < 4294967296 by omega)
    rw [counted, hnext, reply_attemptFrom]
    dsimp only
    rw [reply_bind, hlift]
    rcases reply attempt s with ⟨e | a, s'⟩
    · dsimp only
      split
      · rfl
      · rw [hval]
        rfl
    · rfl
  | succ left ih =>
    obtain ⟨next, hnext, hval⟩ := next?_eq_some (show made.toNat + 1 < 4294967296 by omega)
    rw [counted, hnext, reply_attemptFrom]
    dsimp only
    rw [reply_bind, hlift]
    rcases reply attempt s with ⟨e | a, s'⟩
    · dsimp only
      split
      · rfl
      · rw [← hval]
        exact ih (by omega) _
    · rfl

/-! ### What a policy comes to -/

/-- What a policy makes of a sequence of outcomes: a result, and the outcomes of the attempts that
were made. -/
structure Decides (outcomes : Nat → Except FetchError α)
    (run : Except FetchError α × List (Except FetchError α)) : Prop where
  /-- The first decisive outcome is returned, and no attempt is made after it. -/
  first : ∀ k < policy.attempts, Decisive (outcomes k) → (∀ j < k, ¬ Decisive (outcomes j)) →
    run = (outcomes k, (List.range (k + 1)).map outcomes)
  /-- Without one all attempts are made, and the last error is reported with their number and under
  its own kind. -/
  exhausted : (∀ k < policy.attempts, ¬ Decisive (outcomes k)) →
    ∃ e, outcomes (policy.attempts - 1) = .error e ∧
      (FetchError.retriesExhausted policy.attempts e).kind = e.kind ∧
      run = (.error (.retriesExhausted policy.attempts e),
        (List.range policy.attempts).map outcomes)
  /-- There are never more attempts than the policy allows. -/
  length_le : run.2.length ≤ policy.attempts

variable {policy} in
/-- One of the two cases applies, so the number of attempts is bounded in any case. -/
theorem Decides.of_cases {outcomes : Nat → Except FetchError α}
    {run : Except FetchError α × List (Except FetchError α)}
    (first : ∀ k < policy.attempts, Decisive (outcomes k) → (∀ j < k, ¬ Decisive (outcomes j)) →
      run = (outcomes k, (List.range (k + 1)).map outcomes))
    (exhausted : (∀ k < policy.attempts, ¬ Decisive (outcomes k)) →
      ∃ e, outcomes (policy.attempts - 1) = .error e ∧
        run = (.error (.retriesExhausted policy.attempts e),
          (List.range policy.attempts).map outcomes)) :
    policy.Decides outcomes run := by
  classical
  refine ⟨first, fun h => ?_, ?_⟩
  · obtain ⟨e, hlast, hrun⟩ := exhausted h
    exact ⟨e, hlast, rfl, hrun⟩
  · by_cases hany : ∃ k, k < policy.attempts ∧ Decisive (outcomes k)
    · obtain ⟨hlt, hdecisive⟩ := Nat.find_spec hany
      have hfirst : ∀ j < Nat.find hany, ¬ Decisive (outcomes j) :=
        fun j hj hd => Nat.find_min hany hj ⟨Nat.lt_trans hj hlt, hd⟩
      rw [first _ hlt hdecisive hfirst, List.length_map, List.length_range]
      exact hlt
    · obtain ⟨e, -, hrun⟩ := exhausted fun k hk hd => hany ⟨k, hk, hd⟩
      rw [hrun, List.length_map, List.length_range]

/-- Repeated attempts come to the first decisive one of the outcomes that attempts without end would
have, if it is among as many as the policy allows, and to a report of the last of these otherwise.
Neither noting the outcomes nor a word for their number changes anything. -/
theorem run_decides (policy : RetryPolicy) (pause : Nat → StateM σ Unit)
    (attempt : ExceptT FetchError (StateM σ) α) (s : σ) :
    let noted := reply (policy.run (pauseBeside pause) (noting attempt)) (s, [])
    policy.Decides (policy.outcomeAt pause attempt s) (noted.1, noted.2.2) ∧
      reply (policy.run pause attempt) s = (noted.1, noted.2.1) ∧
      reply (policy.counted pause attempt 0 policy.retries) s =
        (noted.1.map some, noted.2.1) := by
  have hlt := policy.attempts_lt
  have hcount := policy.attempts_eq
  obtain ⟨outcomes, hnoted⟩ :=
    policy.reply_attemptFrom_noting pause attempt 0 policy.retries s []
  dsimp only [run]
  refine ⟨.of_cases ?_ ?_, ?_, ?_⟩
  · intro k hk hdecisive hfirst
    obtain ⟨s', hrun⟩ := reply_attemptFrom_of_decisive 0 policy.retries [] (Nat.zero_le k)
      (by omega) hdecisive fun j _ => hfirst j
    rw [stateAt, List.nil_append, Nat.sub_zero, ← List.range_eq_range'] at hrun
    rw [hrun]
  · intro hnone
    obtain ⟨e, s', hlast, hrun⟩ := reply_attemptFrom_of_indecisive 0 policy.retries []
      fun j _ hj => hnone j (by omega)
    rw [stateAt, Nat.zero_add, List.nil_append, ← List.range_eq_range', ← hcount] at hrun
    rw [Nat.zero_add] at hlast
    refine ⟨e, ?_, by rw [hrun]⟩
    rw [hcount]
    exact hlast
  · rw [hnoted]
  · rw [hnoted, reply_counted _ _ _ (by rw [UInt32.toNat_zero]; omega)]
    rfl

/-- If one attempt is allowed, or none, its failure is reported. -/
example (e : ConnectionError) :
    reply ((⟨0, 500, 10000⟩ : RetryPolicy).run (fun _ => pure ())
        (scripted (α := List BlockPair) fun _ => .error (.connection e))) 0 =
      (.error (.retriesExhausted 1 (.connection e)), 1) := rfl

end RetryPolicy

end ChainFeed
