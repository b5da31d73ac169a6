import ChainFeed.Dump.Run
import ChainFeed.Proofs.Except

/-!
# What work prints

Work on a machine is described by two things: what it comes to, and the records that it adds to
those that have been printed. Both add up along a sequence of steps, so that work can be followed
from its parts, and nothing is printed after an error.

## Main definitions

- `Dump.Prints`, `Dump.PrintsInRange`: what work comes to and what it prints
- `RetryPolicy.outcome`: what repeated attempts come to if they all come to the same

## Main results

- `Dump.Prints.bind`, `Dump.Prints.run_bind`, `Dump.PrintsInRange.bind`: one step after the other
- `RetryPolicy.prints_run`: repeated attempts
-/

namespace ChainFeed

namespace Dump

variable {σ ε α β : Type} {lines : σ → List Json}

/-! ### Printing -/

/-- Work that comes to `a` and adds `out` to what has been printed, in whatever state it starts. -/
def Prints (lines : σ → List Json) (work : StateM σ α) (out : List Json) (a : α) : Prop :=
  ∀ s, (work.run s).1 = a ∧ lines (work.run s).2 = lines s ++ out

/-- Work within a range of heights that comes to `result`, prints `out`, and leaves what the fetcher
of an archive remembers as it is. -/
def PrintsInRange (lines : σ → List Json)
    (work : ExceptT ε (StateT Archive.Fetcher (StateM σ)) α) (out : List Json)
    (result : Except ε α) : Prop :=
  ∀ fetcher, Prints lines (work.run.run fetcher) out (result, fetcher)

section Rules

variable {out out' : List Json} {a : α} {b : β}

theorem prints_pure (a : α) : Prints lines (pure a) [] a :=
  fun s => ⟨rfl, (List.append_nil (lines s)).symm⟩

theorem Prints.bind {work : StateM σ α} {next : α → StateM σ β} (h : Prints lines work out a)
    (hnext : Prints lines (next a) out' b) : Prints lines (work >>= next) (out ++ out') b := by
  intro s
  obtain ⟨hresult, hlines⟩ := h s
  obtain ⟨hresult', hlines'⟩ := hnext (work.run s).2
  have hrun : (work >>= next).run s = (next a).run (work.run s).2 := by
    rw [StateT.run_bind, ← hresult]
    rfl
  rw [hrun]
  refine ⟨hresult', ?_⟩
  rw [hlines', hlines, List.append_assoc]

theorem Prints.map {work : StateM σ α} (f : α → β) (h : Prints lines work out a) :
    Prints lines (f <$> work) out (f a) := by
  rw [map_eq_pure_bind, ← List.append_nil out]
  exact h.bind (prints_pure (f a))

/-- Records are printed one after the other. -/
theorem Prints.forM {f : α → StateM σ Unit} {g : α → List Json}
    (h : ∀ a, Prints lines (f a) (g a) ()) (as : List α) :
    Prints lines (as.forM f) (as.flatMap g) () := by
  induction as with
  | nil => exact prints_pure ()
  | cons a as ih => exact (h a).bind ih

variable {result : Except ε β} {e : ε}

theorem Prints.run_bind {work : ExceptT ε (StateM σ) α} {next : α → ExceptT ε (StateM σ) β}
    (h : Prints lines work.run out (.ok a)) (hnext : Prints lines (next a).run out' result) :
    Prints lines (work >>= next).run (out ++ out') result := by
  rw [ExceptT.run_bind]
  exact h.bind hnext

theorem Prints.run_bind_quiet {work : ExceptT ε (StateM σ) α} {next : α → ExceptT ε (StateM σ) β}
    (h : Prints lines work.run out (.ok a)) (hnext : Prints lines (next a).run [] result) :
    Prints lines (work >>= next).run out result := by
  rw [← List.append_nil out]
  exact h.run_bind hnext

/-- Nothing is printed after an error. -/
theorem Prints.run_bind_error {work : ExceptT ε (StateM σ) α}
    {next : α → ExceptT ε (StateM σ) β} (h : Prints lines work.run out (.error e)) :
    Prints lines (work >>= next).run out (.error e) := by
  rw [ExceptT.run_bind, ← List.append_nil out]
  exact h.bind (prints_pure _)

/-- Where nothing is printed, errors pass through as they do without a machine. -/
theorem Prints.run_bind_silent {work : ExceptT ε (StateM σ) α} {next : α → ExceptT ε (StateM σ) β}
    {result : Except ε α} {f : α → Except ε β} (h : Prints lines work.run [] result)
    (hnext : ∀ a, Prints lines (next a).run [] (f a)) :
    Prints lines (work >>= next).run [] (result >>= f) := by
  cases result with
  | error e => exact h.run_bind_error
  | ok a => exact h.run_bind (hnext a)

theorem prints_liftM (result : Except ε α) :
    Prints lines (liftM result : ExceptT ε (StateM σ) α).run [] result :=
  prints_pure result

theorem Prints.run_lift {work : StateM σ α} (h : Prints lines work out a) :
    Prints lines (ExceptT.lift work : ExceptT ε (StateM σ) α).run out (.ok a) :=
  h.map Except.ok

theorem Prints.run_adapt {ε' : Type} {work : ExceptT ε (StateM σ) α} {result : Except ε α}
    (f : ε → ε') (h : Prints lines work.run out result) :
    Prints lines (ExceptT.adapt f work).run out (result.mapError f) :=
  h.map (Except.mapError f)

/-- A list of steps of which none prints anything comes to the results of all, or to the first
error. -/
theorem Prints.mapM {f : α → ExceptT ε (StateM σ) β} {g : α → Except ε β}
    (h : ∀ a, Prints lines (f a).run [] (g a)) (as : List α) :
    Prints lines (as.mapM f).run [] (as.mapM g) := by
  induction as with
  | nil => exact prints_pure _
  | cons a as ih =>
    rw [List.mapM_cons, List.mapM_cons]
    exact (h a).run_bind_silent fun b => ih.run_bind_silent fun bs => prints_pure _

theorem PrintsInRange.bind {work : ExceptT ε (StateT Archive.Fetcher (StateM σ)) α}
    {next : α → ExceptT ε (StateT Archive.Fetcher (StateM σ)) β}
    (h : PrintsInRange lines work out (.ok a)) (hnext : PrintsInRange lines (next a) out' result) :
    PrintsInRange lines (work >>= next) (out ++ out') result := by
  intro fetcher
  rw [ExceptT.run_bind, StateT.run_bind]
  exact (h fetcher).bind (hnext fetcher)

theorem PrintsInRange.bind_error {work : ExceptT ε (StateT Archive.Fetcher (StateM σ)) α}
    {next : α → ExceptT ε (StateT Archive.Fetcher (StateM σ)) β}
    (h : PrintsInRange lines work out (.error e)) :
    PrintsInRange lines (work >>= next) out (.error e) := by
  intro fetcher
  rw [ExceptT.run_bind, StateT.run_bind, ← List.append_nil out]
  exact (h fetcher).bind (prints_pure _)

theorem printsInRange_pure (a : α) :
    PrintsInRange lines (pure a) [] (.ok a : Except ε α) :=
  fun _ => prints_pure _

theorem Prints.inRange {work : StateM σ α} (h : Prints lines work out a) :
    PrintsInRange lines (ExceptT.lift (StateT.lift work)) out (.ok a : Except ε α) := by
  intro fetcher
  have hpair : Prints lines ((·, fetcher) <$> work) out (a, fetcher) := h.map _
  have hlifted := hpair.map fun (a, fetcher) => ((.ok a : Except ε α), fetcher)
  rw [← bind_pure_comp (·, fetcher) work] at hlifted
  exact hlifted

theorem Prints.run_inRange {work : ExceptT ε (StateM σ) α} {result : Except ε α}
    (h : Prints lines work.run out result) :
    PrintsInRange lines (ExceptT.mk (StateT.lift work.run)) out result := by
  intro fetcher
  have hpair : Prints lines ((·, fetcher) <$> work.run) out (result, fetcher) := h.map _
  rw [← bind_pure_comp (·, fetcher) work.run] at hpair
  exact hpair

theorem PrintsInRange.map {work : ExceptT ε (StateT Archive.Fetcher (StateM σ)) α}
    {result : Except ε α} (f : α → β) (h : PrintsInRange lines work out result) :
    PrintsInRange lines (f <$> work) out (result.map f) := by
  rw [map_eq_pure_bind]
  cases result with
  | error e => exact h.bind_error
  | ok a =>
    rw [← List.append_nil out]
    exact h.bind (printsInRange_pure (f a))

theorem PrintsInRange.forM {f : α → ExceptT ε (StateT Archive.Fetcher (StateM σ)) Unit}
    {g : α → List Json} (h : ∀ a, PrintsInRange lines (f a) (g a) (.ok ())) (as : List α) :
    PrintsInRange lines (as.forM f) (as.flatMap g) (.ok ()) := by
  induction as with
  | nil => exact printsInRange_pure ()
  | cons a as ih => exact (h a).bind ih

end Rules

end Dump

/-! ### Repeated attempts -/

section Retry

open Dump (Prints)

variable {σ α : Type} {lines : σ → List Json}

namespace RetryPolicy

/-- What repeated attempts come to if each of them comes to the same. -/
def outcome (policy : RetryPolicy) (result : Except FetchError α) : Except FetchError α :=
  result.mapError fun e => if e.isFinal then e else .retriesExhausted (policy.retries + 1) e

variable {policy : RetryPolicy} {pause : Nat → StateM σ Unit}
  {attempt : ExceptT FetchError (StateM σ) α} {result : Except FetchError α}

variable (policy) in
theorem prints_attemptFrom (hpause : ∀ n, Prints lines (pause n) [] ())
    (hattempt : Prints lines attempt.run [] result) (made left : Nat) :
    Prints lines (policy.attemptFrom pause attempt made left).run []
      (result.mapError fun e =>
        if e.isFinal then e else .retriesExhausted (made + left + 1) e) := by
  have hfirst : Prints lines (ExceptT.lift attempt.run : ExceptT FetchError (StateM σ) _).run []
      (.ok result) := hattempt.run_lift
  -- all attempts have the same result, so the last one decides by failing like the first
  induction left generalizing made with
  | zero =>
    rw [attemptFrom]
    refine hfirst.run_bind ?_
    cases result with
    | ok a => exact Dump.prints_pure _
    | error e => exact Dump.prints_pure _
  | succ left ih =>
    rw [attemptFrom]
    refine hfirst.run_bind ?_
    cases result with
    | ok a => exact Dump.prints_pure _
    | error e =>
      rw [mapError_error]
      dsimp only
      by_cases hfinal : e.isFinal = true
      · rw [if_pos hfinal, if_pos hfinal]
        exact Dump.prints_pure _
      · rw [if_neg hfinal, if_neg hfinal]
        have hrest := ih (made + 1)
        rw [Nat.add_right_comm made 1 left] at hrest
        rw [mapError_error, if_neg hfinal] at hrest
        exact (hpause _).run_lift.run_bind hrest

theorem prints_run (hpause : ∀ n, Prints lines (pause n) [] ())
    (hattempt : Prints lines attempt.run [] result) :
    Prints lines (policy.run pause attempt).run [] (policy.outcome result) := by
  have h := prints_attemptFrom policy hpause hattempt 0 policy.retries
  rw [Nat.zero_add] at h
  exact h

end RetryPolicy

end Retry

end ChainFeed
