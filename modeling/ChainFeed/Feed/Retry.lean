import ChainFeed.Feed.Error

/-!
# Repeated attempts

An attempt that fails is made again after a pause, up to a greatest number of attempts. Errors that
another attempt would meet again are not retried.
-/

namespace ChainFeed

/-- How often and after which pauses an attempt is repeated. -/
structure RetryPolicy where
  /-- The greatest number of attempts; zero counts as one. -/
  maxAttempts : UInt32
  /-- The pause before the second attempt, in milliseconds. -/
  minDelay : UInt64
  /-- The longest pause, in milliseconds. -/
  maxDelay : UInt64
  deriving DecidableEq, Repr

namespace RetryPolicy

/-- How many attempts may follow the first one. -/
def retries (policy : RetryPolicy) : Nat :=
  policy.maxAttempts.toNat - 1

/-- The pause after a number of attempts, in milliseconds: each is twice as long as the one before,
up to the longest. -/
def delayAfter (policy : RetryPolicy) (attempts : Nat) : Nat :=
  min policy.maxDelay.toNat (policy.minDelay.toNat * Nat.pow 2 (min (attempts - 1) 64))

variable {m : Type → Type} [Monad m] {α : Type}

/-- Makes an attempt after `made` others, and up to `left` more if it fails. -/
def attemptFrom (policy : RetryPolicy) (pause : Nat → m Unit) (attempt : ExceptT FetchError m α)
    (made : Nat) : (left : Nat) → ExceptT FetchError m α
  | 0 => do
    match ← ExceptT.lift attempt.run with
    | .ok value => return value
    | .error e => throw (if e.isFinal then e else .retriesExhausted (made + 1) e)
  | left + 1 => do
    match ← ExceptT.lift attempt.run with
    | .ok value => return value
    | .error e =>
      if e.isFinal then throw e
      else
        ExceptT.lift (pause (policy.delayAfter (made + 1)))
        attemptFrom policy pause attempt (made + 1) left

/-- Repeats an attempt as the policy says. -/
def run (policy : RetryPolicy) (pause : Nat → m Unit) (attempt : ExceptT FetchError m α) :
    ExceptT FetchError m α :=
  policy.attemptFrom pause attempt 0 policy.retries

end RetryPolicy

end ChainFeed
