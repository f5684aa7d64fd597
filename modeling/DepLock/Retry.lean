import DepLock.Error
/-!
# Retrying

`retryTimed` runs an action until it succeeds, fails with an error that is not marked
worth retrying, or has run `attempts` times (at least once), and gives the outcome of the
last run. Between two runs it waits: `delay` before the first re-run and twice as long
before each next one, in 64-bit nanoseconds, so that the doubling wraps around. The wait
is given as `pause`, which tells whether the wait ran its course; when the context is done
first, the runs end with the context's error.

`retry` is the same loop with the waits left out, which is what it comes to when the
context is never done: the clients use it.
-/

set_option autoImplicit false

namespace DepLock

/-- Runs an action once more than `rest` times at most. -/
def retryRuns {m : Type → Type} [Monad m] {α : Type} (act : m (Except Error α)) :
    Nat → m (Except Error α)
  | 0 => act
  | rest + 1 => do
    match ← act with
    | .ok a => pure (.ok a)
    | .error e => if e.retryable then retryRuns act rest else pure (.error e)

/-- Runs an action up to `attempts` times, at least once, again only after a failure
worth retrying. -/
def retry {m : Type → Type} [Monad m] {α : Type} (attempts : Int) (act : m (Except Error α)) :
    m (Except Error α) :=
  retryRuns act ((max attempts 1).toNat - 1)

/-- Runs an action once more than `rest` times at most, waiting `delay` before the next run
and passing twice that on. A wait that `pause` reports cut short ends the runs with
`stopped`. -/
def retryTimedRuns {m : Type → Type} [Monad m] {α : Type} (act : m (Except Error α))
    (pause : Int64 → m Bool) (stopped : Error) : Nat → Int64 → m (Except Error α)
  | 0, _ => act
  | rest + 1, delay => do
    match ← act with
    | .ok a => pure (.ok a)
    | .error e =>
      if e.retryable then
        if ← pause delay then retryTimedRuns act pause stopped rest (delay * 2)
        else pure (.error stopped)
      else pure (.error e)

/-- Runs an action up to `attempts` times, at least once, again only after a failure worth
retrying and a wait: `delay` before the first re-run, doubled before each next one. -/
def retryTimed {m : Type → Type} [Monad m] {α : Type} (attempts : Int) (delay : Int64)
    (act : m (Except Error α)) (pause : Int64 → m Bool) (stopped : Error) : m (Except Error α) :=
  retryTimedRuns act pause stopped ((max attempts 1).toNat - 1) delay

end DepLock
