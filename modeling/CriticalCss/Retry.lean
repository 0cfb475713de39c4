/-!
# Trying again

An operation that fails in a way that may pass is tried again after a pause, up to a number of
attempts in all; the last outcome counts. At least one attempt is made.
-/

namespace CriticalCss

/-- The outcome of an operation that is tried up to `attempts` times: while it fails with an error
that `mayPass`, there is a pause and another attempt. -/
def retry {m : Type → Type} [Monad m] {ε α : Type} (mayPass : ε → Bool) (pause : m Unit)
    (operation : m (Except ε α)) : (attempts : Nat) → m (Except ε α)
  | 0 | 1 => operation
  | attempts + 2 => do
    match ← operation with
    | .ok a => return .ok a
    | .error e =>
      if mayPass e then
        pause
        retry mayPass pause operation (attempts + 1)
      else return .error e

end CriticalCss
