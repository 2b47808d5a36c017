/-!
Repeating a call that failed, a bounded number of times.
-/
namespace MachineImage

variable {m : Type → Type} {ε α : Type}

/-- The attempt of that number, and after a failure up to `further` more. -/
def retryFrom [Monad m] (op : Nat → ExceptT ε m α) (attempt : Nat) : Nat → ExceptT ε m α
  | 0 => op attempt
  | further + 1 => tryCatch (op attempt) fun _ => retryFrom op (attempt + 1) further

/-- Attempts 1, 2, … until one succeeds, `maxAttempts` at most and one at least; the last failure
is the outcome if all fail. -/
def retry [Monad m] (maxAttempts : Nat) (op : Nat → ExceptT ε m α) : ExceptT ε m α :=
  retryFrom op 1 (maxAttempts - 1)

end MachineImage
