import MachineImage.Session.Outcome

/-!
Waiting for something remote by asking for its state again and again. A question that is answered
uses up a reply, so every wait ends.
-/
namespace MachineImage

/-- What is shown of something that is not ready. -/
inductive Notice
  | dot
  | status (heading text : Text)
  deriving DecidableEq, Repr

/-- The state of something remote. -/
inductive Poll (α : Type)
  | pending (notice : Notice)
  | ready (value : α)
  deriving DecidableEq, Repr

namespace Action

variable {ε α : Type}

def notice : Notice → Action ε Unit
  | .dot => dot
  | .status heading text => status heading text

/-- Shows that something is not ready and sleeps before the next question. -/
def pause (n : Notice) (interval : Nat) : Action ε Unit := do
  notice n
  sleep interval

theorem replies_pause (n : Notice) (interval : Nat) (s : Session) :
    ((pause n interval : Action ε Unit).outcome s).2.replies = s.replies := by
  cases n <;> rfl

/-- Asks from the session on until the answer is that the thing is ready. -/
def awaitFrom (query : Action ε (Poll α)) (consumes : query.Consumes) (interval : Nat)
    (s : Session) : Except ε α × Session :=
  match _asked : query.outcome s with
  | (.error e, s') => (.error e, s')
  | (.ok (.ready x), s') => (.ok x, s')
  | (.ok (.pending n), s') =>
    awaitFrom query consumes interval ((pause n interval : Action ε Unit).outcome s').2
termination_by s.replies.length
decreasing_by
  rw [replies_pause]
  simpa [_asked] using consumes.lt s (.pending n) (by rw [_asked])

def await (query : Action ε (Poll α)) (consumes : query.Consumes) (interval : Nat) :
    Action ε α :=
  ExceptT.mk fun s => awaitFrom query consumes interval s

end Action

end MachineImage
