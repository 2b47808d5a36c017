import MachineImage.Session.Basic
import MachineImage.Session.Retry

/-!
The outcome of an action and the session after it, one law for each way to make an action.
-/
namespace MachineImage.Action

variable {ε δ α β : Type}

@[simp]
theorem outcome_pure (x : α) (s : Session) : outcome (pure x : Action ε α) s = (.ok x, s) := rfl

@[simp]
theorem outcome_throw (e : ε) (s : Session) :
    outcome (throw e : Action ε α) s = (.error e, s) := rfl

@[simp]
theorem outcome_ofExcept (e : Except ε α) (s : Session) : outcome (ofExcept e) s = (e, s) := rfl

@[simp]
theorem outcome_adapt (f : ε → δ) (a : Action ε α) (s : Session) :
    (a.adapt f).outcome s = ((a.outcome s).1.mapError f, (a.outcome s).2) := rfl

theorem outcome_bind (a : Action ε α) (f : α → Action ε β) (s : Session) :
    (a >>= f).outcome s = match a.outcome s with
      | (.ok x, s') => (f x).outcome s'
      | (.error e, s') => (.error e, s') := by
  change (ExceptT.bindCont f (a.outcome s).1).run (a.outcome s).2 = _
  rcases a.outcome s with ⟨r, s'⟩
  cases r <;> rfl

theorem outcome_tryCatch (a : Action ε α) (f : ε → Action ε α) (s : Session) :
    (tryCatch a f).outcome s = match a.outcome s with
      | (.ok x, s') => (.ok x, s')
      | (.error e, s') => (f e).outcome s' := by
  change (match (a.outcome s).1 with
    | .ok x => pure (.ok x)
    | .error e => (f e).run : StateM Session (Except ε α)).run (a.outcome s).2 = _
  rcases a.outcome s with ⟨r, s'⟩
  cases r <;> rfl

@[simp]
theorem outcome_record (e : Event) (s : Session) :
    outcome (record e : Action ε Unit) s = (.ok (), { s with log := e :: s.log }) := rfl

@[simp]
theorem outcome_readClock (s : Session) :
    outcome (readClock : Action ε Instant) s =
      (.ok (s.clock s.readings), { s with readings := s.readings + 1 }) := rfl

theorem outcome_takeReply (s : Session) :
    outcome (takeReply : Action ε Reply) s = match s.replies with
      | [] => (.ok (.response exhausted), s)
      | reply :: replies => (.ok reply, { s with replies }) := by
  rcases s with ⟨clock, readings, replies, progress, log⟩
  cases replies <;> rfl

theorem outcome_send (request : Request) (s : Session) :
    (send request).outcome s = match s.replies with
      | [] =>
        (.ok exhausted, { s with log := .exchanged request (.response exhausted) :: s.log })
      | reply :: replies =>
        (reply.received request.host,
          { s with replies, log := .exchanged request reply :: s.log }) := by
  rcases s with ⟨clock, readings, replies, progress, log⟩
  cases replies <;> rfl

/-- The action adds no replies. -/
def Spares (a : Action ε α) : Prop :=
  ∀ s, (a.outcome s).2.replies.length ≤ s.replies.length

/-- The action adds no replies, and where it succeeds it has used one up. -/
structure Consumes (a : Action ε α) : Prop where
  spares : a.Spares
  lt : ∀ s x, (a.outcome s).1 = .ok x → (a.outcome s).2.replies.length < s.replies.length

theorem Consumes.adapt {a : Action ε α} (h : a.Consumes) (f : ε → δ) : (a.adapt f).Consumes where
  spares s := h.spares s
  lt s x hx := by
    simp only [outcome_adapt] at hx ⊢
    cases ho : (a.outcome s).1 with
    | error e =>
      rw [ho] at hx
      cases hx
    | ok y => exact h.lt s y ho

theorem Consumes.bind {a : Action ε α} (h : a.Consumes) {f : α → Action ε β}
    (hf : ∀ x, (f x).Spares) : (a >>= f).Consumes := by
  have key : ∀ s, ((a >>= f).outcome s).2.replies.length ≤ (a.outcome s).2.replies.length ∧
      (∀ y, ((a >>= f).outcome s).1 = .ok y → ∃ x, (a.outcome s).1 = .ok x) := by
    intro s
    rw [outcome_bind]
    rcases ha : a.outcome s with ⟨r, s'⟩
    cases r with
    | error e => simp
    | ok x => exact ⟨hf x s', fun _ _ => ⟨x, rfl⟩⟩
  refine ⟨fun s => Nat.le_trans (key s).1 (h.spares s), fun s y hy => ?_⟩
  obtain ⟨x, hx⟩ := (key s).2 y hy
  exact Nat.lt_of_le_of_lt (key s).1 (h.lt s x hx)

theorem spares_ofExcept (e : Except ε α) : (ofExcept e).Spares := fun _ => Nat.le_refl _

theorem Consumes.tryCatch {a : Action ε α} {f : ε → Action ε α} (h : a.Consumes)
    (hf : ∀ e, (f e).Consumes) : (tryCatch a f).Consumes := by
  constructor
  · intro s
    have hs := h.spares s
    rw [outcome_tryCatch]
    rcases ha : a.outcome s with ⟨r, s'⟩
    rw [ha] at hs
    cases r with
    | ok x => exact hs
    | error e => exact Nat.le_trans ((hf e).spares s') hs
  · intro s x hx
    have hs := h.spares s
    have hl := h.lt s
    rw [outcome_tryCatch] at hx ⊢
    rcases ha : a.outcome s with ⟨r, s'⟩
    rw [ha] at hs hx hl
    cases r with
    | ok y => exact hl y rfl
    | error e => exact Nat.lt_of_lt_of_le ((hf e).lt s' x hx) hs

theorem consumes_retry {op : Nat → Action ε α} (h : ∀ n, (op n).Consumes) (maxAttempts : Nat) :
    Consumes (retry maxAttempts op) := by
  unfold retry
  generalize maxAttempts - 1 = further
  generalize 1 = attempt
  induction further generalizing attempt with
  | zero => exact h attempt
  | succ further ih => exact (h attempt).tryCatch fun _ => ih (attempt + 1)

end MachineImage.Action
