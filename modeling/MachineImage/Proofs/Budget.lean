import MachineImage.Session.Retry

/-!
Which attempts a repeated call makes, whatever each of them does and comes to: one after the other
from the first on, up to the first success or the end of the budget. Their numbers stay within 32
bits, with the greatest budget too.
-/
namespace MachineImage

section

variable {m : Type → Type} {ε α : Type}

theorem toNat_add_one {attempt limit : UInt32} (h : attempt < limit) :
    (attempt + 1).toNat = attempt.toNat + 1 := by
  have hlt := UInt32.lt_iff_toNat_lt.1 h
  have hlimit := limit.toNat_lt
  rw [UInt32.toNat_add, UInt32.toNat_one, Nat.mod_eq_of_lt (by omega)]

/-- The repetition as a loop whose counter has 32 bits; behind the greatest number it would be
zero. -/
def countedFrom [Monad m] (op : Nat → ExceptT ε m α) (limit attempt : UInt32) : ExceptT ε m α :=
  tryCatch (op attempt.toNat) fun e =>
    if attempt < limit then countedFrom op limit (attempt + 1) else throw e
termination_by limit.toNat - attempt.toNat
decreasing_by
  next h =>
    have hlt := UInt32.lt_iff_toNat_lt.1 h
    rw [toNat_add_one h]
    omega

/-- A budget of nothing counts as one attempt. -/
def counted [Monad m] (maxAttempts : UInt32) (op : Nat → ExceptT ε m α) : ExceptT ε m α :=
  countedFrom op (max 1 maxAttempts) 1

theorem toNat_max_one (n : UInt32) : (max 1 n).toNat = max 1 n.toNat := by
  by_cases h : 1 ≤ n
  · have hle := UInt32.le_iff_toNat_le.1 h
    rw [UInt32.toNat_one] at hle
    have hmax : max 1 n = n := if_pos h
    rw [hmax]
    omega
  · have hlt : ¬ 1 ≤ n.toNat := fun hle => h (UInt32.le_iff_toNat_le.2 hle)
    have hmax : max 1 n = 1 := if_neg h
    rw [hmax, UInt32.toNat_one]
    omega

variable [Monad m] [LawfulMonad m]

theorem tryCatch_throw (a : ExceptT ε m α) : tryCatch a throw = a := by
  apply ExceptT.ext
  rw [ExceptT.run_tryCatch]
  conv => rhs; rw [← bind_pure a.run]
  refine bind_congr fun r => ?_
  cases r <;> rfl

theorem countedFrom_eq (op : Nat → ExceptT ε m α) (limit attempt : UInt32) :
    countedFrom op limit attempt =
      retryFrom op attempt.toNat (limit.toNat - attempt.toNat) := by
  generalize hn : limit.toNat - attempt.toNat = further
  induction further generalizing attempt with
  | zero =>
    have hlast : ¬ attempt < limit := by
      rw [UInt32.lt_iff_toNat_lt]
      omega
    rw [countedFrom, retryFrom]
    simp only [if_neg hlast]
    exact tryCatch_throw _
  | succ further ih =>
    have hlt : attempt < limit := by
      rw [UInt32.lt_iff_toNat_lt]
      omega
    have hnext := toNat_add_one hlt
    rw [countedFrom, retryFrom]
    simp only [if_pos hlt, ih (attempt + 1) (by omega), hnext]

/-- The counter never starts anew: 32 bits count as well as any number does. -/
theorem counted_eq_retry (maxAttempts : UInt32) (op : Nat → ExceptT ε m α) :
    counted maxAttempts op = retry maxAttempts.toNat op := by
  have hfurther : max 1 maxAttempts.toNat - 1 = maxAttempts.toNat - 1 := by omega
  rw [counted, countedFrom_eq, toNat_max_one, UInt32.toNat_one, hfurther, retry]

end

namespace Retry

section

variable {p : Nat → Bool} {first limit i k : Nat}

/-- Of the attempts from `first` to `limit` the last one made: all before it fail, and if it is not
the last that may be made it succeeds. -/
structure EndsAt (p : Nat → Bool) (first limit k : Nat) : Prop where
  first_le : first ≤ k
  le_limit : k ≤ limit
  fails : ∀ n, first ≤ n → n < k → p n = false
  succeeds_of_lt : k < limit → p k = true

/-- The first success, the attempts counting from one. -/
structure IsFirst (p : Nat → Bool) (i : Nat) : Prop where
  pos : 1 ≤ i
  succeeds : p i = true
  fails : ∀ n, 1 ≤ n → n < i → p n = false

theorem endsAt_limit (h : ∀ n, first ≤ n → n < limit → p n = false) (hlimit : first ≤ limit) :
    EndsAt p first limit limit where
  first_le := hlimit
  le_limit := Nat.le_refl _
  fails := h
  succeeds_of_lt hlt := absurd hlt (by omega)

theorem endsAt_first (h : p first = true) (hlimit : first ≤ limit) :
    EndsAt p first limit first where
  first_le := Nat.le_refl _
  le_limit := hlimit
  fails n hle hlt := absurd hle (by omega)
  succeeds_of_lt _ := h

theorem EndsAt.of_failure (hk : EndsAt p (first + 1) limit k)
    (h : p first = false) : EndsAt p first limit k where
  first_le := Nat.le_of_succ_le hk.first_le
  le_limit := hk.le_limit
  fails n hle hlt := by
    obtain rfl | hn : n = first ∨ first + 1 ≤ n := by omega
    · exact h
    · exact hk.fails n hn hlt
  succeeds_of_lt := hk.succeeds_of_lt

theorem EndsAt.unique {j : Nat} (hj : EndsAt p first limit j) (hk : EndsAt p first limit k) :
    j = k := by
  have key : ∀ {j k}, EndsAt p first limit j → EndsAt p first limit k → ¬ j < k := by
    intro j k hj hk hlt
    have hfails := hk.fails j hj.first_le hlt
    rw [hj.succeeds_of_lt (Nat.lt_of_lt_of_le hlt hk.le_limit)] at hfails
    cases hfails
  exact Nat.le_antisymm (Nat.le_of_not_lt (key hk hj)) (Nat.le_of_not_lt (key hj hk))

theorem IsFirst.endsAt (hi : IsFirst p i) (hlimit : 1 ≤ limit) :
    EndsAt p 1 limit (min i limit) where
  first_le := Nat.le_min.2 ⟨hi.pos, hlimit⟩
  le_limit := Nat.min_le_right i limit
  fails n hle hlt := hi.fails n hle (by omega)
  succeeds_of_lt hlt := by
    have hmin : min i limit = i := by omega
    rw [hmin]
    exact hi.succeeds

end

section

variable {σ ε α : Type} (op : Nat → ExceptT ε (StateM σ) α) (s : σ)

/-- What that many attempts make of the state, whatever they come to. -/
def stateAfter : Nat → σ
  | 0 => s
  | n + 1 => ((op (n + 1)).run.run (stateAfter n)).2

/-- What the attempt of that number comes to if all before it are made. -/
def outcomeOf (n : Nat) : Except ε α := ((op n).run.run (stateAfter op s (n - 1))).1

def succeeds (n : Nat) : Bool := (outcomeOf op s n).isOk

/-- The attempt, and its number behind those of the attempts before. -/
def noted (n : Nat) : ExceptT ε (StateM (List Nat × σ)) α :=
  ExceptT.mk fun t => let r := (op n).run.run t.2; (r.1, t.1 ++ [n], r.2)

theorem run_attempt (n : Nat) : (op (n + 1)).run.run (stateAfter op s n) =
    (outcomeOf op s (n + 1), stateAfter op s (n + 1)) := rfl

theorem run_tryCatch (a : ExceptT ε (StateM σ) α) (f : ε → ExceptT ε (StateM σ) α) (t : σ) :
    (tryCatch a f).run.run t = match a.run.run t with
      | (.ok x, u) => (.ok x, u)
      | (.error e, u) => (f e).run.run u := by
  change (match (a.run.run t).1 with
    | .ok x => pure (.ok x)
    | .error e => (f e).run : StateM σ (Except ε α)).run (a.run.run t).2 = _
  rcases a.run.run t with ⟨r, u⟩
  cases r <;> rfl

theorem run_retryFrom (n further : Nat) :
    ∃ k, EndsAt (succeeds op s) (n + 1) (n + 1 + further) k ∧
      (retryFrom op (n + 1) further).run.run (stateAfter op s n) =
        (outcomeOf op s k, stateAfter op s k) := by
  induction further generalizing n with
  | zero =>
    have hlast : EndsAt (succeeds op s) (n + 1) (n + 1) (n + 1) :=
      endsAt_limit (fun i hle hlt => absurd hle (by omega)) (Nat.le_refl _)
    exact ⟨n + 1, hlast, run_attempt op s n⟩
  | succ further ih =>
    rw [retryFrom, run_tryCatch, run_attempt]
    cases hr : outcomeOf op s (n + 1) with
    | ok x =>
      have hok : succeeds op s (n + 1) = true := by rw [succeeds, hr]; rfl
      exact ⟨n + 1, endsAt_first hok (by omega), by rw [hr]⟩
    | error e =>
      have hfails : succeeds op s (n + 1) = false := by rw [succeeds, hr]; rfl
      obtain ⟨k, hk, hrun⟩ := ih (n + 1)
      rw [Nat.add_right_comm (n + 1) 1 further] at hk
      exact ⟨k, hk.of_failure hfails, hrun⟩

theorem stateAfter_noted (n : Nat) :
    stateAfter (noted op) ([], s) n = (List.range' 1 n, stateAfter op s n) := by
  induction n with
  | zero => rfl
  | succ n ih =>
    rw [stateAfter, ih, List.range'_concat, Nat.one_mul, Nat.add_comm 1 n]
    rfl

theorem outcomeOf_noted (n : Nat) : outcomeOf (noted op) ([], s) n = outcomeOf op s n := by
  rw [outcomeOf, stateAfter_noted]
  rfl

/-- The attempts are numbered from one, no number is left out, and the last one is the first success
or, if none comes earlier, that of the limit; its outcome is the outcome of all. No number needs
more than 32 bits. -/
theorem retry_attempts (maxAttempts : UInt32) :
    ∃ k, (retry maxAttempts.toNat (noted op)).run.run ([], s) =
        (outcomeOf op s k, List.range' 1 k, stateAfter op s k) ∧
      (retry maxAttempts.toNat op).run.run s = (outcomeOf op s k, stateAfter op s k) ∧
      EndsAt (succeeds op s) 1 (max 1 maxAttempts.toNat) k ∧
      (∀ i, IsFirst (succeeds op s) i → k = min i (max 1 maxAttempts.toNat)) ∧
      ((∀ n, 1 ≤ n → succeeds op s n = false) → k = max 1 maxAttempts.toNat) ∧
      max 1 maxAttempts.toNat < UInt32.size ∧
      counted maxAttempts (noted op) = retry maxAttempts.toNat (noted op) := by
  have hlimit : 1 + (maxAttempts.toNat - 1) = max 1 maxAttempts.toNat := by omega
  have hwidth : max 1 maxAttempts.toNat < UInt32.size := by
    have hlt := (max 1 maxAttempts).toNat_lt_size
    rwa [toNat_max_one] at hlt
  obtain ⟨k, hk, hrun⟩ := run_retryFrom op s 0 (maxAttempts.toNat - 1)
  obtain ⟨j, hj, hnoted⟩ := run_retryFrom (noted op) ([], s) 0 (maxAttempts.toNat - 1)
  rw [Nat.zero_add, hlimit] at hk hj
  -- What is noted has no part in what succeeds.
  have hsucceeds : succeeds (noted op) ([], s) = succeeds op s := by
    funext n
    rw [succeeds, outcomeOf_noted, succeeds]
  rw [hsucceeds] at hj
  obtain rfl := hj.unique hk
  rw [outcomeOf_noted, stateAfter_noted op s j] at hnoted
  refine ⟨j, hnoted, hrun, hj, fun i hi => ?_, fun hnone => ?_, hwidth,
    counted_eq_retry maxAttempts (noted op)⟩
  · exact hj.unique (hi.endsAt (by omega))
  · exact hj.unique (endsAt_limit (fun n hle _ => hnone n hle) (by omega))

/-- The outcomes may be any. -/
example (outcomes : Nat → Except ε α) (n : Nat) :
    outcomeOf (σ := Unit) (fun n => ExceptT.mk (pure (outcomes n))) () n = outcomes n := rfl

end

end Retry

end MachineImage
