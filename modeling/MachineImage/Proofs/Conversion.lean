import MachineImage.Proofs.Continued

/-!
When the import of a volume counts as complete, and what a reply tells of it that was cut short: it
is complete where no state in the reply speaks against it, so that what is missing may change that.
-/
namespace MachineImage.Compute

open Markup

/-- The reply names a state in which no volume is complete. -/
def hasOpenState (body : Text) : Bool :=
  hasState body "cancelled" || hasState body "cancelling" || hasState body "active"

/-- What is shown of a volume that is not complete is no volume. -/
theorem inProgress_ne_completed {message : Except RunError Text} {volume : Text} :
    (message >>= fun m => .ok (.inProgress m)) ≠
      (.ok (.completed volume) : Except RunError ConversionStatus) := by
  cases message with
  | error e => exact nofun
  | ok m => exact nofun

/-- A volume is complete exactly if no state speaks against it and it has an id. -/
theorem conversionStatus_eq_completed_iff {body volume : Text} :
    conversionStatus body = .ok (.completed volume) ↔
      hasOpenState body = false ∧ ∃ contents,
        extractFirst body "volume".toList = .ok (some contents) ∧
          volumeId contents = .ok (some volume) := by
  unfold conversionStatus hasOpenState
  cases hcancelled : hasState body "cancelled" || hasState body "cancelling" with
  | true =>
    -- A cancelled import fails, whatever its volume is.
    rw [if_pos rfl, Bool.true_or]
    refine ⟨fun h => ?_, fun h => absurd h.1 (by decide)⟩
    split at h <;> cases h
  | false =>
    rw [if_neg Bool.false_ne_true, Bool.false_or]
    cases hv : extractFirst body "volume".toList with
    | error e => exact ⟨nofun, nofun⟩
    | ok found =>
      cases found with
      | none => exact ⟨nofun, nofun⟩
      | some contents =>
        cases ha : hasState body "active" with
        | true => exact ⟨fun h => absurd h inProgress_ne_completed, fun h => absurd h.1 (by decide)⟩
        | false =>
          simp only [Except.ok.injEq, Option.some.injEq, exists_eq_left', true_and]
          rw [if_neg Bool.false_ne_true]
          cases hi : volumeId contents with
          | error e => exact ⟨nofun, nofun⟩
          | ok id =>
            cases id with
            | none => exact ⟨fun h => absurd h inProgress_ne_completed, nofun⟩
            | some id =>
              constructor
              · rintro ⟨⟩
                rfl
              · rintro ⟨⟩
                rfl

/-- Of a volume that reads as complete in the part that has come, the whole reply says the same,
unless it goes on to name a state in which none is. -/
theorem completed_of_prefix {received whole : Text} {volume : Text}
    (h : conversionStatus received = .ok (.completed volume)) (hp : received <+: whole)
    (other : Text) :
    conversionStatus whole = .ok (.completed other) ↔
      hasOpenState whole = false ∧ other = volume := by
  obtain ⟨-, contents, hfirst, hid⟩ := conversionStatus_eq_completed_iff.1 h
  obtain ⟨more, rfl⟩ := hp
  rw [conversionStatus_eq_completed_iff, extractFirst_append hfirst]
  constructor
  · rintro ⟨hstate, _, ⟨⟩, hother⟩
    rw [hid] at hother
    cases hother
    exact ⟨hstate, rfl⟩
  · rintro ⟨hstate, rfl⟩
    exact ⟨hstate, contents, rfl, hid⟩

/-- A reply that is cut short before the state of the task. -/
def cutShort : Text :=
  "<r><volume><id>vol-123</id></volume><statusMessage>Progress: 42%</statusMessage>".toList

theorem toOption_eq_some {ε α : Type} {e : Except ε α} {x : α} (h : e.toOption = some x) :
    e = .ok x := by
  cases e with
  | error => cases h
  | ok y => exact congrArg Except.ok (Option.some.inj h)

theorem completed_cutShort :
    conversionStatus cutShort = .ok (.completed "vol-123".toList) :=
  toOption_eq_some (by decide +kernel)

/-- What was taken for complete may turn out to be active. -/
theorem not_completed_of_prefix : ¬ ∀ whole received volume : Text, received <+: whole →
    conversionStatus received = .ok (.completed volume) →
    conversionStatus whole = .ok (.completed volume) := by
  intro h
  have hwhole := h (cutShort ++ "<state>active</state></r>".toList) cutShort "vol-123".toList
    (List.prefix_append _ _) completed_cutShort
  have hactive : hasOpenState (cutShort ++ "<state>active</state></r>".toList) = true := by
    decide +kernel
  rw [conversionStatus_eq_completed_iff, hactive] at hwhole
  exact absurd hwhole.1 (by decide)

/-- The rest of a reply that names the end of the task. -/
theorem completed_of_prefix_closed :
    let whole := cutShort ++ "<state>completed</state></r>".toList
    conversionStatus cutShort = .ok (.completed "vol-123".toList) ∧ cutShort <+: whole ∧
      (conversionStatus whole = .ok (.completed "vol-123".toList) ↔
        hasOpenState whole = false ∧ "vol-123".toList = "vol-123".toList) ∧
      hasOpenState whole = false := by
  intro whole
  have hp : cutShort <+: whole := List.prefix_append _ _
  exact ⟨completed_cutShort, hp, completed_of_prefix completed_cutShort hp _, by decide +kernel⟩

end MachineImage.Compute
