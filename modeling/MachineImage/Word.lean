/-!
Numbers of 64 bits: an operation has no result that they do not hold.
-/
namespace MachineImage.Word

/-- The sum, if 64 bits hold it. -/
def add (a b : Nat) : Option Nat := if a + b < UInt64.size then some (a + b) else none

/-- The difference, if there is one. -/
def sub (a b : Nat) : Option Nat := if b ≤ a then some (a - b) else none

variable {a b c : Nat}

theorem add_eq_some : add a b = some c ↔ a + b = c ∧ c < UInt64.size := by
  unfold add
  split
  · rw [Option.some.injEq]
    omega
  · exact iff_of_false nofun (by omega)

theorem sub_eq_some : sub a b = some c ↔ b ≤ a ∧ a - b = c := by
  unfold sub
  split
  · next h => rw [Option.some.injEq, and_iff_right h]
  · next h => exact iff_of_false nofun fun hle => h hle.1

end MachineImage.Word
