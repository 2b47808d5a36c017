import MachineImage.Text.Quoted

/-!
What the operator is shown while a run goes on. A status that stays the same shows as dots.
-/
namespace MachineImage

/-- The status last shown, if there is one since the last step was done. -/
structure Progress where
  status : Option Text := none
  deriving DecidableEq, Repr

namespace Progress

/-- The text that ends a step. -/
def doneText : Text := " done.\n".toList

def done (_ : Progress) : Progress := ⟨none⟩

/-- The text that reports a status under a heading: on a line of its own if another came before. -/
def statusText (p : Progress) (heading status : Text) : Text :=
  match p.status with
  | none => heading ++ ": ".toList ++ status
  | some last =>
    if last = status then ['.'] else '\n' :: heading ++ ": ".toList ++ status

def report (_ : Progress) (status : Text) : Progress := ⟨some status⟩

/-- The text for diagnostics. -/
def diagnostic (p : Progress) : Text :=
  "Progress \x7b last_status: ".toList ++
    (match p.status with
      | none => "None".toList
      | some s => "Some(".toList ++ Text.quote s ++ [')']) ++
    ", .. \x7d".toList

end Progress

end MachineImage
