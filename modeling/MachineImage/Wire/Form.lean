import MachineImage.Signing.Percent

/-!
The form-encoded bodies of API calls.
-/
namespace MachineImage

structure Form where
  action : Text
  version : Text
  /-- In the order in which they were added. -/
  parameters : List (Text × Text) := []
  deriving DecidableEq, Repr

namespace Form

def param (f : Form) (key value : Text) : Form :=
  { f with parameters := f.parameters ++ [(key, value)] }

def paramIf (f : Form) (enabled : Bool) (key value : Text) : Form :=
  if enabled then f.param key value else f

@[simp]
theorem action_param (f : Form) (key value : Text) : (f.param key value).action = f.action := rfl

@[simp]
theorem action_paramIf (f : Form) (enabled : Bool) (key value : Text) :
    (f.paramIf enabled key value).action = f.action := by
  cases enabled <;> rfl

/-- The action first, the version last, the parameters in between. -/
def pairs (f : Form) : List (Text × Text) :=
  ("Action".toList, f.action) :: f.parameters ++ [("Version".toList, f.version)]

def encode (f : Form) : Text :=
  ['&'].intercalate (f.pairs.map fun p => Percent.encode p.1 ++ '=' :: Percent.encode p.2)

end Form

end MachineImage
