import MachineImage.Text.Basic
import MachineImage.Text.Alphanumeric.Table

/-!
Letters and numbers as Unicode counts them.
-/
namespace MachineImage.Text

def isAlphanumeric (c : Char) : Bool := c.isAlphanum || inRanges Alphanumeric.ranges c.toNat

/-- A letter, but no digit. -/
def isAlphabetic (c : Char) : Bool :=
  isAlphanumeric c && !c.isDigit && !inRanges Alphanumeric.digitRanges c.toNat

end MachineImage.Text
