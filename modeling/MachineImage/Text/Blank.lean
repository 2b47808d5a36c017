import MachineImage.Text.Basic

/-!
White space as Unicode counts it, and the two ways in which text is freed of it.
-/
namespace MachineImage.Text

/-- The characters with the property White_Space. -/
def blankRanges : List (Nat × Nat) := [
    (0x09, 0x0D), (0x20, 0x20), (0x85, 0x85), (0xA0, 0xA0), (0x1680, 0x1680), (0x2000, 0x200A),
    (0x2028, 0x2029), (0x202F, 0x202F), (0x205F, 0x205F), (0x3000, 0x3000)]

def isBlank (c : Char) : Bool := inRanges blankRanges c.toNat

/-- The text without white space at its two ends. -/
def trim (s : Text) : Text :=
  ((s.dropWhile isBlank).reverse.dropWhile isBlank).reverse

/-- Writes one space for each run of white space; `after` tells whether a run is under way. -/
def collapseAfter (after : Bool) : Text → Text
  | [] => []
  | c :: s =>
    if isBlank c then if after then collapseAfter true s else ' ' :: collapseAfter true s
    else c :: collapseAfter false s

def collapse (s : Text) : Text := collapseAfter false s

end MachineImage.Text
