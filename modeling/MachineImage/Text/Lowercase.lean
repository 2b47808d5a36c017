import MachineImage.Text.Basic
import MachineImage.Text.Lowercase.Table

/-!
Lower case as Unicode maps it, the sigma that ends a word included.
-/
namespace MachineImage.Text

namespace Lowercase

def Run.holds (r : Run) (n : Nat) : Bool :=
  r.first ≤ n && n ≤ r.last && (n - r.first) % r.step == 0

def isCased (c : Char) : Bool := inRanges casedRanges c.toNat

def isIgnorable (c : Char) : Bool := inRanges ignorableRanges c.toNat

/-- Whether the text goes on with a cased character, ignorable ones passed over. -/
def meetsCased (s : Text) : Bool :=
  match s.dropWhile isIgnorable with
  | c :: _ => isCased c
  | [] => false

end Lowercase

open Lowercase

/-- The small form of a character by itself; one capital has a small form of two characters. -/
def lowerChar (c : Char) : Text :=
  if c.toNat < 0x80 then [c.toLower]
  else if c = '\u0130' then ['i', '\u0307']
  else match runs.find? (·.holds c.toNat) with
    | some r => [Char.ofNat (c.toNat + r.shift).toNat]
    | none => [c]

/-- Lowers `s`, which follows `before`, that one last first. -/
def lowerFrom (before : Text) : Text → Text
  | [] => []
  | c :: s =>
    (if c = 'Σ' then if meetsCased before && !meetsCased s then ['ς'] else ['σ']
      else lowerChar c) ++
      lowerFrom (c :: before) s

def lower (s : Text) : Text := lowerFrom [] s

end MachineImage.Text
