import MachineImage.Text.Decimal
import MachineImage.Text.Quoted.Table

/-!
Text in double quotes for diagnostics: what would not show, or would blend into its neighbour, is
written as an escape.
-/
namespace MachineImage.Text

/-- `\u\x7bhex\x7d` with no leading zeros. -/
def codeEscape (c : Char) : Text :=
  "\\u\x7b".toList ++ Nat.toDigits 16 c.toNat ++ ['\x7d']

def isHidden (c : Char) : Bool := inRanges Quoted.hiddenRanges c.toNat

def quoteChar (c : Char) : Text :=
  match c with
  | '"' => "\\\"".toList
  | '\\' => "\\\\".toList
  | '\n' => "\\n".toList
  | '\r' => "\\r".toList
  | '\t' => "\\t".toList
  | '\x00' => "\\0".toList
  | c => if isHidden c then codeEscape c else [c]

def quote (s : Text) : Text := '"' :: s.flatMap quoteChar ++ ['"']

end MachineImage.Text
