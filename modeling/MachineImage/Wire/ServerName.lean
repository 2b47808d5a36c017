import MachineImage.Text.Basic

/-!
The names that a server can prove to be its own.
-/
namespace MachineImage.Wire

def isDigit (c : Char) : Bool := '0' ≤ c && c ≤ '9'

def isNameCharacter (c : Char) : Bool :=
  isDigit c || ('a' ≤ c && c ≤ 'z') || ('A' ≤ c && c ≤ 'Z') || c == '_' || c == '-'

/-- One to 63 characters of a name, no hyphen at either end. -/
def isLabel (label : Text) : Bool :=
  !label.isEmpty && label.length ≤ 63 && label.all isNameCharacter &&
    label.head? != some '-' && label.getLast? != some '-'

/-- Labels between dots, 253 characters at most; a dot may end the name, but the last label is not a
number. -/
def isServerName (host : Text) : Bool :=
  let labels := Text.split (· == '.') host
  let named := if labels.getLast? = some [] then labels.dropLast else labels
  host.length ≤ 253 && !named.isEmpty && named.all isLabel &&
    named.getLast?.all fun last => !last.all isDigit

end MachineImage.Wire
