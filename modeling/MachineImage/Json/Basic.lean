import MachineImage.Text.Decimal

/-!
JSON values and their two written forms. Members keep their order, and a string is kept as it is
written between its quotes: escapes may leave half of a surrogate pair, which is no text.
-/
namespace MachineImage

inductive Json
  /-- `null`, `true` or `false`. -/
  | word (w : Text)
  | number (lexeme : Text)
  | string (written : Text)
  | array (items : List Json)
  /-- Keys are strings as they are written. -/
  | object (members : List (Text × Json))

namespace Json

/-- The characters that have a short escape, with the letter of that escape. -/
def shortEscapes : List (Char × Char) := [
    ('"', '"'), ('\\', '\\'), ('\x08', 'b'), ('\x0c', 'f'), ('\n', 'n'), ('\r', 'r'), ('\t', 't')]

/-- Quotes, backslashes and controls are escaped and nothing else. -/
def escapeChar (c : Char) : Text :=
  match shortEscapes.lookup c with
  | some letter => ['\\', letter]
  | none =>
    if c.toNat < 0x20 then
      "\\u00".toList ++ [Hex.lowerDigit (c.toNat / 16), Hex.lowerDigit (c.toNat % 16)]
    else [c]

def escape (s : Text) : Text := s.flatMap escapeChar

def ofText (s : Text) : Json := .string (escape s)

def ofNat (n : Nat) : Json := .number (Decimal.digits n)

def ofMembers (members : List (Text × Json)) : Json :=
  .object (members.map fun m => (escape m.1, m.2))

def quoted (written : Text) : Text := '"' :: written ++ ['"']

mutual

/-- The form without any space. -/
def compact : Json → Text
  | .word w => w
  | .number lexeme => lexeme
  | .string written => quoted written
  | .array items => '[' :: compactItems items ++ [']']
  | .object members => '\x7b' :: compactMembers members ++ ['\x7d']

def compactItems : List Json → Text
  | [] => []
  | [item] => compact item
  | item :: items => compact item ++ ',' :: compactItems items

def compactMembers : List (Text × Json) → Text
  | [] => []
  | [(key, value)] => quoted key ++ ':' :: compact value
  | (key, value) :: members => quoted key ++ ':' :: compact value ++ ',' :: compactMembers members

end

/-- A new line, two spaces deep for each level. -/
def newline (depth : Nat) : Text := '\n' :: List.replicate (2 * depth) ' '

mutual

/-- The form with each item and each member on a line of its own; what is empty stays closed up. -/
def pretty (depth : Nat) : Json → Text
  | .array [] => "[]".toList
  | .array items => '[' :: prettyItems (depth + 1) items ++ newline depth ++ [']']
  | .object [] => ['\x7b', '\x7d']
  | .object members => '\x7b' :: prettyMembers (depth + 1) members ++ newline depth ++ ['\x7d']
  | .word w => w
  | .number lexeme => lexeme
  | .string written => quoted written

def prettyItems (depth : Nat) : List Json → Text
  | [] => []
  | [item] => newline depth ++ pretty depth item
  | item :: items => newline depth ++ pretty depth item ++ ',' :: prettyItems depth items

def prettyMembers (depth : Nat) : List (Text × Json) → Text
  | [] => []
  | [(key, value)] => newline depth ++ quoted key ++ ": ".toList ++ pretty depth value
  | (key, value) :: members =>
    newline depth ++ quoted key ++ ": ".toList ++ pretty depth value ++
      ',' :: prettyMembers depth members

end

end Json

end MachineImage
