import MachineImage.Text.Decimal

/-!
Character references: writing the characters that markup reserves, and reading references back.
-/
namespace MachineImage.Markup

/-- Every ampersand as `&amp;`. -/
def escapeAmpersands (s : Text) : Text :=
  s.flatMap fun c => if c = '&' then "&amp;".toList else [c]

/-- The five characters that have a name, each under that name. -/
def escapeText (s : Text) : Text :=
  s.flatMap fun c => match c with
    | '<' => "&lt;".toList
    | '>' => "&gt;".toList
    | '&' => "&amp;".toList
    | '\'' => "&apos;".toList
    | '"' => "&quot;".toList
    | c => [c]

/-- Why digits after `#` denote no character. -/
inductive NumberFault
  | sign
  | empty
  | digit
  | tooLarge
  | zero
  | noCharacter (code : Nat)
  deriving DecidableEq, Repr

/-- Why the references of a text cannot be resolved; positions are octets of that text. -/
inductive ReferenceFault
  | unknownName (start stop : Nat) (name : Text)
  | unclosed (start stop : Nat)
  | number (why : NumberFault)
  deriving DecidableEq, Repr

/-- Reads digits on from `value`, up to 32 bits. -/
def readNumber (radix value : Nat) : Text → Except NumberFault Nat
  | [] => .ok value
  | c :: s =>
    match (Hex.digit? c).filter (· < radix) with
    | none => .error .digit
    | some d =>
      if value * radix + d < UInt32.size then readNumber radix (value * radix + d) s
      else .error .tooLarge

/-- The character with the code that the digits denote. -/
def characterOf (radix : Nat) (s : Text) : Except NumberFault Char :=
  if s.isEmpty then .error .empty
  else if s.head? = some '+' ∨ s.head? = some '-' then .error .sign
  else match readNumber radix 0 s with
    | .error f => .error f
    | .ok n =>
      if n = 0 then .error .zero
      else if n.isValidChar then .ok (Char.ofNat n)
      else .error (.noCharacter n)

def namedCharacter? (name : Text) : Option Char :=
  [("lt", '<'), ("gt", '>'), ("amp", '&'), ("apos", '\''), ("quot", '"')].findSome? fun p =>
    if p.1.toList = name then some p.2 else none

/-- The character that `&name;` stands for, the name beginning at octet `start`. -/
def resolve (start : Nat) : Text → Except ReferenceFault Char
  | '#' :: 'x' :: digits => (characterOf 16 digits).mapError .number
  | '#' :: digits => (characterOf 10 digits).mapError .number
  | name =>
    match namedCharacter? name with
    | some c => .ok c
    | none => .error (.unknownName start (start + Text.byteLength name) name)

def isNameCharacter (c : Char) : Bool := c != '&' && c != ';'

/-- Resolves the references in `s`, which begins at octet `start` of a text that ends at `stop`;
`seen` stands last first. -/
def unescapeFrom (stop start : Nat) (seen : Text) : Text → Except ReferenceFault Text
  | [] => .ok seen.reverse
  | '&' :: s =>
    match _behind : s.dropWhile isNameCharacter with
    | ';' :: rest =>
      let name := s.takeWhile isNameCharacter
      match resolve (start + 1) name with
      | .error f => .error f
      | .ok c => unescapeFrom stop (start + Text.byteLength name + 2) (c :: seen) rest
    | _ => .error (.unclosed start stop)
  | c :: s => unescapeFrom stop (start + c.utf8Size) (c :: seen) s
termination_by s => s.length
decreasing_by
  · have := (List.dropWhile_suffix (l := s) isNameCharacter).length_le
    rw [_behind] at this
    simp at this ⊢
    omega
  · simp

/-- The text with every reference resolved. -/
def unescape (s : Text) : Except ReferenceFault Text :=
  unescapeFrom (Text.byteLength s) 0 [] s

end MachineImage.Markup
