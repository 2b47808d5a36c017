import MachineImage.Json.Basic
import MachineImage.Text.Decimal

/-!
Reading JSON. The reader accepts exactly one value with blanks around it; whether a string denotes
a text is asked only where its text is needed.
-/
namespace MachineImage.Json

def isBlank (c : Char) : Bool := c == ' ' || c == '\n' || c == '\t' || c == '\r'

def skipBlanks (s : Text) : Text := s.dropWhile isBlank

/-- The value of four hexadecimal digits and what follows them. -/
def hex4? : Text → Option (Nat × Text)
  | a :: b :: c :: d :: s => do
    return ((((← Hex.digit? a) * 16 + (← Hex.digit? b)) * 16 + (← Hex.digit? c)) * 16 +
      (← Hex.digit? d), s)
  | _ => none

/-- The characters of a string up to its closing quote, as written; `seen` stands last first. -/
def stringEnd (seen : Text) : Text → Option (Text × Text)
  | [] => none
  | '"' :: s => some (seen.reverse, s)
  | '\\' :: 'u' :: a :: b :: c :: d :: s =>
    if (hex4? [a, b, c, d]).isSome then
      stringEnd (d :: c :: b :: a :: 'u' :: '\\' :: seen) s
    else none
  | '\\' :: c :: s =>
    if c = '/' ∨ shortEscapes.any (·.2 == c) then stringEnd (c :: '\\' :: seen) s else none
  | c :: s => if c.toNat < 0x20 ∨ c = '\\' then none else stringEnd (c :: seen) s

/-- Digits, at least one, and what follows them. -/
def digits1? (s : Text) : Option (Text × Text) :=
  let digits := s.takeWhile fun c => (Decimal.digit? c).isSome
  if digits.isEmpty then none else some (digits, s.dropWhile fun c => (Decimal.digit? c).isSome)

/-- A point and digits if there is a point. -/
def fraction? : Text → Option (Text × Text)
  | '.' :: s => (digits1? s).map fun (digits, rest) => ('.' :: digits, rest)
  | s => some ([], s)

/-- An exponent if there is its letter. -/
def exponent? : Text → Option (Text × Text)
  | c :: s =>
    if c = 'e' ∨ c = 'E' then
      let (sign, s) := match s with
        | '+' :: s => (['+'], s)
        | '-' :: s => (['-'], s)
        | s => ([], s)
      (digits1? s).map fun (digits, rest) => (c :: sign ++ digits, rest)
    else some ([], c :: s)
  | [] => some ([], [])

/-- A whole part does not begin with a zero unless it is zero. -/
def whole? : Text → Option (Text × Text)
  | '0' :: s => some (['0'], s)
  | s => digits1? s

def number? (s : Text) : Option (Text × Text) := do
  let (sign, s) := match s with
    | '-' :: s => (['-'], s)
    | s => ([], s)
  let (whole, s) ← whole? s
  let (fraction, s) ← fraction? s
  let (exponent, s) ← exponent? s
  return (sign ++ whole ++ fraction ++ exponent, s)

def word? (s : Text) : Option (Text × Text) :=
  ["null", "true", "false"].findSome? fun w =>
    if w.toList.isPrefixOf s then some (w.toList, s.drop w.length) else none

/-- A key, as written, and the colon behind it. -/
def key? (s : Text) : Option (Text × Text) :=
  match skipBlanks s with
  | '"' :: s => do
    let (key, s) ← stringEnd [] s
    match skipBlanks s with
    | ':' :: s => some (key, s)
    | _ => none
  | _ => none

mutual

/-- One value and what follows it; `fuel` bounds the nesting of calls. -/
def value? : Nat → Text → Option (Json × Text)
  | 0, _ => none
  | fuel + 1, s =>
    match skipBlanks s with
    | '"' :: s => (stringEnd [] s).map fun (written, rest) => (.string written, rest)
    | '[' :: s =>
      match skipBlanks s with
      | ']' :: s => some (.array [], s)
      | s => (items? fuel s).map fun (items, rest) => (.array items, rest)
    | '\x7b' :: s =>
      match skipBlanks s with
      | '\x7d' :: s => some (.object [], s)
      | s => (members? fuel s).map fun (members, rest) => (.object members, rest)
    | s =>
      match word? s with
      | some (w, rest) => some (.word w, rest)
      | none => (number? s).map fun (lexeme, rest) => (.number lexeme, rest)

/-- The items of an array up to its bracket. -/
def items? : Nat → Text → Option (List Json × Text)
  | 0, _ => none
  | fuel + 1, s => do
    let (item, s) ← value? fuel s
    match skipBlanks s with
    | ']' :: s => some ([item], s)
    | ',' :: s => do
      let (items, s) ← items? fuel s
      return (item :: items, s)
    | _ => none

/-- The members of an object up to its brace. -/
def members? : Nat → Text → Option (List (Text × Json) × Text)
  | 0, _ => none
  | fuel + 1, s => do
    let (key, s) ← key? s
    let (value, s) ← value? fuel s
    match skipBlanks s with
    | '\x7d' :: s => some ([(key, value)], s)
    | ',' :: s => do
      let (members, s) ← members? fuel s
      return ((key, value) :: members, s)
    | _ => none

end

/-- The one value that the text holds. Every second call at least reads a character. -/
def parse? (s : Text) : Option Json := do
  let (value, rest) ← value? (2 * s.length + 2) s
  if (skipBlanks rest).isEmpty then some value else none

/-- The character of a surrogate pair. -/
def pairedCharacter (high low : Nat) : Char :=
  Char.ofNat (0x10000 + (high - 0xD800) * 0x400 + (low - 0xDC00))

/-- The text of a string as written, unless half a surrogate pair stands in it. -/
def unescape? : Text → Option Text
  | [] => some []
  | '\\' :: 'u' :: a :: b :: c :: d :: s => do
    let (n, _) ← hex4? [a, b, c, d]
    if 0xD800 ≤ n ∧ n < 0xDC00 then
      match s with
      | '\\' :: 'u' :: e :: f :: g :: h :: s => do
        let (m, _) ← hex4? [e, f, g, h]
        if 0xDC00 ≤ m ∧ m < 0xE000 then (unescape? s).map (pairedCharacter n m :: ·) else none
      | _ => none
    else if 0xDC00 ≤ n ∧ n < 0xE000 then none
    else (unescape? s).map (Char.ofNat n :: ·)
  | '\\' :: c :: s =>
    (unescape? s).map ((((shortEscapes.find? (·.2 == c)).map (·.1)).getD c) :: ·)
  | c :: s => (unescape? s).map (c :: ·)

def text? : Json → Option Text
  | .string written => unescape? written
  | _ => none

/-- The number below `bound` that is written with digits alone. -/
def natural? (bound : Nat) : Json → Option Nat
  | .number lexeme => Decimal.readDigitsBelow? bound lexeme
  | _ => none

end MachineImage.Json
