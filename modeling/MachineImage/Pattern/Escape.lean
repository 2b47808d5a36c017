import MachineImage.Pattern.Cursor

/-!
Single members of patterns: characters, and escapes for characters, classes and borders. A pattern
is a value in a filter for the log, so no closing brace stands behind an opening one in it; what is
to stand in braces is always a fault.
-/
namespace MachineImage.Pattern

/-- What may stand in a set as well as outside. -/
inductive Member
  | literal (char : Literal)
  | shorthand (span : Span) (isNegated : Bool)
  | property (span : Span)
  | edge (span : Span)
  | wordBorder (span : Span)

def Member.span : Member → Span
  | .literal char => char.span
  | .shorthand span _ => span
  | .property span => span
  | .edge span => span
  | .wordBorder span => span

def Member.node : Member → Node
  | .literal char => .literal char
  | .shorthand span isNegated => .charSet (.shorthand span isNegated)
  | .property span => .charSet (.property span)
  | .edge span => .edge span
  | .wordBorder span => .wordBorder span

/-- The character that one of these letters stands for behind a backslash. -/
def controlLetters : List (Char × Char) :=
  [('a', '\x07'), ('f', '\x0C'), ('t', '\t'), ('n', '\n'), ('r', '\r'), ('v', '\x0B')]

/-- Characters that a backslash leaves as they are. -/
def isPunctuation (c : Char) : Bool := c.toNat < 0x80 && !c.isAlphanum && c != '<' && c != '>'

/-- Reads `count` hexadecimal digits behind `value`. The escape begins at `start` and its digits
at `first`. -/
def readHexDigits (start first : Place) (isOctet : Bool) (value : Nat) :
    Nat → Cursor → Except Fault (Member × Cursor)
  | 0, c =>
    if value.isValidChar then .ok (.literal ⟨c.since start, Char.ofNat value, isOctet⟩, c)
    else .error { problem := .hexNoCharacter, span := c.since first }
  | count + 1, c =>
    match c.rest with
    | [] => .error { problem := .escapeUnfinished, span := c.spot }
    | a :: _ =>
      match Hex.digit? a with
      | none => .error { problem := .hexDigit, span := c.charSpan }
      | some d => readHexDigits start first isOctet (value * 16 + d) count c.advance

/-- Reads a character's code on behind the letter, with `count` digits. -/
def readHex (start : Place) (count : Nat) (c : Cursor) : Except Fault (Member × Cursor) :=
  match c.rest with
  | '\x7b' :: _ =>
    let (_, behind) := c.advance.collect fun a => (Hex.digit? a).isSome
    if behind.rest.isEmpty then
      .error { problem := .escapeUnfinished, span := behind.since c.place }
    else .error { problem := .hexDigit, span := behind.charSpan }
  | _ => readHexDigits start c.place (count == 2) 0 count c

/-- Reads a property's name on behind the letter; one letter is a name. -/
def readProperty (start : Place) (c : Cursor) : Except Fault (Member × Cursor) :=
  match c.rest with
  | [] => .error { problem := .escapeUnfinished, span := c.spot }
  | '\x7b' :: _ =>
    .error { problem := .escapeUnfinished, span := (c.collect fun _ => true).2.spot }
  | '\\' :: _ => .error { problem := .propertyInvalid, span := c.charSpan }
  | _ :: _ => .ok (.property (c.advance.since start), c.advance)

/-- Reads on behind `\b`. A brace and a letter or hyphen begin the name of a kind of border. -/
def readWordBorder (start : Place) (c : Cursor) : Except Fault (Member × Cursor) :=
  let isNameChar := fun a : Char => a.isAlpha || a == '-'
  match c.rest with
  | '\x7b' :: _ =>
    match c.advance.rest with
    | [] => .error { problem := .borderUnfinished, span := c.advance.since start }
    | a :: _ =>
      if isNameChar a then
        .error {
          problem := .borderUnclosed
          span := (c.advance.collect isNameChar).2.since c.place }
      else .ok (.wordBorder (c.since start), c)
  | _ => .ok (.wordBorder (c.since start), c)

/-- Reads an escape whose backslash stands at the cursor. -/
def readEscape (c : Cursor) : Except Fault (Member × Cursor) :=
  let start := c.place
  let c := c.bump
  match c.rest with
  | [] => .error { problem := .escapeUnfinished, span := c.since start }
  | a :: _ =>
    let behind := c.bump
    let span := behind.since start
    if a.isDigit then .error { problem := .backreference, span }
    else match a with
      | 'x' => readHex start 2 c.advance
      | 'u' => readHex start 4 c.advance
      | 'U' => readHex start 8 c.advance
      | 'p' | 'P' => readProperty start c.advance
      | 'd' | 's' | 'w' => .ok (.shorthand span false, behind)
      | 'D' | 'S' | 'W' => .ok (.shorthand span true, behind)
      | 'A' | 'z' => .ok (.edge span, behind)
      | 'b' => readWordBorder start behind
      | 'B' | '<' | '>' => .ok (.wordBorder span, behind)
      | a =>
        if isPunctuation a then .ok (.literal ⟨span, a, false⟩, behind)
        else match controlLetters.lookup a with
          | some control => .ok (.literal ⟨span, control, false⟩, behind)
          | none => .error { problem := .escapeUnknown, span }

/-- Reads an escape, or a character that stands for itself; `a` is the next character. -/
def readMember (a : Char) (c : Cursor) : Except Fault (Member × Cursor) :=
  if a = '\\' then readEscape c else .ok (.literal ⟨c.charSpan, a, false⟩, c.bump)

end MachineImage.Pattern
