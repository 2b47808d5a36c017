import MachineImage.Text.Basic

/-!
Patterns for the values of fields: what one is made of, and where its parts stand.
-/
namespace MachineImage.Pattern

/-- A place in a pattern; lines and columns are counted from one. -/
structure Place where
  line : Nat
  column : Nat
  deriving DecidableEq, Repr

/-- The place behind `c`. -/
def Place.after (p : Place) (c : Char) : Place :=
  if c = '\n' then ⟨p.line + 1, 1⟩ else ⟨p.line, p.column + 1⟩

structure Span where
  start : Place
  stop : Place
  deriving DecidableEq, Repr

structure Literal where
  span : Span
  char : Char
  /-- Written with two hexadecimal digits, as an octet may be. -/
  isOctet : Bool
  deriving DecidableEq, Repr

inductive SetOperator
  | intersection
  | difference
  | symmetricDifference
  deriving DecidableEq, Repr

/-- A set of characters, or what stands in one. -/
inductive CharSet
  | empty (span : Span)
  | literal (char : Literal)
  | range (span : Span) (first last : Literal)
  /-- An ASCII class such as `[:alpha:]`. -/
  | ascii (span : Span) (isNegated : Bool)
  /-- A class such as `\d`. -/
  | shorthand (span : Span) (isNegated : Bool)
  /-- A class such as `\pL`. -/
  | property (span : Span)
  | bracket (span : Span) (isNegated : Bool) (content : CharSet)
  | union (span : Span) (items : List CharSet)
  | operation (span : Span) (operator : SetOperator) (left right : CharSet)

def CharSet.span : CharSet → Span
  | .empty span => span
  | .literal char => char.span
  | .range span _ _ => span
  | .ascii span _ => span
  | .shorthand span _ => span
  | .property span => span
  | .bracket span _ _ => span
  | .union span _ => span
  | .operation span _ _ _ => span

/-- Flags as written, with a minus sign before those that are taken away. -/
abbrev Flags := Text

/-- Whether the flags give the flag or take it away, if they name it. -/
def Flags.setting? (flags : Flags) (flag : Char) : Option Bool :=
  if flags.contains flag then some ((flags.takeWhile (· != '-')).contains flag) else none

inductive Node
  | empty (span : Span)
  /-- Flags for the rest of the group. -/
  | flags (span : Span) (flags : Flags)
  /-- An end of the text, or of a line of it. -/
  | edge (span : Span)
  /-- A border of a word. -/
  | wordBorder (span : Span)
  /-- Any character. -/
  | any (span : Span)
  | literal (char : Literal)
  | charSet (set : CharSet)
  | repetition (span : Span) (operand : Node)
  | group (span : Span) (flags : Flags) (content : Node)
  | concatenation (span : Span) (parts : List Node)
  | alternation (span : Span) (branches : List Node)

def Node.span : Node → Span
  | .empty span => span
  | .flags span _ => span
  | .edge span => span
  | .wordBorder span => span
  | .any span => span
  | .literal char => char.span
  | .charSet set => set.span
  | .repetition span _ => span
  | .group span _ _ => span
  | .concatenation span _ => span
  | .alternation span _ => span

end MachineImage.Pattern
