import MachineImage.Pattern.Basic
import MachineImage.Text.Decimal

/-!
The faults of patterns, and reports that show a pattern with marks under the place of its fault.
-/
namespace MachineImage.Pattern

inductive Problem
  | groupUnclosed
  | groupUnopened
  | setUnclosed
  | rangeBackward
  | rangeBorder
  | memberInvalid
  | countEmpty
  | countTooLarge
  | countUnclosed
  | escapeUnfinished
  | escapeUnknown
  | hexDigit
  | hexNoCharacter
  | propertyInvalid
  | borderUnfinished
  | borderUnclosed
  | backreference
  | lookaround
  | flagUnknown
  | flagRepeated
  | negationRepeated
  | negationDangling
  | flagsUnfinished
  | nameEmpty
  | nameInvalid
  | nameRepeated
  | nameUnfinished
  | operandMissing
  | tooDeep
  | invalidUtf8
  | unicodeForbidden
  | propertyUnknown
  | shorthandUnavailable
  | caseUnavailable
  deriving DecidableEq, Repr

/-- How deep the parts of a pattern may stand in one another. -/
def depthLimit : Nat := 250

namespace Problem

def message (p : Problem) : Text :=
  String.toList <| match p with
  | .groupUnclosed => "unclosed group"
  | .groupUnopened => "unopened group"
  | .setUnclosed => "unclosed character class"
  | .rangeBackward => "invalid character class range, the start must be <= the end"
  | .rangeBorder => "invalid range boundary, must be a literal"
  | .memberInvalid => "invalid escape sequence found in character class"
  | .countEmpty => "repetition quantifier expects a valid decimal"
  | .countTooLarge => "decimal literal invalid"
  | .countUnclosed => "unclosed counted repetition"
  | .escapeUnfinished => "incomplete escape sequence, reached end of pattern prematurely"
  | .escapeUnknown => "unrecognized escape sequence"
  | .hexDigit => "invalid hexadecimal digit"
  | .hexNoCharacter => "hexadecimal literal is not a Unicode scalar value"
  | .propertyInvalid => "invalid Unicode character class"
  | .borderUnfinished =>
    "found either the beginning of a special word boundary or a bounded repetition on a \\b " ++
      "with an opening brace, but no closing brace"
  | .borderUnclosed =>
    "special word boundary assertion is either unclosed or contains an invalid character"
  | .backreference => "backreferences are not supported"
  | .lookaround => "look-around, including look-ahead and look-behind, is not supported"
  | .flagUnknown => "unrecognized flag"
  | .flagRepeated => "duplicate flag"
  | .negationRepeated => "flag negation operator repeated"
  | .negationDangling => "dangling flag negation operator"
  | .flagsUnfinished => "expected flag but got end of regex"
  | .nameEmpty => "empty capture group name"
  | .nameInvalid => "invalid capture group character"
  | .nameRepeated => "duplicate capture group name"
  | .nameUnfinished => "unclosed capture group name"
  | .operandMissing => "repetition operator missing expression"
  | .tooDeep => s!"exceed the maximum number of nested parentheses/brackets ({depthLimit})"
  | .invalidUtf8 => "pattern can match invalid UTF-8"
  | .unicodeForbidden => "Unicode not allowed here"
  | .propertyUnknown => "Unicode property not found"
  | .shorthandUnavailable =>
    "Unicode-aware Perl class not found (make sure the unicode-perl feature is enabled)"
  | .caseUnavailable =>
    "Unicode-aware case insensitivity matching is not available " ++
      "(make sure the unicode-case feature is enabled)"

end Problem

structure Fault where
  problem : Problem
  span : Span
  /-- What the fault repeats, if it is a repetition; it stands on the same line. -/
  repeated : Option Span := none
  deriving DecidableEq, Repr

/-- The lines of a text without their ends; an end after the last line begins no other. -/
def linesOf (s : Text) : List Text :=
  let pieces := Text.split (· == '\n') s
  let ended := pieces.dropLast.map fun line =>
    if line.getLast? = some '\r' then line.dropLast else line
  match pieces.getLast? with
  | some [] => ended
  | some last => ended ++ [last]
  | none => ended

/-- Marks under the columns of the spans behind `column`, at least one mark for each. -/
def marksFrom (column : Nat) : List Span → Text
  | [] => []
  | span :: spans =>
    let gap := span.start.column - column
    let count := max 1 (span.stop.column - span.start.column)
    List.replicate gap ' ' ++ List.replicate count '^' ++ marksFrom (column + gap + count) spans

namespace Fault

/-- The spans to be marked in that line. -/
def marked (f : Fault) (line : Nat) : List Span :=
  (f.repeated.toList ++ [f.span]).filter fun span =>
    span.start.line = line && span.stop.line = line

/-- A line behind its margin, with a line of marks if there are any. -/
def reportLine (f : Fault) (margin : Text) (number : Nat) (line : Text) : Text :=
  margin ++ line ++ ['\n'] ++
    match f.marked number with
    | [] => []
    | spans => List.replicate margin.length ' ' ++ marksFrom 1 spans ++ ['\n']

/-- The number of a line, right-aligned, with a colon and a space. -/
def numberMargin (width number : Nat) : Text :=
  let digits := Decimal.digits number
  List.replicate (width - digits.length) ' ' ++ digits ++ [':', ' ']

/-- The pattern with marks at the fault. If a line end stands in the pattern, its lines have numbers
as wide as the number of lines, an empty line behind the last end counted too; and a fault that
goes over a line end is told in words. -/
def report (f : Fault) (pattern : Text) : Text :=
  let lines := linesOf pattern
  let place := fun (column : Nat) (p : Place) =>
    "line ".toList ++ Decimal.digits p.line ++ " (column ".toList ++ Decimal.digits column ++ [')']
  "regex parse error:\n".toList ++
    (if pattern.contains '\n' then
      let count := lines.length + if pattern.getLast? = some '\n' then 1 else 0
      let margin := numberMargin (Decimal.digits count).length
      let divider := List.replicate 79 '~' ++ ['\n']
      divider ++
        (lines.mapIdx fun i line => f.reportLine (margin (i + 1)) (i + 1) line).flatten ++
        divider ++
        if f.span.start.line = f.span.stop.line then []
        else "on ".toList ++ place f.span.start.column f.span.start ++ " through ".toList ++
          place (f.span.stop.column - 1) f.span.stop ++ ['\n']
    else (lines.map (f.reportLine (List.replicate 4 ' ') 1)).flatten) ++
    "error: ".toList ++ f.problem.message

end Fault

end MachineImage.Pattern
