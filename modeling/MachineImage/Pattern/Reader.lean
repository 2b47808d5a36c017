import MachineImage.Pattern.CharSet
import MachineImage.Text.Alphanumeric

/-!
Reading patterns: groups with their flags and names, repetitions, and branches.
-/
namespace MachineImage.Pattern

/-- What a parenthesis begins. -/
inductive Opening
  /-- Flags for the rest of the group around them. -/
  | flags (flags : Flags)
  /-- A group with flags of its own. -/
  | group (flags : Flags)

abbrev GroupNames := List (Text × Span)

def knownFlags : List Char := ['i', 'm', 's', 'U', 'u', 'R', 'x']

/-- Reads flags up to the colon or parenthesis behind them; `seen` stands last first. -/
def readFlags (seen : List (Char × Span)) (place : Place) :
    Text → Except Fault (Flags × Place × Text)
  | [] => .error { problem := .flagsUnfinished, span := ⟨place, place⟩ }
  | a :: s =>
    let span := ⟨place, place.after a⟩
    if a = ':' ∨ a = ')' then
      match seen with
      | ('-', span) :: _ => .error { problem := .negationDangling, span }
      | _ => .ok ((seen.map (·.1)).reverse, place, a :: s)
    else if a ≠ '-' ∧ !knownFlags.contains a then .error { problem := .flagUnknown, span }
    else
      match seen.lookup a with
      | some repeated =>
        .error {
          problem := if a = '-' then .negationRepeated else .flagRepeated
          span
          repeated := some repeated }
      | none => readFlags ((a, span) :: seen) (place.after a) s

def isNameStart (c : Char) : Bool := c == '_' || Text.isAlphabetic c

def isNameChar (c : Char) : Bool :=
  c == '_' || c == '.' || c == '[' || c == ']' || Text.isAlphanumeric c

/-- Reads the name of a group and the angle bracket behind it. -/
def readName (names : GroupNames) (c : Cursor) : Except Fault (GroupNames × Cursor) :=
  match c.rest with
  | [] => .error { problem := .nameUnfinished, span := c.spot }
  | '>' :: _ => .error { problem := .nameEmpty, span := c.spot }
  | a :: _ =>
    if !isNameStart a then .error { problem := .nameInvalid, span := c.charSpan }
    else
      let (name, behind) := c.bumpWhile isNameChar
      match behind.rest with
      | [] => .error { problem := .nameUnfinished, span := behind.spot }
      | '>' :: _ =>
        let span := behind.since c.place
        match names.lookup name with
        | some repeated => .error { problem := .nameRepeated, span, repeated := some repeated }
        | none => .ok ((name, span) :: names, behind.bump)
      | _ => .error { problem := .nameInvalid, span := behind.charSpan }

/-- Reads what the parenthesis at the cursor begins. Flags that are none leave a question mark with
nothing to repeat. -/
def readOpening (names : GroupNames) (c : Cursor) :
    Except Fault (Opening × GroupNames × Cursor) :=
  let start := c.place
  let span := c.charSpan
  let c := c.advance
  let lookaround := fun n => .error { problem := .lookaround, span := (c.bumpTimes n).since start }
  match c.rest with
  | '?' :: '=' :: _ => lookaround 2
  | '?' :: '!' :: _ => lookaround 2
  | '?' :: '<' :: '=' :: _ => lookaround 3
  | '?' :: '<' :: '!' :: _ => lookaround 3
  | '?' :: 'P' :: '<' :: _ =>
    (readName names (c.bumpTimes 3)).map fun (names, c) => (.group [], names, c)
  | '?' :: '<' :: _ => (readName names (c.bumpTimes 2)).map fun (names, c) => (.group [], names, c)
  | '?' :: [] => .error { problem := .groupUnclosed, span }
  | '?' :: s =>
    match readFlags [] c.bump.place s with
    | .error f => .error f
    | .ok (flags, place, rest) =>
      let behind := ({ c with rest, place } : Cursor).bump
      if rest.head? = some ':' then .ok (.group flags, names, behind)
      else if flags.isEmpty then .error { problem := .operandMissing, span := c.spot }
      else .ok (.flags flags, names, behind)
  | _ => .ok (.group [], names, c)

/-- What stands between two of the signs that end a branch, as far as it is read. -/
structure Branch where
  start : Place
  /-- The last one first. -/
  parts : List Node

namespace Branch

def begin (c : Cursor) : Branch := ⟨c.place, []⟩

def push (b : Branch) (part : Node) : Branch := { b with parts := part :: b.parts }

def close (b : Branch) (stop : Place) : Node :=
  match b.parts with
  | [] => .empty ⟨b.start, stop⟩
  | [part] => part
  | parts => .concatenation ⟨b.start, stop⟩ parts.reverse

/-- Puts a repetition in the place of the last part, unless there is nothing to repeat. -/
def repeated (b : Branch) (c : Cursor) : Option Branch :=
  match b.parts with
  | [] => none
  | .flags _ _ :: _ => none
  | part :: parts => some { b with parts := .repetition (c.since part.span.start) part :: parts }

end Branch

/-- A group under way. -/
structure Frame where
  /-- What stands before the group. -/
  outer : Branch
  /-- The place of its parenthesis. -/
  span : Span
  flags : Flags
  /-- Whether blanks are passed over behind the group. -/
  skipsBlanks : Bool
  /-- Where the branches around the group began and those before the one with the group, the last
  one first. -/
  branches : Option (Place × List Node)

/-- How far a pattern is read. -/
structure Reading where
  cursor : Cursor
  names : GroupNames
  frames : List Frame
  /-- Where the branches of the innermost group began, and those before the last one, which is
  `branch`; the last one first. -/
  branches : Option (Place × List Node)
  branch : Branch

namespace Reading

def ofPattern (pattern : Text) : Reading :=
  let c := Cursor.ofPattern pattern
  ⟨c, [], [], none, .begin c⟩

/-- What is read of the innermost group. -/
def content (r : Reading) : Node :=
  let last := r.branch.close r.cursor.place
  match r.branches with
  | none => last
  | some (start, branches) =>
    .alternation ⟨start, r.cursor.place⟩ (last :: branches).reverse

/-- The pattern, if the reading has come to its end. -/
def finish (r : Reading) : Except Fault Node :=
  match r.frames with
  | [] => .ok r.content
  | frame :: _ => .error { problem := .groupUnclosed, span := frame.span }

def push (r : Reading) (part : Node) (cursor : Cursor) : Reading :=
  { r with cursor, branch := r.branch.push part }

def divide (r : Reading) : Reading :=
  let last := r.branch.close r.cursor.place
  let branches :=
    match r.branches with
    | none => (r.branch.start, [last])
    | some (start, branches) => (start, last :: branches)
  { r with cursor := r.cursor.bump, branches := some branches, branch := .begin r.cursor.bump }

def openGroup (r : Reading) : Except Fault Reading :=
  let c := r.cursor
  match readOpening r.names c with
  | .error f => .error f
  | .ok (.flags flags, names, behind) =>
    let behind := { behind with
      skipsBlanks := (flags.setting? 'x').getD c.skipsBlanks }
    .ok { r with
      cursor := behind
      names
      branch := r.branch.push (.flags (behind.since c.place) flags) }
  | .ok (.group flags, names, behind) =>
    let behind := { behind with
      skipsBlanks := (flags.setting? 'x').getD c.skipsBlanks }
    .ok {
      cursor := behind
      names
      frames := ⟨r.branch, c.charSpan, flags, c.skipsBlanks, r.branches⟩ :: r.frames
      branches := none
      branch := .begin behind }

def closeGroup (r : Reading) : Except Fault Reading :=
  match r.frames with
  | [] => .error { problem := .groupUnopened, span := r.cursor.charSpan }
  | frame :: frames =>
    let cursor := { r.cursor.bump with skipsBlanks := frame.skipsBlanks }
    let group := .group (cursor.since frame.span.start) frame.flags r.content
    .ok { r with cursor, frames, branches := frame.branches, branch := frame.outer.push group }

/-- Reads a sign of repetition, and the question mark that may follow it. -/
def repetition (r : Reading) : Except Fault Reading :=
  let c := r.cursor.bump
  let c := if c.rest.head? = some '?' then c.bump else c
  match r.branch.repeated c with
  | none => .error { problem := .operandMissing, span := r.cursor.spot }
  | some branch => .ok { r with cursor := c, branch }

/-- The fault of a count in braces, which is never closed. -/
def countFault (r : Reading) : Fault :=
  let start := r.cursor.place
  if (r.branch.repeated r.cursor).isNone then
    { problem := .operandMissing, span := r.cursor.spot }
  else
    let c := r.cursor.advance
    let first := (c.bumpWhile Text.isBlank).2
    let (digits, last) := first.collect Char.isDigit
    let behind := (last.collect Text.isBlank).2
    let span := last.since first.place
    if c.rest.isEmpty || behind.rest.isEmpty then
      { problem := .countUnclosed, span := behind.since start }
    else if digits.isEmpty then { problem := .countEmpty, span }
    else if (Decimal.readDigitsBelow? UInt32.size digits).isNone then
      { problem := .countTooLarge, span }
    else { problem := .countUnclosed, span := behind.since start }

/-- Reads what the next character `a` begins; `steps` characters follow it at most. -/
def step (steps : Nat) (a : Char) (r : Reading) : Except Fault Reading :=
  let c := r.cursor
  match a with
  | '(' => r.openGroup
  | ')' => r.closeGroup
  | '|' => .ok r.divide
  | '[' => (readSet steps c).map fun (set, c) => r.push (.charSet set) c
  | '?' | '*' | '+' => r.repetition
  | '\x7b' => .error r.countFault
  | '.' => .ok (r.push (.any c.charSpan) c.bump)
  | '^' | '$' => .ok (r.push (.edge c.charSpan) c.bump)
  | a => (readMember a c).map fun (m, c) => r.push m.node c

/-- Reads on to the end. Every step reads a character at least, so where the steps have run out no
character is left. -/
def run : Nat → Reading → Except Fault Node
  | 0, r => r.finish
  | steps + 1, r =>
    let r := { r with cursor := r.cursor.skip }
    match r.cursor.rest with
    | [] => r.finish
    | a :: _ =>
      match r.step steps a with
      | .error f => .error f
      | .ok r => run steps r

end Reading

/-- The pattern that the text denotes. -/
def read (pattern : Text) : Except Fault Node :=
  (Reading.ofPattern pattern).run pattern.length

end MachineImage.Pattern
