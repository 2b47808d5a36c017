import MachineImage.Pattern.Escape

/-!
Sets of characters in brackets, with sets in them and operators between them.
-/
namespace MachineImage.Pattern

/-- What has been read of a set since its bracket or its last operator. -/
structure Union where
  span : Span
  /-- The last one first. -/
  items : List CharSet

namespace Union

def begin (c : Cursor) : Union := ⟨c.spot, []⟩

def push (u : Union) (item : CharSet) : Union :=
  ⟨⟨if u.items.isEmpty then item.span.start else u.span.start, item.span.stop⟩, item :: u.items⟩

def close (u : Union) : CharSet :=
  match u.items with
  | [] => .empty u.span
  | [item] => item
  | items => .union u.span items.reverse

end Union

/-- What waits while a set is read. -/
inductive SetFrame
  /-- An open bracket, behind what stood before it. -/
  | bracket (outer : Union) (span : Span) (isNegated : Bool)
  /-- An operator behind its left side. -/
  | operator (operator : SetOperator) (left : CharSet)

def asciiClasses : List Text :=
  ["alnum", "alpha", "ascii", "blank", "cntrl", "digit", "graph", "lower", "print", "punct",
    "space", "upper", "word", "xdigit"].map (·.toList)

/-- A class such as `[:alpha:]` or `[:^alpha:]` at the cursor, if there is one. -/
def asciiClass? (c : Cursor) : Option (CharSet × Cursor) :=
  match c.rest with
  | '[' :: ':' :: s =>
    let (isNegated, s) := match s with
      | '^' :: s => (true, s)
      | s => (false, s)
    let name := s.takeWhile (· != ':')
    match s.dropWhile (· != ':') with
    | ':' :: ']' :: _ =>
      if asciiClasses.contains name then
        let behind := c.bumpTimes (name.length + if isNegated then 5 else 4)
        some (.ascii (behind.since c.place) isNegated, behind)
      else none
    | _ => none
  | _ => none

/-- The fault of a set that the end of the pattern cuts off: the innermost open bracket. -/
def unclosedSet (c : Cursor) : List SetFrame → Fault
  | [] => { problem := .setUnclosed, span := c.spot }
  | .bracket _ span _ :: _ => { problem := .setUnclosed, span }
  | .operator _ _ :: frames => unclosedSet c frames

/-- Reads the hyphens that a set may begin with, `count` at most. The bracket stands at `start`. -/
def readHyphens (start : Place) (u : Union) : Nat → Cursor → Except Fault (Union × Cursor)
  | 0, c => .ok (u, c)
  | count + 1, c =>
    if c.rest.head? = some '-' then
      let u := u.push (.literal ⟨c.charSpan, '-', false⟩)
      if c.advance.rest.isEmpty then .error { problem := .setUnclosed, span := ⟨start, start⟩ }
      else readHyphens start u count c.advance
    else .ok (u, c)

/-- Moves on from a bracket or what belongs to it, if a set goes on there. -/
def advanceInSet (start : Place) (c : Cursor) : Except Fault Cursor :=
  if c.advance.rest.isEmpty then
    .error { problem := .setUnclosed, span := c.advance.since start }
  else .ok c.advance

/-- Reads the beginning of the set whose bracket stands at the cursor; `steps` characters follow at
most. A closing bracket that comes first is a member. -/
def openSet (steps : Nat) (outer : Union) (c : Cursor) :
    Except Fault (SetFrame × Union × Cursor) := do
  let start := c.place
  let c ← advanceInSet start c
  let isNegated := c.rest.head? == some '^'
  let c ← if isNegated then advanceInSet start c else pure c
  let (u, c) ← readHyphens start (.begin c) steps c
  let (u, c) ←
    if u.items.isEmpty && c.rest.head? == some ']' then
      let u := u.push (.literal ⟨c.charSpan, ']', false⟩)
      pure (u, ← advanceInSet start c)
    else pure (u, c)
  return (.bracket outer (c.since start) isNegated, u, c)

/-- What a member is in a set; a border has no place in one. -/
def Member.set : Member → Except Fault CharSet
  | .literal char => .ok (.literal char)
  | .shorthand span isNegated => .ok (.shorthand span isNegated)
  | .property span => .ok (.property span)
  | .edge span => .error { problem := .memberInvalid, span }
  | .wordBorder span => .error { problem := .memberInvalid, span }

/-- Only a character ends a range. -/
def Member.border : Member → Except Fault Literal
  | .literal char => .ok char
  | m => .error { problem := .rangeBorder, span := m.span }

/-- Reads a member or a range; `a` is the next character. A hyphen before a closing bracket or
before another hyphen makes no range. -/
def readRange (frames : List SetFrame) (a : Char) (c : Cursor) :
    Except Fault (CharSet × Cursor) := do
  let (first, c) ← readMember a c
  let c := c.skip
  if c.rest.isEmpty then throw (unclosedSet c frames)
  if c.rest.head? != some '-' || c.peek? == some ']' || c.peek? == some '-' then
    return (← first.set, c)
  let c := c.advance
  match c.rest with
  | [] => throw (unclosedSet c frames)
  | a :: _ =>
    let (last, c) ← readMember a c
    let span := ⟨first.span.start, last.span.stop⟩
    let first ← first.border
    let last ← last.border
    if last.char < first.char then throw { problem := .rangeBackward, span }
    return (.range span first last, c)

/-- Applies the operator that waits for its right side, if there is one. -/
def applyOperator (right : CharSet) : List SetFrame → CharSet × List SetFrame
  | .operator operator left :: frames =>
    (.operation ⟨left.span.start, right.span.stop⟩ operator left right, frames)
  | frames => (right, frames)

def setOperator? : Text → Option SetOperator
  | '&' :: '&' :: _ => some .intersection
  | '-' :: '-' :: _ => some .difference
  | '~' :: '~' :: _ => some .symmetricDifference
  | _ => none

/-- Reads on in a set until the bracket that closes the outermost one. Every step reads a character
at least, so where the steps have run out no character is left. -/
def readSetFrom : Nat → List SetFrame → Union → Cursor → Except Fault (CharSet × Cursor)
  | 0, frames, _, c => .error (unclosedSet c frames)
  | steps + 1, frames, u, c =>
    let c := c.skip
    match c.rest with
    | [] => .error (unclosedSet c frames)
    | '[' :: _ =>
      match asciiClass? c with
      | some (item, c) => readSetFrom steps frames (u.push item) c
      | none =>
        match openSet steps u c with
        | .error f => .error f
        | .ok (frame, u, c) => readSetFrom steps (frame :: frames) u c
    | ']' :: _ =>
      let (content, frames) := applyOperator u.close frames
      match frames with
      | .bracket outer span isNegated :: frames =>
        let set := .bracket ⟨span.start, c.bump.place⟩ isNegated content
        if frames.isEmpty then .ok (set, c.bump)
        else readSetFrom steps frames (outer.push set) c.bump
      | frames => .error (unclosedSet c frames)
    | a :: _ =>
      match setOperator? c.rest with
      | some operator =>
        let (left, frames) := applyOperator u.close frames
        let c := c.bump.bump
        readSetFrom steps (.operator operator left :: frames) (.begin c) c
      | none =>
        match readRange frames a c with
        | .error f => .error f
        | .ok (item, c) => readSetFrom steps frames (u.push item) c

/-- Reads the set whose bracket stands at the cursor; `steps` characters follow it at most. -/
def readSet (steps : Nat) (c : Cursor) : Except Fault (CharSet × Cursor) :=
  match openSet steps (.begin c) c with
  | .error f => .error f
  | .ok (frame, u, c) => readSetFrom steps [frame] u c

end MachineImage.Pattern
