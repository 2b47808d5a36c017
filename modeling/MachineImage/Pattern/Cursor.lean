import MachineImage.Pattern.Fault
import MachineImage.Text.Blank

/-!
Going through a pattern from place to place.
-/
namespace MachineImage.Pattern

/-- Where reading stands in a pattern. -/
structure Cursor where
  rest : Text
  place : Place
  /-- Whether blanks and comments are passed over. -/
  skipsBlanks : Bool

namespace Cursor

def ofPattern (pattern : Text) : Cursor := ⟨pattern, ⟨1, 1⟩, false⟩

/-- The cursor behind the next character, whatever that is. -/
def bump (c : Cursor) : Cursor :=
  match c.rest with
  | [] => c
  | a :: rest => { c with rest, place := c.place.after a }

def bumpTimes : Nat → Cursor → Cursor
  | 0, c => c
  | n + 1, c => bumpTimes n c.bump

/-- The longest run of such characters and the cursor behind it. -/
def bumpWhile (p : Char → Bool) (c : Cursor) : Text × Cursor :=
  let run := c.rest.takeWhile p
  (run, { c with rest := c.rest.dropWhile p, place := run.foldl Place.after c.place })

/-- Passes over blanks, and over comments from `#` to the end of the line. -/
def skipFrom (inComment : Bool) (place : Place) : Text → Text × Place
  | [] => ([], place)
  | a :: s =>
    if inComment then skipFrom (a != '\n') (place.after a) s
    else if Text.isBlank a then skipFrom false (place.after a) s
    else if a = '#' then skipFrom true (place.after a) s
    else (a :: s, place)

def skip (c : Cursor) : Cursor :=
  if c.skipsBlanks then
    let (rest, place) := skipFrom false c.place c.rest
    { c with rest, place }
  else c

def advance (c : Cursor) : Cursor := c.bump.skip

/-- Collects such characters behind `seen`, last first, for `count` characters at most. -/
def collectFrom (p : Char → Bool) (seen : Text) : Nat → Cursor → Text × Cursor
  | 0, c => (seen.reverse, c)
  | count + 1, c =>
    match c.rest with
    | [] => (seen.reverse, c)
    | a :: _ => if p a then collectFrom p (a :: seen) count c.advance else (seen.reverse, c)

/-- The run of such characters, what is passed over between them left out, and the cursor behind
the run. -/
def collect (p : Char → Bool) (c : Cursor) : Text × Cursor :=
  collectFrom p [] c.rest.length c

/-- The character behind the next one. Blanks and the mark of a comment are passed over, but not
the comment, and a pattern that ends there has its blanks still. -/
def peek? (c : Cursor) : Option Char :=
  let behind := c.rest.drop 1
  if c.skipsBlanks then
    let trimmed := behind.dropWhile Text.isBlank
    let trimmed :=
      match trimmed with
      | '#' :: comment => comment.dropWhile Text.isBlank
      | trimmed => trimmed
    match trimmed with
    | a :: _ => some a
    | [] => behind.head?
  else behind.head?

/-- From an earlier place to the cursor. -/
def since (c : Cursor) (start : Place) : Span := ⟨start, c.place⟩

/-- The place of the cursor, with nothing in it. -/
def spot (c : Cursor) : Span := c.since c.place

/-- The place of the next character. -/
def charSpan (c : Cursor) : Span := c.bump.since c.place

end Cursor

end MachineImage.Pattern
