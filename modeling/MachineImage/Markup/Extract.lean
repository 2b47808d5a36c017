import MachineImage.Text.Blank
import MachineImage.Markup.Reference
import MachineImage.Markup.Token

/-!
Finding elements in a document by their local name. What an element contains is given as the
characters between its tags; the reader stops at the first fault.
-/
namespace MachineImage.Markup

/-- Why a document does not give an element. -/
inductive ExtractError
  | malformed (fault : Fault)
  | unterminated (tag : Text)
  | undecodable (tag : Text) (fault : ReferenceFault)
  /-- An element's content would begin or end inside a character. -/
  | insideCharacter
  deriving DecidableEq, Repr

/-- A name ends at the first space. -/
def nameOf (content : Text) : Text := content.takeWhile fun c => !isSpace c

/-- What follows the first colon of a name, or all of it. -/
def localName (name : Text) : Text :=
  match Text.cut (· == ':') name with
  | some (_, after) => after
  | none => name

/-- The name in an end tag: all of it but spaces at its end, unless it is nothing but spaces. -/
def closingName (content : Text) : Text :=
  match content.reverse.dropWhile isSpace with
  | [] => content
  | trimmed => trimmed.reverse

/-- Where reading stands in a document. -/
structure Cursor where
  /-- What has been read, last character first. -/
  read : Text
  rest : Text
  /-- Whether the document began with a byte-order mark. -/
  isMarked : Bool
  /-- The names of the open elements, innermost first. -/
  opened : List Text

/-- The beginning of a document, behind its byte-order mark if it has one. -/
def Cursor.ofDocument (document : Text) : Cursor :=
  match document with
  | '\uFEFF' :: rest => ⟨['\uFEFF'], rest, true, []⟩
  | rest => ⟨[], rest, false, []⟩

/-- What an element gives whose content stands behind the cursor. Positions do not count a
byte-order mark, so in a document that has one the text is cut three octets early at both ends. -/
def Cursor.given? (c : Cursor) (content : Text) : Option Text :=
  if c.isMarked then
    (Text.slideBack 3 c.read content).bind fun s =>
      (Text.splitBytes [] s (Text.byteLength content)).map (·.1)
  else some content

inductive Event
  | start (name : Text)
  | empty (name : Text)
  | finish
  | other
  deriving DecidableEq, Repr

/-- The event that the next token makes, the token's characters and the cursor behind it, or
nothing at the end. -/
def Cursor.next? (c : Cursor) : Except Fault (Option (Event × Text × Cursor)) :=
  match scan c.rest with
  | .error f => .error f
  | .ok none => .ok none
  | .ok (some (token, rest)) =>
    let lexeme := token.lexeme
    let behind := { c with read := lexeme.reverseAux c.read, rest }
    match token with
    | .opening content =>
      if content.getLast? = some '/' then
        .ok (some (.empty (nameOf content.dropLast), lexeme, behind))
      else
        .ok (some (.start (nameOf content), lexeme,
          { behind with opened := nameOf content :: c.opened }))
    | .closing content =>
      match c.opened with
      | [] => .error (.unmatched (closingName content))
      | expected :: more =>
        if closingName content = expected then
          .ok (some (.finish, lexeme, { behind with opened := more }))
        else .error (.mismatched expected (closingName content))
    | _ => .ok (some (.other, lexeme, behind))

theorem Cursor.length_lt_of_next? {c c' : Cursor} {e : Event} {lexeme : Text}
    (h : c.next? = .ok (some (e, lexeme, c'))) : c'.rest.length < c.rest.length := by
  unfold Cursor.next? at h
  split at h
  · cases h
  · cases h
  · next token rest hs =>
    have hlt := length_lt_of_scan hs
    simp only at h
    split at h
    · split at h <;> cases h <;> exact hlt
    · split at h
      · cases h
      · split at h
        · cases h
          exact hlt
        · cases h
    · cases h
      exact hlt

/-- Reads on to the end tag that closes the element around `depth` further ones; gives the
element's content, of which `seen` is there already, last first, and the cursor behind the tag. -/
def Cursor.close (tag : Text) (depth : Nat) (seen : Text) (c : Cursor) :
    Except ExtractError (Text × Cursor) :=
  match _next : c.next? with
  | .error f => .error (.malformed f)
  | .ok none => .error (.unterminated tag)
  | .ok (some (.start _, lexeme, c')) => c'.close tag (depth + 1) (lexeme.reverseAux seen)
  | .ok (some (.finish, lexeme, c')) =>
    match depth with
    | 0 => .ok (seen.reverse, c')
    | depth + 1 => c'.close tag depth (lexeme.reverseAux seen)
  | .ok (some (_, lexeme, c')) => c'.close tag depth (lexeme.reverseAux seen)
termination_by c.rest.length
decreasing_by all_goals exact Cursor.length_lt_of_next? _next

theorem Cursor.length_lt_of_close {tag seen content : Text} {depth : Nat} {c c' : Cursor}
    (h : c.close tag depth seen = .ok (content, c')) : c'.rest.length < c.rest.length := by
  fun_induction Cursor.close tag depth seen c with
  | case1 => cases h
  | case2 => cases h
  | case3 _ _ _ _ _ _ hn ih => exact Nat.lt_trans (ih h) (length_lt_of_next? hn)
  | case4 _ _ _ _ hn =>
    cases h
    exact length_lt_of_next? hn
  | case5 _ _ _ _ hn _ ih => exact Nat.lt_trans (ih h) (length_lt_of_next? hn)
  | case6 _ _ _ _ _ _ _ _ hn ih => exact Nat.lt_trans (ih h) (length_lt_of_next? hn)

/-- The content of the next element with that local name and the cursor behind the element, or
nothing if no such element follows. -/
def Cursor.find? (tag : Text) (c : Cursor) : Except ExtractError (Option (Text × Cursor)) :=
  match _next : c.next? with
  | .error f => .error (.malformed f)
  | .ok none => .ok none
  | .ok (some (.start name, _, c')) =>
    if localName name = tag then
      match c'.close tag 0 [] with
      | .error e => .error e
      | .ok (content, behind) =>
        match c'.given? content with
        | none => .error .insideCharacter
        | some content => .ok (some (content, behind))
    else c'.find? tag
  | .ok (some (.empty name, _, c')) =>
    if localName name = tag then .ok (some ([], c')) else c'.find? tag
  | .ok (some (_, _, c')) => c'.find? tag
termination_by c.rest.length
decreasing_by all_goals exact Cursor.length_lt_of_next? _next

theorem Cursor.length_lt_of_find? {tag content : Text} {c c' : Cursor}
    (h : c.find? tag = .ok (some (content, c'))) : c'.rest.length < c.rest.length := by
  fun_induction Cursor.find? tag c with
  | case1 => cases h
  | case2 => cases h
  | case3 => cases h
  | case4 => cases h
  | case5 _ _ _ _ hn _ _ _ hc =>
    cases h
    exact Nat.lt_trans (length_lt_of_close hc) (length_lt_of_next? hn)
  | case6 _ _ _ _ hn _ ih => exact Nat.lt_trans (ih h) (length_lt_of_next? hn)
  | case7 _ _ _ _ hn =>
    cases h
    exact length_lt_of_next? hn
  | case8 _ _ _ _ hn _ ih => exact Nat.lt_trans (ih h) (length_lt_of_next? hn)
  | case9 _ _ _ _ _ _ hn ih => exact Nat.lt_trans (ih h) (length_lt_of_next? hn)

/-- The contents of the elements with that local name from the cursor on, those inside another
such element apart, behind the ones in `seen`, which stand last first. -/
def Cursor.findAll (tag : Text) (seen : List Text) (c : Cursor) : Except ExtractError (List Text) :=
  match _found : c.find? tag with
  | .error e => .error e
  | .ok none => .ok seen.reverse
  | .ok (some (content, c')) => c'.findAll tag (content :: seen)
termination_by c.rest.length
decreasing_by exact Cursor.length_lt_of_find? _found

def extractAll (body tag : Text) : Except ExtractError (List Text) :=
  (Cursor.ofDocument body).findAll tag []

def extractFirst (body tag : Text) : Except ExtractError (Option Text) :=
  ((Cursor.ofDocument body).find? tag).map (·.map (·.1))

/-- The content of the first such element, without white space at its ends and with its
references resolved; tags inside it are left as they are. -/
def extractText (body tag : Text) : Except ExtractError (Option Text) :=
  match extractFirst body tag with
  | .error e => .error e
  | .ok none => .ok none
  | .ok (some raw) =>
    match unescape (Text.trim raw) with
    | .error f => .error (.undecodable tag f)
    | .ok text => .ok (some text)

/-- Whether the element with that bare tag and value stands in the body, letter for letter. -/
def containsElement (body tag value : Text) : Bool :=
  Text.includes ('<' :: tag ++ '>' :: value ++ '<' :: '/' :: tag ++ ['>']) body

end MachineImage.Markup
