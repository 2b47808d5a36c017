import MachineImage.Pattern.Check

/-!
Filters for the log: directives between commas, such as `info`, `net=debug` or
`[span{field=pattern}]=trace`. Here a filter is only checked.
-/
namespace MachineImage.LogFilter

inductive DirectiveError
  | badForm
  | badLevel
  | badPattern (why : Pattern.Refusal)
  deriving DecidableEq, Repr

namespace DirectiveError

def message : DirectiveError → Text
  | .badForm => "invalid filter directive".toList
  | .badLevel =>
    ("error parsing level filter: expected one of \"off\", \"error\", \"warn\", \"info\", " ++
      "\"debug\", \"trace\", or a number 0-5").toList
  | .badPattern why => "invalid field filter: ".toList ++ why.message

/-- The error and what it comes from; a bad level and a bad pattern are errors of their own. -/
def causes (e : DirectiveError) : List Text :=
  match e with
  | .badForm => [e.message]
  | .badLevel => [e.message, e.message]
  | .badPattern why => e.message :: why.causes

end DirectiveError

def levelNames : List Text :=
  ["off", "error", "warn", "info", "debug", "trace"].map (·.toList)

/-- The name of a level in any case, a number up to five, or nothing. -/
def isLevel (s : Text) : Bool :=
  s.isEmpty || levelNames.contains (s.map Char.toLower) || (Decimal.readBelow? 6 s).isSome

/-- Whether the text is a number: infinite, none, or digits with a point among them or at one of
their ends and an exponent behind them. -/
def isNumber (s : Text) : Bool :=
  let unsigned := fun s : Text => if s.head? = some '+' ∨ s.head? = some '-' then s.drop 1 else s
  let body := unsigned s
  let whole := body.takeWhile Char.isDigit
  let rest := body.dropWhile Char.isDigit
  let (fraction, rest) :=
    match rest with
    | '.' :: rest => (rest.takeWhile Char.isDigit, rest.dropWhile Char.isDigit)
    | rest => ([], rest)
  ["inf", "infinity", "nan"].any (fun word => word.toList = body.map Char.toLower) ||
    !(whole ++ fraction).isEmpty &&
      match rest with
      | [] => true
      | e :: exponent =>
        (e == 'e' || e == 'E') && !(unsigned exponent).isEmpty &&
          (unsigned exponent).all Char.isDigit

/-- Checks the value of a field: a truth value, a number or a pattern. -/
def checkValue (value : Text) : Except DirectiveError Unit :=
  if value = "true".toList ∨ value = "false".toList ∨ isNumber value then .ok ()
  else (Pattern.check value).mapError .badPattern

/-- Checks a field, which is a name and perhaps a value behind an equals sign. What follows another
such sign does not count. -/
def checkField (field : Text) : Except DirectiveError Unit :=
  if field.isEmpty then .error .badForm
  else match Text.split (· == '=') field with
    | _ :: value :: _ => checkValue value
    | _ => .ok ()

/-- Where in a directive a reader is. -/
inductive Place
  | start
  /-- In a first word, which is a target or a level. -/
  | word
  | span
  /-- In the fields, which began after that many octets. -/
  | fields (start : Nat)
  /-- Behind the braces around the fields. -/
  | braces
  /-- Behind the brackets around a span. -/
  | target
  /-- In the level, which began after that many octets. -/
  | level (start : Nat)
  deriving DecidableEq, Repr

def startsWord (c : Char) : Bool := c == '-' || c == ':' || c == '_' || Text.isAlphanumeric c

/-- Reads the character that stands behind `position` octets. Fields are what stands at the same
distances from the beginning of the whole `piece`. -/
def next (piece : Text) (place : Place) (position : Nat) (c : Char) :
    Except DirectiveError Place :=
  match place with
  | .start =>
    if c = '[' then .ok .span else if startsWord c then .ok .word else .error .badForm
  | .word =>
    .ok (if c = '=' then .level (position + 1) else if c = '[' then .span else .word)
  | .span =>
    .ok (if c = ']' then .target else if c = '\x7b' then .fields (position + 1) else .span)
  | .fields start =>
    if c = '\x7d' then
      (checkField ((Text.sliceBytes piece start position).getD [])).map fun _ => .braces
    else .ok (.fields start)
  | .braces => if c = ']' then .ok .target else .error .badForm
  | .target => if c = '=' then .ok (.level (position + 1)) else .error .badForm
  | .level start => .ok (.level start)

/-- The place behind the text. -/
def readFrom (piece : Text) (place : Place) (position : Nat) :
    Text → Except DirectiveError Place
  | [] => .ok place
  | c :: s =>
    match next piece place position c with
    | .error e => .error e
    | .ok place => readFrom piece place (position + c.utf8Size) s

/-- Checks one directive. White space around it is left out when it is read, but its level is what
stands at the same distance from the beginning of the whole piece, up to its end. -/
def checkDirective (piece : Text) : Except DirectiveError Unit :=
  match readFrom piece .start 0 (Text.trim piece) with
  | .error e => .error e
  | .ok .word => .ok ()
  | .ok .target => .ok ()
  | .ok (.level start) =>
    match Text.splitBytes [] piece start with
    | some (_, level) => if isLevel level then .ok () else .error .badLevel
    | none => .error .badLevel
  | .ok _ => .error .badForm

/-- The directives of a filter; what is empty is none. -/
def directives (filter : Text) : List Text :=
  (Text.split (· == ',') filter).filter fun piece => !piece.isEmpty

/-- Checks a filter that must be valid. -/
def check (filter : Text) : Except DirectiveError Unit :=
  (directives filter).forM checkDirective

/-- The lines that tell which directives of a filter are left out, and why. -/
def warnings (filter : Text) : Text :=
  (directives filter).flatMap fun piece =>
    match checkDirective piece with
    | .ok () => []
    | .error e => "ignoring `".toList ++ piece ++ "`: ".toList ++ e.message ++ ['\n']

end MachineImage.LogFilter
