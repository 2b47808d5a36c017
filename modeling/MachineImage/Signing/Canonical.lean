import MachineImage.Signing.Percent
import MachineImage.Text.Blank
import MachineImage.Text.Lowercase

/-!
The canonical form of a request: one text for all requests that a signature shall not tell apart.
-/
namespace MachineImage.Signing

/-- Texts in the order of their octets on the wire. -/
def notAfter (s t : Text) : Bool := decide (Utf8.encode s ≤ Utf8.encode t)

/-- A parameter without `=` is a key with an empty value. -/
def parameter (piece : Text) : Text × Text := (Text.cut (· == '=') piece).getD (piece, [])

/-- Parameters by key and then by value. -/
def parameterNotAfter (p q : Text × Text) : Bool :=
  if p.1 = q.1 then notAfter p.2 q.2 else notAfter p.1 q.1

/-- The parameters of an encoded query, sorted and otherwise as they are. -/
def canonicalQuery (query : Text) : Text :=
  let parameters := ((Text.split (· == '&') query).filter (· ≠ [])).map parameter
  ['&'].intercalate
    ((parameters.mergeSort parameterNotAfter).map fun p => p.1 ++ '=' :: p.2)

abbrev Header := Text × Text

/-- Header lines with lower-case names in order. -/
structure CanonicalHeaders where
  /-- `name:value` lines, with no end of line behind the last. -/
  lines : Text
  /-- The names. -/
  signed : Text
  deriving DecidableEq, Repr

/-- Names in lower case, values with no white space but single spaces inside. -/
def normalized (h : Header) : Header := (Text.lower h.1, Text.collapse (Text.trim h.2))

/-- Each name once, in order. -/
def headerNames (headers : List Header) : List Text :=
  (headers.map (·.1)).eraseDups.mergeSort notAfter

/-- The values of a name in the order of the request. -/
def headerValue (headers : List Header) (name : Text) : Text :=
  [','].intercalate ((headers.filter (·.1 == name)).map (·.2))

def canonicalHeaders (headers : List Header) : CanonicalHeaders :=
  let headers := headers.map normalized
  let names := headerNames headers
  ⟨['\n'].intercalate (names.map fun name => name ++ ':' :: headerValue headers name),
    [';'].intercalate names⟩

def canonicalRequest (method path query : Text) (headers : CanonicalHeaders)
    (payloadHash : Text) : Text :=
  method ++ '\n' :: Percent.encodePath path ++ '\n' :: canonicalQuery query ++
    '\n' :: headers.lines ++ '\n' :: '\n' :: headers.signed ++ '\n' :: payloadHash

end MachineImage.Signing
