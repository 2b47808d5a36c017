import MachineImage.File
import MachineImage.Text.Utf8
import MachineImage.Text.Quoted

/-!
Access keys and the key file that holds them.
-/
namespace MachineImage

structure Credentials where
  keyId : Text
  secret : Text
  deriving DecidableEq

/-- The text for diagnostics, which tells nothing of the secret. -/
def Credentials.diagnostic (c : Credentials) : Text :=
  "Credentials \x7b access_key_id: ".toList ++ Text.quote c.keyId ++
    ", secret_access_key: \"<redacted>\" \x7d".toList

namespace KeyFile

/-- The two lines of a key file. -/
inductive Name
  | id
  | secret
  deriving DecidableEq, Repr

def Name.text : Name → Text
  | .id => "ACCESS_KEY_ID".toList
  | .secret => "ACCESS_KEY_SECRET".toList

/-- Why the contents of a key file are refused. -/
inductive FormatError
  | missingLineEnd
  | badLine
  | repeated (name : Name)
  | incomplete
  deriving DecidableEq, Repr

/-- Why no credentials come from a key file. -/
inductive Error
  | unreadable (path : Text) (fault : FileFault)
  | format (why : FormatError)
  deriving DecidableEq, Repr

def FormatError.message : FormatError → Text
  | .missingLineEnd => "missing EOL".toList
  | .badLine => "lines must be ACCESS_KEY_ID=... or ACCESS_KEY_SECRET=...".toList
  | .repeated name => name.text ++ " specified twice".toList
  | .incomplete => "need ACCESS_KEY_ID and ACCESS_KEY_SECRET".toList

def Error.message : Error → Text
  | .unreadable path fault => "cannot read key file ".toList ++ path ++ ": ".toList ++ fault.message
  | .format why => "invalid key file: ".toList ++ why.message

def isLineEnd (c : Char) : Bool := c == '\r' || c == '\n'

/-- The first line and what follows its end, which is `\r\n`, `\r` or `\n`. -/
def line? (s : Text) : Option (Text × Text) :=
  match s.dropWhile fun c => !isLineEnd c with
  | [] => none
  | '\r' :: '\n' :: rest => some (s.takeWhile fun c => !isLineEnd c, rest)
  | _ :: rest => some (s.takeWhile fun c => !isLineEnd c, rest)

theorem length_lt_of_line? {s line rest : Text} (h : line? s = some (line, rest)) :
    rest.length < s.length := by
  have hs := (List.dropWhile_suffix (l := s) fun c => !isLineEnd c).length_le
  unfold line? at h
  split at h
  · cases h
  · next hd =>
    cases h
    rw [hd] at hs
    simp at hs
    omega
  · next hd =>
    cases h
    rw [hd] at hs
    simp at hs
    omega

/-- The name and the value of a line, cut at its first `=`. -/
def entry (line : Text) : Except FormatError (Name × Text) :=
  match Text.cut (· == '=') line with
  | none => .error .badLine
  | some (name, value) =>
    if name = Name.id.text then .ok (.id, value)
    else if name = Name.secret.text then .ok (.secret, value)
    else .error .badLine

/-- Reads the lines on from what is known of the two values. -/
def parseFrom (id secret : Option Text) (s : Text) : Except FormatError Credentials :=
  if s = [] then
    match id, secret with
    | some id, some secret =>
      if id ≠ [] ∧ secret ≠ [] then .ok ⟨id, secret⟩ else .error .incomplete
    | _, _ => .error .incomplete
  else
    match _line : line? s with
    | none => .error .missingLineEnd
    | some (line, rest) =>
      match entry line with
      | .error e => .error e
      | .ok (.id, value) =>
        if id.isSome then .error (.repeated .id) else parseFrom (some value) secret rest
      | .ok (.secret, value) =>
        if secret.isSome then .error (.repeated .secret) else parseFrom id (some value) rest
termination_by s.length
decreasing_by all_goals exact length_lt_of_line? _line

/-- The credentials in the contents of a key file. -/
def parse (s : Text) : Except FormatError Credentials := parseFrom none none s

/-- The credentials in a key file. -/
def load (file : File) : Except Error Credentials :=
  match file.read with
  | .error fault => .error (.unreadable file.path fault)
  | .ok octets =>
    match Utf8.decode? octets with
    | none => .error (.unreadable file.path .notUtf8)
    | some s => (parse s).mapError .format

end KeyFile

end MachineImage
