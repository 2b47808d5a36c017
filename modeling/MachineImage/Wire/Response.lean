import MachineImage.Text.Utf8
import MachineImage.Wire.Error

/-!
Responses: reading one to the end of its connection, and what makes one valid.
-/
namespace MachineImage.Wire

/-- What one read from a connection yields. -/
inductive Read
  /-- No octets are the end of the connection. -/
  | octets (b : Octets)
  /-- A failure, perhaps for an end that was not announced. -/
  | failed (atEnd : Bool) (cause : Text)
  deriving DecidableEq, Repr

/-- The limit for the responses of the services. -/
def responseLimit : Nat := 1024 * 1024

/-- Reads on behind the pieces `seen`, last first, which have `count` octets together. An
unannounced end is an end once there are octets. -/
def readFrom (host : Text) (limit count : Nat) (seen : List Octets) :
    List Read → Except ExchangeError Octets
  | [] => .ok seen.reverse.flatten
  | .octets [] :: _ => .ok seen.reverse.flatten
  | .octets b :: reads =>
    if limit < count + b.length then .error (.tooLarge limit)
    else readFrom host limit (count + b.length) (b :: seen) reads
  | .failed atEnd cause :: _ =>
    if atEnd ∧ count ≠ 0 then .ok seen.reverse.flatten else .error (.transport host cause)

def readResponse (host : Text) (limit : Nat) (reads : List Read) : Except ExchangeError Octets :=
  readFrom host limit 0 [] reads

/-- The first line, without its end. -/
def statusLine (response : Octets) : Octets := response.takeWhile fun o => o != 0x0D && o != 0x0A

/-- The code 200 between two spaces. -/
def accepted : Octets := Utf8.encode " 200 ".toList

def isAccepted (response : Octets) : Bool := Text.includes accepted (statusLine response)

def checkStatus (response : Octets) : Except ExchangeError Unit :=
  if isAccepted response then .ok ()
  else .error (.badStatus (Utf8.decodeLossy (statusLine response)) (Utf8.decodeLossy response))

/-- The empty line behind the headers, with the end of the last of them. -/
def separator : Octets := [0x0D, 0x0A, 0x0D, 0x0A]

/-- The body of a valid response. -/
def apiBody (response : Octets) : Except ExchangeError Text :=
  if response.contains 0 then .error .nulInResponse
  else match checkStatus response with
    | .error e => .error e
    | .ok () =>
      match Text.breakAfter separator [] response with
      | none => .error (.missingSeparator (Utf8.decodeLossy response))
      | some (_, body) =>
        match Utf8.decode? body with
        | none => .error .notUtf8
        | some body => .ok body

end MachineImage.Wire
