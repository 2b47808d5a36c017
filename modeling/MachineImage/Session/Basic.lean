import MachineImage.Instant
import MachineImage.Progress
import MachineImage.Region
import MachineImage.Wire.Form
import MachineImage.Wire.Response

/-!
A session with the services, as a value: the clock and the replies it will meet, and the log of
what was exchanged, shown and waited for. An action maps a session to an outcome and the session
after it, so that a run is a function of the clock and the replies alone.
-/
namespace MachineImage

/-- What comes back for a request. -/
inductive Reply
  | response (octets : Octets)
  | broken (cause : Text)
  | timedOut (limit : Duration)
  | untrusted (problem : Text)
  /-- A response that goes on beyond the limit for one. -/
  | tooLarge
  deriving DecidableEq, Repr

/-- What a request to the host gets of a reply. -/
def Reply.received (host : Text) : Reply → Except ExchangeError Octets
  | .response octets => .ok octets
  | .broken cause => .error (.transport host cause)
  | .timedOut limit => .error (.timeout host limit)
  | .untrusted problem => .error (.tls host problem)
  | .tooLarge => .error (.tooLarge Wire.responseLimit)

/-- What a request asks for. -/
inductive Order
  /-- Store the body under a path of a bucket. -/
  | put (region : Region) (bucket path : Text) (body : Octets)
  | call (service : Service) (region : Region) (form : Form)
  deriving DecidableEq

/-- A request as it goes out, and the order it was made for. -/
structure Request where
  order : Order
  host : Text
  octets : Octets
  deriving DecidableEq

/-- Every connection is made to this number of its host. -/
def httpsNumber : Nat := 443

inductive Event
  /-- A request went out, and this came back. -/
  | exchanged (request : Request) (reply : Reply)
  | shown (text : Text)
  /-- Seconds between two polls. -/
  | slept (seconds : Nat)
  deriving DecidableEq

structure Session where
  /-- The time at each reading of the clock. -/
  clock : Nat → Instant
  /-- How often the clock was read. -/
  readings : Nat := 0
  /-- What the next requests will get. -/
  replies : List Reply
  progress : Progress := {}
  /-- Last event first. -/
  log : List Event := []

/-- The reply of a session that has no more replies; it is no success. -/
def exhausted : Octets := Utf8.encode "HTTP/1.1 599 Script Exhausted\r\n\r\n".toList

abbrev Action (ε α : Type) := ExceptT ε (StateM Session) α

namespace Action

variable {ε δ α β : Type}

/-- The outcome and the session after it. -/
def outcome (a : Action ε α) (s : Session) : Except ε α × Session := a.run.run s

/-- An outcome that needs nothing of the session. -/
def ofExcept (e : Except ε α) : Action ε α := ExceptT.mk (pure e)

/-- Another account of the same failures. -/
def adapt (f : ε → δ) (a : Action ε α) : Action δ α := ExceptT.adapt f a

def record (e : Event) : Action ε Unit :=
  modify fun s => { s with log := e :: s.log }

/-- The time now. -/
def readClock : Action ε Instant :=
  modifyGet fun s => (s.clock s.readings, { s with readings := s.readings + 1 })

def takeReply : Action ε Reply :=
  modifyGet fun s => match s.replies with
    | [] => (.response exhausted, s)
    | reply :: replies => (reply, { s with replies })

/-- Sends a request and waits for what comes back. -/
def send (request : Request) : Action ExchangeError Octets := do
  let reply ← takeReply
  record (.exchanged request reply)
  ofExcept (reply.received request.host)

def write (text : Text) : Action ε Unit := record (.shown text)

def dot : Action ε Unit := write ['.']

/-- Ends a step of the progress report. -/
def done : Action ε Unit := do
  modify fun s => { s with progress := s.progress.done }
  write Progress.doneText

/-- Reports the status of something remote. -/
def status (heading text : Text) : Action ε Unit := do
  let progress := (← get).progress
  modify fun s => { s with progress := progress.report text }
  write (progress.statusText heading text)

def sleep (seconds : Nat) : Action ε Unit := record (.slept seconds)

end Action

end MachineImage
