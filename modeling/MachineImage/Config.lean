import MachineImage.Duration
import MachineImage.Json.Reader
import MachineImage.Text.Utf8

/-!
The settings of a run, from the environment or from JSON.
-/
namespace MachineImage

structure Config where
  /-- Octets in every part but the last. -/
  partSize : Nat := 10485760
  /-- Seconds between two polls. -/
  pollIntervalSeconds : Nat := 10
  /-- Attempts at a call that may be repeated. -/
  maxAttempts : Nat := 10
  /-- Seconds for one exchange. -/
  ioTimeoutSeconds : Nat := 60
  /-- A filter for the log. -/
  logLevel : Text := "info".toList
  deriving DecidableEq

/-- The value of each variable that is set. -/
abbrev Environment := Text → Option Octets

/-- A variable counts as set only if it is text. -/
def Environment.text? (env : Environment) (name : String) : Option Text :=
  (env name.toList).bind Utf8.decode?

namespace Config

def pollInterval (c : Config) : Duration := .ofSeconds c.pollIntervalSeconds

def ioTimeout (c : Config) : Duration := .ofSeconds c.ioTimeoutSeconds

/-- The positive number below `bound` that a variable holds. -/
def positive? (env : Environment) (bound : Nat) (name : String) : Option Nat :=
  ((env.text? name).bind (Decimal.readBelow? bound)).filter (0 < ·)

/-- What holds where nothing is set. -/
def standard : Config := {}

/-- Each setting from its variable, or the standard one where that holds none. -/
def ofEnvironment (env : Environment) : Config where
  partSize := (positive? env UInt64.size "AMIFORGE_PART_SIZE").getD standard.partSize
  pollIntervalSeconds :=
    (positive? env UInt64.size "AMIFORGE_POLL_INTERVAL_SECS").getD standard.pollIntervalSeconds
  maxAttempts := (positive? env UInt32.size "AMIFORGE_MAX_ATTEMPTS").getD standard.maxAttempts
  ioTimeoutSeconds :=
    (positive? env UInt64.size "AMIFORGE_IO_TIMEOUT_SECS").getD standard.ioTimeoutSeconds
  logLevel := (env.text? "LOG_LEVEL").getD standard.logLevel

def toJson (c : Config) : Json :=
  .ofMembers [
    ("partSize".toList, .ofNat c.partSize),
    ("pollIntervalSecs".toList, .ofNat c.pollIntervalSeconds),
    ("maxAttempts".toList, .ofNat c.maxAttempts),
    ("ioTimeoutSecs".toList, .ofNat c.ioTimeoutSeconds),
    ("logLevel".toList, .ofText c.logLevel)]

/-- The settings from their five values in order. -/
def ofValues? (partSize poll attempts timeout level : Json) : Option Config := do
  return {
    partSize := ← partSize.natural? UInt64.size
    pollIntervalSeconds := ← poll.natural? UInt64.size
    maxAttempts := ← attempts.natural? UInt32.size
    ioTimeoutSeconds := ← timeout.natural? UInt64.size
    logLevel := ← level.text? }

/-- The value of the one member with that key. -/
def member? (members : List (Text × Json)) (key : String) : Option Json :=
  match members.filter (·.1 == key.toList) with
  | [(_, value)] => some value
  | _ => none

/-- All five settings, as an object with other members beside them or as an array in order. -/
def ofJson? : Json → Option Config
  | .array [partSize, poll, attempts, timeout, level] =>
    ofValues? partSize poll attempts timeout level
  | .object members => do
    let members ← members.mapM fun m => return (← Json.unescape? m.1, m.2)
    ofValues? (← member? members "partSize") (← member? members "pollIntervalSecs")
      (← member? members "maxAttempts") (← member? members "ioTimeoutSecs")
      (← member? members "logLevel")
  | _ => none

end Config

end MachineImage
