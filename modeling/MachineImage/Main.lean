import MachineImage.CommandLine.Startup
import MachineImage.Text.Utf8

/-!
The program. What it needs of the system is read here; what follows from that is decided elsewhere.
This build has no secure transport, so a run ends where its first connection would be made.
-/
namespace MachineImage.CommandLine

/-- The names of the variables that matter. -/
def variableNames : List String :=
  ["AMIFORGE_PART_SIZE", "AMIFORGE_POLL_INTERVAL_SECS", "AMIFORGE_MAX_ATTEMPTS",
    "AMIFORGE_IO_TIMEOUT_SECS", "LOG_LEVEL", "RUST_LOG"]

def readEnvironment : IO Environment := do
  let values ← variableNames.mapM fun name => return (name.toList, ← IO.getEnv name)
  return fun name => (values.lookup name).join.map fun value => Utf8.encode value.toList

/-- What a path led to that could not be read. -/
def foundOfError : IO.Error → Found
  | .noFileOrDirectory .. => .nothing .missing
  | .inappropriateType _ code _ => if code = 21 then .directory else .nothing .notDirectory
  | .invalidArgument .. => .nothing .nameTooLong
  | e => .nothing (.other (toString e).toList)

/-- What the path of the key file leads to, if the arguments name one. -/
def findKeyFile (arguments : List Text) : IO Found := do
  match parse arguments with
  | .error _ => return .nothing .missing
  | .ok a =>
    try
      return .contents (← IO.FS.readBinFile (String.ofList a.keyFile)).toList
    catch e => return foundOfError e

def runProgram (arguments : List Text) : IO Ending := do
  let environment ← readEnvironment
  let keyFile ← findKeyFile arguments
  match start arguments environment fun _ => keyFile with
  | .error ending => return ending
  | .ok plan =>
    return ⟨1, [], plan.warnings ++
      complaint "cannot set up TLS".toList ["no secure transport in this build".toList]⟩

end MachineImage.CommandLine

def main (arguments : List String) : IO UInt32 := do
  let ending ← MachineImage.CommandLine.runProgram (arguments.map (·.toList))
  IO.print (String.ofList ending.stdout)
  IO.eprint (String.ofList ending.stderr)
  return ending.code.toUInt32
