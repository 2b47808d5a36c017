import MachineImage.CommandLine.Arguments
import MachineImage.Config
import MachineImage.LogFilter

/-!
The beginning of the program: from arguments, environment and key file to all that a run needs, or
to the end of the program.
-/
namespace MachineImage.CommandLine

def programName : Text := "amiforge".toList

def programVersion : Text := "0.3.0".toList

/-- What the manifests of this program name as their maker. -/
def maker : Importer := ⟨programName, programVersion, "2026-10-16".toList⟩

def versionText : Text := programName ++ ' ' :: programVersion ++ ['\n']

def usageText : Text :=
  ("Upload a raw disk image and publish it as an EC2 machine image\n\n" ++
    "Usage: amiforge [--public] [--publicsnap] [--sriov] [--ena] [--arm64]\n" ++
    "    <disk image> <name> <description> <region> <bucket> <key file>\n" ++
    "    [<topic arn> <release version> <image version>]\n").toList

namespace Stop

/-- A success is what was asked for. -/
def isSuccess (s : Stop) : Bool := s = .askedForHelp || s = .askedForVersion

def text : Stop → Text
  | .askedForHelp => usageText
  | .askedForVersion => versionText
  | .missingArgument => "error: an argument is missing\n".toList
  | .unknownArgument => "error: unknown argument\n".toList
  | .repeatedFlag => "error: a flag is given twice\n".toList
  | .flagWithValue => "error: a flag takes no value\n".toList
  | .emptyPath => "error: a path is empty\n".toList

end Stop

/-- How the program ends, and what it leaves on its two outputs. -/
structure Ending where
  code : Nat
  stdout : Text
  stderr : Text
  deriving DecidableEq, Repr

/-- The code of a failure is one. -/
def Ending.ofStop (s : Stop) : Ending :=
  if s.isSuccess then ⟨0, s.text, []⟩ else ⟨1, [], s.text⟩

/-- A text whose further lines are indented like its first. -/
def indented (indent : Nat) (s : Text) : Text :=
  s.flatMap fun c => if c = '\n' then '\n' :: List.replicate indent ' ' else [c]

/-- One cause of several, under its number. -/
def numberedCause (number : Nat) (cause : Text) : Text :=
  '\n' :: List.replicate (5 - (Decimal.digits number).length) ' ' ++ Decimal.digits number ++
    ": ".toList ++ indented 7 cause

/-- What was attempted, and the causes of the failure from the nearest to the first. Causes are
numbered where there is more than one. -/
def complaint (attempt : Text) (causes : List Text) : Text :=
  "Error: ".toList ++ attempt ++
    (match causes with
      | [] => []
      | [cause] => "\n\nCaused by:\n    ".toList ++ indented 4 cause
      | causes => "\n\nCaused by:".toList ++ (causes.mapIdx numberedCause).flatten) ++
    ['\n']

/-- An unreadable file has a cause of its own. -/
def keyCauses (e : KeyFile.Error) : List Text :=
  match e with
  | .unreadable _ fault => [e.message, fault.message]
  | .format _ => [e.message]

/-- What a run needs. -/
structure Plan where
  arguments : Arguments
  config : Config
  credentials : Credentials
  /-- What is to be shown before the run. -/
  warnings : Text
  deriving DecidableEq

/-- The lines about the filter for the log, which has a variable that wins over the settings. Only
the filter of the settings must be valid as a whole. -/
def filterWarnings (env : Environment) (config : Config) : Except Text Text :=
  match env.text? "RUST_LOG" with
  | some filter => .ok (LogFilter.warnings filter)
  | none =>
    match LogFilter.check config.logLevel with
    | .ok () => .ok []
    | .error e =>
      .error (complaint ("invalid log level filter: ".toList ++ config.logLevel) e.causes)

/-- Makes the plan of a run; `find` tells what a path leads to. -/
def start (arguments : List Text) (env : Environment) (find : Text → Found) :
    Except Ending Plan :=
  match parse arguments with
  | .error s => .error (.ofStop s)
  | .ok arguments =>
    let config := Config.ofEnvironment env
    match filterWarnings env config with
    | .error complaint => .error ⟨1, [], complaint⟩
    | .ok warnings =>
      match KeyFile.load ⟨arguments.keyFile, find arguments.keyFile⟩ with
      | .error e =>
        .error ⟨1, [], warnings ++ complaint "cannot read AWS keys".toList (keyCauses e)⟩
      | .ok credentials => .ok ⟨arguments, config, credentials, warnings⟩

end MachineImage.CommandLine
