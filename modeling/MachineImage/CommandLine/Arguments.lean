import MachineImage.Announcement

/-!
The arguments of the command line. Flags may stand before, between and behind the positional
arguments, of which there are six, or nine with an announcement.
-/
namespace MachineImage

inductive Flag
  | isPublic
  | publicSnapshot
  | sriov
  | ena
  | arm
  deriving DecidableEq, Repr

structure Arguments where
  /-- The path of the disk image. -/
  image : Text
  name : Text
  description : Text
  region : Text
  bucket : Text
  /-- The path of the key file. -/
  keyFile : Text
  announcement : Option Announcement
  flags : List Flag
  deriving DecidableEq

namespace Arguments

/-- The job that the arguments ask for, with what the path of its image leads to. -/
def job (a : Arguments) (found : Found) : ImageJob where
  home := ⟨a.region⟩
  bucket := a.bucket
  image := ⟨a.image, found⟩
  spec := {
    name := a.name
    description := a.description
    architecture := if .arm ∈ a.flags then .arm else .x86
    sriov := .sriov ∈ a.flags
    ena := .ena ∈ a.flags }
  isPublic := .isPublic ∈ a.flags
  hasPublicSnapshot := .publicSnapshot ∈ a.flags

/-- Only public images are announced. -/
def announcement? (a : Arguments) : Option Announcement :=
  if .isPublic ∈ a.flags then a.announcement else none

end Arguments

namespace CommandLine

/-- Why arguments are not carried out. -/
inductive Stop
  | askedForHelp
  | askedForVersion
  | missingArgument
  | unknownArgument
  | repeatedFlag
  | flagWithValue
  | emptyPath
  deriving DecidableEq, Repr

/-- What an argument with a hyphen can turn on. -/
inductive Switch
  | flag (f : Flag)
  | help
  | version
  deriving DecidableEq, Repr

def Switch.ofName? (name : Text) : Option Switch :=
  [("public", .flag .isPublic), ("publicsnap", .flag .publicSnapshot), ("sriov", .flag .sriov),
    ("ena", .flag .ena), ("arm64", .flag .arm), ("help", help), ("version", version)].lookup
    (String.ofList name)

def Switch.ofLetter? : Char → Option Switch
  | 'h' => some .help
  | 'V' => some .version
  | _ => none

/-- What an argument is by itself. -/
inductive Token
  /-- All behind it is positional. -/
  | separator
  | switch (s : Switch)
  | positional (value : Text)
  | refused (why : Stop)
  deriving DecidableEq, Repr

def Token.ofSwitch? : Option Switch → Token
  | some s => .switch s
  | none => .refused .unknownArgument

/-- A single hyphen is positional. No flag takes a value, and of letters behind one hyphen the
first one counts. -/
def Token.ofArgument (argument : Text) : Token :=
  match argument with
  | ['-', '-'] => .separator
  | '-' :: '-' :: name =>
    match Text.cut (· == '=') name with
    | none => ofSwitch? (Switch.ofName? name)
    | some (name, _) =>
      .refused (if (Switch.ofName? name).isSome then .flagWithValue else .unknownArgument)
  | '-' :: letter :: _ => ofSwitch? (Switch.ofLetter? letter)
  | value => .positional value

/-- What was read so far. -/
structure Reading where
  positionals : List Text := []
  flags : List Flag := []
  deriving DecidableEq, Repr

namespace Reading

/-- The first and the sixth positional argument are paths, and a path is not empty. A path is looked
at when the next argument that is known comes, or none. -/
def settle (r : Reading) : Except Stop Unit :=
  if r.positionals.getLast? = some [] ∧ (r.positionals.length = 1 ∨ r.positionals.length = 6) then
    .error .emptyPath
  else .ok ()

def addPositional (r : Reading) (value : Text) : Except Stop Reading := do
  if r.positionals.length = 9 then throw .unknownArgument
  r.settle
  return { r with positionals := r.positionals ++ [value] }

def addSwitch (r : Reading) (s : Switch) : Except Stop Reading := do
  r.settle
  match s with
  | .help => throw .askedForHelp
  | .version => throw .askedForVersion
  | .flag f =>
    if f ∈ r.flags then throw .repeatedFlag
    return { r with flags := r.flags ++ [f] }

/-- Reads arguments in order. -/
def addAll (r : Reading) : List Text → Except Stop Reading
  | [] => .ok r
  | argument :: arguments =>
    match Token.ofArgument argument with
    | .separator => arguments.foldlM addPositional r
    | .switch s => do (← r.addSwitch s).addAll arguments
    | .positional value => do (← r.addPositional value).addAll arguments
    | .refused why => .error why

def finish (r : Reading) : Except Stop Arguments := do
  r.settle
  match r.positionals with
  | [image, name, description, region, bucket, keyFile] =>
    return ⟨image, name, description, region, bucket, keyFile, none, r.flags⟩
  | [image, name, description, region, bucket, keyFile, topic, release, imageVersion] =>
    return ⟨image, name, description, region, bucket, keyFile, some ⟨topic, release, imageVersion⟩,
      r.flags⟩
  | _ => throw .missingArgument

end Reading

/-- Reads the arguments of a command line, without the name of the program. -/
def parse (arguments : List Text) : Except Stop Arguments := do
  (← ({} : Reading).addAll arguments).finish

end CommandLine

end MachineImage
