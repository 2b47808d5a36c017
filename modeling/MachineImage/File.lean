import MachineImage.Text.Basic

/-!
Files that a run reads.
-/
namespace MachineImage

/-- Why nothing can be read from a file. -/
inductive FileFault
  | missing
  /-- The path goes on behind something that is no directory. -/
  | notDirectory
  | isDirectory
  | nameTooLong
  /-- A NUL stands in the path. -/
  | nulInPath
  | notUtf8
  /-- The length is no number of 64 bits. -/
  | tooLarge
  | other (cause : Text)
  deriving DecidableEq, Repr

def FileFault.message : FileFault → Text
  | .missing => "No such file or directory (os error 2)".toList
  | .notDirectory => "Not a directory (os error 20)".toList
  | .isDirectory => "Is a directory (os error 21)".toList
  | .nameTooLong => "File name too long (os error 36)".toList
  | .nulInPath => "file name contained an unexpected NUL byte".toList
  | .notUtf8 => "stream did not contain valid UTF-8".toList
  | .tooLarge => "Value too large for defined data type (os error 75)".toList
  | .other cause => cause

/-- What a path leads to. -/
inductive Found
  | contents (octets : Octets)
  /-- A directory opens like a file, but does not read like one. -/
  | directory
  | nothing (fault : FileFault)
  deriving DecidableEq, Repr

/-- A file by its path, with what the path leads to. -/
structure File where
  path : Text
  found : Found
  deriving DecidableEq

def File.read (file : File) : Except FileFault Octets :=
  match file.found with
  | .contents octets => .ok octets
  | .directory => .error .isDirectory
  | .nothing fault => .error fault

end MachineImage
