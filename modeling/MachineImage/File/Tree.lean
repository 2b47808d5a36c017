import MachineImage.File

/-!
Directories with files in them, and the way from a path to what it leads to.
-/
namespace MachineImage

inductive FileTree
  | file (contents : Octets)
  | directory (entries : List (Text × FileTree))

namespace FileTree

/-- The octets that a name in a directory has at most. -/
def nameLimit : Nat := 255

/-- The octets that a path has at most. -/
def pathLimit : Nat := 4095

def names (path : Text) : List Text := Text.split (· == '/') path

/-- Whether the name is that of the directory itself, as the empty name between two slashes is. -/
def isSelf (name : Text) : Bool := name.isEmpty || name == ['.']

def found : FileTree → Found
  | .file contents => .contents contents
  | .directory _ => .directory

/-- Follows names from `here`; the directories around it are `above`, innermost first. The
outermost directory is its own parent. -/
def follow (above : List FileTree) (here : FileTree) : List Text → Found
  | [] => here.found
  | name :: names =>
    match here with
    | .file _ => .nothing .notDirectory
    | .directory entries =>
      if isSelf name then follow above here names
      else if name = ['.', '.'] then
        match above with
        | [] => follow [] here names
        | parent :: above => follow above parent names
      else if nameLimit < Text.byteLength name then .nothing .nameTooLong
      else match entries.lookup name with
        | none => .nothing .missing
        | some there => follow (here :: above) there names

/-- The tree with a file at the end of the names, in place of what stood there. -/
def insert (contents : Octets) : List Text → FileTree → FileTree
  | [], _ => .file contents
  | name :: names, here =>
    let entries :=
      match here with
      | .file _ => []
      | .directory entries => entries
    let inner := (entries.lookup name).getD (.directory [])
    .directory ((name, insert contents names inner) :: entries.filter (·.1 != name))

/-- The directory with those files in it, of which the last under a path stays. -/
def ofFiles (files : List (Text × Octets)) : FileTree :=
  files.foldl (fun tree file => tree.insert file.2 ((names file.1).filter (!isSelf ·)))
    (.directory [])

end FileTree

/-- A working directory and the directories around it, innermost first. -/
structure FileSystem where
  working : FileTree
  above : List FileTree

namespace FileSystem

def emptyDirectories (names : List String) : List (Text × FileTree) :=
  names.map fun name => (name.toList, .directory [])

/-- A root with the directories that every system has, and the file that is always empty. -/
def standardRoot : FileTree :=
  .directory <| [
    ("dev".toList, .directory [("null".toList, .file [])]),
    ("usr".toList, .directory (emptyDirectories ["bin", "lib", "local", "sbin", "share"])),
    ("var".toList, .directory (emptyDirectories ["cache", "lib", "log", "tmp"]))] ++
    emptyDirectories ["bin", "boot", "etc", "home", "lib", "media", "mnt", "opt", "proc", "root",
      "run", "sbin", "srv", "sys", "tmp"]

/-- A working directory with those files, in a directory below the root. -/
def ofFiles (files : List (Text × Octets)) : FileSystem :=
  ⟨.ofFiles files, [.directory [], standardRoot]⟩

/-- What a path leads to; one that begins with a slash starts from the root. -/
def find (s : FileSystem) (path : Text) : Found :=
  if path.contains '\x00' then .nothing .nulInPath
  else if path.isEmpty then .nothing .missing
  else if FileTree.pathLimit < Text.byteLength path then .nothing .nameTooLong
  else if path.head? = some '/' then
    FileTree.follow [] (s.above.getLast?.getD s.working) (FileTree.names path)
  else FileTree.follow s.above s.working (FileTree.names path)

end FileSystem

end MachineImage
