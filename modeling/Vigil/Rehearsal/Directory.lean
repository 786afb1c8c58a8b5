import Vigil.Fault

/-!
# Directories of a rehearsal

* `Node`: files and the folders they lie in;
* `Directory`: a directory with some files and nothing else in it, and the folders around it;
* `Directory.walk`: follow a path, one part after the other;
* `Directory.read`: the bytes of the file that a path leads to.
-/

namespace Vigil.Rehearsal

/-- What a name in a folder stands for. -/
inductive Node where
  | file (bytes : ByteArray)
  | folder (entries : List (String × Node))

/-- What a folder holds, by name. -/
abbrev Folder := List (String × Node)

/-- The files of the directory in which a rehearsal takes place: the bytes of each, by name. -/
structure Directory where
  files : List (String × ByteArray) := []

namespace Directory

/-- How many bytes a name may have. -/
def maxName : Nat := 255

/-- How many bytes a path may have. -/
def maxPath : Nat := 4095

/-- The folder of devices.  Of these only the one without content is known. -/
def devices : Folder := [("null", .file ByteArray.empty)]

/-- The root of all folders: the usual ones, which but for the devices are empty. -/
def root : Folder :=
  ("dev", .folder devices) ::
    ["bin", "boot", "etc", "home", "lib", "media", "mnt", "opt", "proc", "root", "run", "sbin",
      "srv", "sys", "tmp", "usr", "var"].map fun name => (name, .folder [])

/-- The directory itself, the folder of temporary files in which it lies, and the root: the folders
in which a path begins, from the inside to the outside.  Nothing else that is temporary is known. -/
def inside (d : Directory) : List Folder :=
  [d.files.map fun f => (f.1, .file f.2), [], root]

/-- The parts of a path between slashes. -/
def parts (path : String) : List String := path.splitOn "/"

/-- Whether a part of a path stays where it is. -/
def staysHere (part : String) : Bool := part == "" || part == "."

/-- The bytes at the end of a path that begins in a folder; `around` are the folders around it,
the nearest first.  The parts before the last must lead through folders, and the root lies in
itself. -/
def walk (here : Folder) (around : List Folder) : List String → Except IoFault ByteArray
  | [] => .error .isADirectory
  | part :: rest =>
    if staysHere part then walk here around rest
    else if part == ".." then
      match around with
      | [] => walk here [] rest
      | up :: around => walk up around rest
    else if maxName < part.utf8ByteSize then .error .nameTooLong
    else
      match here.find? (fun e => e.1 == part) with
      | some (_, .folder entries) => walk entries (here :: around) rest
      | some (_, .file bytes) => if rest.isEmpty then .ok bytes else .error .notADirectory
      | none => .error .notFound

/-- The bytes at the end of a path, which begins at the root if a slash stands first. -/
def read (d : Directory) (path : String) : Except IoFault ByteArray :=
  if path.toList.contains '\x00' then .error .nulInPath
  else if path.isEmpty then .error .notFound
  else if maxPath < path.utf8ByteSize then .error .nameTooLong
  else if path.front == '/' then walk root [] (parts path)
  else
    match d.inside with
    | here :: around => walk here around (parts path)
    | [] => .error .notFound

end Directory

end Vigil.Rehearsal
