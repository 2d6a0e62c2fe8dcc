import Blocklist.Files.Path
import Blocklist.Text.Quoted
import Blocklist.Text.Utf8

/-!
# Files

The files that a run can see, and the folder that it works in. A path is followed name by name: every
name before the last has to be a folder's, and two dots lead to the folder above. What a path leads to
is given by the names from the root on, so two paths lead to one file exactly if `locate` gives the same
names for them.
-/

namespace Blocklist

/-- What stands at a place: a file, a file that may not be read, or a folder. -/
inductive Entry where
  | file (content : List UInt8)
  | locked
  | folder
deriving DecidableEq, Repr

/-- Why a path does not lead to a file that can be read or written. -/
inductive FileFault where
  | missing
  | denied
  | isFolder
  | notFolder
  | nameTooLong
  | alreadyFile
  | busy
  | badName
deriving DecidableEq, Repr

/-- The number of the fault and its text. -/
def FileFault.description : FileFault → Nat × Text
  | .missing => (2, "No such file or directory")
  | .denied => (13, "Permission denied")
  | .isFolder => (21, "Is a directory")
  | .notFolder => (20, "Not a directory")
  | .nameTooLong => (36, "File name too long")
  | .alreadyFile => (17, "File exists")
  | .busy => (16, "Device or resource busy")
  | .badName => (22, "Invalid argument")

/-- The text of the fault at a path. -/
def FileFault.message (f : FileFault) (p : Path) : Text :=
  let (number, s) := f.description
  "[Errno " ++ Text.ofNat number ++ "] " ++ s ++ ": " ++ p.text.quoted

/-- The entries, each with the names that lead to it from the root, and the names that lead to the
working folder. -/
structure Files where
  working : List Text := []
  entries : List (List Text × Entry) := []
deriving DecidableEq, Repr

namespace Files

/-- What stands at the names. The root is a folder, and so is the working folder with all folders that
it is in. -/
def entry? (fs : Files) (names : List Text) : Option Entry :=
  if names <+: fs.working then some .folder else fs.entries.lookup names

/-- The entries with `e` at the names. -/
def setEntry (names : List Text) (e : Entry) (fs : Files) : Files :=
  { fs with entries := fs.entries.filter (·.1 ≠ names) ++ [(names, e)] }

/-- A folder at the names, unless something is there. -/
def addFolder (fs : Files) (names : List Text) : Files :=
  if (fs.entry? names).isNone then fs.setEntry names .folder else fs

/-- The entries without the one at the names. -/
def remove (names : List Text) (fs : Files) : Files :=
  { fs with entries := fs.entries.filter (·.1 ≠ names) }

/-! ### Following paths -/

/-- The most octets of a name. -/
def maxNameLength : Nat := 255

/-- The most octets of a path. -/
def maxPathLength : Nat := 4095

/-- The fault of names that do not lead to a folder. -/
def checkFolder (fs : Files) (names : List Text) : Except FileFault Unit :=
  match fs.entry? names with
  | some .folder => .ok ()
  | some _ => .error .notFolder
  | none => .error .missing

/-- The names that one more name of a path leads to from a folder. -/
def child (names : List Text) (name : Text) : Except FileFault (List Text) :=
  if name = ['.', '.'] then .ok names.dropLast
  else if maxNameLength < (Utf8.encode name).length then .error .nameTooLong
  else .ok (names ++ [name])

/-- One name of a path. -/
def step (fs : Files) (names : List Text) (name : Text) : Except FileFault (List Text) := do
  fs.checkFolder names
  child names name

/-- Where a path starts. -/
def startOf (fs : Files) (p : Path) : List Text := if p.root = [] then fs.working else []

/-- The fault that the text of a path can have. -/
def checkText (p : Path) : Except FileFault Unit :=
  if p.text.elem '\x00' then .error .badName
  else if maxPathLength < (Utf8.encode p.text).length then .error .nameTooLong
  else .ok ()

/-- The names that a path leads to. -/
def locate (fs : Files) (p : Path) : Except FileFault (List Text) := do
  checkText p
  p.names.foldlM fs.step (fs.startOf p)

/-- The octets of the file at a path. -/
def read (fs : Files) (p : Path) : Except FileFault (List UInt8) := do
  match fs.entry? (← fs.locate p) with
  | some (.file content) => .ok content
  | some .locked => .error .denied
  | some .folder => .error .isFolder
  | none => .error .missing

/-! ### Writing -/

/-- The files with a folder at the names; what stands there already has to be one. -/
def ensureFolder (fs : Files) (names : List Text) : Except FileFault Files :=
  match fs.checkFolder names with
  | .error .missing => .ok (fs.addFolder names)
  | .error f => .error f
  | .ok () => .ok fs

/-- The folder that some names of a path lead to, with every folder on the way made that is missing. -/
def makeFolders (fs : Files) (folder : List Text) : List Text →
    Except FileFault (Files × List Text)
  | [] =>
    match fs.ensureFolder folder with
    | .ok fs => .ok (fs, folder)
    | .error .notFolder => .error .alreadyFile
    | .error f => .error f
  | name :: rest => do
    let fs ← fs.ensureFolder folder
    makeFolders fs (← child folder name) rest

/-- The files with the entry `e` at a path, whose folder is made if it is missing. A folder is not
replaced. -/
def put (fs : Files) (p : Path) (e : Entry) : Except FileFault Files := do
  checkText p
  let (fs, folder) ← fs.makeFolders (fs.startOf p) p.parent.names
  match p.names.getLast? with
  | none => .error .busy
  | some name =>
    if name = ['.', '.'] then .error .busy
    else
      let names ← child folder name
      if fs.entry? names = some .folder then .error .isFolder else .ok (fs.setEntry names e)

/-- The files with `content` at a path. -/
def write (fs : Files) (p : Path) (content : List UInt8) : Except FileFault Files :=
  fs.put p (.file content)

/-- The files below the working folder, each with its names from there on. -/
def contents (fs : Files) : List (List Text × List UInt8) :=
  fs.entries.filterMap fun
    | (names, .file content) =>
      if fs.working <+: names then some (names.drop fs.working.length, content) else none
    | _ => none

end Files
end Blocklist
