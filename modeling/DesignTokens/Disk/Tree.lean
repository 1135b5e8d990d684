import DesignTokens.Disk.Path
import DesignTokens.Number.Spelling
import DesignTokens.OrderedMap
import DesignTokens.Text.Quoted

/-!
# File trees

The folders and files of a disk. A path is followed name by name, and every name but the last one
has to be that of a folder.

## Main Definitions

* `FileTree` — what stands at which place
* `FileTree.locate`, `FileTree.find` — where a path leads to, and what stands there
* `FileTree.look` — the same when it does not matter why nothing stands there
* `FileTree.read`, `FileTree.write`, `FileTree.makeFolder`, `FileTree.remove` — access to the disk
* `FileTree.namesIn` — the names of a folder
* `DiskFault`, `DiskFault.message` — why an access fails

## Design Notes

An access either does what it is asked for or leaves the tree as it is. The root is a folder and
has no entry of its own. A name that cannot stand on a disk is refused before anything is looked
up, and so is a path that is too long as a whole; a single name that is too long is refused where it
is looked up.

Links, permissions and a full disk are left out: every place has one path without steps upwards,
whoever asks may read and write everywhere, and there is room for every file.
-/

namespace DesignTokens

/-- What stands at a place. -/
inductive Entry
  | folder
  | file (content : List UInt8)
  deriving DecidableEq

/-- Why the disk refuses an access. -/
inductive DiskCause
  /-- Nothing stands there. -/
  | missing
  /-- Something stands there already. -/
  | occupied
  /-- A file stands where a folder is needed. -/
  | notFolder
  /-- A folder stands where a file is needed. -/
  | isFolder
  /-- The path or one of its names is too long to be looked up. -/
  | tooLong
  /-- The path holds a name that no disk knows. -/
  | unnameable
  deriving DecidableEq

namespace DiskCause

/-- The number and the words under which the system reports a cause; an impossible name never
reaches the system. -/
def report? : DiskCause → Option (Nat × String)
  | missing => some (2, "No such file or directory")
  | occupied => some (17, "File exists")
  | notFolder => some (20, "Not a directory")
  | isFolder => some (21, "Is a directory")
  | tooLong => some (36, "File name too long")
  | unnameable => none

/-- Whether a cause is reported by the system. -/
def isReported (cause : DiskCause) : Bool := cause.report?.isSome

end DiskCause

/-- A refused access. -/
structure DiskFault where
  /-- Why it is refused. -/
  cause : DiskCause
  /-- The path that was to be accessed. -/
  path : Path
  deriving DecidableEq

/-- What a reader is told. -/
def DiskFault.message (fault : DiskFault) : String :=
  match fault.cause.report? with
  | some (number, words) =>
    "[Errno " ++ Number.natText number ++ "] " ++ words ++ ": " ++ Text.quoted fault.path.text
  | none => "embedded null byte"

/-- The folders and files of a disk. -/
structure FileTree where
  /-- What stands at a place other than the root. -/
  entries : OrderedMap Location Entry

namespace FileTree

/-- A disk with nothing on it. -/
def empty : FileTree := ⟨.empty⟩

/-- What stands at a place. -/
def entry? (tree : FileTree) (location : Location) : Option Entry :=
  if location = [] then some .folder else tree.entries.find? location

/-- The tree with something at a place. -/
def put (tree : FileTree) (location : Location) (entry : Entry) : FileTree :=
  ⟨tree.entries.insert location entry⟩

/-- The tree with nothing at a place. -/
def clear (tree : FileTree) (location : Location) : FileTree := ⟨tree.entries.erase location⟩

/-- How many bytes a name may have. -/
def nameLimit : Nat := 255

/-- How many bytes a path may have. -/
def pathLimit : Nat := 4095

/-- One name further from a place, which has to be a folder. -/
def enter (tree : FileTree) (location : Location) (name : String) : Except DiskCause Location :=
  match tree.entry? location with
  | some .folder =>
    if nameLimit < name.utf8ByteSize then .error .tooLong else .ok (Path.stepTo location name)
  | some (.file _) => .error .notFolder
  | none => .error .missing

/-- The place that a path leads to; nothing has to stand there. -/
def locate (tree : FileTree) (workingFolder : Location) (path : Path) :
    Except DiskCause Location :=
  if !path.isNameable then .error .unnameable
  else if pathLimit < path.text.utf8ByteSize then .error .tooLong
  else path.names.foldlM tree.enter (path.start workingFolder)

/-- What stands where a path leads to. -/
def find (tree : FileTree) (workingFolder : Location) (path : Path) : Except DiskCause Entry := do
  let location ← tree.locate workingFolder path
  match tree.entry? location with
  | some entry => .ok entry
  | none => .error .missing

/-- What stands where a path leads to, if anything does. A path that is too long is refused. -/
def look (tree : FileTree) (workingFolder : Location) (path : Path) :
    Except DiskCause (Option Entry) :=
  match tree.find workingFolder path with
  | .ok entry => .ok (some entry)
  | .error .tooLong => .error .tooLong
  | .error _ => .ok none

/-- Whether a path leads to a folder. -/
def hasFolder (tree : FileTree) (workingFolder : Location) (path : Path) : Bool :=
  match tree.find workingFolder path with
  | .ok .folder => true
  | _ => false

/-- The content of a file. -/
def read (tree : FileTree) (workingFolder : Location) (path : Path) :
    Except DiskCause (List UInt8) := do
  match ← tree.find workingFolder path with
  | .file content => .ok content
  | .folder => .error .isFolder

/-- Writes a file, which may be new. -/
def write (tree : FileTree) (workingFolder : Location) (path : Path) (content : List UInt8) :
    Except DiskCause FileTree := do
  let location ← tree.locate workingFolder path
  match tree.entry? location with
  | some .folder => .error .isFolder
  | _ => .ok (tree.put location (.file content))

/-- Makes a folder where nothing stands. -/
def makeFolder (tree : FileTree) (workingFolder : Location) (path : Path) :
    Except DiskCause FileTree := do
  let location ← tree.locate workingFolder path
  match tree.entry? location with
  | some _ => .error .occupied
  | none => .ok (tree.put location .folder)

/-- Removes a file, if there is one. -/
def remove (tree : FileTree) (workingFolder : Location) (path : Path) :
    Except DiskCause FileTree :=
  match tree.locate workingFolder path with
  | .error .missing => .ok tree
  | .error cause => .error cause
  | .ok location =>
    match tree.entry? location with
    | none => .ok tree
    | some .folder => .error .isFolder
    | some (.file _) => .ok (tree.clear location)

/-- The names in a folder, in the order of their characters. -/
def namesIn (tree : FileTree) (folder : Location) : List String :=
  let names := tree.entries.keys.filterMap fun location =>
    if location.dropLast = folder then location.getLast? else none
  names.mergeSort fun a b => decide (a ≤ b)

end FileTree

end DesignTokens
