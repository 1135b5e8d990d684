import DesignTokens.Failure
import DesignTokens.Text.Utf8

/-!
# Workspaces

A workspace is a disk with a working folder, together with a log of what has been done. Jobs are
done in a workspace; a job may fail, and what it has changed before stays changed.

## Main Definitions

* `Workspace`, `Record` — the state in which jobs are done
* `Job` — something to be done in a workspace
* `Job.attempt` — a job whose failure is an answer
* `Job.writeFile`, `Job.makeFolders`, `Job.removeFile` — changes of the disk
* `Workspace.readBytes`, `Workspace.readText` — the contents of files
* `Job.look` — what stands on the disk
-/

namespace DesignTokens

/-- How important a record is. -/
inductive Level
  | debug
  | info
  | warning
  | error
  deriving DecidableEq

/-- The name of a level. -/
def Level.name : Level → String
  | debug => "DEBUG"
  | info => "INFO"
  | warning => "WARNING"
  | error => "ERROR"

/-- A line of a log. -/
structure Record where
  /-- How important it is. -/
  level : Level
  /-- What a reader is told. -/
  message : String
  deriving DecidableEq

/-- A disk with a working folder and a log. -/
structure Workspace where
  /-- The disk. -/
  tree : FileTree
  /-- The folder from which relative paths are read. -/
  folder : Location
  /-- The records, oldest first. -/
  log : List Record

namespace Workspace

/-- Whether a path leads to a folder. -/
def hasFolder (w : Workspace) (path : Path) : Bool := w.tree.hasFolder w.folder path

/-- The text of bytes, its lines ending in the same way. -/
def decodeText (bytes : List UInt8) : Except Failure String :=
  match Text.decodeUtf8? bytes with
  | some text => .ok (Text.unifyLineEnds text)
  | none => .error .undecodable

/-- The bytes of a file. -/
def readBytes (w : Workspace) (path : Path) : Except DiskFault (List UInt8) :=
  (w.tree.read w.folder path).mapError fun cause => ⟨cause, path⟩

/-- The text of a file, its lines ending in the same way. -/
def readText (w : Workspace) (path : Path) : Except Failure String :=
  match w.readBytes path with
  | .ok bytes => decodeText bytes
  | .error fault => .error (.disk fault)

/-- The paths of a folder's entries whose names end in a given way, in the order of the names. -/
def entriesEnding (w : Workspace) (ending : String) (folder : Path) : List Path :=
  match w.tree.locate w.folder folder with
  | .ok location =>
    if w.hasFolder folder then
      ((w.tree.namesIn location).filter fun name => ending.toList.isSuffixOf name.toList).map
        fun name => ⟨folder.anchor, folder.names ++ [name]⟩
    else []
  | .error _ => []

end Workspace

/-- Something to be done in a workspace. -/
abbrev Job := EStateM Failure Workspace

namespace Job

/-- A job whose failure is an answer. -/
def attempt {α : Type} (job : Job α) : Job (Except Failure α) := fun w =>
  match job w with
  | .ok a w => .ok (.ok a) w
  | .error e w => .ok (.error e) w

/-- A result that does not need the workspace. -/
def ofExcept {α : Type} : Except Failure α → Job α
  | .ok a => pure a
  | .error e => throw e

/-- A result that may be missing for some reason. -/
def ofOption {α : Type} (result : Option α) (failure : Failure) : Job α :=
  match result with
  | some a => pure a
  | none => throw failure

/-- Adds a record to the log. -/
def record (level : Level) (message : String) : Job Unit :=
  modify fun w => { w with log := w.log ++ [⟨level, message⟩] }

/-- Changes the disk at a path. -/
def change (path : Path) (access : FileTree → Location → Path → Except DiskCause FileTree) :
    Job Unit := do
  let w ← get
  match access w.tree w.folder path with
  | .ok tree => set { w with tree := tree }
  | .error cause => throw (.disk ⟨cause, path⟩)

/-- What stands where a path leads to, if anything does. -/
def look (path : Path) : Job (Option Entry) := do
  let w ← get
  match w.tree.look w.folder path with
  | .ok found => pure found
  | .error cause => throw (.disk ⟨cause, path⟩)

/-- Writes a text to a file, which may be new. -/
def writeFile (path : Path) (text : String) : Job Unit :=
  change path fun tree folder path => tree.write folder path (Text.encodeUtf8 text)

/-- Removes a file, if there is one. -/
def removeFile (path : Path) : Job Unit := change path FileTree.remove

/-- Makes a folder, which may stand there already. -/
def makeFolder (path : Path) : Job Unit := do
  let w ← get
  match w.tree.makeFolder w.folder path with
  | .ok tree => set { w with tree := tree }
  | .error cause => unless w.hasFolder path do throw (.disk ⟨cause, path⟩)

/-- Makes the folder of some names of a path and those around it, as far as they are missing. -/
def makeFoldersOf (path : Path) : Nat → Job Unit
  | 0 => makeFolder path
  | count + 1 => do
    let w ← get
    match w.tree.makeFolder w.folder path with
    | .error .missing =>
      makeFoldersOf path.parent count
      makeFolder path
    | _ => makeFolder path

/-- Makes a folder and those around it, as far as they are missing. -/
def makeFolders (path : Path) : Job Unit := makeFoldersOf path path.names.length

/-- The path from the root to which the names of a path lead when all of them name folders. -/
def resolve (path : Path) : Job Path := do
  let w ← get
  if path.isNameable then pure (.ofLocation (path.resolve w.folder))
  else throw (.disk ⟨.unnameable, path⟩)

end Job

end DesignTokens
