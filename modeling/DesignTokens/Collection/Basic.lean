import DesignTokens.Collection.BuiltIn
import DesignTokens.Workspace
import DesignTokens.Yaml.Document
import DesignTokens.Yaml.Layout.Block
import DesignTokens.Yaml.Portion

/-!
# Collections of themes

A collection finds themes by name. Its files stand in two folders: a library, which is shipped, and
a project folder, whose themes take precedence. A theme is looked up by the name of its file and
listed under the name that it declares.

## Main Definitions

* `Workspace.loadTheme` — the theme of a file
* `Collection` — the two folders and the themes that were looked up before
* `Collection.list`, `Collection.find` — what there is, and the theme of a name
* `Collection.copyToProject`, `Collection.save` — files added to the project folder

## Design Notes

Files that fail to load because of the theme they hold are skipped and leave a warning in the log;
any other failure ends the job. A theme that was found is kept under the name by which it was asked
for, until its file is copied into the project or the collection forgets what it has seen.
-/

namespace DesignTokens

/-- The theme of a file. -/
def Workspace.loadTheme (w : Workspace) (file : Path) : Except Failure Theme :=
  match w.readBytes file with
  | .error fault =>
    .error (if fault.cause.isReported then .unreadable file (some fault.cause) else .disk fault)
  | .ok bytes =>
    match Yaml.read (.ofBytes bytes) with
    | .error fault => .error (.ofDocument file fault)
    | .ok (datum, sharing) =>
      match datum.opened sharing with
      | .mapping entries => (Theme.parse sharing entries).mapError .ofTheme
      | _ => .error (.notMapping file)

/-- The text of the file that a theme is saved in. There is none if a number in it has too many
digits. -/
def Theme.documentText? (theme : Theme) : Option String :=
  Yaml.write? theme.base.sharing theme.toEntries

/-- What is known about themes: where their files stand, and those that were looked up before. -/
structure Collection where
  /-- The folder of the library. -/
  library : Path
  /-- The folder of the project, if there is one. -/
  project : Option Path
  /-- The themes that were looked up before, by the names that they were asked for. -/
  seen : OrderedMap String Theme

namespace Collection

/-- A collection that has not seen any theme. Without a library the built-in one is used. -/
def make (library project : Option Path) : Collection :=
  ⟨library.getD (.ofLocation BuiltIn.folder), project, .empty⟩

/-- What the names of theme files end in. -/
def ending : String := ".yaml"

/-- The file that a theme of some name has in a folder. -/
def fileIn (folder : Path) (name : String) : Path := folder.child (name ++ ending)

/-- The theme of a file, or none if it fails to load because of the theme. -/
def loadOrSkip (file : Path) : Job (Option Theme) := do
  match (← get).loadTheme file with
  | .ok theme => pure (some theme)
  | .error failure =>
    if failure.isThemeFailure then
      Job.record .warning ("Skipping theme file " ++ file.text ++ ": " ++ failure.message)
      pure none
    else throw failure

/-- The themes of a folder that load, in the order of their files. -/
def loadAll (folder : Path) : Job (List Theme) := do
  if (← Job.look folder).isSome then
    let files := (← get).entriesEnding ending folder
    return (← files.mapM loadOrSkip).filterMap id
  else return []

/-- What there is to know about the themes of a collection. Of the themes that declare the same
name the last one is listed, at the place of the first one. -/
def list (c : Collection) : Job (List Metadata) := do
  let themes := (← (c.library :: c.project.toList).mapM loadAll).flatten
  pure (OrderedMap.ofList (themes.map fun t => (t.name, t.metadata))).values

/-- The theme of the first file that is there and loads. -/
def firstTheme : List Path → Job (Option Theme)
  | [] => pure none
  | file :: rest => do
    if (← Job.look file).isSome then
      match ← loadOrSkip file with
      | some theme => pure (some theme)
      | none => firstTheme rest
    else firstTheme rest

/-- The files that a theme of some name may have, the project's first. -/
def candidates (c : Collection) (name : String) : List Path :=
  (c.project.toList ++ [c.library]).map fun folder => fileIn folder name

/-- The theme of a name. -/
def find (c : Collection) (name : String) : Job (Option Theme × Collection) :=
  match c.seen.find? name with
  | some theme => pure (some theme, c)
  | none => do
    match ← firstTheme (c.candidates name) with
    | some theme => pure (some theme, { c with seen := c.seen.insert name theme })
    | none => pure (none, c)

/-- The folder of the project, which is needed. -/
def projectFolder (c : Collection) : Job Path :=
  match c.project with
  | some folder => pure folder
  | none => throw .noProject

/-- Copies the file of a library theme into the project, where it must not be already. There may be
no such theme. -/
def copyToProject (c : Collection) (name : String) : Job (Option Path × Collection) := do
  let folder ← c.projectFolder
  let source := fileIn c.library name
  if (← Job.look source).isSome then
    Job.makeFolders folder
    let copy := fileIn folder name
    if (← Job.look copy).isSome then throw (.alreadyInProject name)
    let text ← Job.ofExcept ((← get).readText source)
    Job.writeFile copy text
    pure (some copy, { c with seen := c.seen.erase name })
  else pure (none, c)

/-- Saves a theme in the project under the name that it declares. -/
def save (c : Collection) (theme : Theme) : Job (Path × Collection) := do
  let folder ← c.projectFolder
  Job.makeFolders folder
  let file := fileIn folder theme.name
  let text ← Job.ofOption theme.documentText? .unprintable
  Job.writeFile file text
  pure (file, { c with seen := c.seen.insert theme.name theme })

/-- The collection that has not seen any theme. -/
def forget (c : Collection) : Collection := { c with seen := .empty }

end Collection

end DesignTokens
