import DesignTokens.Generator

/-!
# The generator as a program

The program reads from the disk whatever a run of the generator may look at, lets the generator work
on that, and carries out the changes that it has made.

## Main Definitions

* `Program.survey` — the part of the disk that a run may look at
* `Program.carryOut` — the changes of a run on the disk
* `main` — the program
-/

namespace DesignTokens.Program

/-- The places that a path leads through. -/
def stages (folder : Location) (path : Path) : List Location :=
  (List.range (path.names.length + 1)).map fun n =>
    Path.resolve folder { path with names := path.names.take n }

/-- Adds to a tree what stands at a place and at all places around it. -/
def surveyLocation (tree : FileTree) (location : Location) : IO FileTree := do
  let mut tree := tree
  for n in List.range location.length do
    let place := location.take (n + 1)
    let file := (← IO.currentDir) / (Path.ofLocation place).text
    if ← file.isDir then tree := tree.put place .folder
    else if ← file.pathExists then
      tree := tree.put place (.file (← IO.FS.readBinFile file).toList)
  pure tree

/-- Adds to a tree what stands at the places that a path leads through. -/
def surveyPath (folder : Location) (tree : FileTree) (path : Path) : IO FileTree :=
  (stages folder path).foldlM surveyLocation tree

/-- The names in a folder. -/
def namesIn (path : Path) : IO (List String) := do
  let folder := (← IO.currentDir) / path.text
  if ← folder.isDir then
    pure ((← folder.readDir).toList.map fun entry => entry.fileName)
  else pure []

/-- The paths that a run may look at. -/
def pathsOf (folder : Location) (settings : GeneratorSettings) : IO (List Path) := do
  let themes := settings.themesFolder
  let files := (← namesIn themes).filter fun name =>
    Collection.ending.toList.isSuffixOf name.toList
  let targets := [settings.css, settings.ts].map fun text =>
    Path.ofLocation ((Path.ofText text).resolve folder)
  pure ([⟨.relative, []⟩, .ofText settings.theme, Collection.fileIn themes settings.theme] ++
    files.map (fun name => ⟨themes.anchor, themes.names ++ [name]⟩) ++ targets)

/-- The part of the disk that a run may look at. -/
def survey (folder : Location) (settings : GeneratorSettings) : IO FileTree := do
  (← pathsOf folder settings).foldlM (surveyPath folder) .empty

/-- Carries out the changes that lead from one tree to another one. -/
def carryOut (old new : FileTree) : IO Unit := do
  for (location, entry) in new.entries.entries do
    if old.entry? location != some entry then
      let file := (← IO.currentDir) / (Path.ofLocation location).text
      match entry with
      | .folder => IO.FS.createDir file
      | .file content => IO.FS.writeBinFile file ⟨content.toArray⟩
  for (location, entry) in old.entries.entries do
    if entry != .folder && (new.entry? location).isNone then
      IO.FS.removeFile ((← IO.currentDir) / (Path.ofLocation location).text)

/-- Runs the generator and shows its log. -/
def run (settings : GeneratorSettings) : IO UInt32 := do
  let folder := (Path.ofText (← IO.currentDir).toString).names
  let tree ← survey folder settings
  let finish := fun (w : Workspace) => do
    carryOut tree ⟨w.tree.entries.filter fun e => !BuiltIn.folder.isPrefixOf e.1 &&
      !e.1.isPrefixOf BuiltIn.folder⟩
    for line in w.log do IO.eprintln (line.level.name ++ ": " ++ line.message)
  match Generator.run settings ⟨BuiltIn.install tree, folder, []⟩ with
  | .ok status w =>
    finish w
    pure status.toUInt32
  | .error failure w =>
    finish w
    IO.eprintln failure.message
    pure 1

end DesignTokens.Program

open DesignTokens in
/-- Compiles one theme. -/
def main (words : List String) : IO UInt32 := do
  match GeneratorSettings.parse words with
  | .ok settings => Program.run settings
  | .error refusal =>
    let options := GeneratorSettings.options.map fun option => "[" ++ option.name ++ "]"
    IO.eprintln ("usage: design-tokens [-h] " ++ " ".intercalate options)
    unless refusal.message.isEmpty do IO.eprintln ("error: " ++ refusal.message)
    pure refusal.status.toUInt32
