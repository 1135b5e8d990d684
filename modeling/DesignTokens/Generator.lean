import DesignTokens.Collection.Basic
import DesignTokens.CommandLine.Settings
import DesignTokens.Output
import DesignTokens.Report

/-!
# The generator

The generator compiles one theme into its stylesheet and its TypeScript module, or only examines
it. A theme is named by the path of its file or by its name in the project folder and the built-in
library.

## Main Definitions

* `Generator.loadTheme` — the theme that is named
* `Generator.examine` — the report on a theme, in the log
* `Generator.run` — a run with some settings, and its exit status

## Design Notes

Failures that have to do with the theme and refusals of the disk end a run with the status 1. If
the stylesheet has been written by then, it is removed. Any other failure is not recovered from.
-/

namespace DesignTokens.Generator

/-- Whether a text names a theme by the path of its file. -/
def isFilePath (path : Path) : Job Bool := do
  if path.suffix == ".yaml" || path.suffix == ".yml" then pure true
  else
    match ← Job.look path with
    | some (.file _) => pure true
    | _ => pure false

/-- The theme that a text names. -/
def loadTheme (nameOrPath : String) (themesFolder : Path) : Job Theme := do
  let path := Path.ofText nameOrPath
  if ← isFilePath path then Job.ofExcept ((← get).loadTheme path)
  else
    let themes := Collection.make none (some themesFolder)
    match ← themes.find nameOrPath with
    | (some theme, _) => pure theme
    | (none, themes) => throw (.unknownTheme nameOrPath ((← themes.list).map Metadata.name))

/-- The level at which an issue is logged. -/
def levelOf : Severity → Level
  | .error => .error
  | .warning => .warning
  | .info => .debug

/-- Logs the report on a theme and tells whether it has no errors. Remarks are logged only if they
are asked for. -/
def examine (theme : Theme) (remarks : Bool) : Job Bool := do
  let report := theme.report
  for issue in report.issues do
    let level := levelOf issue.severity
    if level != .debug || remarks then Job.record level issue.text
  if report.isValid then
    Job.record .info
      ("Theme '" ++ theme.name ++ "' is valid (" ++
        Number.natText report.warnings.length ++ " warnings)")
  pure report.isValid

/-- Writes the files of a theme. If the second one cannot be written, the first one is removed. -/
def generate (theme : Theme) (css ts : String) : Job Unit := do
  Job.record .info ("Generating theme files for '" ++ theme.name ++ "'")
  let file ← theme.writeStylesheet none (.ofText css)
  match ← (theme.writeModule none (.ofText ts)).attempt with
  | .ok _ => pure ()
  | .error failure =>
    if failure.isThemeFailure || failure.isDiskFailure then Job.removeFile file
    throw failure

/-- Examines the theme or writes its files; the answer is the exit status. -/
def perform (settings : GeneratorSettings) : Job Nat := do
  let theme ← loadTheme settings.theme settings.themesFolder
  if settings.check then
    return if ← examine theme settings.debug then 0 else 1
  generate theme settings.css settings.ts
  Job.record .info "Theme generation completed successfully"
  pure 0

/-- A run of the generator with some settings; the answer is the exit status. -/
def run (settings : GeneratorSettings) : Job Nat := do
  match ← (perform settings).attempt with
  | .ok status => pure status
  | .error failure =>
    if failure.isThemeFailure || failure.isDiskFailure then
      Job.record .error ("Theme generation failed: " ++ failure.message)
      pure 1
    else throw failure

end DesignTokens.Generator
