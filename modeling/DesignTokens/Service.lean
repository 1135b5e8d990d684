import DesignTokens.Collection.Basic
import DesignTokens.Output
import DesignTokens.Report

/-!
# The theme service

A service answers requests about the themes of a collection with JSON texts and writes generated
files to an output folder. Every answer is an object that tells its status first; a failure is an
answer as well.

## Main Definitions

* `Request` — what a service is asked for
* `Request.ofArguments?` — the request of a tool's name and its arguments
* `Service`, `Service.answer` — the service and its answers
* `Service.announce` — what the log tells when a service starts

## Design Notes

Failures that were to be expected from what was asked for are answered without a record in the log;
for any other failure the log tells what could not be done.
-/

namespace DesignTokens

/-- What a service is asked for. -/
inductive Request
  /-- The themes that there are. -/
  | list
  /-- The theme of a name, as data. -/
  | describe (name : String)
  /-- A copy of a library theme in the project. -/
  | copy (name : String)
  /-- The reading of a value string. -/
  | parse (value : String)
  /-- The report on a theme. -/
  | validate (name : String)
  /-- The stylesheet of a theme. -/
  | stylesheet (name : String)
  /-- The Tailwind configuration of a theme. -/
  | tailwind (name : String)
  /-- The generated files of a theme, in files of given names. -/
  | generate (name : String) (css ts : Option String)

namespace Request

/-- The names of the tools that take requests. -/
def toolNames : List String :=
  ["theme_build_css", "theme_build_tailwind_config", "theme_copy_theme_to_project",
   "theme_describe_theme", "theme_generate", "theme_list_themes", "theme_parse_value",
   "theme_validate"]

/-- The request of a tool's name and its arguments. An argument may be left out. -/
def ofArguments? (tool : String) (argument? : String → Option String) : Option Request :=
  match tool with
  | "theme_list_themes" => some list
  | "theme_describe_theme" => (argument? "name").map describe
  | "theme_copy_theme_to_project" => (argument? "name").map copy
  | "theme_parse_value" => (argument? "value").map parse
  | "theme_validate" => (argument? "name").map validate
  | "theme_build_css" => (argument? "name").map stylesheet
  | "theme_build_tailwind_config" => (argument? "name").map tailwind
  | "theme_generate" =>
    (argument? "name").map fun name => generate name (argument? "css_name") (argument? "ts_name")
  | _ => none

end Request

/-- The answer to a request that was met. -/
def successAnswer (members : List (String × Json)) : Json :=
  .object (("status", .string "success") :: members)

/-- The answer to a request that was not met. -/
def errorAnswer (message : String) : Json :=
  .object [("status", .string "error"), ("message", .string message)]

/-- The metadata of a theme as JSON. -/
def Metadata.toJson (m : Metadata) : Json :=
  .object
    [("name", .string m.name), ("description", .string m.description),
     ("palette_size", .int m.paletteSize),
     ("semantic_colors", .array (m.semanticColors.map .string))]

/-- An issue as JSON. -/
def Issue.toJson (issue : Issue) : Json :=
  .object
    [("severity", .string issue.severity.name), ("code", .string issue.code),
     ("message", .string issue.message),
     ("location", (issue.location.map Json.string).getD .null)]

/-- A collection of themes and the folder for generated files. -/
structure Service where
  /-- The themes. -/
  themes : Collection
  /-- The folder for generated files. -/
  output : Path

namespace Service

/-- Answers a failure, and tells the log what could not be done unless the failure was to be
expected. -/
def answerFailure (attempted : String) (expected : Failure → Bool) (failure : Failure) :
    Job Json := do
  unless expected failure do Job.record .error ("Failed to " ++ attempted)
  pure (errorAnswer failure.message)

/-- The answer of a job, whose failures are answers as well. -/
def answering (attempted : String) (expected : Failure → Bool) (job : Job Json) : Job Json := do
  match ← job.attempt with
  | .ok answer => pure answer
  | .error failure => answerFailure attempted expected failure

/-- A text that was given and is not empty, or else a default. -/
def given (text : Option String) (default : String) : String :=
  match text with
  | none | some "" => default
  | some text => text

/-- The answer about a theme, made from the theme of a name. -/
def answerFor (s : Service) (name attempted : String) (expected : Failure → Bool)
    (make : Theme → Job Json) : Job (Json × Service) := do
  match ← (s.themes.find name).attempt with
  | .error failure => return (← answerFailure attempted expected failure, s)
  | .ok (none, themes) =>
    pure (errorAnswer ("Theme not found: " ++ name), { s with themes := themes })
  | .ok (some theme, themes) =>
    return (← answering attempted expected (make theme), { s with themes := themes })

/-- No failure is to be expected. -/
def nothingExpected : Failure → Bool := fun _ => false

/-- The answer to a request for a copy in the project. -/
def answerCopy (s : Service) (name : String) : Job (Json × Service) := do
  match ← (s.themes.copyToProject name).attempt with
  | .error failure => return (← answerFailure "copy theme" Failure.isValueFailure failure, s)
  | .ok (none, themes) =>
    pure (errorAnswer ("Theme not found in library: " ++ name), { s with themes := themes })
  | .ok (some path, themes) =>
    let message := "Copied '" ++ name ++ "' to project"
    pure
      (successAnswer [("path", .string path.text), ("message", .string message)],
       { s with themes := themes })

/-- The list of themes. -/
def listThemes (s : Service) : Job Json := do
  let found ← s.themes.list
  pure (successAnswer
    [("themes", .array (found.map Metadata.toJson)), ("count", .int found.length)])

/-- The reading of a value string. -/
def parseValue (value : String) : Json :=
  match TokenValue.parse value with
  | .ok v => successAnswer [("kind", .string v.kind), ("css", .string v.css)]
  | .error fault => errorAnswer fault.message

/-- A theme as data. -/
def describe (theme : Theme) : Job Json := do
  let json ← Job.ofExcept ((Json.ofDatum? theme.base.sharing theme.toDatum).mapError .notJson)
  pure (successAnswer [("theme", json)])

/-- The report on a theme. -/
def validate (theme : Theme) : Json :=
  successAnswer
    [("valid", .bool theme.report.isValid),
     ("issues", .array (theme.report.issues.map Issue.toJson))]

/-- The stylesheet of a theme. -/
def stylesheet (theme : Theme) : Job Json := do
  let text ← Job.ofExcept (theme.css.mapError .reference)
  pure (successAnswer [("css", .string text)])

/-- The Tailwind configuration of a theme. -/
def tailwind (theme : Theme) : Job Json := do
  let config ← Job.ofOption theme.tailwind? .unprintable
  pure (successAnswer [("config", config.toJson)])

/-- Writes the generated files of a theme. -/
def generate (s : Service) (name : String) (css ts : Option String) (theme : Theme) :
    Job Json := do
  let cssFile ← theme.writeStylesheet (some s.output) (.ofText (given css (name ++ ".css")))
  let tsFile ← theme.writeModule (some s.output) (.ofText (given ts (name ++ "-tailwind.ts")))
  pure (successAnswer [("css_path", .string cssFile.text), ("ts_path", .string tsFile.text)])

/-- The answer to a request, and the service with what it has seen. -/
def answer (s : Service) : Request → Job (Json × Service)
  | .list => return (← answering "list themes" nothingExpected s.listThemes, s)
  | .describe name => s.answerFor name "describe theme" nothingExpected describe
  | .copy name => s.answerCopy name
  | .parse value => pure (parseValue value, s)
  | .validate name =>
    s.answerFor name "validate theme" nothingExpected fun theme => pure (validate theme)
  | .stylesheet name => s.answerFor name "build CSS" Failure.isThemeFailure stylesheet
  | .tailwind name =>
    s.answerFor name "build Tailwind config" nothingExpected tailwind
  | .generate name css ts =>
    s.answerFor name "generate theme files" Failure.isThemeFailure (s.generate name css ts)

/-- Tells the log that a service starts, and what it works on. -/
def announce (s : Service) : Job Unit := do
  Job.record .info "CHUK Theme MCP Server initialized"
  Job.record .info ("  Library path: " ++ s.themes.library.text)
  Job.record .info
    ("  Themes dir: " ++ ((s.themes.project.map Path.text).getD "None"))
  Job.record .info ("  Output dir: " ++ s.output.text)

end Service

end DesignTokens
