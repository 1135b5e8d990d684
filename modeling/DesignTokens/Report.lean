import DesignTokens.Theme.Reference

/-!
# Diagnostic reports

A report lists what is worth knowing about a theme: errors, which prevent that a stylesheet is
made, warnings, and remarks.

## Main Definitions

* `Severity`, `Issue`, `Report` — the parts of a report
* `Theme.report` — the report on a theme
* `Report.isValid` — whether a report has no errors

## Design Notes

A theme is examined in five passes: the first broken reference, an empty palette, backgrounds that
only one mode defines, colors that no token uses, and values outside the grammar. The issues of a
pass follow the order of the theme's tokens.
-/

namespace DesignTokens

/-- How serious an issue is. -/
inductive Severity
  | error
  | warning
  | info
  deriving DecidableEq

namespace Severity

/-- The name of a severity. -/
def name : Severity → String
  | error => "error"
  | warning => "warning"
  | info => "info"

/-- The mark of a severity in a report's text. -/
def mark : Severity → String
  | error => "[ERROR]"
  | warning => "[WARNING]"
  | info => "[INFO]"

/-- The severity of a name. -/
def ofName? (given : String) : Option Severity :=
  [error, warning, info].find? fun s => s.name == given

end Severity

/-- One thing worth knowing. -/
structure Issue where
  /-- How serious it is. -/
  severity : Severity
  /-- The code of the kind of issue. -/
  code : String
  /-- What a reader is told. -/
  message : String
  /-- The place in the theme, if there is one. -/
  location : Option String
  deriving DecidableEq

/-- The line of an issue. An empty location counts as none. -/
def Issue.text (issue : Issue) : String :=
  issue.severity.mark ++ " " ++ issue.code ++ ": " ++ issue.message ++
    match issue.location with
    | none | some "" => ""
    | some place => " at " ++ place

/-- The issues that were found, in order. -/
structure Report where
  /-- The issues. -/
  issues : List Issue
  deriving DecidableEq

namespace Report

/-- The report without issues. -/
def empty : Report := ⟨[]⟩

/-- The report with one more issue. -/
def add (report : Report) (issue : Issue) : Report := ⟨report.issues ++ [issue]⟩

/-- The issues of a severity. -/
def ofSeverity (report : Report) (severity : Severity) : List Issue :=
  report.issues.filter fun i => decide (i.severity = severity)

/-- The errors. -/
def errors (report : Report) : List Issue := report.ofSeverity .error

/-- The warnings. -/
def warnings (report : Report) : List Issue := report.ofSeverity .warning

/-- No errors; warnings and remarks do no harm. -/
def isValid (report : Report) : Bool := report.errors.isEmpty

/-- The codes of the issues, in order. -/
def codes (report : Report) : List String := report.issues.map Issue.code

/-- The text of a report. -/
def text (report : Report) : String :=
  if report.issues.isEmpty then "Validation passed: no issues found"
  else "\n".intercalate (report.issues.map Issue.text)

end Report

namespace Theme

/-- The first broken reference, if there is one. -/
def referenceIssues (theme : Theme) : List Issue :=
  match theme.checkReferences with
  | .ok _ => []
  | .error fault => [⟨.error, "INVALID_PALETTE_REF", fault.message, fault.place⟩]

/-- A remark on an empty palette. -/
def paletteIssues (theme : Theme) : List Issue :=
  if theme.base.palette.entries.isEmpty then
    [⟨.warning, "EMPTY_PALETTE", "Theme defines no palette colors", some "base.palette"⟩]
  else []

/-- Backgrounds that the dark mode defines and the light mode lacks, and the other way round. -/
def modeIssues (theme : Theme) : List Issue :=
  (theme.dark.bg.keys.filter fun key => !theme.light.bg.contains key).map (fun key =>
    ⟨.warning, "MODE_KEY_MISMATCH",
      "'" ++ key ++ "' is defined for dark mode only and gets no --color-" ++ key ++ " alias",
      some ("dark.bg." ++ key)⟩) ++
  (theme.light.bg.keys.filter fun key => !theme.dark.bg.contains key).map fun key =>
    ⟨.warning, "MODE_KEY_MISMATCH",
      "'" ++ key ++ "' has no dark mode value and keeps its light color in .dark",
      some ("light.bg." ++ key)⟩

/-- The colors that the checked sections refer to. -/
def usedColors (theme : Theme) : List String :=
  (theme.checkedSections.flatMap fun part => part.2.values).filter isReference |>.map referenceKey

/-- Palette colors that no token of a checked section refers to. -/
def usageIssues (theme : Theme) : List Issue :=
  (theme.base.palette.keys.filter fun key => !theme.usedColors.contains key).map fun key =>
    ⟨.info, "UNUSED_PALETTE_COLOR",
      "Palette color '" ++ key ++ "' is not referenced by any token",
      some ("base.palette." ++ key)⟩

/-- Spacing and size values that do not follow the grammar of token values. -/
def grammarIssues (theme : Theme) : List Issue :=
  [Category.spacing, Category.size].flatMap fun c =>
    (theme.base.tokens c).entries.filterMap fun e =>
      match TokenValue.parse e.2 with
      | .ok _ => none
      | .error fault =>
        some ⟨.info, "UNPARSEABLE_VALUE",
          "'" ++ e.2 ++ "' is emitted verbatim (" ++ fault.message ++ ")",
          some ("base." ++ c.name ++ "." ++ e.1)⟩

/-- The report on a theme. -/
def report (theme : Theme) : Report :=
  ⟨theme.referenceIssues ++ theme.paletteIssues ++ theme.modeIssues ++ theme.usageIssues ++
    theme.grammarIssues⟩

end Theme

end DesignTokens
