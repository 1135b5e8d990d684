import DesignTokens.Datum.Text

/-!
# Violations of structure

Data that are read as a theme have to follow its structure. Reading does not stop at the first
violation but reports all of them, each with the path to the offending place.

## Main Definitions

* `Model` — the structures that data are read as
* `Violation` — one place where data do not follow a structure
* `Checked` — a result, or all violations that were found
* `Checked.both`, `Checked.all` — results put together without losing a violation
-/

namespace DesignTokens

/-- The structures that data are read as. -/
inductive Model
  | theme
  | baseTokens
  | modeTokens
  | tailwindConfig
  deriving DecidableEq

/-- The name under which a structure is reported. -/
def Model.name : Model → String
  | theme => "Theme"
  | baseTokens => "ThemeBaseTokens"
  | modeTokens => "ThemeModeTokens"
  | tailwindConfig => "TailwindThemeConfig"

/-- What is wrong at a place. -/
inductive ViolationKind
  /-- Something else than text. -/
  | notText
  /-- Bytes that do not encode text. -/
  | notUnicode
  /-- Something else than a mapping of tokens. -/
  | notMapping
  /-- Something else than a mapping that could be read as a structure. -/
  | notModel (model : Model)
  /-- A key that is no string. -/
  | keyNotText
  /-- A number with too many digits to be written out. -/
  | numberTooLong
  /-- A required entry is absent. -/
  | missing
  /-- An attempt to change a finished structure. -/
  | frozen
  deriving DecidableEq

/-- The code under which a violation is reported. -/
def ViolationKind.code : ViolationKind → String
  | notText => "string_type"
  | notUnicode => "string_unicode"
  | notMapping => "dict_type"
  | notModel _ => "model_type"
  | keyNotText => "invalid_key"
  | numberTooLong => "value_error"
  | missing => "missing"
  | frozen => "frozen_instance"

/-- What a reader is told. -/
def ViolationKind.message : ViolationKind → String
  | notText => "Input should be a valid string"
  | notUnicode => "Input should be a valid string, unable to parse raw data as a unicode string"
  | notMapping => "Input should be a valid dictionary"
  | notModel model => "Input should be a valid dictionary or instance of " ++ model.name
  | keyNotText => "Keys should be strings"
  | numberTooLong => "Value error, " ++ Number.tooManyDigits none
  | missing => "Field required"
  | frozen => "Instance is frozen"

/-- One place where data do not follow a structure. -/
structure Violation where
  /-- The keys that lead to the place. -/
  path : List String
  /-- What is wrong there. -/
  kind : ViolationKind
  deriving DecidableEq

/-- How many violations of a structure were found, in words. -/
def violationCount (model : Model) (violations : List Violation) : String :=
  Number.natText violations.length ++
    (if violations.length = 1 then " validation error for " else " validation errors for ") ++
    model.name

/-- The form of a key on the path to a violation. Truth values count as the numbers they stand
for, and a number with too many digits is not shown. -/
def pathLabel : Datum → String
  | .text s => s
  | .bool b => if b then "1" else "0"
  | other => (other.quoted? []).getD "<unprintable int object>"

/-- A result, or all violations that were found. -/
abbrev Checked (α : Type) := Except (List Violation) α

namespace Checked

variable {α β : Type}

/-- A single violation. -/
def fail (path : List String) (kind : ViolationKind) : Checked α := .error [⟨path, kind⟩]

/-- Two results, or the violations of both. -/
def both : Checked α → Checked β → Checked (α × β)
  | .ok x, .ok y => .ok (x, y)
  | .error e, .error f => .error (e ++ f)
  | .error e, .ok _ => .error e
  | .ok _, .error f => .error f

/-- All results, or the violations of all. -/
def all : List (Checked α) → Checked (List α)
  | [] => .ok []
  | first :: rest => (both first (all rest)).map fun r => r.1 :: r.2

end Checked

end DesignTokens
