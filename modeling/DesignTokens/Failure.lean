import DesignTokens.Disk.Tree
import DesignTokens.Json.Basic
import DesignTokens.Theme.Reading
import DesignTokens.Theme.Reference
import DesignTokens.Yaml.Scalar

/-!
# Failures

Why a job could not be done. Failures that have to do with themes are told apart from refusals of
the disk and from all others, because jobs recover from some kinds and not from others.

## Main Definitions

* `Failure` — the causes
* `Failure.message` — what a reader is told
* `Failure.isThemeFailure`, `Failure.isDiskFailure`, `Failure.isValueFailure` — the kinds
-/

namespace DesignTokens

/-- Why a job could not be done. -/
inductive Failure
  /-- The disk refused an access. -/
  | disk (fault : DiskFault)
  /-- A file does not hold text. -/
  | undecodable
  /-- A well-formed document holds a scalar that its tag does not allow. -/
  | document (fault : Yaml.Fault)
  /-- A theme file could not be accessed or, without a cause, is no well-formed document. -/
  | unreadable (file : Path) (cause : Option DiskCause)
  /-- A theme file holds something else than a mapping. -/
  | notMapping (file : Path)
  /-- Data were refused as a theme. -/
  | theme (fault : ThemeFault)
  /-- A theme refers to a color that its palette lacks. -/
  | reference (fault : ReferenceFault)
  /-- A value string does not follow the grammar. -/
  | value (fault : ValueFault)
  /-- There is no theme of a name; the themes that there are go by other names. -/
  | unknownTheme (name : String) (available : List String)
  /-- A project folder is needed and there is none. -/
  | noProject
  /-- The project has a theme file of this name already. -/
  | alreadyInProject (name : String)
  /-- Data have no JSON form. -/
  | notJson (refusal : Json.Refusal)
  /-- A number has too many digits to be written out. -/
  | unprintable

namespace Failure

/-- What a reader is told. -/
def message : Failure → String
  | disk fault => fault.message
  | undecodable => "<decode error>"
  | document fault => fault.message
  | unreadable file cause =>
    "Cannot read theme file " ++ file.text ++ ": " ++
      ((cause.map fun c => DiskFault.message ⟨c, file⟩).getD Yaml.Fault.malformed.message)
  | notMapping file => "Theme file " ++ file.text ++ " does not contain a mapping"
  | theme fault => fault.message
  | reference fault => fault.message
  | value fault => fault.message
  | unknownTheme name available =>
    "Theme not found: " ++ name ++ ". Available themes: " ++ ", ".intercalate available
  | noProject => "No project path configured"
  | alreadyInProject name => "Theme already exists in project: " ++ name
  | notJson refusal => refusal.message
  | unprintable => Number.tooManyDigits none

/-- The failure of a refusal of data as a theme. -/
def ofTheme : ThemeFault → Failure
  | .unprintable => unprintable
  | fault => theme fault

/-- The failure of a document in a file. -/
def ofDocument (file : Path) : Yaml.Fault → Failure
  | .malformed | .unfinished => unreadable file none
  | .undecodable => undecodable
  | fault => document fault

/-- Failures that have to do with a theme or with how it is asked for. -/
def isThemeFailure : Failure → Bool
  | unreadable _ _ | notMapping _ | theme _ | reference _ | value _ | unknownTheme _ _ => true
  | _ => false

/-- Refusals that the system reported. -/
def isDiskFailure : Failure → Bool
  | disk fault => fault.cause.isReported
  | _ => false

/-- Failures of documents that have to do with the value of a scalar. -/
def isDocumentValue : Yaml.Fault → Bool
  | .codePoint code => decide (code < Yaml.Fault.hugeCode)
  | .emptyNumber | .notBool _ | .notTimestamp | .placeTooHigh | .timestampOfMapping => false
  | _ => true

/-- Failures that have to do with a value: those of themes, texts that are no texts, names that
are no names, and requests that cannot be met. -/
def isValueFailure : Failure → Bool
  | disk fault => !fault.cause.isReported
  | document fault => isDocumentValue fault
  | notJson refusal => decide (refusal = .circular) || decide (refusal = .integerTooLong)
  | undecodable | noProject | alreadyInProject _ | unprintable => true
  | failure => failure.isThemeFailure

end Failure

end DesignTokens
