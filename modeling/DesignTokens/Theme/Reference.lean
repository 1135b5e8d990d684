import DesignTokens.Theme.Basic
import DesignTokens.Value

/-!
# References to palette colors

Token values may refer to palette colors. References are resolved and checked on raw strings: a
string that contains the keyword is a reference to the color named by its first word, and every
other string stands for itself.

## Main Definitions

* `Theme.resolve` — the literal that a value stands for
* `Theme.checkReference` — whether one value refers to a color that exists
* `Theme.checkReferences` — the same for all checked sections, up to the first failure
* `ReferenceFault` — a reference to a color that the palette lacks
-/

namespace DesignTokens

/-- A reference to a color that the palette lacks. -/
inductive ReferenceFault
  /-- Found while a value of a theme was resolved. -/
  | unresolved (key theme : String) (available : List String)
  /-- Found while the references of a theme were checked, at a place if that is known. -/
  | invalid (key : String) (place : Option String) (available : List String)
  deriving DecidableEq

namespace ReferenceFault

/-- The color that was referred to. -/
def key : ReferenceFault → String
  | unresolved key _ _ => key
  | invalid key _ _ => key

/-- The place of the reference, if it is known. -/
def place : ReferenceFault → Option String
  | unresolved _ _ _ => none
  | invalid _ place _ => place

/-- The colors that could have been referred to. -/
def available : ReferenceFault → List String
  | unresolved _ _ available => available
  | invalid _ _ available => available

/-- The words for a place; an empty place counts as none. -/
def placeText : Option String → String
  | none | some "" => ""
  | some place => " in " ++ place

/-- What a reader is told. -/
def message : ReferenceFault → String
  | unresolved key theme _ =>
    "Palette color \"" ++ key ++ "\" not found in theme '" ++ theme ++ "'"
  | invalid key place available =>
    "Invalid palette reference \"" ++ key ++ "\"" ++ placeText place ++
      ". Available colors: " ++ ", ".intercalate available

end ReferenceFault

namespace Theme

/-- The literal that a value stands for: the color of a reference, and else the value itself. -/
def resolve (theme : Theme) (value : String) : Except ReferenceFault String :=
  if isReference value then
    let key := referenceKey value
    match theme.base.palette.find? key with
    | some color => .ok color
    | none => .error (.unresolved key theme.name theme.base.palette.keys)
  else .ok value

/-- Passes unless a value refers to a color that the palette lacks. -/
def checkReference (theme : Theme) (value : String) (place : Option String) :
    Except ReferenceFault Unit :=
  if isReference value && !theme.base.palette.contains (referenceKey value) then
    .error (.invalid (referenceKey value) place theme.base.palette.keys)
  else .ok ()

/-- The sections whose references are checked, in the order of the check. -/
def checkedSections (theme : Theme) : List (String × TokenMap) :=
  [("light.bg", theme.light.bg), ("dark.bg", theme.dark.bg),
   ("base.spacing", theme.base.spacing), ("base.size", theme.base.size)]

/-- The values of the checked sections with their places, in the order of the check. -/
def checkedValues (theme : Theme) : List (String × String) :=
  theme.checkedSections.flatMap fun part =>
    part.2.entries.map fun e => (part.1 ++ "." ++ e.1, e.2)

/-- Passes unless a checked section holds a reference to a color that the palette lacks; the first
one is reported. -/
def checkReferences (theme : Theme) : Except ReferenceFault Unit :=
  theme.checkedValues.forM fun v => theme.checkReference v.2 (some v.1)

end Theme

end DesignTokens
