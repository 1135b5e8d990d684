import DesignTokens.Number.Reading
import DesignTokens.Number.Spelling
import DesignTokens.Text.Search

/-!
# Token values

A base token holds a value string. Two forms have a meaning of their own: a palette reference,
`<key> palette`, and a measure, a number followed by a unit. Everything else is a literal and is
passed through by those who do not ask for the grammar.

## Main Definitions

* `MeasureUnit`, `MeasureUnit.aliases` — the units of a measure and the names they go by
* `TokenValue` — a value string that follows the grammar
* `TokenValue.parse` — the reading of a value string
* `TokenValue.css` — the form that a value takes in a stylesheet
* `isReference`, `referenceKey` — the looser reading of references in raw strings

## Design Notes

References are recognised in two ways. The grammar asks that the second word is the keyword; the
resolution of raw strings only asks that the keyword occurs somewhere and takes the first word as
the key. Whatever the grammar reads as a reference, the looser reading takes for the same one.
-/

namespace DesignTokens

open Number Text

/-- The word that marks a palette reference. -/
def paletteKeyword : String := "palette"

/-- What a number counts. -/
inductive MeasureUnit
  | px
  | rem
  | em
  | base
  | innerGutter
  | absolute
  deriving DecidableEq

namespace MeasureUnit

/-- All names that a unit goes by, in the order in which they are listed to a reader. -/
def aliases : List (String × MeasureUnit) :=
  [("px", px), ("pixel", px), ("pixels", px), ("rem", rem), ("root", rem), ("em", em),
   ("parent", em), ("base", base), ("spacing", base), ("innerGutter", innerGutter),
   ("inner gutter", innerGutter), ("abs", absolute), ("absolute", absolute)]

/-- The name under which a unit is reported. -/
def name : MeasureUnit → String
  | px => "px"
  | rem => "rem"
  | em => "em"
  | base => "base"
  | innerGutter => "innerGutter"
  | absolute => "absolute"

/-- The unit that goes by a name. -/
def ofAlias? (given : String) : Option MeasureUnit := aliases.lookup given

end MeasureUnit

/-- A value string that follows the grammar. -/
inductive TokenValue
  /-- A reference to a palette color by its key. -/
  | reference (key : String)
  /-- A number of some unit. -/
  | measure (unit : MeasureUnit) (number : Double)
  deriving DecidableEq

/-- Why a value string does not follow the grammar. -/
inductive ValueFault
  /-- The string does not start with a finite number. -/
  | noNumber (value : String)
  /-- The words after the number are not the name of a unit. -/
  | unknownUnit (value unit : String)
  deriving DecidableEq

namespace ValueFault

/-- The string that was refused. -/
def value : ValueFault → String
  | noNumber v => v
  | unknownUnit v _ => v

/-- What a reader is told. -/
def message : ValueFault → String
  | noNumber v => "Invalid value: \"" ++ v ++ "\". First part must be a number."
  | unknownUnit _ unit =>
    "Unknown unit: \"" ++ unit ++ "\". Valid units: " ++
      ", ".intercalate (MeasureUnit.aliases.map (·.1) ++ [paletteKeyword])

end ValueFault

/-- The number that a word spells: figures without digit separators, and nothing that is infinite
or no number. -/
def readNumber? (word : String) : Option Double :=
  (Double.ofText? word).filter Double.isFinite

namespace TokenValue

/-- The kind under which a value is reported. -/
def kind : TokenValue → String
  | reference _ => paletteKeyword
  | measure unit _ => unit.name

/-- The value of a list of words; `v` is the string they come from. -/
def ofWords (v : String) : List String → Except ValueFault TokenValue
  | [] => .error (.noNumber v)
  | first :: rest =>
    if rest.head? = some paletteKeyword then .ok (reference first)
    else
      match readNumber? first with
      | none => .error (.noNumber v)
      | some number =>
        let unit := " ".intercalate rest
        match MeasureUnit.ofAlias? unit with
        | none => .error (.unknownUnit v unit)
        | some unit => .ok (measure unit number)

/-- Reads a value string: a key followed by the keyword, or a number followed by a unit. -/
def parse (v : String) : Except ValueFault TokenValue := ofWords v (words v)

/-- The form of a value in a stylesheet. Multiples of the base spacing and of the gutter stand for
the variable itself. -/
def css : TokenValue → String
  | reference key => "var(--color-" ++ key ++ ")"
  | measure .px number => number.cssText ++ "px"
  | measure .rem number => number.cssText ++ "rem"
  | measure .em number => number.cssText ++ "em"
  | measure .base _ => "var(--space-base)"
  | measure .innerGutter _ => "var(--inner-gutter)"
  | measure .absolute number => number.cssText

end TokenValue

/-- Whether a raw string is taken for a palette reference: it contains the keyword. -/
def isReference (v : String) : Bool := Text.contains paletteKeyword v

/-- The palette key that a raw string refers to: its first word. -/
def referenceKey (v : String) : String := firstWord v

end DesignTokens
