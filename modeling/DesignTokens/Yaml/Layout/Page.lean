import DesignTokens.Yaml.Source

/-!
# Pages

A page is a YAML text that is being written. Besides the text it knows where the pen stands,
because the layout of what comes next depends on it: an indicator is set off from what precedes it
by a space, and a nested block may begin on the line of an indicator.

## Main Definitions

* `Page` — a text and the place that has been reached in it
* `Page.put`, `Page.breakLine`, `Page.indentTo`, `Page.indicate` — the ways of writing
* `lineWidth` — the column behind which a line is folded at the next occasion
-/

namespace DesignTokens.Yaml

/-- A line that has passed this column is folded at the next occasion. -/
def lineWidth : Nat := 80

/-- A text that is being written. -/
structure Page where
  /-- What has been written. -/
  written : String
  /-- How many characters stand on the last line. -/
  column : Nat
  /-- Whether the pen stands behind a blank or at the start of a line. -/
  afterBlank : Bool
  /-- Whether the last line holds nothing but indentation and signs that let a block begin. -/
  inIndentation : Bool
  /-- The numbers of the data that were written under an anchor. -/
  anchored : List Nat

namespace Page

/-- The page on which nothing stands. -/
def blank : Page := ⟨"", 0, true, true, []⟩

/-- Writes characters of a line. -/
def put (cs : List Char) (page : Page) : Page :=
  { page with written := page.written ++ String.ofList cs, column := page.column + cs.length }

/-- Ends a line with a line break. -/
def breakLine (break_ : Char) (page : Page) : Page :=
  ⟨page.written.push break_, 0, true, true, page.anchored⟩

/-- Moves to a column: on a new line, unless the last line has only indentation up to there. -/
def indentTo (column : Nat) (page : Page) : Page :=
  let onFreshLine :=
    page.inIndentation && decide (page.column ≤ column) &&
      (page.afterBlank || page.column != column)
  let page := if onFreshLine then page else page.breakLine '\n'
  if page.column < column then
    { page.put (List.replicate (column - page.column) ' ') with afterBlank := true }
  else page

/-- The page with the pen inside of a text, neither behind a blank nor in an indentation. -/
def insideText (page : Page) : Page := { page with afterBlank := false, inIndentation := false }

/-- Writes an indicator, set off by a space if it has to be. The last flag says whether a block may
begin behind it on the same line. -/
def indicate (sign : List Char) (setOff opensBlock : Bool) (page : Page) : Page :=
  let page := if setOff && !page.afterBlank then page.put [' '] else page
  { page.put sign with afterBlank := false, inIndentation := page.inIndentation && opensBlock }

end Page

end DesignTokens.Yaml
