import DesignTokens.Text.Quoted
import DesignTokens.Yaml.Layout.Page
import DesignTokens.Yaml.Tag

/-!
# Scalars on the page

A scalar is written in the plainest style that does not change what it is read as: plain, between
single quotes, or between double quotes, where every character can be escaped. Binary data are
written as a literal block.

## Main Definitions

* `Scalar` — a text with the tag that it is to be read with
* `ScalarStyle`, `Scalar.style` — the styles and the choice among them
* `Scalar.write` — a scalar on a page

## Design Notes

Long lines are folded at single spaces. A key that stands in front of a colon is never folded, and
what would need several lines cannot be such a key.
-/

namespace DesignTokens.Yaml

/-- A text with the tag that it is to be read with. -/
structure Scalar where
  /-- The tag. -/
  tag : Tag
  /-- The characters of the text. -/
  text : List Char

/-- The ways to write a scalar. -/
inductive ScalarStyle
  | plain
  | literal
  | singleQuoted
  | doubleQuoted
  deriving DecidableEq

/-! ## The choice of a style -/

/-- Whether two characters that follow each other belong to two classes. -/
def hasNeighbours (p q : Char → Bool) (cs : List Char) : Bool :=
  (cs.zip cs.tail).any fun pair => p pair.1 && q pair.2

/-- A space. -/
def isSpace (c : Char) : Bool := c == ' '

/-- What parts an indicator from the text around it. -/
def partsIndicator (c : Char) : Bool :=
  c == ' ' || c == '\t' || c == '\r' || c.toNat == 0 || isBreak c

/-- A character that can only be written as an escape. -/
def isSpecial (c : Char) : Bool :=
  let code := c.toNat
  !(c == '\n' || (decide (0x20 ≤ code) && decide (code ≤ 0x7e)) || code == 0x85 ||
    (decide (0xa0 ≤ code) && decide (code ≤ 0xd7ff)) ||
    (decide (0xe000 ≤ code) && decide (code ≤ 0xfffd) && !isByteOrderMark c) ||
    (decide (0x10000 ≤ code) && decide (code < 0x10ffff)))

/-- The characters that cannot begin a plain scalar. -/
def openingSigns : List Char :=
  "#,[]\x7b\x7d&*!|>'\"%@\x60".toList

/-- Whether a text begins like something else than a plain scalar. -/
def beginsLikeMarkup : List Char → Bool
  | '-' :: '-' :: '-' :: _ | '.' :: '.' :: '.' :: _ => true
  | '?' :: rest | '-' :: rest => rest.head?.all partsIndicator
  | c :: _ => openingSigns.contains c
  | [] => false

/-- Whether a text could be taken for a key or would end in a comment. -/
def holdsIndicator (cs : List Char) : Bool :=
  hasNeighbours (· == ':') partsIndicator cs || cs.getLast? == some ':' ||
    hasNeighbours partsIndicator (· == '#') cs

/-- Whether a space or a line break stands at an end of a text. -/
def hasOuterBlank (cs : List Char) : Bool :=
  cs.head?.any (fun c => isSpace c || isBreak c) || cs.getLast?.any fun c => isSpace c || isBreak c

/-- Whether line breaks or escapes would be lost in every style but double quotes. -/
def needsEscapes (cs : List Char) : Bool :=
  cs.any isSpecial || hasNeighbours isSpace isBreak cs

namespace Scalar

/-- Whether a scalar takes several lines. -/
def isMultiline (s : Scalar) : Bool := s.text.any isBreak

/-- Whether the plain text of a scalar is read as that scalar. -/
def allowsPlain (s : Scalar) : Bool :=
  decide (Tag.ofPlain (String.ofList s.text) = s.tag) && !hasOuterBlank s.text &&
    !needsEscapes s.text && !s.isMultiline && !beginsLikeMarkup s.text && !holdsIndicator s.text

/-- Whether a scalar can be written between single quotes. -/
def allowsSingleQuotes (s : Scalar) : Bool :=
  !needsEscapes s.text && !hasNeighbours isBreak isSpace s.text

/-- The style of a scalar. Binary data ask for a block, which no key in front of a colon can be. -/
def style (simpleKey : Bool) (s : Scalar) : ScalarStyle :=
  if s.tag = .binary then
    if simpleKey || s.text.isEmpty then .doubleQuoted else .literal
  else if s.allowsPlain && !(simpleKey && s.text.isEmpty) then .plain
  else if s.allowsSingleQuotes && !(simpleKey && s.isMultiline) then .singleQuoted
  else .doubleQuoted

/-- How long the name of a scalar's tag is when it is written out. -/
def tagLength (s : Scalar) : Nat :=
  2 + ((Tag.names.find? fun e => decide (e.2 = s.tag)).map (·.1.length)).getD 0

/-- Whether a scalar can be a key in front of a colon: it is not empty, takes one line and is not
too long. -/
def isSimpleKey (s : Scalar) : Bool :=
  !s.text.isEmpty && !s.isMultiline && decide (s.tagLength + s.text.length < 128)

end Scalar

/-! ## Writing -/

/-- Whether two characters belong to one run: of spaces, of line breaks, or of other characters. -/
def sameRun (a b : Char) : Bool := isSpace a == isSpace b && isBreak a == isBreak b

/-- Writes a run of line breaks. A line feed is written once more, because reading folds the first
one into a space. -/
def putBreaks (indent : Nat) (run : List Char) (page : Page) : Page :=
  let page := if run.head? == some '\n' then page.breakLine '\n' else page
  (run.foldl (fun page c => page.breakLine c) page).indentTo indent

/-- Writes runs of characters. A single space inside of the text may become a line break. -/
def putRuns (indent : Nat) (mayFold first : Bool) : List (List Char) → Page → Page
  | [], page => page
  | run :: rest, page =>
    let folds :=
      mayFold && !first && !rest.isEmpty && run == [' '] && decide (lineWidth < page.column)
    let page :=
      if folds then page.indentTo indent
      else if run.head?.any isBreak then putBreaks indent run page
      else page.put run
    putRuns indent mayFold false rest page

/-- The letters of the escapes that have one. -/
def escapeLetters : List (Nat × Char) :=
  [(0x0, '0'), (0x7, 'a'), (0x8, 'b'), (0x9, 't'), (0xa, 'n'), (0xb, 'v'), (0xc, 'f'), (0xd, 'r'),
   (0x1b, 'e'), (0x22, '"'), (0x5c, '\\'), (0x85, 'N'), (0xa0, '_'), (0x2028, 'L'), (0x2029, 'P')]

/-- Whether a character cannot stand for itself between double quotes. -/
def needsEscape (c : Char) : Bool :=
  let code := c.toNat
  c == '"' || c == '\\' || isBreak c || isByteOrderMark c ||
    !((decide (0x20 ≤ code) && decide (code ≤ 0x7e)) ||
      (decide (0xa0 ≤ code) && decide (code ≤ 0xd7ff)) ||
      (decide (0xe000 ≤ code) && decide (code ≤ 0xfffd)))

/-- The hexadecimal digits of a number, with capital letters. -/
def capitalDigits (width n : Nat) : List Char := (Text.hexDigits width n).map Char.toUpper

/-- The escape of a character. -/
def escapeOf (c : Char) : List Char :=
  let code := c.toNat
  match escapeLetters.lookup code with
  | some letter => ['\\', letter]
  | none =>
    if code < 0x100 then '\\' :: 'x' :: capitalDigits 2 code
    else if code < 0x10000 then '\\' :: 'u' :: capitalDigits 4 code
    else '\\' :: 'U' :: capitalDigits 8 code

/-- Ends a line of a text between double quotes so that the break counts for nothing. A space at
the start of the next line has to be kept from counting as indentation. -/
def continueLine (indent : Nat) (spaceFollows : Bool) (page : Page) : Page :=
  let page := ((page.put ['\\']).indentTo indent).insideText
  if spaceFollows then page.put ['\\'] else page

/-- Writes the characters of a text between double quotes. Lines are folded at spaces and next to
escapes; `behindEscape` tells whether an escape has just been written. -/
def putEscaped (indent : Nat) (mayFold first behindEscape : Bool) : List Char → Page → Page
  | [], page => page
  | c :: rest, page =>
    let mayFoldHere := mayFold && !first && !rest.isEmpty
    if needsEscape c then
      let page := page.put (escapeOf c)
      let page :=
        if mayFoldHere && decide (lineWidth + 1 < page.column) then
          continueLine indent (rest.head?.any isSpace) page
        else page
      putEscaped indent mayFold false true rest page
    else
      let page :=
        if mayFoldHere && (isSpace c || behindEscape) && decide (lineWidth < page.column) then
          continueLine indent (isSpace c) page
        else page
      putEscaped indent mayFold false false rest (page.put [c])

/-- Writes the lines of a literal block. -/
def putLines (indent : Nat) (cs : List Char) (page : Page) : Page :=
  let lines := (Text.splitAtChar '\n' cs).filter fun line => !line.isEmpty
  lines.foldl (fun page line => ((page.indentTo indent).put line).breakLine '\n') page

/-- A text between single quotes, with every quote in it written twice. -/
def doubleQuotes (cs : List Char) : List Char :=
  cs.flatMap fun c => if c == '\'' then ['\'', '\''] else [c]

/-- Writes a scalar, whose further lines are indented. -/
def Scalar.write (indent : Nat) (simpleKey : Bool) (s : Scalar) (page : Page) : Page :=
  let page := if s.tag = .binary then page.indicate "!!binary".toList true false else page
  match s.style simpleKey with
  | .plain =>
    let page := if page.afterBlank then page else page.put [' ']
    (putRuns indent (!simpleKey) false (s.text.splitBy sameRun) page.insideText).insideText
  | .singleQuoted =>
    let runs := (s.text.splitBy sameRun).map doubleQuotes
    (putRuns indent (!simpleKey) true runs (page.indicate ['\''] true false)).indicate ['\'']
      false false
  | .doubleQuoted =>
    (putEscaped indent (!simpleKey) true false s.text
      (page.indicate ['"'] true false)).indicate ['"'] false false
  | .literal => putLines indent s.text ((page.indicate ['|'] true false).breakLine '\n')

end DesignTokens.Yaml
