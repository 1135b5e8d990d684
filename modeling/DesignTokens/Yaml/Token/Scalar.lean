import DesignTokens.Text.Digit
import DesignTokens.Text.Utf8
import DesignTokens.Yaml.Token.Name

/-!
# Scalars in YAML texts

The three ways in which a scalar is written: plain, between quotes, and as a block of lines. Lines
are folded in all of them, block scalars that are marked as literal apart: a single line break
becomes a space, and of several line breaks the first one is dropped.

## Main Definitions

* `readPlain` — a plain scalar
* `readQuoted` — a scalar between single or double quotes
* `readBlock` — a literal or folded block

## Design Notes

A text is made of characters, and surrogates are left out of it. An escape by the code point of a
surrogate, also one of two that make a pair in other formats, stands for no character; where a
reader might keep the lone surrogate, and leave it to others to refuse it, the replacement character
is read here.
-/

namespace DesignTokens.Yaml

/-- Characters with what they end up at. -/
abbrev Lexeme := List Char × Cursor

/-- A line break that is here, as it is read. -/
def takeBreak (c : Cursor) : Lexeme :=
  match c.peek with
  | some char => if isBreak char then ([readBreak char], c.advance) else ([], c)
  | none => ([], c)

/-- What a line break and the further breaks after it are folded into. -/
def foldBreaks (first more : List Char) : List Char :=
  if first != ['\n'] then first ++ more
  else if more.isEmpty then [' ']
  else more

/-! ## Plain scalars -/

/-- Whether a colon ends a plain scalar: the next character does not continue a word. -/
def colonEnds (flow : Bool) (next : Option Char) : Bool :=
  endsWord next || (flow && next.any (",[]{}".toList.contains ·))

/-- The length of the plain run that a text starts with: up to a blank, a line break, a colon that
ends it or, inside brackets, a character that has a meaning there. -/
def plainLength (flow : Bool) : List Char → Nat
  | [] => 0
  | c :: rest =>
    if endsWord (some c) || (c == ':' && colonEnds flow rest.head?) ||
        (flow && ",?[]{}".toList.contains c) then 0
    else plainLength flow rest + 1

/-- Spaces and line breaks between the lines of a plain scalar; nothing when a document marker
follows. Only the breaks are kept. -/
def readPlainBreaks : Nat → List Char → Cursor → Option Lexeme
  | 0, breaks, c => some (breaks, c)
  | fuel + 1, breaks, c =>
    match c.peek with
    | none => some (breaks, c)
    | some char =>
      if char == ' ' then readPlainBreaks fuel breaks c.advance
      else if isBreak char then
        let after := c.advance
        if after.seesMarker then none
        else readPlainBreaks fuel (breaks ++ [readBreak char]) after
      else some (breaks, c)

/-- What may stand between two runs of a plain scalar, folded; empty when the scalar ends. The
flag tells whether a line break was read. -/
def readPlainGap (c : Cursor) : List Char × Bool × Cursor :=
  let (spaces, after) := c.takeWhile (· == ' ')
  match after.peek with
  | none => (spaces, false, after)
  | some char =>
    if isBreak char then
      let next := after.advance
      if next.seesMarker then ([], true, next)
      else
        match readPlainBreaks next.budget [] next with
        | none => ([], true, next)
        | some (breaks, place) => (foldBreaks [readBreak char] breaks, true, place)
    else (spaces, false, after)

/-- The runs of a plain scalar with the gaps between them. The flag tells whether the last gap
held a line break. -/
def readPlainRuns (flow : Bool) (indent : Int) : Nat → List Char → Bool → Cursor →
    List Char × Bool × Cursor
  | 0, _, broken, c => ([], broken, c)
  | fuel + 1, gap, broken, c =>
    let length := plainLength flow c.rest
    if c.sees '#' || length == 0 then ([], broken, c)
    else
      let run := c.rest.take length
      let (next, brokenNext, after) := readPlainGap (c.advanceBy length)
      if next.isEmpty || after.sees '#' || (!flow && decide ((after.column : Int) < indent)) then
        (gap ++ run, brokenNext, after)
      else
        let (more, brokenMore, place) := readPlainRuns flow indent fuel next brokenNext after
        (gap ++ run ++ more, brokenMore, place)

/-- A plain scalar whose lines are indented by `indent` at least. The flag tells whether the gap
behind it holds a line break. -/
def readPlain (flow : Bool) (indent : Int) (c : Cursor) : String × Bool × Cursor :=
  let (text, broken, after) := readPlainRuns flow indent c.budget [] false c
  (String.ofList text, broken, after)

/-! ## Quoted scalars -/

/-- The escapes of a single letter in a double-quoted scalar. -/
def letterEscape? (c : Char) : Option Char :=
  match c with
  | '0' => some (Char.ofNat 0)
  | 'a' => some (Char.ofNat 7)
  | 'b' => some (Char.ofNat 8)
  | 't' => some '\t'
  | '\t' => some '\t'
  | 'n' => some '\n'
  | 'v' => some (Char.ofNat 11)
  | 'f' => some (Char.ofNat 12)
  | 'r' => some '\r'
  | 'e' => some (Char.ofNat 27)
  | ' ' => some ' '
  | '"' => some '"'
  | '\\' => some '\\'
  | '/' => some '/'
  | 'N' => some (Char.ofNat 0x85)
  | '_' => some (Char.ofNat 0xa0)
  | 'L' => some (Char.ofNat 0x2028)
  | 'P' => some (Char.ofNat 0x2029)
  | _ => none

/-- How many digits follow the letter of an escape by code point. -/
def codeEscapeLength? (c : Char) : Option Nat :=
  match c with
  | 'x' => some 2
  | 'u' => some 4
  | 'U' => some 8
  | _ => none

/-- The character of an escaped code point. A surrogate, which is no character, is replaced. -/
def escapedChar (code : Nat) : Except Fault Char :=
  if 0x10ffff < code then .error (.codePoint code)
  else .ok ((Text.charOfCode? code).getD (Char.ofNat 0xfffd))

/-- The line breaks after a line break inside quotes, with the blanks that start the lines. A
document marker must not follow. -/
def readQuotedBreaks : Nat → Cursor → Except Fault Lexeme
  | 0, c => .ok ([], c)
  | fuel + 1, c =>
    if c.seesMarker then c.refuse
    else
      let c := c.skipWhile fun char => char == ' ' || char == '\t'
      match takeBreak c with
      | ([], _) => .ok ([], c)
      | (first, after) => do
        let (more, place) ← readQuotedBreaks fuel after
        .ok (first ++ more, place)

/-- The character or the folded line break that an escape in a double-quoted scalar stands for;
the cursor is behind the backslash. -/
def readEscape (c : Cursor) : Except Fault Lexeme :=
  match c.peek with
  | none => c.refuse
  | some char =>
    match letterEscape? char, codeEscapeLength? char with
    | some meant, _ => .ok ([meant], c.advance)
    | none, some length =>
      let digits := c.advance.rest.take length
      match Text.hexValue? digits with
      | some code =>
        if digits.length = length then do
          let meant ← escapedChar code
          .ok ([meant], c.advanceBy (length + 1))
        else (c.skipWhile fun _ => true).refuse
      | none => c.refuse
    | none, none => if isBreak char then readQuotedBreaks c.budget c.advance else c.refuse

/-- The characters up to the closing quote. -/
def readQuotedChars (quote : Char) : Nat → Cursor → Except Fault Lexeme
  | 0, c => c.refuse
  | fuel + 1, c =>
    match c.rest with
    | [] => c.refuse
    | char :: rest =>
      let continueWith := fun (text : List Char) (after : Cursor) => do
        let (more, place) ← readQuotedChars quote fuel after
        Except.ok (text ++ more, place)
      if char == quote then
        if quote == '\'' && rest.head? == some '\'' then continueWith ['\''] (c.advanceBy 2)
        else .ok ([], c.advance)
      else if quote == '"' && char == '\\' then do
        let (text, after) ← readEscape c.advance
        continueWith text after
      else if endsWord (some char) then
        let (blanks, after) := c.takeWhile fun b => b == ' ' || b == '\t'
        match after.peek with
        | none => after.refuse
        | some next =>
          if isBreak next then do
            let (breaks, place) ← readQuotedBreaks after.budget after.advance
            continueWith (foldBreaks [readBreak next] breaks) place
          else continueWith blanks after
      else continueWith [char] c.advance

/-- A scalar between quotes. -/
def readQuoted (c : Cursor) : Except Fault (String × Cursor) := do
  let (text, after) ← readQuotedChars (c.peek.getD '"') c.budget c.advance
  .ok (String.ofList text, after)

/-! ## Block scalars -/

/-- What is done with the line breaks at the end of a block. -/
inductive Chomping
  | strip
  | clip
  | keep
  deriving DecidableEq

/-- The mark for the breaks at the end. -/
def chompingOf? : Option Char → Option Chomping
  | some '+' => some .keep
  | some '-' => some .strip
  | _ => none

/-- The digit for the indentation, which is not zero. -/
def indentationOf? (c : Option Char) : Option Nat := c.bind Text.asciiDigitValue?

/-- The marks behind the indicator of a block, in either order, and the rest of the line. -/
def readBlockHeader (c : Cursor) : Except Fault (Chomping × Option Nat × Cursor) := do
  let (chomping, indentation, after) :=
    match chompingOf? c.peek, indentationOf? c.peek with
    | some chomping, _ =>
      match indentationOf? (c.peekAt 1) with
      | some n => (chomping, some n, c.advanceBy 2)
      | none => (chomping, none, c.advance)
    | none, some n =>
      match chompingOf? (c.peekAt 1) with
      | some chomping => (chomping, some n, c.advanceBy 2)
      | none => (.clip, some n, c.advance)
    | none, none => (.clip, none, c)
  if indentation == some 0 || !endsField after.peek then after.refuse
  let finished ← finishLine after
  .ok (chomping, indentation, skipBreak finished)

/-- The empty lines at the start of a block whose indentation is not marked, and the longest run
of spaces among them. -/
def readLeadingLines : Nat → Nat → Cursor → List Char × Nat × Cursor
  | 0, widest, c => ([], widest, c)
  | fuel + 1, widest, c =>
    match c.peek with
    | none => ([], widest, c)
    | some char =>
      if char == ' ' then
        let after := c.advance
        readLeadingLines fuel (max widest after.column) after
      else if isBreak char then
        let (breaks, width, place) := readLeadingLines fuel widest c.advance
        (readBreak char :: breaks, width, place)
      else ([], widest, c)

/-- The place behind the indentation of a line, as far as there is any. -/
def skipIndentation (indent : Nat) (c : Cursor) : Cursor :=
  Cursor.advanceBy ((c.rest.take (indent - c.column)).takeWhile (· == ' ')).length c

/-- Empty lines inside a block, with the indentation of the line behind them. -/
def readBlockBreaks (indent : Nat) : Nat → Cursor → Lexeme
  | 0, c => ([], c)
  | fuel + 1, c =>
    let c := skipIndentation indent c
    match takeBreak c with
    | ([], _) => ([], c)
    | (first, after) =>
      let (more, place) := readBlockBreaks indent fuel after
      (first ++ more, place)

/-- Whether a line starts with a blank. -/
def startsBlank (c : Cursor) : Bool := c.sees ' ' || c.sees '\t'

/-- The lines of a block, without the breaks at its end: the text, the last line's break, and the
empty lines behind it. -/
def readBlockLines (folded : Bool) (indent : Nat) : Nat → List Char → Cursor →
    List Char × List Char × List Char × Cursor
  | 0, breaks, c => ([], [], breaks, c)
  | fuel + 1, breaks, c =>
    if c.column ≠ indent || c.rest.isEmpty then ([], [], breaks, c)
    else
      let blank := startsBlank c
      let (line, ending) := c.takeWhile fun char => !isBreak char
      let (lineBreak, next) := takeBreak ending
      let (following, after) := readBlockBreaks indent next.budget next
      let text := breaks ++ line
      if after.column = indent && !after.rest.isEmpty then
        let joint :=
          if folded && lineBreak == ['\n'] && !blank && !startsBlank after then
            if following.isEmpty then [' '] else []
          else lineBreak
        let (more, last, trailing, place) := readBlockLines folded indent fuel following after
        (text ++ joint ++ more, last, trailing, place)
      else (text, lineBreak, following, after)

/-- A block scalar; `indent` is the indentation of the collection around it. -/
def readBlock (folded : Bool) (indent : Int) (c : Cursor) : Except Fault (String × Cursor) := do
  let (chomping, marked, start) ← readBlockHeader c.advance
  let least : Nat := max 1 (indent + 1).toNat
  let (breaks, width, start) :=
    match marked with
    | some n =>
      let width := least + n - 1
      let (breaks, place) := readBlockBreaks width start.budget start
      (breaks, width, place)
    | none =>
      let (breaks, widest, place) := readLeadingLines start.budget 0 start
      (breaks, max least widest, place)
  let (text, last, trailing, after) := readBlockLines folded width start.budget breaks start
  let ending :=
    match chomping with
    | .strip => []
    | .clip => last
    | .keep => last ++ trailing
  .ok (String.ofList (text ++ ending), after)

end DesignTokens.Yaml
