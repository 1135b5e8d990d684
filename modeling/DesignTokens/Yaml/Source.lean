import DesignTokens.Datum.Calendar

/-!
# YAML source text

The place that has been reached in a YAML text, and the classes of characters that matter for it.

## Main Definitions

* `Cursor` — the rest of a text with its line and column
* `isBreak`, `endsWord` — line breaks, and what may follow an indicator
* `isAllowed` — the characters that a YAML text may consist of
* `Fault` — why a text has no meaning
* `Source` — a text as far as it can be looked at

## Design Notes

A text is read with its line ends unified, so a carriage return never occurs. The next-line
character breaks lines like a line feed and is read as one; the line and paragraph separators
break lines and are kept.

A text that cannot be looked at to its end has no meaning, but a fault in front of that place is met
first. What is refused because the text ends too early is therefore kept apart until it is known
whether the text ends there.
-/

namespace DesignTokens.Yaml

/-- A line break. -/
def isBreak (c : Char) : Bool :=
  c == '\n' || c.toNat == 0x85 || c.toNat == 0x2028 || c.toNat == 0x2029

/-- A line break or the end of the text. -/
def endsLine : Option Char → Bool
  | none => true
  | some c => isBreak c

/-- A blank, a line break or the end of the text. -/
def endsWord : Option Char → Bool
  | none => true
  | some c => c == ' ' || c == '\t' || isBreak c

/-- A space, a line break or the end of the text. -/
def endsField : Option Char → Bool
  | none => true
  | some c => c == ' ' || isBreak c

/-- The mark of the byte order, which counts for nothing. -/
def isByteOrderMark (c : Char) : Bool := c.toNat == 0xfeff

/-- The characters that a YAML text may consist of. -/
def isAllowed (c : Char) : Bool :=
  let code := c.toNat
  code == 0x9 || code == 0xa || code == 0xd || code == 0x85 ||
    (decide (0x20 ≤ code) && decide (code ≤ 0x7e)) ||
    (decide (0xa0 ≤ code) && decide (code ≤ 0xd7ff)) ||
    (decide (0xe000 ≤ code) && decide (code ≤ 0xfffd)) || decide (0x10000 ≤ code)

/-- What a line break is read as. -/
def readBreak (c : Char) : Char := if c.toNat == 0x85 then '\n' else c

/-- The rest of a text and how far it has been read. -/
structure Cursor where
  /-- What has not been read. -/
  rest : List Char
  /-- How many characters have been read. -/
  index : Nat
  /-- How many line breaks have been read. -/
  line : Nat
  /-- How many characters of the current line have been read. -/
  column : Nat

namespace Cursor

/-- The start of a text. -/
def start (text : List Char) : Cursor := ⟨text, 0, 0, 0⟩

/-- The next character. -/
def peek (c : Cursor) : Option Char := c.rest.head?

/-- A character further on. -/
def peekAt (c : Cursor) (n : Nat) : Option Char := c.rest[n]?

/-- Whether the next character is a given one. -/
def sees (c : Cursor) (char : Char) : Bool := c.rest.head? == some char

/-- The place after the next character. -/
def advance (c : Cursor) : Cursor :=
  match c.rest with
  | [] => c
  | char :: rest =>
    if isBreak char then ⟨rest, c.index + 1, c.line + 1, 0⟩
    else if isByteOrderMark char then { c with rest := rest, index := c.index + 1 }
    else ⟨rest, c.index + 1, c.line, c.column + 1⟩

/-- The place after some characters. -/
def advanceBy : Nat → Cursor → Cursor
  | 0, c => c
  | n + 1, c => advanceBy n c.advance

/-- How many of the next characters belong to a class. -/
def countWhile (c : Cursor) (p : Char → Bool) : Nat := (c.rest.takeWhile p).length

/-- The place after the next characters of a class. -/
def skipWhile (c : Cursor) (p : Char → Bool) : Cursor := advanceBy (c.countWhile p) c

/-- The next characters of a class and the place after them. -/
def takeWhile (c : Cursor) (p : Char → Bool) : List Char × Cursor :=
  (c.rest.takeWhile p, c.skipWhile p)

/-- Whether a line with nothing but a document marker starts here. -/
def seesMarker (c : Cursor) : Bool :=
  match c.rest with
  | '-' :: '-' :: '-' :: rest | '.' :: '.' :: '.' :: rest => endsWord rest.head?
  | _ => false

/-- More steps than reading the rest can take. -/
def budget (c : Cursor) : Nat := c.rest.length + 1

end Cursor

/-- Why a text has no meaning. -/
inductive Fault
  /-- The text is not well-formed, or asks for something that data cannot express. -/
  | malformed
  /-- The text ends where more is needed. -/
  | unfinished
  /-- The bytes of the text encode no text. -/
  | undecodable
  /-- An escape names a code point beyond the last one. -/
  | codePoint (code : Nat)
  /-- A scalar that is tagged as a number is empty. -/
  | emptyNumber
  /-- A scalar that is tagged as an integer does not spell one in some base. -/
  | notInteger (base : Nat) (text : List Char)
  /-- An integer has too many digits. -/
  | integerTooLong (digits : Nat)
  /-- A scalar that is tagged as a floating point number does not spell one. -/
  | notFloat (text : List Char)
  /-- A number in base sixty has a place that is beyond all floating point numbers. -/
  | placeTooHigh
  /-- A scalar that is tagged as a truth value does not spell one. -/
  | notBool (text : List Char)
  /-- A scalar that is tagged as a point of time does not spell one. -/
  | notTimestamp
  /-- A mapping is tagged as a point of time. -/
  | timestampOfMapping
  /-- The figures of a date or time name no day or no point of time. -/
  | calendar (fault : CalendarFault)
  deriving DecidableEq

/-- The least number that is too large to be looked at as a code point. -/
def Fault.hugeCode : Nat := 0x80000000

/-- Refuses what stands at a place, or what is missing there at the end of the text. -/
def Cursor.refuse {α : Type} (c : Cursor) : Except Fault α :=
  .error (if c.rest.isEmpty then .unfinished else .malformed)

/-- A text as far as it can be looked at. -/
structure Source where
  /-- The characters that can be looked at. -/
  text : List Char
  /-- What meets those who look further, unless the text ends there. -/
  barrier : Option Fault

/-- What a fault is in a source: a text that ends too early is not well-formed, unless it cannot be
looked at to its end. -/
def Source.settle (source : Source) : Fault → Fault
  | .unfinished => source.barrier.getD .malformed
  | fault => fault

end DesignTokens.Yaml
