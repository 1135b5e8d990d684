import DesignTokens.Text.Digit
import DesignTokens.Text.Search
import DesignTokens.Yaml.Source

/-!
# YAML tags

A tag tells what a node stands for. A plain scalar without a tag gets one by its form: words for
nothing and for truth values, several spellings of numbers, dates, and two signs with a meaning of
their own.

## Main Definitions

* `Tag` — the tags that have a meaning
* `Tag.ofName` — the tag of a full name
* `Tag.ofPlain` — the tag that a plain scalar gets by its form
* `Timestamp`, `readTimestamp?` — the form of dates and times

## Design Notes

Forms are tried on the text without one line break at its end, which only a quoted scalar can have
that is told to be taken for a plain one.
-/

namespace DesignTokens.Yaml

/-- The tags that have a meaning. -/
inductive Tag
  | null
  | bool
  | int
  | float
  | timestamp
  | binary
  | str
  | seq
  | map
  | set
  | omap
  | pairs
  /-- The key whose value is a mapping, or several, to be merged into the one around it. -/
  | merge
  /-- The key whose value stands for the mapping around it where a scalar is wanted. -/
  | value
  /-- A tag without a meaning. -/
  | other
  deriving DecidableEq

namespace Tag

/-- What the full names of all tags with a meaning start with. -/
def domain : String := "tag:yaml.org,2002:"

/-- The tags with a meaning under their names. -/
def names : List (String × Tag) :=
  [("null", null), ("bool", bool), ("int", int), ("float", float), ("timestamp", timestamp),
   ("binary", binary), ("str", str), ("seq", seq), ("map", map), ("set", set), ("omap", omap),
   ("pairs", pairs), ("merge", merge), ("value", value)]

/-- The tag of a full name. -/
def ofName (full : String) : Tag :=
  ((names.find? fun e => domain ++ e.1 == full).map (·.2)).getD other

end Tag

/-- A digit or an underscore. -/
def isDigitOrLine (c : Char) : Bool := c.isDigit || c == '_'

/-- A text without a sign in front. -/
def dropSign : List Char → List Char
  | '+' :: rest | '-' :: rest => rest
  | cs => cs

/-- A nonempty run of characters of a class. -/
def isRunOf (p : Char → Bool) (cs : List Char) : Bool := !cs.isEmpty && cs.all p

/-- One or two digits that count minutes or seconds. -/
def isSixtieth : List Char → Bool
  | [a] => a.isDigit
  | [a, b] => decide ('0' ≤ a) && decide (a ≤ '5') && b.isDigit
  | _ => false

/-- Whole sixties and sixtieths, as in `1:30`: at least two parts between colons. -/
def isSexagesimal (first : Char → Bool) (cs : List Char) : Bool :=
  match Text.splitAtChar ':' cs with
  | (c :: lead) :: part :: parts =>
    first c && lead.all isDigitOrLine && (part :: parts).all isSixtieth
  | _ => false

/-- The form of integers. -/
def isIntForm (cs : List Char) : Bool :=
  match dropSign cs with
  | '0' :: 'b' :: rest => isRunOf (fun c => c == '0' || c == '1' || c == '_') rest
  | '0' :: 'x' :: rest => isRunOf (fun c => (Text.hexDigitValue? c).isSome || c == '_') rest
  | ['0'] => true
  | '0' :: rest => rest.all fun c => (decide ('0' ≤ c) && decide (c ≤ '7')) || c == '_'
  | c :: rest =>
    c.isDigit &&
      (rest.all isDigitOrLine || isSexagesimal (fun d => d.isDigit && d != '0') (c :: rest))
  | [] => false

/-- An exponent, which has a sign. -/
def isExponentForm : List Char → Bool
  | [] => true
  | e :: sign :: digits =>
    (e == 'e' || e == 'E') && (sign == '-' || sign == '+') && isRunOf Char.isDigit digits
  | _ => false

/-- What follows the digits behind a point. -/
def afterFraction (cs : List Char) : List Char := cs.dropWhile isDigitOrLine

/-- The form of floating point numbers: a point is needed. -/
def isFloatForm (cs : List Char) : Bool :=
  let unsigned := dropSign cs
  let whole := unsigned.takeWhile fun c => c != '.'
  let behind := (unsigned.dropWhile fun c => c != '.').drop 1
  let pointed := unsigned.contains '.'
  let words := ["inf", "Inf", "INF"].map String.toList
  let nanWords := ["nan", "NaN", "NAN"].map String.toList
  pointed &&
    match whole with
    | [] =>
      words.contains behind ||
        (cs.head? == some '.' &&
          (nanWords.contains behind ||
            (behind.head?.any Char.isDigit && isExponentForm (afterFraction behind))))
    | c :: rest =>
      c.isDigit &&
        ((rest.all isDigitOrLine && isExponentForm (afterFraction behind)) ||
          (isSexagesimal Char.isDigit whole && (afterFraction behind).isEmpty))

/-- The words for truth values. -/
def boolWords : List (List Char) :=
  ["yes", "Yes", "YES", "no", "No", "NO", "true", "True", "TRUE", "false", "False", "FALSE",
   "on", "On", "ON", "off", "Off", "OFF"].map String.toList

/-- The words for nothing, among them no word at all. -/
def nullWords : List (List Char) := ["~", "null", "Null", "NULL", ""].map String.toList

/-- The figures of a date and perhaps a time. -/
structure Timestamp where
  /-- The year. -/
  year : Nat
  /-- The month. -/
  month : Nat
  /-- The day. -/
  day : Nat
  /-- Hour, minute, second, the digits of its fraction, and the offset in minutes. -/
  time : Option (Nat × Nat × Nat × List Char × Option Int)
  /-- Whether month and day have two digits each. -/
  padded : Bool

/-- The number of some digits. -/
def digitsValue (cs : List Char) : Nat :=
  cs.foldl (fun n c => 10 * n + (Text.asciiDigitValue? c).getD 0) 0

/-- Between `least` and `most` digits at the start of a text, as many as possible. -/
def takeDigits (least most : Nat) (cs : List Char) : Option (List Char × List Char) :=
  let digits := (cs.take most).takeWhile Char.isDigit
  if digits.length < least then none else some (digits, cs.drop digits.length)

/-- A character that has to be there. -/
def takeChar (mark : Char) : List Char → Option (List Char)
  | c :: rest => if c == mark then some rest else none
  | [] => none

/-- Blanks dropped. -/
def dropBlanks (cs : List Char) : List Char := cs.dropWhile fun c => c == ' ' || c == '\t'

/-- An offset from universal time at the end of a text, in minutes. -/
def readOffset? (cs : List Char) : Option (Option Int) :=
  match dropBlanks cs with
  | [] => if cs.isEmpty then some none else none
  | ['Z'] => some (some 0)
  | sign :: rest => do
    if sign != '+' && sign != '-' then none
    let (hours, rest) ← takeDigits 1 2 rest
    let minutes ←
      match rest with
      | [] => some []
      | c :: rest => do
        if c != ':' then none
        let (minutes, rest) ← takeDigits 2 2 rest
        if rest.isEmpty then some minutes else none
    let span : Int := 60 * digitsValue hours + digitsValue minutes
    some (some (if sign == '-' then -span else span))

/-- A time of day at the end of a text, with what parts it from the date. -/
def readTime? (cs : List Char) : Option (Nat × Nat × Nat × List Char × Option Int) := do
  let rest ←
    match cs with
    | c :: rest =>
      if c == 'T' || c == 't' then some rest
      else if c == ' ' || c == '\t' then some (dropBlanks rest)
      else none
    | [] => none
  let (hour, rest) ← takeDigits 1 2 rest
  let rest ← takeChar ':' rest
  let (minute, rest) ← takeDigits 2 2 rest
  let rest ← takeChar ':' rest
  let (second, rest) ← takeDigits 2 2 rest
  let (fraction, rest) :=
    match rest with
    | '.' :: digits => (digits.takeWhile Char.isDigit, digits.dropWhile Char.isDigit)
    | _ => ([], rest)
  let offset ← readOffset? rest
  some (digitsValue hour, digitsValue minute, digitsValue second, fraction, offset)

/-- The form of dates and times. -/
def readTimestamp? (cs : List Char) : Option Timestamp := do
  let (year, rest) ← takeDigits 4 4 cs
  let rest ← takeChar '-' rest
  let (month, rest) ← takeDigits 1 2 rest
  let rest ← takeChar '-' rest
  let (day, rest) ← takeDigits 1 2 rest
  let time ← if rest.isEmpty then some none else (readTime? rest).map some
  some ⟨digitsValue year, digitsValue month, digitsValue day, time,
    month.length == 2 && day.length == 2⟩

/-- Whether a scalar has the form of a date or time: a date alone has figures of full length. -/
def isTimestampForm (cs : List Char) : Bool :=
  (readTimestamp? cs).any fun t => t.padded || t.time.isSome

/-- A text without one line break at its end. -/
def dropLastBreak (cs : List Char) : List Char :=
  if 1 < cs.length && cs.getLast? == some '\n' then cs.dropLast else cs

/-- The tag that a plain scalar gets by its form. -/
def Tag.ofPlain (text : String) : Tag :=
  let cs := dropLastBreak text.toList
  if boolWords.contains cs then .bool
  else if isFloatForm cs then .float
  else if isIntForm cs then .int
  else if cs == ['<', '<'] then .merge
  else if nullWords.contains cs then .null
  else if isTimestampForm cs then .timestamp
  else if cs == ['='] then .value
  else if cs == ['!'] || cs == ['&'] || cs == ['*'] then .other
  else .str

end DesignTokens.Yaml
