import DesignTokens.Json.Basic
import DesignTokens.Number.Reading
import DesignTokens.OrderedMap
import DesignTokens.Text.Utf8

/-!
# Reading JSON texts

The value that a JSON text stands for, by the grammar of the JSON standard. A text is read character
by character; the arrays and objects around the place that has been reached are kept as frames, the
innermost one first.

## Main Definitions

* `Json.unescape?` — the string between two quotes
* `Json.scalar?` — the value of a word or of a number
* `Json.Reader`, `Json.Reader.step` — how far a text has been read, and one character more
* `Json.read?` — the value of a text, if it is a JSON text

## Design Notes

A word or a number ends where a blank, a comma or a closing bracket follows, and is looked at only
then. Of several members of an object that go by one name the last one counts, at the place of the
first one. Half of a surrogate pair stands for no character, so a string with such a half alone is
refused; the grammar would allow it and leaves its meaning open.
-/

namespace DesignTokens.Json

open Number Text

/-! ### Strings -/

/-- The code point that a letter stands for after a backslash. -/
def escapedCode? (c : Char) : Option Nat :=
  if c == '"' || c == '\\' || c == '/' then some c.toNat
  else if c == 'b' then some 0x8
  else if c == 'f' then some 0xc
  else if c == 'n' then some 0xa
  else if c == 'r' then some 0xd
  else if c == 't' then some 0x9
  else none

/-- The code points and 16-bit units that the characters between two quotes stand for. -/
def units? : List Char → Option (List Nat)
  | [] => some []
  | c :: rest =>
    if c == '\\' then
      match rest with
      | 'u' :: c₁ :: c₂ :: c₃ :: c₄ :: rest =>
        (hexValue? [c₁, c₂, c₃, c₄]).bind fun unit => (units? rest).map (unit :: ·)
      | letter :: rest => (escapedCode? letter).bind fun code => (units? rest).map (code :: ·)
      | [] => none
    else if c.toNat < 0x20 then none
    else (units? rest).map (c.toNat :: ·)

/-- The characters that code points and 16-bit units stand for: a pair of surrogates stands for
one. -/
def joinUnits? : List Nat → Option (List Char)
  | [] => some []
  | unit :: rest =>
    if 0xd800 ≤ unit ∧ unit < 0xdc00 then
      match rest with
      | low :: rest =>
        if 0xdc00 ≤ low ∧ low < 0xe000 then
          (charOfCode? (0x10000 + (unit - 0xd800) * 0x400 + (low - 0xdc00))).bind fun c =>
            (joinUnits? rest).map (c :: ·)
        else none
      | [] => none
    else (charOfCode? unit).bind fun c => (joinUnits? rest).map (c :: ·)

/-- The string that the characters between two quotes stand for. -/
def unescape? (body : List Char) : Option String :=
  ((units? body).bind joinUnits?).map String.ofList

/-! ### Words and numbers -/

/-- An exponent part: nothing, or a letter, perhaps a sign, and at least one digit. -/
def isExponent : List Char → Bool
  | [] => true
  | letter :: rest =>
    let digits :=
      match rest with
      | '+' :: digits | '-' :: digits => digits
      | digits => digits
    (letter == 'e' || letter == 'E') && !digits.isEmpty && digits.all Char.isDigit

/-- What may follow the whole part of a number: perhaps a point with at least one digit, and an
exponent part. -/
def isFraction : List Char → Bool
  | '.' :: rest =>
    !(rest.takeWhile Char.isDigit).isEmpty && isExponent (rest.dropWhile Char.isDigit)
  | rest => isExponent rest

/-- The value of a number. The whole part has no zero in front. -/
def number? (cs : List Char) : Option Json :=
  let negative := cs.head? == some '-'
  let unsigned := if negative then cs.tail else cs
  let whole := unsigned.takeWhile Char.isDigit
  let rest := unsigned.dropWhile Char.isDigit
  if whole.isEmpty || (whole.head? == some '0' && 1 < whole.length) then none
  else if rest.isEmpty then
    let value : Int := Nat.ofDigitChars 10 whole 0
    some (.int (if negative then -value else value))
  else if isFraction rest then (readFigures? negative unsigned).map .float
  else none

/-- The value of a word or of a number. -/
def scalar? (cs : List Char) : Option Json :=
  if cs = "null".toList then some .null
  else if cs = "true".toList then some (.bool true)
  else if cs = "false".toList then some (.bool false)
  else number? cs

/-! ### Arrays and objects -/

/-- What may stand between the parts of a text. -/
def isSpace (c : Char) : Bool := c == ' ' || c == '\t' || c == '\n' || c == '\r'

/-- What ends a word or a number. -/
def endsScalar (c : Char) : Bool := isSpace c || c == ',' || c == ']' || c == '}'

/-- The members of an object: of those that go by one name the last one counts. -/
def ofMembers (members : List (String × Json)) : Json := object (OrderedMap.ofList members).entries

/-- An array or an object around the place that has been reached. -/
inductive Frame
  /-- An array with the items in front, the last one first. -/
  | array (before : List Json)
  /-- An object with the members in front, the last one first, and the name of the member that is
  being read. -/
  | object (before : List (String × Json)) (name : String)

/-- What is expected or being read. -/
inductive Place
  /-- A value, or the end of an array without items. -/
  | value (mayClose : Bool)
  /-- The name of a member, or the end of an object without members. -/
  | name (before : List (String × Json)) (mayClose : Bool)
  /-- The colon behind the name of a member. -/
  | colon (before : List (String × Json)) (name : String)
  /-- A string, which is a value or the name of a member, with the characters in front, the last one
  first, and whether that one is a backslash that escapes the next one. -/
  | string (before : Option (List (String × Json))) (body : List Char) (escaped : Bool)
  /-- A word or a number, with the characters in front, the last one first. -/
  | scalar (body : List Char)
  /-- The end of a value. -/
  | done (json : Json)

/-- How far a text has been read. -/
structure Reader where
  /-- The arrays and objects around, the innermost one first. -/
  frames : List Frame
  /-- What is expected or being read. -/
  place : Place

namespace Reader

/-- What follows a value: a blank, a comma, or the end of the array or object around. -/
def stepDone (frames : List Frame) (json : Json) (c : Char) : Option Reader :=
  if isSpace c then some ⟨frames, .done json⟩
  else
    match frames with
    | [] => none
    | .array before :: outer =>
      if c == ',' then some ⟨.array (json :: before) :: outer, .value false⟩
      else if c == ']' then some ⟨outer, .done (.array (json :: before).reverse)⟩
      else none
    | .object before name :: outer =>
      if c == ',' then some ⟨outer, .name ((name, json) :: before) false⟩
      else if c == '}' then some ⟨outer, .done (ofMembers ((name, json) :: before).reverse)⟩
      else none

/-- The first character of a value, or the end of an array without items. -/
def stepValue (frames : List Frame) (mayClose : Bool) (c : Char) : Option Reader :=
  if isSpace c then some ⟨frames, .value mayClose⟩
  else if c == '[' then some ⟨.array [] :: frames, .value true⟩
  else if c == '{' then some ⟨frames, .name [] true⟩
  else if c == '"' then some ⟨frames, .string none [] false⟩
  else if c == ']' then
    match mayClose, frames with
    | true, .array before :: outer => some ⟨outer, .done (.array before.reverse)⟩
    | _, _ => none
  else some ⟨frames, .scalar [c]⟩

/-- The quote in front of the name of a member, or the end of an object without members. -/
def stepName (frames : List Frame) (before : List (String × Json)) (mayClose : Bool) (c : Char) :
    Option Reader :=
  if isSpace c then some ⟨frames, .name before mayClose⟩
  else if c == '"' then some ⟨frames, .string (some before) [] false⟩
  else if c == '}' && mayClose then some ⟨frames, .done (ofMembers before.reverse)⟩
  else none

/-- The colon between the name of a member and its value. -/
def stepColon (frames : List Frame) (before : List (String × Json)) (name : String) (c : Char) :
    Option Reader :=
  if isSpace c then some ⟨frames, .colon before name⟩
  else if c == ':' then some ⟨.object before name :: frames, .value false⟩
  else none

/-- What a string is that has come to its end: a value, or the name of a member. -/
def placeOf (before : Option (List (String × Json))) (s : String) : Place :=
  match before with
  | none => .done (.string s)
  | some before => .colon before s

/-- A string that has come to its end. -/
def closeString (frames : List Frame) (before : Option (List (String × Json)))
    (body : List Char) : Option Reader :=
  (unescape? body.reverse).map fun s => ⟨frames, placeOf before s⟩

/-- A character of a string, or its closing quote. -/
def stepString (frames : List Frame) (before : Option (List (String × Json)))
    (body : List Char) (escaped : Bool) (c : Char) : Option Reader :=
  if escaped then some ⟨frames, .string before (c :: body) false⟩
  else if c == '"' then closeString frames before body
  else some ⟨frames, .string before (c :: body) (c == '\\')⟩

/-- A character of a word or a number, or what ends it. -/
def stepScalar (frames : List Frame) (body : List Char) (c : Char) : Option Reader :=
  if endsScalar c then (scalar? body.reverse).bind fun json => stepDone frames json c
  else some ⟨frames, .scalar (c :: body)⟩

/-- One character more. -/
def step (reader : Reader) (c : Char) : Option Reader :=
  match reader.place with
  | .value mayClose => stepValue reader.frames mayClose c
  | .name before mayClose => stepName reader.frames before mayClose c
  | .colon before name => stepColon reader.frames before name c
  | .string before body escaped => stepString reader.frames before body escaped c
  | .scalar body => stepScalar reader.frames body c
  | .done json => stepDone reader.frames json c

/-- The value of a text that ends here. -/
def finish? (reader : Reader) : Option Json :=
  match reader.frames, reader.place with
  | [], .done json => some json
  | [], .scalar body => scalar? body.reverse
  | _, _ => none

/-- The value of a text with these characters left. -/
def run : List Char → Reader → Option Json
  | [], reader => reader.finish?
  | c :: rest, reader => (reader.step c).bind (run rest)

/-- Nothing has been read. -/
def start : Reader := ⟨[], .value false⟩

end Reader

/-- The value of a text, if it is a JSON text. -/
def read? (text : String) : Option Json := Reader.start.run text.toList

-- Blanks count for nothing, and the second member under a name takes the place of the first one.
example : read? "\x7b\"a\": -20, \"a\" : \"\\u00e9\"\x7d" =
    some (.object [("a", .string "é")]) := by cbv

end DesignTokens.Json
