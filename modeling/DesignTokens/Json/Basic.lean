import DesignTokens.Datum.Basic
import DesignTokens.Text.Quoted

/-!
# JSON texts

Tools answer with JSON on one line, and generated modules hold JSON that is indented for readers.

## Main Definitions

* `Json` — a JSON value; members of objects keep their order
* `Json.compact` — one line of ASCII, with blanks after commas and colons
* `Json.indented` — one member or item a line, with characters outside ASCII as they are
* `Json.ofDatum?` — the JSON form of data, for those data that have one

## Design Notes

Numbers are doubles and integers. What is infinite or no number is written with words that the
JSON standard does not know; `Json.isStandard` tells whether a value needs none of them.
-/

namespace DesignTokens

open Number

/-- A JSON value. -/
inductive Json
  | null
  | bool (b : Bool)
  | int (n : Int)
  | float (x : Double)
  | string (s : String)
  | array (items : List Json)
  | object (members : List (String × Json))

namespace Json

/-- The four hexadecimal digits of a 16-bit unit, marked as an escape. -/
def unitEscape (unit : Nat) : List Char := '\\' :: 'u' :: Text.hexDigits 4 unit

/-- The escape of a character that has a letter of its own, or must be escaped in any JSON text. -/
def shortEscape? (c : Char) : Option (List Char) :=
  if c == '"' then some ['\\', '"']
  else if c == '\\' then some ['\\', '\\']
  else if c == '\n' then some ['\\', 'n']
  else if c == '\r' then some ['\\', 'r']
  else if c == '\t' then some ['\\', 't']
  else if c.toNat = 0x8 then some ['\\', 'b']
  else if c.toNat = 0xc then some ['\\', 'f']
  else if c.toNat < 0x20 then some (unitEscape c.toNat)
  else none

/-- A character of a string that may hold any printable character. -/
def escapeControl (c : Char) : List Char := (shortEscape? c).getD [c]

/-- A character of a string that is to be ASCII: beyond the first plane it takes two units. -/
def escapeAscii (c : Char) : List Char :=
  match shortEscape? c with
  | some cs => cs
  | none =>
    let code := c.toNat
    if code < 0x7f then [c]
    else if code < 0x10000 then unitEscape code
    else
      unitEscape (0xd800 + (code - 0x10000) / 0x400) ++
        unitEscape (0xdc00 + (code - 0x10000) % 0x400)

/-- A string between quotes. -/
def quote (escape : Char → List Char) (s : String) : String :=
  String.ofList ('"' :: s.toList.flatMap escape ++ ['"'])

/-- A number. -/
def floatText (x : Double) : String :=
  if x.isNaN then "NaN"
  else if x.isFinite then x.documentText
  else if x.negative then "-Infinity" else "Infinity"

/-- The word for a truth value. -/
def boolWord (b : Bool) : String := if b then "true" else "false"

mutual

/-- One line of ASCII. -/
def compact : Json → String
  | null => "null"
  | bool b => boolWord b
  | int n => intText n
  | float x => floatText x
  | string s => quote escapeAscii s
  | array items => "[" ++ ", ".intercalate (compactItems items) ++ "]"
  | object members => "\x7b" ++ ", ".intercalate (compactMembers members) ++ "\x7d"

/-- The items of an array, each on one line. -/
def compactItems : List Json → List String
  | [] => []
  | item :: rest => compact item :: compactItems rest

/-- The members of an object, each on one line. -/
def compactMembers : List (String × Json) → List String
  | [] => []
  | (key, value) :: rest =>
    (quote escapeAscii key ++ ": " ++ compact value) :: compactMembers rest

end

/-- A line break and the indentation of a level. -/
def lineBreak (level : Nat) : String := String.ofList ('\n' :: List.replicate (2 * level) ' ')

/-- Parts between brackets, one a line; without parts the brackets stand together. -/
def bracketed (opening closing : String) (level : Nat) (parts : List String) : String :=
  if parts.isEmpty then opening ++ closing
  else
    opening ++ lineBreak (level + 1) ++ ("," ++ lineBreak (level + 1)).intercalate parts ++
      lineBreak level ++ closing

mutual

/-- One member or item a line, at a level of indentation. -/
def indentedAt (level : Nat) : Json → String
  | null => "null"
  | bool b => boolWord b
  | int n => intText n
  | float x => floatText x
  | string s => quote escapeControl s
  | array items => bracketed "[" "]" level (indentedItems (level + 1) items)
  | object members => bracketed "\x7b" "\x7d" level (indentedMembers (level + 1) members)

/-- The items of an array at a level of indentation. -/
def indentedItems (level : Nat) : List Json → List String
  | [] => []
  | item :: rest => indentedAt level item :: indentedItems level rest

/-- The members of an object at a level of indentation. -/
def indentedMembers (level : Nat) : List (String × Json) → List String
  | [] => []
  | (key, value) :: rest =>
    (quote escapeControl key ++ ": " ++ indentedAt level value) :: indentedMembers level rest

end

/-- One member or item a line. -/
def indented (json : Json) : String := indentedAt 0 json

mutual

/-- Whether a value is written with nothing but what the standard knows. -/
def isStandard : Json → Bool
  | float x => x.isFinite
  | array items => areStandard items
  | object members => membersAreStandard members
  | _ => true

/-- Whether all items of an array are standard. -/
def areStandard : List Json → Bool
  | [] => true
  | item :: rest => isStandard item && areStandard rest

/-- Whether all members of an object are standard. -/
def membersAreStandard : List (String × Json) → Bool
  | [] => true
  | (_, value) :: rest => isStandard value && membersAreStandard rest

end

/-- Why data have no JSON form. -/
inductive Refusal
  /-- A value of a type that JSON lacks. -/
  | value (typeName : String)
  /-- A key that has no form as a string. -/
  | key (typeName : String)
  /-- A collection that contains itself. -/
  | circular
  /-- An integer with too many digits. -/
  | integerTooLong
  deriving DecidableEq

/-- What a reader is told. -/
def Refusal.message : Refusal → String
  | value typeName => "Object of type " ++ typeName ++ " is not JSON serializable"
  | key typeName => "keys must be str, int, float, bool or None, not " ++ typeName
  | circular => "Circular reference detected"
  | integerTooLong => tooManyDigits none

/-- The text of an integer. -/
def intText? (n : Int) : Except Refusal String :=
  match Number.intText? n with
  | some text => .ok text
  | none => .error .integerTooLong

/-- The form of a key: scalars that JSON knows stand for their text. -/
def keyOfDatum? : Datum → Except Refusal String
  | .text s => .ok s
  | .null => .ok "null"
  | .bool b => .ok (boolWord b)
  | .int n => intText? n
  | .float x => .ok (floatText x)
  | other => .error (.key other.typeName)

mutual

/-- The JSON form of data, given the forms of what numbers stand for, or the first part that has
none. -/
def ofDatumWith (form : Nat → Except Refusal Json) : Datum → Except Refusal Json
  | .null => .ok null
  | .bool b => .ok (bool b)
  | .int n => (intText? n).map fun _ => int n
  | .float x => .ok (float x)
  | .text s => .ok (string s)
  | .list items => (ofItems form items).map array
  | .pair a b =>
    match ofDatumWith form a with
    | .error e => .error e
    | .ok x => (ofDatumWith form b).map fun y => array [x, y]
  | .mapping entries => (ofEntries form entries).map object
  | .shared number => form number
  | .bytes _ => .error (.value "bytes")
  | .date _ => .error (.value "date")
  | .moment _ => .error (.value "datetime")
  | .set _ => .error (.value "set")

/-- The JSON forms of a list's items. -/
def ofItems (form : Nat → Except Refusal Json) : List Datum → Except Refusal (List Json)
  | [] => .ok []
  | item :: rest =>
    match ofDatumWith form item with
    | .error e => .error e
    | .ok x => (ofItems form rest).map (x :: ·)

/-- The JSON forms of a mapping's entries. -/
def ofEntries (form : Nat → Except Refusal Json) :
    List (Datum × Datum) → Except Refusal (List (String × Json))
  | [] => .ok []
  | (key, value) :: rest =>
    match keyOfDatum? key with
    | .error e => .error e
    | .ok k =>
      match ofDatumWith form value with
      | .error e => .error e
      | .ok v => (ofEntries form rest).map ((k, v) :: ·)

end

/-- The JSON form of what a number stands for, down to some depth. What is left out of `outside`
stands around this place. -/
def ofShared : Nat → SharedData → Nat → Except Refusal Json
  | 0, _, _ => .error .circular
  | depth + 1, outside, number =>
    match outside.lookup number with
    | some datum => ofDatumWith (ofShared depth (outside.filter fun e => e.1 != number)) datum
    | none => .error .circular

/-- The JSON form of data, or the first part that has none. -/
def ofDatum? (sharing : SharedData) (datum : Datum) : Except Refusal Json :=
  ofDatumWith (ofShared sharing.length sharing) datum

/-- An object whose members are all strings. -/
def ofStrings (members : List (String × String)) : Json :=
  object (members.map fun e => (e.1, string e.2))

end Json

end DesignTokens
