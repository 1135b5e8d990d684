import DesignTokens.Datum.Sharing
import DesignTokens.Datum.Text
import DesignTokens.Text.Base64
import DesignTokens.Yaml.Layout.Scalar

/-!
# Data on the page

Data are written as a YAML document in block style: one entry or item a line, nested blocks being
indented by two columns. Reading the text gives the data again.

## Main Definitions

* `scalarOf?` — the scalar that a datum is written as
* `write` — a mapping as a YAML document
* `write?` — the same, unless it holds a number that cannot be written out

## Design Notes

What stands at several places is written once, under an anchor, and referred to at the other places.
Anchors are numbered in the order in which data are come across again.
-/

namespace DesignTokens.Yaml

open Number

/-- A floating point number: an exponent needs a point before it. -/
def floatText (x : Double) : List Char :=
  if x.isNaN then ['.', 'n', 'a', 'n']
  else if x.isFinite then
    let text := x.documentText.toList
    if text.contains 'e' && !text.contains '.' then
      text.takeWhile (· != 'e') ++ '.' :: '0' :: text.dropWhile (· != 'e')
    else text
  else if x.negative then ['-', '.', 'i', 'n', 'f']
  else ['.', 'i', 'n', 'f']

/-- The scalar that a datum is written as; collections have none. -/
def scalarOf? : Datum → Option Scalar
  | .null => some ⟨.null, "null".toList⟩
  | .bool b => some ⟨.bool, if b then "true".toList else "false".toList⟩
  | .int n => some ⟨.int, (intText n).toList⟩
  | .float x => some ⟨.float, floatText x⟩
  | .text s => some ⟨.str, s.toList⟩
  | .bytes bs => some ⟨.binary, Text.encodeBase64Lines bs⟩
  | .date d => some ⟨.timestamp, d.isoText.toList⟩
  | .moment m => some ⟨.timestamp, (m.isoText ' ').toList⟩
  | _ => none

/-- Whether a datum can be a key in front of a colon. -/
def isSimpleKey (key : Datum) : Bool :=
  match key with
  | .list [] | .mapping [] => true
  | _ => (scalarOf? key).any Scalar.isSimpleKey

/-- Where a node stands. -/
inductive Place
  /-- A key, in front of a colon or behind a question mark. -/
  | key (simple : Bool)
  /-- The value of an entry. -/
  | value
  /-- An item of a sequence. -/
  | item

/-- Whether a node stands in front of a colon. -/
def Place.isSimpleKey : Place → Bool
  | key simple => simple
  | _ => false

/-- The indentation of a sequence's items: directly below the key whose value the sequence is, and
else further in. -/
def itemIndent (indent : Nat) (place : Place) (page : Page) : Nat :=
  match place with
  | .item => indent + 2
  | _ => if page.inIndentation then indent + 2 else indent

/-- Writes an item behind its dash. -/
def writeItem (indent : Nat) (body : Page → Page) (page : Page) : Page :=
  body ((page.indentTo indent).indicate ['-'] true true)

/-- Writes a key with the colon behind it. -/
def writeKey (indent : Nat) (simple : Bool) (body : Page → Page) (page : Page) : Page :=
  let page := page.indentTo indent
  if simple then (body page).indicate [':'] false false
  else ((body (page.indicate ['?'] true true)).indentTo indent).indicate [':'] true true

/-- Writes brackets with nothing between them. -/
def writeEmpty (opening closing : Char) (page : Page) : Page :=
  (page.indicate [opening] true false).indicate [closing] false false

/-- Writes a datum that is no collection. -/
def writeScalar (indent : Nat) (simpleKey : Bool) (datum : Datum) (page : Page) : Page :=
  match scalarOf? datum with
  | some s => s.write indent simpleKey page
  | none => page

/-- A way of writing what a number stands for, at a place of a block with some indentation. -/
abbrev SharedWriter := Nat → Place → Nat → Page → Page

mutual

/-- Writes a datum that stands at a place of a block with some indentation. -/
def writeNode (known : SharedWriter) (indent : Nat) (place : Place) : Datum → Page → Page
  | .list [], page => writeEmpty '[' ']' page
  | .list (first :: rest), page =>
    writeItems known (itemIndent indent place page) (first :: rest) page
  | .pair a b, page =>
    let indent := itemIndent indent place page
    writeItem indent (writeNode known indent .item b)
      (writeItem indent (writeNode known indent .item a) page)
  | .mapping [], page => writeEmpty '\x7b' '\x7d' page
  | .mapping (first :: rest), page => writeEntries known (indent + 2) (first :: rest) page
  | .set [], page => writeEmpty '\x7b' '\x7d' (page.indicate "!!set".toList true false)
  | .set (first :: rest), page =>
    writeMembers known (indent + 2) (first :: rest) (page.indicate "!!set".toList true false)
  | .shared number, page => known indent place number page
  | scalar, page => writeScalar (indent + 2) place.isSimpleKey scalar page

/-- Writes the items of a sequence. -/
def writeItems (known : SharedWriter) (indent : Nat) : List Datum → Page → Page
  | [], page => page
  | item :: rest, page =>
    writeItems known indent rest (writeItem indent (writeNode known indent .item item) page)

/-- Writes the entries of a mapping. -/
def writeEntries (known : SharedWriter) (indent : Nat) : List (Datum × Datum) → Page → Page
  | [], page => page
  | (key, value) :: rest, page =>
    let simple := isSimpleKey key
    let page := writeKey indent simple (writeNode known indent (.key simple) key) page
    writeEntries known indent rest (writeNode known indent .value value page)

/-- Writes the members of a set as keys without values. -/
def writeMembers (known : SharedWriter) (indent : Nat) : List Datum → Page → Page
  | [], page => page
  | member :: rest, page =>
    let simple := isSimpleKey member
    let page := writeKey indent simple (writeNode known indent (.key simple) member) page
    writeMembers known indent rest (writeScalar (indent + 2) false .null page)

end

/-- The name of an anchor, behind the sign that sets it or refers to it. -/
def anchorName (sign : Char) (position : Nat) : List Char :=
  sign :: 'i' :: 'd' :: paddedDigits 3 (position + 1)

/-- Writes what a number stands for: under an anchor if it will stand at other places too, and as a
reference if it was written before. The first argument bounds the depth. -/
def writeShared (sharing : SharedData) (repeated : List Nat) : Nat → SharedWriter
  | 0, _, _, _, page => page
  | depth + 1, indent, place, number, page =>
    let writeContent :=
      writeNode (writeShared sharing repeated depth) indent place ((Datum.shared number).opened sharing)
    match repeated.idxOf? number with
    | none => writeContent page
    | some position =>
      if page.anchored.contains number then page.indicate (anchorName '*' position) true false
      else
        let page := page.indicate (anchorName '&' position) true false
        writeContent { page with anchored := number :: page.anchored }

/-- A mapping as a YAML document. -/
def write (sharing : SharedData) (entries : Entries) : String :=
  let repeated := (Datum.mapping entries).repeatedNumbers sharing
  let known := writeShared sharing repeated (sharing.length + 1)
  let page :=
    if entries.isEmpty then Page.blank.put ['\x7b', '\x7d']
    else writeEntries known 0 entries .blank
  (page.indentTo 0).written

/-- A mapping as a YAML document, unless a number in it has too many digits to be written out. -/
def write? (sharing : SharedData) (entries : Entries) : Option String :=
  ((Datum.mapping entries).quoted? sharing).map fun _ => write sharing entries

end DesignTokens.Yaml
