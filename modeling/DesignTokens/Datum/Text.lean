import DesignTokens.Datum.Basic
import DesignTokens.Text.Quoted

/-!
# Data in messages

How messages show a piece of data. Inside a collection strings are quoted and everything is told
apart from everything else; on its own a string stands for itself.

## Main Definitions

* `Datum.quoted?` — the form inside collections, from which the datum could be told
* `Datum.plain?` — the form on its own

## Design Notes

A collection that stands inside of itself is shown as an ellipsis there. An integer with too many
digits cannot be shown, and neither can what holds one.
-/

namespace DesignTokens

open Number

/-- The form of a clock's offset inside a quoted moment. -/
def offsetQuoted (minutes : Int) : String :=
  if minutes = 0 then "datetime.timezone.utc"
  else "datetime.timezone(" ++ spanText minutes ++ ")"

/-- The quoted form of a day. -/
def Date.quoted (d : Date) : String :=
  "datetime.date(" ++ ", ".intercalate ([d.year, d.month, d.day].map natText) ++ ")"

/-- The quoted form of a moment: seconds and their fractions are left out when nothing but zeros
would be told. -/
def Moment.quoted (m : Moment) : String :=
  let rest :=
    if m.microsecond ≠ 0 then [m.second, m.microsecond]
    else if m.second ≠ 0 then [m.second] else []
  let numbers := [m.date.year, m.date.month, m.date.day, m.hour, m.minute] ++ rest
  let offset := (m.offset.map fun o => ["tzinfo=" ++ offsetQuoted o]).getD []
  "datetime.datetime(" ++ ", ".intercalate (numbers.map natText ++ offset) ++ ")"

namespace Datum

/-- The word for a truth value. -/
def boolText (b : Bool) : String := if b then "True" else "False"

mutual

/-- The form inside collections, given the forms of what numbers stand for. An integer with too many
digits has none. -/
def quotedWith (form : Nat → Option String) : Datum → Option String
  | null => some "None"
  | bool b => some (boolText b)
  | int n => intText? n
  | float x => some x.documentText
  | text s => some (Text.quoted s)
  | bytes bs => some (Text.quotedBytes bs)
  | date d => some d.quoted
  | moment m => some m.quoted
  | list items => do
    let parts ← quotedItems form items
    some ("[" ++ ", ".intercalate parts ++ "]")
  | pair a b => do
    let first ← quotedWith form a
    let second ← quotedWith form b
    some ("(" ++ first ++ ", " ++ second ++ ")")
  | mapping entries => do
    let parts ← quotedEntries form entries
    some ("\x7b" ++ ", ".intercalate parts ++ "\x7d")
  | set [] => some "set()"
  | set (x :: xs) => do
    let first ← quotedWith form x
    let more ← quotedItems form xs
    some ("\x7b" ++ ", ".intercalate (first :: more) ++ "\x7d")
  | shared number => form number

/-- The forms of a list's items. -/
def quotedItems (form : Nat → Option String) : List Datum → Option (List String)
  | [] => some []
  | x :: xs => do
    let first ← quotedWith form x
    let more ← quotedItems form xs
    some (first :: more)

/-- The forms of a mapping's entries. -/
def quotedEntries (form : Nat → Option String) : List (Datum × Datum) → Option (List String)
  | [] => some []
  | (key, value) :: rest => do
    let left ← quotedWith form key
    let right ← quotedWith form value
    let more ← quotedEntries form rest
    some ((left ++ ": " ++ right) :: more)

end

/-- The form of a collection inside of itself. -/
def ellipsis (sharing : SharedData) (number : Nat) : String :=
  match (shared number).opened sharing with
  | mapping _ => "\x7b...\x7d"
  | _ => "[...]"

/-- The form of what a number stands for, down to some depth. What is left out of `outside` stands
around this place. -/
def quotedShared (sharing : SharedData) : Nat → SharedData → Nat → Option String
  | 0, _, number => some (ellipsis sharing number)
  | depth + 1, outside, number =>
    match outside.lookup number with
    | some datum =>
      datum.quotedWith (quotedShared sharing depth (outside.filter fun e => e.1 != number))
    | none => some (ellipsis sharing number)

/-- The form inside collections, if there is one. -/
def quoted? (sharing : SharedData) (datum : Datum) : Option String :=
  datum.quotedWith (quotedShared sharing sharing.length sharing)

/-- The form on its own, if there is one. -/
def plain? (sharing : SharedData) (datum : Datum) : Option String :=
  match datum.opened sharing with
  | text s => some s
  | date d => some d.isoText
  | moment m => some (m.isoText ' ')
  | _ => datum.quoted? sharing

end Datum

end DesignTokens
