import DesignTokens.Datum.Calendar

/-!
# Data

The data that a theme is read from and that its extra categories may hold: scalars, lists and
mappings as documents of structured text know them. Mappings keep the order of their entries, and
any scalar may be a key.

## Main Definitions

* `Datum` — a piece of data
* `Datum.same` — equality of data; numbers are compared by value, mappings and sets without order
* `Datum.lookup` — the value under a key of a mapping
* `Datum.insertEntry` — an entry added to a mapping; an equal key keeps its place
* `SharedData`, `Datum.opened` — data that stand at several places

## Design Notes

An entry's key equals another one when the data are the same, so `1`, `1.0` and `true` are one key.
A datum that stands at several places is one and the same at all of them, and a collection may even
contain itself. Such a datum is told by a number, and `SharedData` tells what the numbers stand for.
-/

namespace DesignTokens

open Number

/-- A piece of data. -/
inductive Datum
  | null
  | bool (b : Bool)
  | int (n : Int)
  | float (x : Double)
  | text (s : String)
  | bytes (bs : List UInt8)
  | date (d : Date)
  | moment (m : Moment)
  | list (items : List Datum)
  /-- An entry of an ordered list of entries. -/
  | pair (first second : Datum)
  | mapping (entries : List (Datum × Datum))
  | set (members : List Datum)
  /-- A datum that stands at several places, told by its number. -/
  | shared (number : Nat)

/-- The entries of a mapping, in order. -/
abbrev Entries := List (Datum × Datum)

/-- What the numbers of data stand for that stand at several places. -/
abbrev SharedData := List (Nat × Datum)

namespace Datum

/-- Whether two scalars are the same. The flag says whether what is no number is the same as
itself, which it is as a key and when two data come from one source. -/
def sameScalar (selfSame : Bool) : Datum → Datum → Bool
  | null, null => true
  | bool a, bool b => a == b
  | bool a, int n | int n, bool a => (if a then 1 else 0) == n
  | bool a, float x | float x, bool a => x.hasValue (if a then 1 else 0)
  | int m, int n => m == n
  | int n, float x | float x, int n => x.hasValue n
  | float x, float y => x.sameValue y || (selfSame && x.isNaN && y.isNaN)
  | text s, text t => s == t
  | bytes xs, bytes ys => xs == ys
  | date d, date e => d == e
  | moment a, moment b => a.sameInstant b
  | shared a, shared b => a == b
  | _, _ => false

mutual

/-- Equality of data. -/
def same (selfSame : Bool) : Datum → Datum → Bool
  | list xs, list ys => sameItems selfSame xs ys
  | pair a b, pair c d => same selfSame a c && same selfSame b d
  | mapping xs, mapping ys => xs.length == ys.length && sameEntries selfSame xs ys
  | set xs, set ys => xs.length == ys.length && sameMembers selfSame xs ys
  | a, b => sameScalar selfSame a b

/-- Equality of lists, item by item. -/
def sameItems (selfSame : Bool) : List Datum → List Datum → Bool
  | [], [] => true
  | x :: xs, y :: ys => same selfSame x y && sameItems selfSame xs ys
  | _, _ => false

/-- Whether every entry of a mapping has an equal one in another mapping. -/
def sameEntries (selfSame : Bool) : List (Datum × Datum) → List (Datum × Datum) → Bool
  | [], _ => true
  | (key, value) :: rest, ys =>
    ys.any (fun e => same selfSame key e.1 && same selfSame value e.2) &&
      sameEntries selfSame rest ys

/-- Whether every member of a set is a member of another one. -/
def sameMembers (selfSame : Bool) : List Datum → List Datum → Bool
  | [], _ => true
  | x :: rest, ys => ys.any (fun y => same selfSame x y) && sameMembers selfSame rest ys

end

/-- Whether two keys are one. -/
def sameKey (a b : Datum) : Bool := same true a b

/-- Adds an entry to a mapping. An entry with an equal key keeps its place and its key and takes
the new value. -/
def insertEntry (key value : Datum) : Entries → Entries
  | [] => [(key, value)]
  | (k, v) :: rest =>
    if sameKey k key then (k, value) :: rest else (k, v) :: insertEntry key value rest

/-- The mapping of a list of entries, added one after the other. -/
def ofEntries (entries : Entries) : Entries :=
  entries.foldl (fun made e => insertEntry e.1 e.2 made) []

/-- The value under a string key. -/
def lookup (entries : Entries) (key : String) : Option Datum :=
  match entries with
  | [] => none
  | (.text k, v) :: rest => if k = key then some v else lookup rest key
  | _ :: rest => lookup rest key

/-- The name of a datum's type, as messages call it. -/
def typeName : Datum → String
  | null => "NoneType"
  | bool _ => "bool"
  | int _ => "int"
  | float _ => "float"
  | text _ => "str"
  | bytes _ => "bytes"
  | date _ => "datetime.date"
  | moment _ => "datetime.datetime"
  | list _ => "list"
  | pair _ _ => "tuple"
  | mapping _ => "dict"
  | set _ => "set"
  | shared _ => "object"

/-- What stands at a place: a number stands for its datum. -/
def opened (sharing : SharedData) : Datum → Datum
  | shared number => (sharing.lookup number).getD null
  | other => other

end Datum

end DesignTokens
