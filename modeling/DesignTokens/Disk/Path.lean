import DesignTokens.Text.Search

/-!
# Paths

A path is a list of names, read from the working folder or from the root of the disk. Empty names
and the name for the folder itself, a single dot, are dropped when a path is read; the name for the
folder around, two dots, is kept, because it depends on the disk where it leads to.

## Main Definitions

* `Path` — names and where they are read from
* `Path.ofText`, `Path.text` — reading and writing a path
* `Path.join`, `Path.child`, `Path.parent` — paths next to a path
* `Path.suffix` — the ending of the last name
* `Location`, `Path.resolve` — a place on the disk, and the one that the names alone lead to

## Design Notes

A path that begins with exactly two slashes is told apart from one that begins with one slash, but
leads to the same place.
-/

namespace DesignTokens

/-- Where the names of a path are read from. -/
inductive Anchor
  /-- The working folder. -/
  | relative
  /-- The root of the disk. -/
  | absolute
  /-- The root of the disk, written with two slashes. -/
  | doubled
  deriving DecidableEq

/-- What stands in front of the names. -/
def Anchor.text : Anchor → String
  | relative => ""
  | absolute => "/"
  | doubled => "//"

/-- Names and where they are read from. -/
structure Path where
  /-- Where the names are read from. -/
  anchor : Anchor
  /-- The names. -/
  names : List String
  deriving DecidableEq

/-- A place on the disk: the names that lead to it from the root. -/
abbrev Location := List String

/-- The name for the folder around a folder. -/
def upward : String := ".."

namespace Path

/-- The names between the slashes of a text. -/
def namesOfText (text : String) : List String :=
  ((Text.splitAtChar '/' text.toList).map String.ofList).filter fun name =>
    name != "" && name != "."

/-- The path that a text names. -/
def ofText (text : String) : Path :=
  let anchor :=
    match text.toList with
    | ['/', '/'] => Anchor.doubled
    | '/' :: '/' :: c :: _ => if c == '/' then .absolute else .doubled
    | '/' :: _ => .absolute
    | _ => .relative
  ⟨anchor, namesOfText text⟩

/-- The text of a path. The path without names is written as a dot if it is relative. -/
def text (path : Path) : String :=
  let text := path.anchor.text ++ "/".intercalate path.names
  if text = "" then "." else text

/-- A path read from the folder of another one, unless it starts at the root. -/
def join (folder path : Path) : Path :=
  match path.anchor with
  | .relative => ⟨folder.anchor, folder.names ++ path.names⟩
  | _ => path

/-- What a text names in a folder. -/
def child (folder : Path) (text : String) : Path := folder.join (ofText text)

/-- The path without its last name. -/
def parent (path : Path) : Path := { path with names := path.names.dropLast }

/-- The last name of a path. -/
def lastName (path : Path) : String := path.names.getLastD ""

/-- The ending of the last name from its last dot on. A dot at an end of the name begins no
ending. -/
def suffix (path : Path) : String :=
  let name := path.lastName.toList
  let ending := (name.reverse.takeWhile (· != '.')).reverse
  let stem := name.take (name.length - ending.length - 1)
  if name.contains '.' && !ending.isEmpty && !stem.isEmpty then String.ofList ('.' :: ending)
  else ""

/-- Whether no name holds the character that cannot stand in names. -/
def isNameable (path : Path) : Bool :=
  path.names.all fun name => !name.toList.any fun c => c.toNat == 0

/-- One name further: upwards if it is the name for the folder around. -/
def stepTo (location : Location) (name : String) : Location :=
  if name = upward then location.dropLast else location ++ [name]

/-- Where the names of a path are read from, for a working folder. -/
def start (workingFolder : Location) (path : Path) : Location :=
  if path.anchor = .relative then workingFolder else []

/-- The place to which the names lead when all of them name folders. -/
def resolve (workingFolder : Location) (path : Path) : Location :=
  path.names.foldl stepTo (path.start workingFolder)

/-- The path from the root to a place. -/
def ofLocation (location : Location) : Path := ⟨.absolute, location⟩

end Path

end DesignTokens
