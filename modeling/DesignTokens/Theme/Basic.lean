import DesignTokens.Datum.Basic
import DesignTokens.OrderedMap

/-!
# Themes

A theme is five categories of base tokens and, for the light and the dark mode, a map from
semantic background names to value strings. It is an immutable value that is handed whole to
whatever is made from it.

## Main Definitions

* `TokenMap` — token names with their value strings
* `Category` — the five categories of base tokens, in the order in which they are written out
* `Theme` — base tokens and the two modes
* `BaseTokens.categories` — all categories, the declared ones first
* `Theme.toDatum` — the theme as data, from which it can be read again
* `Metadata` — what a listing tells about a theme

## Design Notes

Base tokens keep categories of other names as *extras*. They take no part in anything that is
generated, but an extra that is a mapping is written out with the theme. What stands at several
places inside of extras is told by numbers.
-/

namespace DesignTokens

/-- Token names with their value strings, in the order of the source. -/
abbrev TokenMap := OrderedMap String String

/-- The categories of base tokens that have a meaning. -/
inductive Category
  | palette
  | spacing
  | size
  | zIndex
  | container
  deriving DecidableEq

namespace Category

/-- The name under which a category stands in a source. -/
def name : Category → String
  | palette => "palette"
  | spacing => "spacing"
  | size => "size"
  | zIndex => "zIndex"
  | container => "container"

/-- All categories, in the order in which they are written out. -/
def all : List Category := [palette, spacing, size, zIndex, container]

end Category

/-- The base tokens of a theme. -/
structure BaseTokens where
  /-- Color names with literal colors. -/
  palette : TokenMap
  /-- The spacing scale. -/
  spacing : TokenMap
  /-- The size scale. -/
  size : TokenMap
  /-- The stacking order. -/
  zIndex : TokenMap
  /-- The container breakpoints. -/
  container : TokenMap
  /-- Categories of other names, with whatever they hold. -/
  extras : OrderedMap String Datum
  /-- What the numbers inside of extras stand for. -/
  sharing : SharedData

/-- The tokens of one mode. -/
structure ModeTokens where
  /-- Semantic background names with references to palette colors. -/
  bg : TokenMap

/-- A complete theme. -/
structure Theme where
  /-- The schema that the source declares. -/
  schema : String
  /-- The name that the source declares. -/
  name : String
  /-- A description for the reader. -/
  description : String
  /-- The base tokens. -/
  base : BaseTokens
  /-- The light mode, which is the default one. -/
  light : ModeTokens
  /-- The dark mode. -/
  dark : ModeTokens

/-- The one schema that is supported. -/
def supportedSchema : String := "theme/v1"

namespace TokenMap

/-- A token map as data. -/
def toDatum (tokens : TokenMap) : Datum :=
  .mapping (tokens.entries.map fun e => (.text e.1, .text e.2))

end TokenMap

namespace BaseTokens

/-- No tokens at all. -/
def empty : BaseTokens := ⟨.empty, .empty, .empty, .empty, .empty, .empty, []⟩

/-- The tokens of a category. -/
def tokens (base : BaseTokens) : Category → TokenMap
  | .palette => base.palette
  | .spacing => base.spacing
  | .size => base.size
  | .zIndex => base.zIndex
  | .container => base.container

/-- The extras that are mappings, by name. -/
def mappingExtras (base : BaseTokens) : List (String × Entries) :=
  base.extras.entries.filterMap fun e =>
    match e.2 with
    | .mapping entries => some (e.1, entries)
    | _ => none

/-- All categories by name: the declared ones in their fixed order, then the extras that are
mappings in the order of the source. -/
def categories (base : BaseTokens) : List (String × Datum) :=
  Category.all.map (fun c => (c.name, (base.tokens c).toDatum)) ++
    base.mappingExtras.map fun e => (e.1, .mapping e.2)

/-- Whether two sets of base tokens hold the same, extras included. -/
def same (selfSame : Bool) (a b : BaseTokens) : Bool :=
  Category.all.all (fun c => (a.tokens c).agrees (· == ·) (b.tokens c)) &&
    a.extras.agrees (Datum.same selfSame) b.extras

end BaseTokens

namespace ModeTokens

/-- No tokens at all. -/
def empty : ModeTokens := ⟨.empty⟩

/-- The tokens of a mode as data. -/
def toDatum (mode : ModeTokens) : Datum := .mapping [(.text "bg", mode.bg.toDatum)]

end ModeTokens

namespace Theme

/-- The entries of the theme as data. Extras that are no mappings are left out. -/
def toEntries (theme : Theme) : Entries :=
  [(.text "schema", .text theme.schema),
   (.text "name", .text theme.name),
   (.text "description", .text theme.description),
   (.text "base", .mapping (theme.base.categories.map fun e => (.text e.1, e.2))),
   (.text "light", theme.light.toDatum),
   (.text "dark", theme.dark.toDatum)]

/-- The theme as data. -/
def toDatum (theme : Theme) : Datum := .mapping theme.toEntries

/-- Whether two themes hold the same, whatever the order of their tokens. The flag is that of
`Datum.same`. -/
def same (selfSame : Bool) (a b : Theme) : Bool :=
  a.schema == b.schema && a.name == b.name && a.description == b.description &&
    a.base.same selfSame b.base &&
    a.light.bg.agrees (· == ·) b.light.bg && a.dark.bg.agrees (· == ·) b.dark.bg

end Theme

/-- What a listing tells about a theme. -/
structure Metadata where
  /-- The name that the theme declares. -/
  name : String
  /-- The description that the theme declares. -/
  description : String
  /-- How many palette colors there are. -/
  paletteSize : Nat
  /-- The semantic background names of the light mode. -/
  semanticColors : List String
  deriving DecidableEq

/-- The metadata of a theme. -/
def Theme.metadata (theme : Theme) : Metadata :=
  ⟨theme.name, theme.description, theme.base.palette.size, theme.light.bg.keys⟩

end DesignTokens
