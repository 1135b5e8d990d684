import DesignTokens.Json.Basic
import DesignTokens.Theme.Reading

/-!
# Tailwind configuration

The Tailwind configuration names a variable for every base token. It is purely structural: nothing
is checked and nothing is resolved, and a variable carries the name of the category itself.

## Main Definitions

* `TailwindConfig` — the four buckets of the configuration
* `TailwindConfig.ofTheme`, `Theme.tailwind?` — the configuration of a theme
* `TailwindConfig.moduleText` — the TypeScript module that exports it
* `TailwindConfig.ofDatum` — a configuration given as data

## Design Notes

Containers share a bucket with sizes and are told apart by their keys. Should a size already go by
such a key, the container's entry takes its place.
-/

namespace DesignTokens

/-- The four buckets of a Tailwind configuration. -/
structure TailwindConfig where
  /-- Variables for palette colors. -/
  colors : TokenMap
  /-- Variables for spacing. -/
  spacing : TokenMap
  /-- Variables for sizes and containers. -/
  sizes : TokenMap
  /-- Variables for the stacking order. -/
  zIndex : TokenMap

/-- The variable that a configuration names for a token. -/
def Category.variableText (c : Category) (key : String) : String :=
  "var(--" ++ c.name ++ "-" ++ key ++ ")"

/-- The entries that the keys of a category get in a bucket. -/
def bucketEntries (c : Category) (rekey : String → String) (tokens : TokenMap) :
    List (String × String) :=
  tokens.keys.map fun key => (rekey key, c.variableText key)

namespace TailwindConfig

/-- The configuration of a theme whose keys can be written out. -/
def ofTheme (theme : Theme) : TailwindConfig where
  colors := .ofList (bucketEntries .palette id theme.base.palette)
  spacing := .ofList (bucketEntries .spacing id theme.base.spacing)
  sizes := .ofList (bucketEntries .size id theme.base.size ++
    bucketEntries .container ("container-" ++ ·) theme.base.container)
  zIndex := .ofList (bucketEntries .zIndex id theme.base.zIndex)

/-- The buckets under the names that they have in a configuration. -/
def buckets (config : TailwindConfig) : List (String × TokenMap) :=
  [("colors", config.colors), ("spacing", config.spacing), ("sizes", config.sizes),
   ("zIndex", config.zIndex)]

/-- The configuration as JSON. -/
def toJson (config : TailwindConfig) : Json :=
  .object (config.buckets.map fun b => (b.1, Json.ofStrings b.2.entries))

/-- Whether two configurations have the same entries, in whatever order. -/
def same (a b : TailwindConfig) : Bool :=
  a.colors.agrees (· == ·) b.colors && a.spacing.agrees (· == ·) b.spacing &&
    a.sizes.agrees (· == ·) b.sizes && a.zIndex.agrees (· == ·) b.zIndex

/-- The comment at the top of a generated module. -/
def moduleHeader : String := "// Auto-generated from theme tokens\n// Do not edit manually\n"

/-- The TypeScript module that exports a configuration. -/
def moduleText (config : TailwindConfig) : String :=
  moduleHeader ++ "\nexport const themeTailwind = " ++ config.toJson.indented ++ " as const;\n"

/-- The configuration that data describe, or all violations of its structure. -/
def ofDatum : Datum → Checked TailwindConfig
  | .mapping entries =>
    let bucket := fun names => readOptional [] [] readTextMap .empty entries names
    ((bucket ["colors"]).both ((bucket ["spacing"]).both
      ((bucket ["sizes"]).both (bucket ["zIndex", "z_index"])))).map
      fun (colors, spacing, sizes, zIndex) => ⟨colors, spacing, sizes, zIndex⟩
  | _ => .fail [] (.notModel .tailwindConfig)

end TailwindConfig

namespace Theme

/-- Whether the keys of all categories can be written out. Only a number among the keys of an extra
can have too many digits for that. -/
def hasPrintableKeys (theme : Theme) : Bool :=
  theme.base.mappingExtras.all fun e => e.2.all fun entry => (entry.1.plain? []).isSome

/-- The configuration of a theme. The keys of all categories are written out for it, even those that
it does not name. -/
def tailwind? (theme : Theme) : Option TailwindConfig :=
  if theme.hasPrintableKeys then some (.ofTheme theme) else none

/-- The text of the TypeScript module for a theme. -/
def tailwindModule? (theme : Theme) : Option String :=
  theme.tailwind?.map TailwindConfig.moduleText

end Theme

end DesignTokens
