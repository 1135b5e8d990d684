import DesignTokens.Theme.Reference

/-!
# Stylesheets

The stylesheet of a theme declares custom properties in three blocks: the light mode's semantic
backgrounds, the dark mode's, and everything that does not depend on the mode. In each block the
declarations follow the order of the theme's own tokens.

## Main Definitions

* `Property` — a custom property: a family and a key
* `DeclaredValue`, `Declaration` — what a property is declared to be
* `Stylesheet` — the declarations of the three blocks
* `Stylesheet.ofTheme` — the stylesheet of a theme, unless a reference is broken
* `Stylesheet.render` — its text

## Design Notes

A mode's property refers to a palette color, and the alias of a semantic background refers to the
mode's property; both kinds of references keep their meaning in `DeclaredValue.reference`, so that
the cascade can be followed without reading text. Scales are resolved to literals.
-/

namespace DesignTokens

/-- The families of custom properties. -/
inductive Family
  | mode
  | color
  | space
  | size
  | z
  | container
  deriving DecidableEq

/-- What the names of a family's properties start with. -/
def Family.stem : Family → String
  | mode => "mode"
  | color => "color"
  | space => "space"
  | size => "size"
  | z => "z"
  | container => "container"

/-- The family in which a category's tokens are declared. -/
def Category.family : Category → Family
  | palette => .color
  | spacing => .space
  | size => .size
  | zIndex => .z
  | container => .container

/-- A custom property. -/
structure Property where
  /-- The family, which tells where the key comes from. -/
  family : Family
  /-- The token's name. -/
  key : String
  deriving DecidableEq

/-- The name of a property, without the two hyphens that mark it. -/
def Property.name (p : Property) : String := p.family.stem ++ "-" ++ p.key

/-- What a property is declared to be. -/
inductive DeclaredValue
  /-- The value of another property. -/
  | reference (property : Property)
  /-- A text of its own. -/
  | literal (text : String)
  deriving DecidableEq

/-- The text of a declared value. -/
def DeclaredValue.text : DeclaredValue → String
  | reference property => "var(--" ++ property.name ++ ")"
  | literal text => text

/-- A property and what it is declared to be. -/
structure Declaration where
  /-- The property. -/
  property : Property
  /-- What it is declared to be. -/
  value : DeclaredValue
  deriving DecidableEq

/-- The line of a declaration. -/
def Declaration.line (d : Declaration) : String :=
  "  --" ++ d.property.name ++ ": " ++ d.value.text ++ ";"

/-- The declarations of the three blocks. -/
structure Stylesheet where
  /-- The light mode's backgrounds. -/
  light : List Declaration
  /-- The dark mode's backgrounds. -/
  dark : List Declaration
  /-- What does not depend on the mode. -/
  base : List Declaration
  deriving DecidableEq

/-- One property for each semantic background of a mode, which refers to its palette color. -/
def ModeTokens.declarations (mode : ModeTokens) : List Declaration :=
  mode.bg.entries.map fun e =>
    ⟨⟨.mode, e.1⟩, .reference ⟨.color, referenceKey e.2⟩⟩

namespace Theme

/-- The palette's colors. -/
def paletteDeclarations (theme : Theme) : List Declaration :=
  theme.base.palette.entries.map fun e => ⟨⟨.color, e.1⟩, .literal e.2⟩

/-- One alias for each semantic background of the light mode, which refers to the mode's
property. -/
def aliasDeclarations (theme : Theme) : List Declaration :=
  theme.light.bg.keys.map fun key => ⟨⟨.color, key⟩, .reference ⟨.mode, key⟩⟩

/-- The tokens of a scale, each resolved to a literal. -/
def scaleDeclarations (theme : Theme) (c : Category) :
    Except ReferenceFault (List Declaration) :=
  (theme.base.tokens c).entries.mapM fun e =>
    (theme.resolve e.2).map fun text => ⟨⟨c.family, e.1⟩, .literal text⟩

/-- The scales, in the order in which they are declared. -/
def scales : List Category := [.spacing, .size, .zIndex, .container]

end Theme

namespace Stylesheet

/-- The stylesheet of a theme. A reference to a color that the palette lacks is reported instead;
references are checked before anything is resolved. -/
def ofTheme (theme : Theme) : Except ReferenceFault Stylesheet := do
  theme.checkReferences
  let scales ← Theme.scales.mapM theme.scaleDeclarations
  pure ⟨theme.light.declarations, theme.dark.declarations,
    theme.paletteDeclarations ++ theme.aliasDeclarations ++ scales.flatten⟩

/-- A block: a selector and the lines of its declarations between braces. -/
def renderBlock (selector : String) (declarations : List Declaration) : String :=
  selector ++ " \x7b\n" ++ "\n".intercalate (declarations.map Declaration.line) ++ "\n\x7d"

/-- The text of a stylesheet: the three blocks with an empty line between them. -/
def render (sheet : Stylesheet) : String :=
  "\n\n".intercalate
    [renderBlock ":root" sheet.light, renderBlock ".dark" sheet.dark,
     renderBlock "@theme" sheet.base]

end Stylesheet

/-- The text of a theme's stylesheet. -/
def Theme.css (theme : Theme) : Except ReferenceFault String :=
  (Stylesheet.ofTheme theme).map Stylesheet.render

end DesignTokens
