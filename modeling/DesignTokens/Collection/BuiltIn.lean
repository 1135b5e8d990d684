import DesignTokens.Disk.Tree
import DesignTokens.Text.Utf8

/-!
# The built-in library

Two themes that are always at hand: one that shows every kind of token, and one to start from.

## Main Definitions

* `BuiltIn.folder` — where the library stands
* `BuiltIn.files` — the theme files of the library
* `BuiltIn.install` — a disk with the library on it
-/

namespace DesignTokens.BuiltIn

/-- The theme that shows every kind of token. -/
def demo : List String :=
  ["schema: theme/v1",
   "name: demo",
   "description: Example theme demonstrating all available token types",
   "",
   "base:",
   "  palette:",
   "    black: \"#000\"",
   "    white: \"#fff\"",
   "    red: \"#f00\"",
   "    blue: \"#00f\"",
   "    gray: \"#808080\"",
   "  spacing:",
   "    xs: 0.25rem",
   "    sm: 0.5rem",
   "    md: 1rem",
   "    lg: 1.5rem",
   "    xl: 2rem",
   "  size:",
   "    small: 2rem",
   "    medium: 2.5rem",
   "    large: 3rem",
   "  zIndex:",
   "    surface: \"1\"",
   "    modal: \"10\"",
   "    dropdown: \"5\"",
   "  container:",
   "    sm: 40rem",
   "    md: 64rem",
   "    lg: 80rem",
   "",
   "light:",
   "  bg:",
   "    root: white palette",
   "    surface: gray palette",
   "    accent: blue palette",
   "",
   "dark:",
   "  bg:",
   "    root: black palette",
   "    surface: gray palette",
   "    accent: blue palette"]

/-- A neutral theme with a blue accent. -/
def slate : List String :=
  ["schema: theme/v1",
   "name: slate",
   "description: Cool neutral theme with a blue accent and a roomier spacing scale",
   "",
   "base:",
   "  palette:",
   "    slate-50: \"#f8fafc\"",
   "    slate-200: \"#e2e8f0\"",
   "    slate-700: \"#334155\"",
   "    slate-900: \"#0f172a\"",
   "    sky: \"#0ea5e9\"",
   "  spacing:",
   "    xs: 0.5rem",
   "    sm: 0.75rem",
   "    md: 1.25rem",
   "    lg: 2rem",
   "    xl: 3rem",
   "  size:",
   "    icon: 1.25rem",
   "    control: 2.75rem",
   "    avatar: 3.5rem",
   "  zIndex:",
   "    base: 0",
   "    dropdown: 20",
   "    overlay: 40",
   "    modal: 50",
   "  container:",
   "    prose: 65ch",
   "    md: 48rem",
   "    xl: 80rem",
   "",
   "light:",
   "  bg:",
   "    background: slate-50 palette",
   "    surface: slate-200 palette",
   "    accent: sky palette",
   "",
   "dark:",
   "  bg:",
   "    background: slate-900 palette",
   "    surface: slate-700 palette",
   "    accent: sky palette"]

/-- Where the library stands. -/
def folder : Location := ["design-tokens", "themes", "library"]

/-- The names of the library's files and their lines. -/
def files : List (String × List String) := [("demo.yaml", demo), ("slate.yaml", slate)]

/-- The text of some lines. -/
def textOfLines (lines : List String) : String := String.join (lines.map (· ++ "\n"))

/-- A disk with a folder at a place and all folders around it. -/
def installFolder (tree : FileTree) (location : Location) : FileTree :=
  (List.range location.length).foldl (fun tree n => tree.put (location.take (n + 1)) .folder) tree

/-- A disk with the library on it. -/
def install (tree : FileTree) : FileTree :=
  files.foldl
    (fun tree file =>
      tree.put (folder ++ [file.1]) (.file (Text.encodeUtf8 (textOfLines file.2))))
    (installFolder tree folder)

end DesignTokens.BuiltIn
