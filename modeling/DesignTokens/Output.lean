import DesignTokens.Stylesheet
import DesignTokens.Tailwind
import DesignTokens.Workspace

/-!
# Generated files

A theme is compiled into two files, a stylesheet and a TypeScript module. A text is made before the
disk is touched, so a theme that cannot be compiled leaves nothing behind.

## Main Definitions

* `Job.writeText` — a text in a file, with the folders around it
* `Theme.writeStylesheet`, `Theme.writeModule` — the two files of a theme

## Design Notes

A relative path is read from a base folder and followed by its names alone. The path that is
answered starts at the root.
-/

namespace DesignTokens

/-- Writes a text to the file at a path, which is read from a base folder if there is one. The
folders around the file are made as far as they are missing. -/
def Job.writeText (base : Option Path) (path : Path) (text : String) : Job Path := do
  let file ← Job.resolve ((base.map fun folder => folder.join path).getD path)
  Job.makeFolders file.parent
  Job.writeFile file text
  pure file

namespace Theme

/-- Writes the stylesheet of a theme and tells where it stands. -/
def writeStylesheet (theme : Theme) (base : Option Path) (path : Path) : Job Path := do
  let text ← Job.ofExcept (theme.css.mapError .reference)
  let file ← Job.writeText base path text
  Job.record .info ("Generated CSS variables at " ++ file.text)
  pure file

/-- Writes the TypeScript module of a theme and tells where it stands. -/
def writeModule (theme : Theme) (base : Option Path) (path : Path) : Job Path := do
  let text ← Job.ofOption theme.tailwindModule? .unprintable
  let file ← Job.writeText base path text
  Job.record .info ("Generated Tailwind config at " ++ file.text)
  pure file

end Theme

end DesignTokens
