import DesignTokens.Proofs.Collection.Stability
import DesignTokens.Proofs.Text.Utf8
import DesignTokens.Proofs.Theme.Rereading

/-!
# What was seen is what stands there

A collection keeps the themes that it has looked up. It is coherent if every theme that it keeps is
found again under its name. This module proves that a collection stays coherent when the disk
changes: when the project folder is made, and when a file is written into it.

## Main Definitions

* `Theme.IsSavable` — a theme whose document is read as the theme
* `Collection.Coherent` — every theme that is kept is what its files say

## Main Statements

* `Theme.IsSavable.theme_file` — what is read from a file that a theme was saved in
* `Collection.Coherent.makes` — coherence when the project folder is made
* `Collection.Coherent.written` — coherence when a file is written into the project folder
-/

namespace DesignTokens

/-! ### Saved themes -/

/-- A theme that was read as one of the supported schema and whose document, if it has one, is read
as the data that were written. Its name is that of a file. -/
structure Theme.IsSavable (theme : Theme) : Prop where
  /-- The name does not part folders. -/
  name : '/' ∉ theme.name.toList
  /-- The schema is the supported one. -/
  schema : theme.schema = supportedSchema
  /-- The theme was read from some data. -/
  read : ∃ sharing d, Theme.ofDatum sharing d = .ok theme
  /-- The document is read as what was written. -/
  document : ∀ text, theme.documentText? = some text → ∃ d sharing,
    Yaml.read (.ofText (Text.unifyReturns text.toList)) = .ok (d, sharing) ∧
      Datum.Alike sharing d theme.base.sharing theme.toDatum

/-- The bytes of a text are the source of the text, with its line ends unified. -/
theorem Yaml.Source.ofBytes_encodeUtf8 (text : String) :
    Source.ofBytes (Text.encodeUtf8 text) = .ofText (Text.unifyReturns text.toList) := by
  unfold Source.ofBytes Text.encodeUtf8
  rw [Text.decodeChars?_encodeChars]

/-- **A file that a theme was saved in gives the theme.** -/
theorem Theme.IsSavable.theme_file {theme : Theme} (h : theme.IsSavable) {text : String}
    (htext : theme.documentText? = some text) (file : Path) :
    ∃ again, (Entry.file (Text.encodeUtf8 text)).theme file = .ok again ∧ again.SameData theme := by
  obtain ⟨d, sharing, hread, halike⟩ := h.document text htext
  obtain ⟨sharing', d', hd'⟩ := h.read
  obtain ⟨entries, again, hopened, hparse, hsame⟩ :=
    Theme.parse_of_alike (Theme.keepsNames_of_ofDatum hd') h.schema halike
  refine ⟨again, ?_, hsame⟩
  simp only [Entry.theme, Yaml.Source.ofBytes_encodeUtf8, hread, hopened, hparse]
  rfl

namespace Collection

open Workspace

/-- Every theme that is kept is what its files say, and the project folder is not hidden. -/
structure Coherent (c : Collection) (w : Workspace) : Prop where
  /-- The disk is in order. -/
  sound : w.IsSound
  /-- The project folder is not hidden. -/
  inSight : ∀ folder, c.project = some folder → w.IsInSight folder
  /-- A theme that is kept is found again under its name. -/
  kept : ∀ name theme, c.seen.find? name = some theme → '/' ∉ name.toList ∧
    ∃ again, w.firstOf (c.candidates name) = .ok (some again) ∧ again.SameData theme

variable {c : Collection} {w after : Workspace} {folder : Path} {name : String}

/-! ### Candidates -/

theorem candidates_of_project (h : c.project = some folder) (name : String) :
    c.candidates name = [fileIn folder name, fileIn c.library name] := by
  simp [candidates, h]

/-- With a project folder a theme is found there, or in the library if there is none. -/
theorem firstOf_candidates_iff (h : c.project = some folder) {theme : Theme} :
    w.firstOf (c.candidates name) = .ok (some theme) ↔
      w.themeAt? (fileIn folder name) = .ok (some theme) ∨
        (w.themeAt? (fileIn folder name) = .ok none ∧
          w.themeAt? (fileIn c.library name) = .ok (some theme)) := by
  rw [candidates_of_project h]
  simp only [firstOf]
  cases w.themeAt? (fileIn folder name) with
  | error failure => simp
  | ok found =>
      cases found with
      | some first => simp
      | none =>
          cases w.themeAt? (fileIn c.library name) with
          | error failure => simp
          | ok found => cases found <;> simp

/-! ### Changes of the disk -/

theorem Coherent.sameDisk (h : c.Coherent w) (hsame : w.SameDisk after) : c.Coherent after := by
  refine ⟨h.sound.sameDisk hsame, fun folder hfolder => ?_, fun name theme hkept => ?_⟩
  · unfold IsInSight
    rw [hsame.tree, hsame.folder]
    exact h.inSight folder hfolder
  · rw [firstOf_congr hsame]
    exact h.kept name theme hkept

/-- **Coherence is kept when the project folder is made.**  The folder is new, so that no file in it
comes into sight. -/
theorem Coherent.makes (h : c.Coherent w) (hproject : c.project = some folder)
    (hmakes : Makes folder w after) : c.Coherent after := by
  refine ⟨hmakes.isSound h.sound, ?_, ?_⟩
  · intro other hother
    obtain rfl : folder = other := Option.some.inj (hproject.symm.trans hother)
    obtain ⟨around, hwalk, -⟩ := hmakes.reached
    intro _ hmissing
    rw [hwalk] at hmissing
    cases hmissing
  · intro name theme hkept
    obtain ⟨hname, again, hagain, hsame⟩ := h.kept name theme hkept
    refine ⟨hname, again, ?_, hsame⟩
    rw [firstOf_candidates_iff hproject] at hagain ⊢
    -- Whichever file the theme was found at, its name is not too long.
    have hfound : ∀ other : Path, w.themeAt? (fileIn other name) = .ok (some again) →
        (name ++ ending).utf8ByteSize ≤ FileTree.nameLimit ∧
          after.themeAt? (fileIn other name) = .ok (some again) := by
      intro other hother
      obtain ⟨entry, hfind⟩ := exists_find_of_themeAt? hother
      obtain ⟨location, hlocate, -⟩ := find_eq_ok_iff.mp hfind
      obtain ⟨around, -, -, hshort, -⟩ :=
        (walk_fileIn_eq_ok_iff hname).mp (FileTree.locate_eq_ok_iff.mp hlocate).2.2
      exact ⟨hshort, by rw [themeAt?_eq_of_find hfind (find_of_makes hmakes hfind), hother]⟩
    rcases hagain with hagain | ⟨hnone, hagain⟩
    · exact .inl (hfound folder hagain).2
    · obtain ⟨hshort, hlibrary⟩ := hfound c.library hagain
      exact .inr ⟨themeAt?_of_makes h.sound hmakes (h.inSight folder hproject) hname hshort hnone,
        hlibrary⟩

/-- **Coherence is kept when a file is written into the project folder**, if what is kept under its
name is what was written. -/
theorem Coherent.written (h : c.Coherent w) (hproject : c.project = some folder)
    (hname : '/' ∉ name.toList) {location : Location}
    (hlocate : w.tree.locate w.folder (fileIn folder name) = .ok location)
    (hplace : w.tree.entry? location ≠ some .folder) {content : List UInt8}
    {seen : OrderedMap String Theme}
    (hothers : ∀ other theme, other ≠ name → seen.find? other = some theme →
      c.seen.find? other = some theme)
    (hkept : ∀ theme, seen.find? name = some theme → ∃ again,
      (Entry.file content).theme (fileIn folder name) = .ok again ∧ again.SameData theme) :
    Coherent { c with seen := seen } (w.written location content) := by
  refine ⟨h.sound.written hlocate hplace, ?_, ?_⟩
  · intro other hother
    obtain rfl : folder = other := Option.some.inj (hproject.symm.trans hother)
    intro _ hmissing
    -- The walk to the folder succeeded before, and there are the same folders.
    obtain ⟨around, hwalk, -⟩ :=
      (walk_fileIn_eq_ok_iff hname).mp (FileTree.locate_eq_ok_iff.mp hlocate).2.2
    have hthere := (FileTree.walk_ok_congr (FileTree.sameFolders_put hplace content)).mp hwalk
    change (w.tree.put _ _).walk w.folder folder = _ at hmissing
    rw [hthere] at hmissing
    cases hmissing
  · intro other theme hfind
    by_cases hsame : other = name
    · subst hsame
      obtain ⟨again, hagain, hdata⟩ := hkept theme hfind
      refine ⟨hname, again, (firstOf_candidates_iff (c := { c with seen := seen })
        hproject).mpr (.inl ?_), hdata⟩
      rw [themeAt?_written hlocate hplace, hagain]
      rfl
    · obtain ⟨hother, again, hagain, hdata⟩ := h.kept other theme (hothers other theme hsame hfind)
      refine ⟨hother, again, ?_, hdata⟩
      have hstays : ∀ place : Path, (w.written location content).themeAt? (fileIn place other) =
          w.themeAt? (fileIn place other) := fun place =>
        themeAt?_written_of_ne hplace fun _ hfile =>
          locate_fileIn_ne hother hname hsame hfile hlocate
      rw [firstOf_candidates_iff hproject] at hagain
      rw [firstOf_candidates_iff (c := { c with seen := seen }) hproject, hstays, hstays]
      exact hagain

end Collection

end DesignTokens
