import DesignTokens.Generator
import DesignTokens.Proofs.Workspace.Changes

/-!
# Runs that fail

A run that writes files writes the stylesheet first. If the module cannot be written after that, the
stylesheet is removed, so that the files of a theme are there together or not at all. This module
compares the files on the disk before and after a run that ends with the status 1.

## Main Definitions

* `Generator.writeFirst`, `Generator.writeSecond` — the two halves of a run
* `Generator.stylesheetPlace` — where the stylesheet of a run belongs
* `Generator.WritesStylesheet` — the stylesheet is written, whatever becomes of it

## Main Statements

* `Generator.perform_eq` — a run that writes files consists of its two halves
* `Generator.run_ends` — what is left of the disk by a run that fails
* `Generator.sameFiles_iff_of_run_one` — such a run keeps all files exactly when it has not written
  its stylesheet over an earlier one
* `Generator.not_forall_sameFiles` — an earlier stylesheet can be lost

## Design Notes

Removing the stylesheet does not bring back what it was written over. The exact condition therefore
looks at the place of the stylesheet before the run.
-/

namespace DesignTokens

namespace Generator

open Workspace

variable {settings : GeneratorSettings} {w : Workspace}

/-! ### The two halves of a run -/

/-- The first half of a run: its theme is loaded and the stylesheet is written. -/
def writeFirst (settings : GeneratorSettings) : Job (Theme × Path) := do
  let theme ← loadTheme settings.theme settings.themesFolder
  Job.record .info ("Generating theme files for '" ++ theme.name ++ "'")
  let file ← theme.writeStylesheet none (.ofText settings.css)
  pure (theme, file)

/-- The second half of a run: the module is written, or else the stylesheet is removed. -/
def writeSecond (settings : GeneratorSettings) (theme : Theme) (file : Path) : Job Unit := do
  match ← (theme.writeModule none (.ofText settings.ts)).attempt with
  | .ok _ => pure ()
  | .error failure =>
    if failure.isThemeFailure || failure.isDiskFailure then Job.removeFile file
    throw failure

/-- A run that writes files consists of its two halves. -/
theorem perform_eq (hcheck : settings.check = false) :
    perform settings = (do
      let done ← writeFirst settings
      writeSecond settings done.1 done.2
      Job.record .info "Theme generation completed successfully"
      pure 0) := by
  unfold perform writeFirst writeSecond generate
  simp only [bind_assoc, pure_bind]
  rw [hcheck]
  rfl

/-- The place that the path of the stylesheet names. -/
def stylesheetPlace (settings : GeneratorSettings) (w : Workspace) : Location :=
  (Path.ofLocation ((Path.ofText settings.css).resolve w.folder)).resolve w.folder

/-- The first half of a run succeeds: the stylesheet is written, whatever becomes of it. -/
def WritesStylesheet (settings : GeneratorSettings) (w : Workspace) : Prop :=
  ∃ theme file after, writeFirst settings w = .ok (theme, file) after

/-! ### What the halves do to the disk -/

/-- Telling how a theme is named looks at the disk and changes nothing. -/
theorem isFilePath_ends (path : Path) (w : Workspace) :
    (isFilePath path).Ends w (fun _ after => after = w)
      fun failure after => after = w ∧ failure.isThemeFailure = false := by
  unfold isFilePath
  split
  · exact Job.ends_pure rfl
  · refine ((Job.look_ends path w).mono (fun _ _ h => h.1) ?_).bind ?_
    · rintro failure _ ⟨rfl, cause, -, rfl⟩
      exact ⟨rfl, rfl⟩
    · rintro found _ rfl
      split <;> exact Job.ends_pure rfl

/-- **Loading a theme** changes the log at most. -/
theorem loadTheme_ends (nameOrPath : String) (themesFolder : Path) (w : Workspace) :
    (loadTheme nameOrPath themesFolder).Ends w (fun _ after => w.SameDisk after)
      fun _ after => w.SameDisk after := by
  unfold loadTheme
  dsimp only
  refine ((isFilePath_ends (.ofText nameOrPath) w).mono_bad ?_).bind ?_
  · rintro _ _ ⟨rfl, -⟩
    exact .refl _
  · rintro isFile _ rfl
    split
    · refine Job.ends_get_bind (Job.ends_ofExcept (fun _ _ => .refl _) fun _ _ => .refl _)
    · refine ((Collection.find_ends rfl _).mono_bad fun _ _ h => h.1).bind ?_
      rintro ⟨found, themes⟩ between ⟨hsame, -⟩
      cases found with
      | some theme => exact Job.ends_pure hsame
      | none =>
          refine ((Collection.list_ends themes between).mono_bad ?_).bind ?_
          · exact fun _ _ h => hsame.trans h
          · exact fun _ _ h => Job.ends_throw (hsame.trans h)

/-- Writing the stylesheet of a theme puts it in the place that its path names, or gains folders at
most. -/
theorem writeStylesheet_ends (theme : Theme) (path : Path) (w : Workspace) :
    (theme.writeStylesheet none path).Ends w
      (fun file after => file = w.fileAt path ∧
        ∃ text, theme.css = .ok text ∧ w.Puts file (Text.encodeUtf8 text) after)
      fun _ after => w.Gains after := by
  have htext : (Job.ofExcept (theme.css.mapError .reference)).Ends w
      (fun text after => after = w ∧ theme.css = .ok text) fun _ after => after = w := by
    cases theme.css with
    | ok text => exact Job.ends_pure ⟨rfl, rfl⟩
    | error fault => exact Job.ends_throw rfl
  exact Job.writeMade_ends htext path fun file => "Generated CSS variables at " ++ file.text

/-- Writing the module of a theme puts it in the place that its path names, or gains folders at
most. -/
theorem writeModule_ends (theme : Theme) (path : Path) (w : Workspace) :
    (theme.writeModule none path).Ends w
      (fun file after => file = w.fileAt path ∧
        ∃ text, theme.tailwindModule? = some text ∧ w.Puts file (Text.encodeUtf8 text) after)
      fun _ after => w.Gains after := by
  have htext : (Job.ofOption theme.tailwindModule? .unprintable).Ends w
      (fun text after => after = w ∧ theme.tailwindModule? = some text) fun _ after => after = w :=
    Job.ends_ofOption (fun _ h => ⟨rfl, h⟩) fun _ => rfl
  exact Job.writeMade_ends htext path fun file => "Generated Tailwind config at " ++ file.text

/-- The first half of a run puts the stylesheet in its place, or gains folders at most. -/
theorem writeFirst_ends (settings : GeneratorSettings) (w : Workspace) :
    (writeFirst settings).Ends w
      (fun done after => (∃ loaded, loadTheme settings.theme settings.themesFolder w =
          .ok done.1 loaded) ∧
        done.2 = w.fileAt (.ofText settings.css) ∧
        ∃ text, done.1.css = .ok text ∧ w.Puts done.2 (Text.encodeUtf8 text) after)
      fun _ after => w.Gains after := by
  unfold writeFirst
  refine ((loadTheme_ends _ _ w).with_end.mono_bad fun _ _ h => h.2.gains).bind ?_
  rintro theme loaded ⟨hrun, hload⟩
  -- The record that follows does not touch the disk.
  have hstart : w.Gains { loaded with log := loaded.log ++
      [⟨.info, "Generating theme files for '" ++ theme.name ++ "'"⟩] } :=
    ⟨hload.gains.grows, hload.gains.sameFolder⟩
  refine Job.ends_record_bind ?_
  refine ((writeStylesheet_ends theme _ _).mono_bad fun _ _ h => hstart.trans h).bind ?_
  rintro file after ⟨hfile, text, hcss, hputs⟩
  refine Job.ends_pure ⟨⟨loaded, hrun⟩, ?_, text, hcss, hputs.of_gains hstart⟩
  rw [hfile, fileAt_congr hstart.sameFolder]

/-- **The second half of a run** puts the module in its place, or fails without the stylesheet, if
the run recovers from the failure; nothing else has changed then. -/
theorem writeSecond_ends {theme : Theme} {file : Path} {content : List UInt8}
    {between : Workspace} (h : w.Puts file content between) :
    (writeSecond settings theme file).Ends between
      (fun _ after => ∃ text, theme.tailwindModule? = some text ∧
        between.Puts (between.fileAt (.ofText settings.ts)) (Text.encodeUtf8 text) after)
      fun failure after => (failure.isThemeFailure || failure.isDiskFailure) = true →
        after.tree.entry? (file.resolve w.folder) = none ∧
          (w.tree.clear (file.resolve w.folder)).Grows after.tree := by
  unfold writeSecond
  refine (Job.attempt_ends (writeModule_ends theme (.ofText settings.ts) between)).bind ?_
  rintro result after ⟨hwritten, hfailed⟩
  cases result with
  | ok module =>
      obtain ⟨rfl, text, hmodule, hputs⟩ := hwritten _ rfl
      exact Job.ends_pure ⟨text, hmodule, hputs⟩
  | error failure =>
      have hgains : between.Gains after := hfailed failure rfl
      dsimp only
      split
      · -- The failure is recovered from, so the stylesheet is removed.
        unfold Job.Ends
        simp only [bind, EStateM.bind, h.removeFile_eq hgains]
        intro _
        refine ⟨?_, h.grows_clear hgains⟩
        rw [FileTree.entry?_clear, if_neg h.place_ne_root, if_pos rfl]
      · next hstays => exact Job.ends_throw fun hrecovers => absurd hrecovers hstays

/-! ### A run that fails -/

/-- What a run leaves behind when it ends with the status 1: folders, and all the files that there
were, without the one in the place of the stylesheet if a stylesheet was written there. -/
structure LeftBy (settings : GeneratorSettings) (w after : Workspace) : Prop where
  /-- If no stylesheet was written, only folders were added. -/
  grows : ¬ WritesStylesheet settings w → w.tree.Grows after.tree
  /-- If a stylesheet was written, only folders were added in the other places. -/
  growsElse : WritesStylesheet settings w →
    (w.tree.clear (stylesheetPlace settings w)).Grows after.tree
  /-- Nothing is left in its place. -/
  cleared : WritesStylesheet settings w → after.tree.entry? (stylesheetPlace settings w) = none
  /-- There was no folder. -/
  noFolder : WritesStylesheet settings w →
    w.tree.entry? (stylesheetPlace settings w) ≠ some .folder

/-- A failure of the two halves that a run recovers from. -/
theorem perform_ends (hcheck : settings.check = false) (w : Workspace) :
    (perform settings).Ends w (fun status _ => status = 0)
      fun failure after => (failure.isThemeFailure || failure.isDiskFailure) = true →
        LeftBy settings w after := by
  rw [perform_eq hcheck]
  refine ((writeFirst_ends settings w).with_end.mono_bad ?_).bind ?_
  · rintro failure after ⟨hrun, hgains⟩ -
    have hnot : ¬ WritesStylesheet settings w := by
      rintro ⟨theme, file, written, hwritten⟩
      rw [hrun] at hwritten
      cases hwritten
    exact ⟨fun _ => hgains.grows, fun h => absurd h hnot, fun h => absurd h hnot,
      fun h => absurd h hnot⟩
  · rintro ⟨theme, file⟩ between ⟨hrun, -, hfile, text, -, hputs⟩
    have hplace : file.resolve w.folder = stylesheetPlace settings w :=
      congrArg (Path.resolve w.folder) hfile
    have hwrites : WritesStylesheet settings w := ⟨theme, file, between, hrun⟩
    refine ((writeSecond_ends hputs).mono_bad ?_).bind ?_
    · intro failure after hleft hrecovers
      obtain ⟨hcleared, hgrows⟩ := hleft hrecovers
      have hfolder := hputs.not_folder
      rw [hplace] at hcleared hgrows hfolder
      exact ⟨fun h => absurd hwrites h, fun _ => hgrows, fun _ => hcleared, fun _ => hfolder⟩
    · exact fun _ _ _ => Job.ends_record_bind (Job.ends_pure rfl)

/-- **What a run that fails leaves behind.** -/
theorem run_ends (hcheck : settings.check = false) (w : Workspace) :
    (run settings).Ends w (fun status after => status = 1 → LeftBy settings w after)
      fun _ _ => True := by
  unfold run
  refine (Job.attempt_ends (perform_ends hcheck w)).bind ?_
  rintro result after ⟨hok, hbad⟩
  cases result with
  | ok status =>
      refine Job.ends_pure fun hone => ?_
      rw [hok status rfl] at hone
      cases hone
  | error failure =>
      dsimp only
      split
      · next hrecovers =>
          have hleft := hbad failure rfl hrecovers
          exact Job.ends_record_bind (Job.ends_pure fun _ =>
            ⟨hleft.grows, hleft.growsElse, hleft.cleared, hleft.noFolder⟩)
      · exact Job.ends_throw trivial

/-- The files that are left by a run are those that there were, without the one in the place of a
stylesheet that was written. -/
theorem LeftBy.entry?_eq_file_iff {after : Workspace} (h : LeftBy settings w after)
    (location : Location) (content : List UInt8) :
    after.tree.entry? location = some (.file content) ↔
      w.tree.entry? location = some (.file content) ∧
        ¬ (WritesStylesheet settings w ∧ location = stylesheetPlace settings w) := by
  by_cases hwrites : WritesStylesheet settings w
  · rw [← (h.growsElse hwrites).sameFiles, FileTree.entry?_clear_eq_file_iff]
    simp [hwrites]
  · rw [← (h.grows hwrites).sameFiles]
    simp [hwrites]

/-- The folders that there were are left. -/
theorem LeftBy.entry?_eq_folder {after : Workspace} (h : LeftBy settings w after)
    {location : Location} (hfolder : w.tree.entry? location = some .folder) :
    after.tree.entry? location = some .folder := by
  by_cases hwrites : WritesStylesheet settings w
  · refine (h.growsElse hwrites).kept _ _ ?_
    have hother : location ≠ stylesheetPlace settings w := by
      rintro rfl
      exact h.noFolder hwrites hfolder
    rw [FileTree.entry?_clear, if_neg hother, hfolder, ite_self]
  · exact (h.grows hwrites).kept _ _ hfolder

/-- **What a run that fails leaves behind.**  If a run that writes files ends with the status 1, the
files on the disk are those that there were, without the one in the place of the stylesheet if the
stylesheet was written; and the folders that there were are still there. So all files are the same,
with the same contents, exactly when no stylesheet was written over a file. -/
theorem sameFiles_iff_of_run_one (settings : GeneratorSettings) (w after : Workspace)
    (hcheck : settings.check = false) (hrun : run settings w = .ok 1 after) :
    (∀ location content, after.tree.entry? location = some (.file content) ↔
      w.tree.entry? location = some (.file content) ∧
        ¬ (WritesStylesheet settings w ∧ location = stylesheetPlace settings w)) ∧
    (∀ location, w.tree.entry? location = some .folder →
      after.tree.entry? location = some .folder) ∧
    (w.tree.SameFiles after.tree ↔ ¬ (WritesStylesheet settings w ∧
      ∃ content, w.tree.entry? (stylesheetPlace settings w) = some (.file content))) := by
  have hleft : LeftBy settings w after := (run_ends hcheck w).of_ok hrun rfl
  refine ⟨hleft.entry?_eq_file_iff, fun location => hleft.entry?_eq_folder, ?_⟩
  constructor
  · rintro hsame ⟨hwrites, content, hcontent⟩
    have hkept := (hsame _ content).mp hcontent
    rw [hleft.cleared hwrites] at hkept
    cases hkept
  · intro hnone location content
    rw [hleft.entry?_eq_file_iff]
    refine ⟨fun hcontent => ⟨hcontent, ?_⟩, And.left⟩
    rintro ⟨hwrites, rfl⟩
    exact hnone ⟨hwrites, content, hcontent⟩

/-- A project with a stylesheet from an earlier run, and with a file where the module's folder
belongs. -/
def earlierStylesheet : Workspace :=
  ⟨⟨.ofList [(["plain.yaml"], .file (Text.encodeUtf8 "name: plain\n")), (["styles"], .folder),
    (["styles", "theme.css"], .file (Text.encodeUtf8 ":root")), (["lib"], .file [])]⟩, [], []⟩

/-- The settings that name a theme by its file. -/
def plainSettings : GeneratorSettings := { GeneratorSettings.default with theme := "plain.yaml" }

/-- Whether a run ended with the status 1 and left nothing in a place. -/
def lacks (result : EStateM.Result Failure Workspace Nat) (location : Location) : Bool :=
  match result with
  | .ok 1 after => (after.tree.entry? location).isNone
  | _ => false

theorem exists_of_lacks {result : EStateM.Result Failure Workspace Nat} {location : Location}
    (h : lacks result location = true) :
    ∃ after, result = .ok 1 after ∧ after.tree.entry? location = none := by
  unfold lacks at h
  split at h
  · next after => exact ⟨after, rfl, Option.isNone_iff_eq_none.mp h⟩
  · cases h

/-- The run ends with the status 1, and no stylesheet is left. -/
theorem lacks_earlierStylesheet :
    lacks (run plainSettings earlierStylesheet) ["styles", "theme.css"] = true := by
  decide +kernel

theorem sameFiles_iff_of_run_one_earlierStylesheet : ∃ after,
    plainSettings.check = false ∧ run plainSettings earlierStylesheet = .ok 1 after ∧
      (earlierStylesheet.tree.SameFiles after.tree ↔
        ¬ (WritesStylesheet plainSettings earlierStylesheet ∧ ∃ content,
          earlierStylesheet.tree.entry? (stylesheetPlace plainSettings earlierStylesheet) =
            some (.file content))) := by
  obtain ⟨after, hrun, -⟩ := exists_of_lacks lacks_earlierStylesheet
  exact ⟨after, rfl, hrun,
    (sameFiles_iff_of_run_one plainSettings earlierStylesheet after rfl hrun).2.2⟩

/-- **An earlier stylesheet can be lost** by a run that fails: it is written over, and what was
written is removed. -/
theorem not_forall_sameFiles :
    ¬ ∀ (words : List String) (settings : GeneratorSettings) (w after : Workspace),
      GeneratorSettings.parse words = .ok settings → settings.check = false → w.IsSound →
        run settings w = .ok 1 after → w.tree.SameFiles after.tree := by
  intro h
  obtain ⟨after, hrun, hnone⟩ := exists_of_lacks lacks_earlierStylesheet
  have hwords : GeneratorSettings.parse ["--theme", "plain.yaml"] = .ok plainSettings := by
    decide +kernel
  have hsound : earlierStylesheet.IsSound := by decide +kernel
  have hearlier : earlierStylesheet.tree.entry? ["styles", "theme.css"] =
      some (.file (Text.encodeUtf8 ":root")) := by decide +kernel
  have hsame := h _ plainSettings earlierStylesheet after hwords rfl hsound hrun
  have hkept := (hsame ["styles", "theme.css"] (Text.encodeUtf8 ":root")).mp hearlier
  rw [hnone] at hkept
  cases hkept

end Generator

end DesignTokens
