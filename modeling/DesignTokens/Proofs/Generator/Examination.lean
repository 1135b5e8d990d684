import DesignTokens.Generator
import DesignTokens.Proofs.Collection.Lookup
import DesignTokens.Proofs.Report.Verdict

/-!
# Examining a theme

A run of the generator that only examines its theme ends with the status 0 when a theme was loaded
and its report has no errors. This module follows such a run and ties its status, the report and the
stylesheet to each other.

## Main Definitions

* `Generator.LoadsValid` — the settings name a theme whose report has no errors

## Main Statements

* `Generator.examine_ends` — an examination tells whether the report has no errors, and changes the
  log at most
* `Generator.exists_run_eq` — the status is the verdict on the theme that is loaded
* `Generator.run_eq_ok_zero_iff` — the runs that end with the status 0
* `Generator.css_iff_report_and_check` — the stylesheet, the report and the status
* `Generator.not_forall_report_iff_css` — a report without errors does not promise a stylesheet
-/

namespace DesignTokens.Generator

/-- **An examination tells whether the report has no errors**, and changes the log at most. It
cannot fail. -/
theorem examine_ends (theme : Theme) (remarks : Bool) (w : Workspace) :
    (examine theme remarks).Ends w
      (fun valid after => w.SameDisk after ∧ valid = theme.report.isValid) fun _ _ => False := by
  unfold examine
  refine Job.Ends.bind (Job.ends_forIn w.SameDisk (fun issue between h => ?_) (.refl w))
    fun _ between hbetween => ?_
  · -- An issue is recorded or passed over, and the loop goes on.
    dsimp only
    split
    · exact Job.ends_record_bind (Job.ends_pure ⟨rfl, h.tree, h.folder⟩)
    · exact Job.ends_pure ⟨rfl, h⟩
  · dsimp only
    split
    · exact Job.ends_record_bind (Job.ends_pure ⟨⟨hbetween.tree, hbetween.folder⟩, rfl⟩)
    · exact Job.ends_pure ⟨hbetween, rfl⟩

/-- An examination answers with the verdict of the report. -/
theorem exists_examine_eq (theme : Theme) (remarks : Bool) (w : Workspace) :
    ∃ after, examine theme remarks w = .ok theme.report.isValid after := by
  have hends := examine_ends theme remarks w
  cases hrun : examine theme remarks w with
  | ok valid after =>
      obtain rfl : valid = theme.report.isValid := (hends.of_ok hrun).2
      exact ⟨after, rfl⟩
  | error failure after => exact (hends.of_error hrun).elim

variable {settings : GeneratorSettings} {w between : Workspace} {theme : Theme}
  {failure : Failure}

/-- A run that only examines answers with the verdict on the theme that it loads. -/
theorem exists_perform_eq (hcheck : settings.check = true)
    (hload : loadTheme settings.theme settings.themesFolder w = .ok theme between) :
    ∃ after, perform settings w = .ok (if theme.report.isValid then 0 else 1) after := by
  obtain ⟨after, hexamine⟩ := exists_examine_eq theme settings.debug between
  refine ⟨after, ?_⟩
  unfold perform
  simp only [bind, EStateM.bind, hload, hcheck, if_true, hexamine]
  rfl

/-- A run fails as the loading of its theme does. -/
theorem perform_eq_error
    (hload : loadTheme settings.theme settings.themesFolder w = .error failure between) :
    perform settings w = .error failure between := by
  unfold perform
  simp only [bind, EStateM.bind, hload]

/-- The status of a run that only examines is the verdict on the theme that it loads. -/
theorem exists_run_eq (hcheck : settings.check = true)
    (hload : loadTheme settings.theme settings.themesFolder w = .ok theme between) :
    ∃ after, run settings w = .ok (if theme.report.isValid then 0 else 1) after := by
  obtain ⟨after, hperform⟩ := exists_perform_eq hcheck hload
  refine ⟨after, ?_⟩
  unfold run
  simp only [bind, EStateM.bind, Job.attempt, hperform]
  rfl

/-- A run whose theme cannot be loaded does not end with the status 0. -/
theorem run_ne_ok_zero
    (hload : loadTheme settings.theme settings.themesFolder w = .error failure between)
    (after : Workspace) : run settings w ≠ .ok 0 after := by
  unfold run
  simp only [bind, EStateM.bind, Job.attempt, perform_eq_error hload]
  -- The status is 1 if the failure is recovered from, and else the failure stays.
  split <;> exact fun h => nomatch h

/-- A theme was loaded, and its report has no errors. -/
def LoadsValid (settings : GeneratorSettings) (w : Workspace) : Prop :=
  ∃ theme between, loadTheme settings.theme settings.themesFolder w = .ok theme between ∧
    theme.report.errors = []

theorem loadsValid_iff
    (hload : loadTheme settings.theme settings.themesFolder w = .ok theme between) :
    LoadsValid settings w ↔ theme.report.errors = [] := by
  constructor
  · rintro ⟨other, after, hother, hvalid⟩
    rw [hload] at hother
    cases hother
    exact hvalid
  · exact fun hvalid => ⟨theme, between, hload, hvalid⟩

/-- **The runs that end with the status 0**, among those that only examine, are those that load a
theme whose report has no errors. -/
theorem run_eq_ok_zero_iff (hcheck : settings.check = true) (w : Workspace) :
    (∃ after, run settings w = .ok 0 after) ↔ LoadsValid settings w := by
  cases hload : loadTheme settings.theme settings.themesFolder w with
  | ok theme between =>
      obtain ⟨after, hrun⟩ := exists_run_eq hcheck hload
      have hvalid : theme.report.isValid = true ↔ theme.report.errors = [] := List.isEmpty_iff
      rw [loadsValid_iff hload, ← hvalid, hrun]
      cases theme.report.isValid <;> simp
  | error failure between =>
      constructor
      · rintro ⟨after, hrun⟩
        exact absurd hrun (run_ne_ok_zero hload after)
      · rintro ⟨theme, after, htheme, -⟩
        rw [hload] at htheme
        cases htheme

/-- **The stylesheet, the report and the status.**  A report has no errors exactly when no checked
section has a broken reference, and a theme has a stylesheet exactly when, besides, no zIndex or
container token has one. An error is the only one and tells what the making of the stylesheet ends
with. A run that only examines ends with the status 0 exactly when it loads a theme whose report has
no errors; if the zIndex and container tokens of the theme that it loads are sound, exactly when the
theme has a stylesheet. -/
theorem css_iff_report_and_check :
    (∀ theme : Theme,
      (theme.report.errors = [] ↔ ∀ value ∈ theme.light.bg.values ++ theme.dark.bg.values ++
        theme.base.spacing.values ++ theme.base.size.values, ¬ theme.IsBroken value) ∧
      ((∃ text, theme.css = .ok text) ↔ theme.report.errors = [] ∧
        ∀ value ∈ theme.base.zIndex.values ++ theme.base.container.values,
          ¬ theme.IsBroken value) ∧
      ∀ issue ∈ theme.report.errors, theme.report.errors = [issue] ∧
        ∃ fault, theme.css = .error fault ∧ issue.message = fault.message ∧
          issue.location = fault.place) ∧
    ∀ (settings : GeneratorSettings) (w : Workspace), settings.check = true →
      ((∃ after, run settings w = .ok 0 after) ↔ ∃ theme between,
        loadTheme settings.theme settings.themesFolder w = .ok theme between ∧
          theme.report.errors = []) ∧
      ∀ theme between,
        loadTheme settings.theme settings.themesFolder w = .ok theme between →
          (∀ value ∈ theme.base.zIndex.values ++ theme.base.container.values,
            ¬ theme.IsBroken value) →
          ((∃ after, run settings w = .ok 0 after) ↔ ∃ text, theme.css = .ok text) := by
  refine ⟨fun theme => ⟨Theme.errors_eq_nil_iff, Theme.exists_css_iff,
    fun issue => Theme.css_of_mem_errors⟩, fun settings w hcheck => ⟨run_eq_ok_zero_iff hcheck w,
    fun theme between hload hsound => ?_⟩⟩
  rw [run_eq_ok_zero_iff hcheck w, loadsValid_iff hload, Theme.exists_css_iff]
  exact ⟨fun hvalid => ⟨hvalid, hsound⟩, And.left⟩

/-- A theme with a zIndex token that refers to a color that there is not. -/
def brokenZIndex : Theme where
  schema := supportedSchema
  name := "layered"
  description := ""
  base := { BaseTokens.empty with
    palette := .ofList [("ink", "#111")]
    zIndex := .ofList [("odd", "teal palette")] }
  light := ⟨.ofList [("text", "ink palette")]⟩
  dark := ⟨.ofList [("text", "ink palette")]⟩

/-- **A report without errors does not promise a stylesheet.** -/
theorem not_forall_report_iff_css :
    ¬ ∀ theme : Theme, theme.report.errors = [] ↔ ∃ text, theme.css = .ok text := by
  intro h
  have hvalid : brokenZIndex.report.errors = [] := by
    rw [Theme.errors_eq_nil_iff]
    decide
  have hbroken : brokenZIndex.IsBroken "teal palette" := by decide
  obtain ⟨text, hcss⟩ := (h brokenZIndex).mp hvalid
  have hsound := (Theme.exists_css_iff.mp ⟨text, hcss⟩).2
  exact hsound "teal palette" (by decide) hbroken

end DesignTokens.Generator
