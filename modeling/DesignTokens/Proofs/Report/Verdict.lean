import DesignTokens.Proofs.Report.Passes
import DesignTokens.Proofs.Stylesheet.Compilation

/-!
# The verdict of a report

A report finds a theme valid when it has no errors, and only the check of references makes one. The
check leaves zIndex and container to the resolution of scales. A theme that is found valid may
therefore have no stylesheet because of a zIndex or container token, and for no other reason.

## Main Definitions

* `Theme.uncheckedValues` — the values that are resolved and not checked

## Main Statements

* `Theme.errors_report` — the errors of a report are those of the check
* `Theme.errors_eq_nil_iff` — a theme is valid when no checked section has a broken reference
* `Theme.exists_css_iff` — what a valid theme needs besides to have a stylesheet
* `Theme.css_of_mem_errors` — an error tells what the making of the stylesheet ends with
-/

namespace DesignTokens.Theme

variable {theme : Theme}

/-- The check makes errors, one at most. -/
theorem referenceIssues_eq (theme : Theme) :
    theme.referenceIssues = (fault? theme.checkReferences).toList.map fun fault =>
      ⟨.error, "INVALID_PALETTE_REF", fault.message, fault.place⟩ := by
  unfold referenceIssues
  cases theme.checkReferences <;> rfl

/-- The other passes make warnings and remarks. -/
theorem severity_ne_error {issue : Issue}
    (h : issue ∈ theme.paletteIssues ++ theme.modeIssues ++ theme.usageIssues ++
      theme.grammarIssues) : issue.severity ≠ .error := by
  simp only [List.mem_append, or_assoc] at h
  rcases h with h | h | h | h
  · unfold paletteIssues at h
    split at h
    · rw [List.mem_singleton.mp h]
      decide
    · simp at h
  · rcases List.mem_append.mp h with h | h <;> obtain ⟨key, -, rfl⟩ := List.mem_map.mp h <;> simp
  · obtain ⟨key, -, rfl⟩ := List.mem_map.mp h
    simp
  · obtain ⟨c, -, h⟩ := List.mem_flatMap.mp h
    obtain ⟨e, -, he⟩ := List.mem_filterMap.mp h
    cases hparse : TokenValue.parse e.2 with
    | ok value => simp [hparse] at he
    | error fault =>
        simp only [hparse, Option.some.injEq] at he
        rw [← he]
        simp

/-- **The errors of a report are those of the check.** -/
theorem errors_report (theme : Theme) : theme.report.errors = theme.referenceIssues := by
  have hissues : theme.report.issues = theme.referenceIssues ++
      (theme.paletteIssues ++ theme.modeIssues ++ theme.usageIssues ++ theme.grammarIssues) := by
    simp only [report, List.append_assoc]
  have hcheck : ∀ issue ∈ theme.referenceIssues, decide (issue.severity = .error) = true := by
    intro issue hissue
    rw [referenceIssues_eq] at hissue
    obtain ⟨fault, -, rfl⟩ := List.mem_map.mp hissue
    rfl
  rw [Report.errors, Report.ofSeverity, hissues, List.filter_append,
    List.filter_eq_self.mpr hcheck,
    List.filter_eq_nil_iff.mpr fun issue h => by simpa using severity_ne_error h, List.append_nil]

/-- A report is valid when the check passes. -/
theorem errors_eq_nil_iff_fault? :
    theme.report.errors = [] ↔ fault? theme.checkReferences = none := by
  rw [errors_report, referenceIssues_eq, List.map_eq_nil_iff, Option.toList_eq_nil_iff]

/-- No site of a section is broken when none of its values is. -/
theorem findSome?_sites_eq_none_iff (tokens : TokenMap) (part : Option String) :
    (tokens.sites part).findSome? theme.siteFault? = none ↔
      ∀ value ∈ tokens.values, ¬ theme.IsBroken value := by
  simp only [List.findSome?_eq_none_iff, siteFault?_eq_none_iff, TokenMap.sites, OrderedMap.values,
    List.forall_mem_map]

/-- **A theme is valid when no checked section has a broken reference.** -/
theorem errors_eq_nil_iff :
    theme.report.errors = [] ↔ ∀ value ∈ theme.light.bg.values ++ theme.dark.bg.values ++
      theme.base.spacing.values ++ theme.base.size.values, ¬ theme.IsBroken value := by
  rw [errors_eq_nil_iff_fault?, fault?_checkReferences]
  simp only [List.findSome?_append, Option.or_eq_none_iff, findSome?_sites_eq_none_iff,
    List.forall_mem_append]

/-- The values that are resolved and not checked. -/
def uncheckedValues (theme : Theme) : List String :=
  theme.base.zIndex.values ++ theme.base.container.values

/-- The making of a stylesheet ends with the fault of the check, and else with that of a zIndex or
container token. -/
theorem fault?_css_eq_or (theme : Theme) :
    fault? theme.css = (fault? theme.checkReferences).or
      ((theme.base.zIndex.sites none ++ theme.base.container.sites none).findSome?
        theme.siteFault?) := by
  rw [fault?_css, fault?_checkReferences, ← List.findSome?_append, referenceSites,
    ← List.append_assoc]

/-- **What a valid theme needs besides to have a stylesheet.** -/
theorem exists_css_iff :
    (∃ text, theme.css = .ok text) ↔
      theme.report.errors = [] ∧ ∀ value ∈ theme.uncheckedValues, ¬ theme.IsBroken value := by
  rw [← fault?_eq_none_iff, fault?_css_eq_or, Option.or_eq_none_iff, errors_eq_nil_iff_fault?,
    List.findSome?_append, Option.or_eq_none_iff, findSome?_sites_eq_none_iff,
    findSome?_sites_eq_none_iff, uncheckedValues, List.forall_mem_append]

/-- **An error tells what the making of the stylesheet ends with**, in its words and its place. -/
theorem css_of_mem_errors {issue : Issue} (h : issue ∈ theme.report.errors) :
    theme.report.errors = [issue] ∧ ∃ fault, theme.css = .error fault ∧
      issue.message = fault.message ∧ issue.location = fault.place := by
  rw [errors_report, referenceIssues_eq] at h ⊢
  cases hcheck : fault? theme.checkReferences with
  | none => simp [hcheck] at h
  | some fault =>
      have hissue : issue = ⟨.error, "INVALID_PALETTE_REF", fault.message, fault.place⟩ := by
        simpa [hcheck] using h
      have hcss : fault? theme.css = some fault := by
        rw [fault?_css_eq_or, hcheck, Option.some_or]
      rw [hissue]
      exact ⟨rfl, fault, fault?_eq_some_iff.mp hcss, rfl, rfl⟩

end DesignTokens.Theme
