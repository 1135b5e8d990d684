import DesignTokens.Report
import Mathlib.Data.List.Nodup

/-!
# The passes of a report

Each pass over a theme reports issues under one code of its own, so the issues of a pass can be told
from the report. For the passes that compare the modes, look for unused colors and try the grammar
this module says where their issues stand.

## Main Definitions

* `Theme.passes` — the codes of the passes with their issues
* `Theme.ReportsAt` — a report has an issue of a code at a place

## Main Statements

* `Theme.mem_report_iff` — an issue of the report under the code of a pass is an issue of the pass
* `Theme.reportsAt_iff` — the same for the places of a pass
* `Theme.reportsAt_mismatch_light_iff`, `Theme.reportsAt_mismatch_dark_iff` — the keys that are
  reported because one mode lacks them
* `Theme.reportsAt_unused_iff` — the colors that are reported as unused
* `Theme.reportsAt_unparseable_iff` — the tokens that are reported for their values
-/

namespace DesignTokens.Theme

/-- The codes of the passes, each with the issues of the pass, in the order of the report. -/
def passes (theme : Theme) : List (String × List Issue) :=
  [("INVALID_PALETTE_REF", theme.referenceIssues), ("EMPTY_PALETTE", theme.paletteIssues),
   ("MODE_KEY_MISMATCH", theme.modeIssues), ("UNUSED_PALETTE_COLOR", theme.usageIssues),
   ("UNPARSEABLE_VALUE", theme.grammarIssues)]

theorem issues_report (theme : Theme) :
    theme.report.issues = theme.passes.flatMap Prod.snd := by
  simp [report, passes]

/-- The issues of a pass carry its code. -/
theorem code_of_mem_pass {theme : Theme} {pass : String × List Issue} (hpass : pass ∈ theme.passes)
    {issue : Issue} (hissue : issue ∈ pass.2) : issue.code = pass.1 := by
  simp only [passes, List.mem_cons, List.not_mem_nil, or_false] at hpass
  rcases hpass with rfl | rfl | rfl | rfl | rfl
  · unfold referenceIssues at hissue
    cases hcheck : theme.checkReferences with
    | ok u => simp [hcheck] at hissue
    | error fault =>
        simp only [hcheck, List.mem_singleton] at hissue
        rw [hissue]
  · unfold paletteIssues at hissue
    split at hissue
    · rw [List.mem_singleton.mp hissue]
    · simp at hissue
  · rcases List.mem_append.mp hissue with h | h <;> obtain ⟨key, -, rfl⟩ := List.mem_map.mp h <;> rfl
  · obtain ⟨key, -, rfl⟩ := List.mem_map.mp hissue
    rfl
  · obtain ⟨c, -, h⟩ := List.mem_flatMap.mp hissue
    obtain ⟨e, -, he⟩ := List.mem_filterMap.mp h
    cases hparse : TokenValue.parse e.2 with
    | ok value => simp [hparse] at he
    | error fault =>
        simp only [hparse, Option.some.injEq] at he
        rw [← he]

/-- **An issue of the report under the code of a pass is an issue of the pass.** -/
theorem mem_report_iff {theme : Theme} {pass : String × List Issue} (hpass : pass ∈ theme.passes)
    {issue : Issue} :
    (issue ∈ theme.report.issues ∧ issue.code = pass.1) ↔ issue ∈ pass.2 := by
  constructor
  · rintro ⟨hmem, hcode⟩
    rw [issues_report] at hmem
    obtain ⟨other, hother, hissue⟩ := List.mem_flatMap.mp hmem
    have hsame : other.1 = pass.1 := (code_of_mem_pass hother hissue).symm.trans hcode
    have hcodes : (theme.passes.map Prod.fst).Nodup := by
      show ["INVALID_PALETTE_REF", "EMPTY_PALETTE", "MODE_KEY_MISMATCH", "UNUSED_PALETTE_COLOR",
        "UNPARSEABLE_VALUE"].Nodup
      decide
    rw [← List.inj_on_of_nodup_map hcodes hother hpass hsame]
    exact hissue
  · intro hissue
    refine ⟨?_, code_of_mem_pass hpass hissue⟩
    rw [issues_report]
    exact List.mem_flatMap.mpr ⟨pass, hpass, hissue⟩

/-- A report has an issue of a code at a place. -/
def ReportsAt (theme : Theme) (code place : String) : Prop :=
  ∃ issue ∈ theme.report.issues, issue.code = code ∧ issue.location = some place

/-- An issue of a pass stands in the report under the code of the pass. -/
theorem reportsAt_iff {theme : Theme} {pass : String × List Issue} (hpass : pass ∈ theme.passes)
    {place : String} :
    theme.ReportsAt pass.1 place ↔ ∃ issue ∈ pass.2, issue.location = some place := by
  unfold ReportsAt
  refine exists_congr fun issue => ?_
  rw [← mem_report_iff hpass, and_assoc]

/-- No place of the light mode is one of the dark mode. -/
theorem light_ne_dark (key other : String) : "light.bg." ++ key ≠ "dark.bg." ++ other := by
  intro h
  have hlists := congrArg (fun s => s.toList.head?) h
  simp [String.toList_append] at hlists

/-- **The keys that are reported because the dark mode lacks them** are those of the light mode
alone. -/
theorem reportsAt_mismatch_light_iff {theme : Theme} {key : String} :
    theme.ReportsAt "MODE_KEY_MISMATCH" ("light.bg." ++ key) ↔
      key ∈ theme.light.bg.keys ∧ key ∉ theme.dark.bg.keys := by
  have hpass : ("MODE_KEY_MISMATCH", theme.modeIssues) ∈ theme.passes := by simp [passes]
  rw [reportsAt_iff hpass]
  constructor
  · rintro ⟨issue, hissue, hplace⟩
    rcases List.mem_append.mp hissue with h | h <;> obtain ⟨other, hother, rfl⟩ := List.mem_map.mp h
    · exact absurd (Option.some.inj hplace).symm (light_ne_dark key other)
    · obtain rfl := (String.append_right_inj _).mp (Option.some.inj hplace)
      simpa [OrderedMap.contains] using List.mem_filter.mp hother
  · rintro ⟨hlight, hdark⟩
    exact ⟨_, List.mem_append_right _ (List.mem_map.mpr ⟨key,
      List.mem_filter.mpr ⟨hlight, by simp [OrderedMap.contains, hdark]⟩, rfl⟩), rfl⟩

/-- **The keys that are reported because the light mode lacks them** are those of the dark mode
alone. -/
theorem reportsAt_mismatch_dark_iff {theme : Theme} {key : String} :
    theme.ReportsAt "MODE_KEY_MISMATCH" ("dark.bg." ++ key) ↔
      key ∈ theme.dark.bg.keys ∧ key ∉ theme.light.bg.keys := by
  have hpass : ("MODE_KEY_MISMATCH", theme.modeIssues) ∈ theme.passes := by simp [passes]
  rw [reportsAt_iff hpass]
  constructor
  · rintro ⟨issue, hissue, hplace⟩
    rcases List.mem_append.mp hissue with h | h <;> obtain ⟨other, hother, rfl⟩ := List.mem_map.mp h
    · obtain rfl := (String.append_right_inj _).mp (Option.some.inj hplace)
      simpa [OrderedMap.contains] using List.mem_filter.mp hother
    · exact absurd (Option.some.inj hplace) (light_ne_dark other key)
  · rintro ⟨hdark, hlight⟩
    exact ⟨_, List.mem_append_left _ (List.mem_map.mpr ⟨key,
      List.mem_filter.mpr ⟨hdark, by simp [OrderedMap.contains, hlight]⟩, rfl⟩), rfl⟩

/-- **The colors that are reported as unused** are those of the palette that no checked section
refers to. -/
theorem reportsAt_unused_iff {theme : Theme} {key : String} :
    theme.ReportsAt "UNUSED_PALETTE_COLOR" ("base.palette." ++ key) ↔
      key ∈ theme.base.palette.keys ∧ key ∉ theme.usedColors := by
  have hpass : ("UNUSED_PALETTE_COLOR", theme.usageIssues) ∈ theme.passes := by simp [passes]
  rw [reportsAt_iff hpass]
  constructor
  · rintro ⟨issue, hissue, hplace⟩
    obtain ⟨other, hother, rfl⟩ := List.mem_map.mp hissue
    obtain rfl := (String.append_right_inj _).mp (Option.some.inj hplace)
    simpa using List.mem_filter.mp hother
  · rintro ⟨hkey, hunused⟩
    exact ⟨_, List.mem_map.mpr ⟨key, List.mem_filter.mpr ⟨hkey, by simpa using hunused⟩, rfl⟩, rfl⟩

/-- The place of a token tells its category. -/
theorem place_inj {c d : Category} (hc : c ∈ [Category.spacing, .size])
    (hd : d ∈ [Category.spacing, .size]) {key other : String}
    (h : "base." ++ c.name ++ "." ++ key = "base." ++ d.name ++ "." ++ other) :
    c = d ∧ key = other := by
  simp only [List.mem_cons, List.not_mem_nil, or_false] at hc hd
  have hletter := congrArg (fun s => s.toList[6]?) h
  rcases hc with rfl | rfl <;> rcases hd with rfl | rfl
  · exact ⟨rfl, (String.append_right_inj _).mp h⟩
  · simp [String.toList_append, Category.name] at hletter
  · simp [String.toList_append, Category.name] at hletter
  · exact ⟨rfl, (String.append_right_inj _).mp h⟩

/-- The issues of the grammar are those of the tokens whose values do not follow it. -/
theorem mem_grammarIssues_iff {theme : Theme} {issue : Issue} :
    issue ∈ theme.grammarIssues ↔ ∃ c ∈ [Category.spacing, .size],
      ∃ e ∈ (theme.base.tokens c).entries, ∃ fault, TokenValue.parse e.2 = .error fault ∧
        issue = ⟨.info, "UNPARSEABLE_VALUE",
          "'" ++ e.2 ++ "' is emitted verbatim (" ++ fault.message ++ ")",
          some ("base." ++ c.name ++ "." ++ e.1)⟩ := by
  simp only [grammarIssues, List.mem_flatMap, List.mem_filterMap]
  refine exists_congr fun c => and_congr_right fun _ => exists_congr fun e =>
    and_congr_right fun _ => ?_
  cases hparse : TokenValue.parse e.2 <;> simp [eq_comm]

/-- **The tokens that are reported for their values** are those of the two scales whose values do
not follow the grammar. -/
theorem reportsAt_unparseable_iff {theme : Theme} {c : Category}
    (hc : c ∈ [Category.spacing, .size]) {key : String} :
    theme.ReportsAt "UNPARSEABLE_VALUE" ("base." ++ c.name ++ "." ++ key) ↔
      ∃ value, (theme.base.tokens c).find? key = some value ∧
        ∃ fault, TokenValue.parse value = .error fault := by
  have hpass : ("UNPARSEABLE_VALUE", theme.grammarIssues) ∈ theme.passes := by simp [passes]
  rw [reportsAt_iff hpass]
  simp only [mem_grammarIssues_iff, OrderedMap.find?_eq_some_iff]
  constructor
  · rintro ⟨issue, ⟨d, hd, e, he, fault, hparse, rfl⟩, hplace⟩
    obtain ⟨rfl, rfl⟩ := place_inj hd hc (Option.some.inj hplace)
    exact ⟨e.2, he, fault, hparse⟩
  · rintro ⟨value, he, fault, hparse⟩
    exact ⟨_, ⟨c, hc, (key, value), he, fault, hparse, rfl⟩, rfl⟩

end DesignTokens.Theme
