import DesignTokens.Proofs.Report.Verdict

/-!
# Removing a color

A report tells which colors of the palette no checked section refers to. Without such a color the
stylesheet stays as it is but for the color's own declaration. A zIndex or container token may refer
to it nevertheless, as these are resolved and not checked; then the theme no longer compiles.

## Main Definitions

* `Theme.withoutColor` — the theme without a color of its palette

## Main Statements

* `Theme.isSound_withoutColor_iff` — when a theme still compiles without a color
* `Theme.compiled_withoutColor` — what it then compiles to
* `Theme.removes_unused` — both for a color that is reported as unused
* `Theme.not_forall_removable` — such a color may be needed

## Design Notes

A background that starts with the color but lacks the keyword refers to it in the stylesheet. This
does no harm to the statement, since the reference stays in place when the color is removed.
-/

namespace DesignTokens

namespace OrderedMap

universe u v

variable {κ : Type u} {α : Type v} [DecidableEq κ]

/-- A removal takes the entry of the key out of the entries, wherever it stands. -/
theorem entries_erase_of_append {m : OrderedMap κ α} {front back : List (κ × α)} {key : κ}
    {value : α} (h : m.entries = front ++ (key, value) :: back) :
    (m.erase key).entries = front ++ back := by
  have hnodup := m.nodup_keys
  rw [h, List.map_append, List.map_cons, List.nodup_middle, List.nodup_cons, List.mem_append,
    not_or] at hnodup
  obtain ⟨⟨hfront, hback⟩, -⟩ := hnodup
  have hkeep : ∀ entries : List (κ × α), key ∉ entries.map Prod.fst →
      entries.filter (fun e => decide (e.1 ≠ key)) = entries := by
    intro entries hkey
    refine List.filter_eq_self.mpr fun e he => decide_eq_true fun heq => hkey ?_
    exact heq ▸ List.mem_map_of_mem he
  show m.entries.filter (fun e => decide (e.1 ≠ key)) = front ++ back
  rw [h, List.filter_append, List.filter_cons_of_neg (by simp), hkeep front hfront,
    hkeep back hback]

theorem mem_keys_erase {m : OrderedMap κ α} {key k : κ} :
    k ∈ (m.erase key).keys ↔ k ≠ key ∧ k ∈ m.keys := by
  rw [← exists_find?_iff, ← exists_find?_iff, find?_erase]
  split
  · next h => simp [h]
  · next h => simp [h]

end OrderedMap

namespace Theme

variable {theme : Theme} {key : String}

/-- The theme without a color of its palette. -/
def withoutColor (theme : Theme) (key : String) : Theme :=
  { theme with base := { theme.base with palette := theme.base.palette.erase key } }

/-- Values that were broken stay so, and those that refer to the color are broken as well. -/
theorem isBroken_withoutColor_iff {value : String} :
    (theme.withoutColor key).IsBroken value ↔
      theme.IsBroken value ∨ (isReference value = true ∧ referenceKey value = key) := by
  have hkeys : referenceKey value ∈ (theme.withoutColor key).base.palette.keys ↔
      referenceKey value ≠ key ∧ referenceKey value ∈ theme.base.palette.keys :=
    OrderedMap.mem_keys_erase
  unfold IsBroken
  rw [hkeys, ← and_or_left]
  exact and_congr_right fun _ => by tauto

/-- No checked section refers to a color that is not used. -/
theorem not_refers_of_unused (hunused : key ∉ theme.usedColors) {value : String}
    (hvalue : value ∈ theme.light.bg.values ++ theme.dark.bg.values ++
      theme.base.spacing.values ++ theme.base.size.values) :
    ¬ (isReference value = true ∧ referenceKey value = key) := by
  rintro ⟨href, rfl⟩
  refine hunused (List.mem_map.mpr ⟨value, List.mem_filter.mpr ⟨?_, href⟩, rfl⟩)
  simpa [checkedSections, or_assoc] using hvalue

/-- A site that refers to a color that is not used is a zIndex or container token, whose place is not
told. -/
theorem mem_uncheckedValues_of_refers (hunused : key ∉ theme.usedColors) {site : ReferenceSite}
    (hsite : site ∈ theme.referenceSites)
    (hrefers : isReference site.value = true ∧ referenceKey site.value = key) :
    site.value ∈ theme.uncheckedValues ∧ site.place = none := by
  have hsection : ∀ {tokens : TokenMap} {part : Option String}, site ∈ tokens.sites part →
      site.value ∈ tokens.values ∧ (part = none → site.place = none) := by
    intro tokens part hmem
    obtain ⟨e, he, rfl⟩ := List.mem_map.mp hmem
    exact ⟨List.mem_map_of_mem he, fun hpart => by rw [hpart]; rfl⟩
  have hchecked : site.value ∉ theme.light.bg.values ++ theme.dark.bg.values ++
      theme.base.spacing.values ++ theme.base.size.values :=
    fun hmem => not_refers_of_unused hunused hmem hrefers
  simp only [List.mem_append, not_or] at hchecked
  simp only [referenceSites, List.mem_append] at hsite
  rcases hsite with ((((h | h) | h) | h) | h) | h
  · exact absurd (hsection h).1 hchecked.1.1.1
  · exact absurd (hsection h).1 hchecked.1.1.2
  · exact absurd (hsection h).1 hchecked.1.2
  · exact absurd (hsection h).1 hchecked.2
  · exact ⟨List.mem_append_left _ (hsection h).1, (hsection h).2 rfl⟩
  · exact ⟨List.mem_append_right _ (hsection h).1, (hsection h).2 rfl⟩

/-- The zIndex and container tokens are among the sites. -/
theorem exists_site_of_mem_uncheckedValues {value : String} (h : value ∈ theme.uncheckedValues) :
    ∃ site ∈ theme.referenceSites, site.value = value := by
  have hsection : ∀ {tokens : TokenMap}, value ∈ tokens.values →
      ∃ site ∈ tokens.sites none, site.value = value := by
    intro tokens hvalue
    obtain ⟨e, he, rfl⟩ := List.mem_map.mp hvalue
    exact ⟨_, List.mem_map_of_mem he, rfl⟩
  rcases List.mem_append.mp h with h | h
  · obtain ⟨site, hsite, heq⟩ := hsection h
    exact ⟨site, by simp [referenceSites, hsite], heq⟩
  · obtain ⟨site, hsite, heq⟩ := hsection h
    exact ⟨site, by simp [referenceSites, hsite], heq⟩

/-- **A theme still compiles without a color that is not used** if no zIndex or container token
refers to it. -/
theorem isSound_withoutColor_iff (hsound : theme.IsSound) (hunused : key ∉ theme.usedColors) :
    (theme.withoutColor key).IsSound ↔
      ∀ value ∈ theme.uncheckedValues, isReference value = true → referenceKey value ≠ key := by
  constructor
  · intro h value hvalue href hkey
    obtain ⟨site, hsite, rfl⟩ := exists_site_of_mem_uncheckedValues hvalue
    exact h site hsite (isBroken_withoutColor_iff.mpr (.inr ⟨href, hkey⟩))
  · intro h site hsite hbroken
    rcases isBroken_withoutColor_iff.mp hbroken with hbroken | hrefers
    · exact hsound site hsite hbroken
    · exact h _ (mem_uncheckedValues_of_refers hunused hsite hrefers).1 hrefers.1 hrefers.2

/-- What does not refer to the color stands for the same literal without it. -/
theorem literal_withoutColor {value : String}
    (h : ¬ (isReference value = true ∧ referenceKey value = key)) :
    (theme.withoutColor key).literal value = theme.literal value := by
  unfold literal
  by_cases href : isReference value = true
  · have hfind : (theme.withoutColor key).base.palette.find? (referenceKey value) =
        theme.base.palette.find? (referenceKey value) := by
      rw [withoutColor, OrderedMap.find?_erase, if_neg fun hkey => h ⟨href, hkey⟩]
    rw [hfind]
  · rw [if_neg href, if_neg href]

/-- The declaration of a color. -/
def colorDeclaration (e : String × String) : Declaration := ⟨⟨.color, e.1⟩, .literal e.2⟩

/-- The declarations behind those of the palette. -/
def afterPalette (theme : Theme) : List Declaration :=
  theme.aliasDeclarations ++ scales.flatMap theme.scaleLiterals

theorem base_compiled (theme : Theme) :
    theme.compiled.base = theme.base.palette.entries.map colorDeclaration ++ theme.afterPalette :=
  List.append_assoc _ _ _

/-- Behind the palette nothing tells whether there is a color that is not needed. -/
theorem afterPalette_withoutColor (h : (theme.withoutColor key).IsSound) :
    (theme.withoutColor key).afterPalette = theme.afterPalette := by
  have halias : (theme.withoutColor key).aliasDeclarations = theme.aliasDeclarations := rfl
  have htokens : ∀ c ∈ scales, (theme.withoutColor key).base.tokens c = theme.base.tokens c := by
    intro c hc
    cases c with
    | palette => simp [scales] at hc
    | _ => rfl
  rw [afterPalette, afterPalette, halias]
  refine congrArg (theme.aliasDeclarations ++ ·) (List.flatMap_congr fun c hc => ?_)
  rw [scaleLiterals, scaleLiterals, htokens c hc]
  refine List.map_congr_left fun e he => ?_
  rw [literal_withoutColor fun hrefers => ?_]
  exact not_isBroken_of_isSound h hc ((htokens c hc).symm ▸ he)
    (isBroken_withoutColor_iff.mpr (.inr hrefers))

/-- **Without the color the stylesheet lacks its declaration**, and all others stay as they are. -/
theorem compiled_withoutColor (h : (theme.withoutColor key).IsSound)
    {front back : List (String × String)} {color : String}
    (hentries : theme.base.palette.entries = front ++ (key, color) :: back) :
    (theme.withoutColor key).compiled = { theme.compiled with
      base := front.map colorDeclaration ++ (back.map colorDeclaration ++ theme.afterPalette) } := by
  have herase : (theme.withoutColor key).base.palette.entries = front ++ back :=
    OrderedMap.entries_erase_of_append hentries
  have hbase := (theme.withoutColor key).base_compiled
  rw [herase, afterPalette_withoutColor h, List.map_append, List.append_assoc] at hbase
  rw [← hbase]
  rfl

/-- A color that is missed is told without its place. -/
theorem eq_unresolved_of_css (hsound : theme.IsSound) (hunused : key ∉ theme.usedColors)
    {fault : ReferenceFault} (h : (theme.withoutColor key).css = .error fault) :
    fault = .unresolved key theme.name (theme.withoutColor key).base.palette.keys := by
  rw [← fault?_eq_some_iff, fault?_css] at h
  obtain ⟨site, hsite, hfault⟩ := List.exists_of_findSome?_eq_some h
  obtain ⟨hbroken, rfl⟩ := siteFault?_eq_some_iff.mp hfault
  have hrefers := (isBroken_withoutColor_iff.mp hbroken).resolve_left (hsound site hsite)
  have hplace := (mem_uncheckedValues_of_refers hunused hsite hrefers).2
  rw [faultAt, hplace, hrefers.2]
  rfl

/-- **A color that is reported as unused and the stylesheet.**  The theme still compiles without the
color exactly if no zIndex or container token has the keyword and starts with it, and then its
stylesheet is the former one without the color's declaration in the palette. Otherwise the color is
missed. -/
theorem removes_unused (theme : Theme) (key text : String) (hcss : theme.css = .ok text)
    (hreport : theme.ReportsAt "UNUSED_PALETTE_COLOR" ("base.palette." ++ key)) :
    ∃ front color back sheet rest, theme.base.palette.entries = front ++ (key, color) :: back ∧
      Stylesheet.ofTheme theme = .ok sheet ∧ text = sheet.render ∧
      sheet.base = front.map colorDeclaration ++ colorDeclaration (key, color) :: rest ∧
      ((∃ remaining, (theme.withoutColor key).css = .ok remaining) ↔
        ∀ value ∈ theme.base.zIndex.values ++ theme.base.container.values,
          isReference value = true → Text.firstWord value ≠ key) ∧
      (∀ remaining, (theme.withoutColor key).css = .ok remaining → remaining =
        Stylesheet.render { sheet with base := front.map colorDeclaration ++ rest }) ∧
      ∀ fault, (theme.withoutColor key).css = .error fault →
        fault = .unresolved key theme.name (theme.withoutColor key).base.palette.keys := by
  obtain ⟨hkey, hunused⟩ := reportsAt_unused_iff.mp hreport
  obtain ⟨hsound, htext⟩ := css_eq_ok_iff.mp hcss
  obtain ⟨⟨_, color⟩, hentry, rfl⟩ := List.mem_map.mp hkey
  obtain ⟨front, back, hentries⟩ := List.append_of_mem hentry
  refine ⟨front, color, back, theme.compiled, back.map colorDeclaration ++ theme.afterPalette,
    hentries, ofTheme_eq_ok_iff.mpr ⟨hsound, rfl⟩, htext, ?_, ?_, ?_,
    fun fault => eq_unresolved_of_css hsound hunused⟩
  · rw [base_compiled, hentries, List.map_append, List.map_cons, List.append_assoc,
      List.cons_append]
  · refine Iff.trans ?_ (isSound_withoutColor_iff hsound hunused)
    simp only [css_eq_ok_iff, exists_and_left, exists_eq, and_true]
  · intro remaining hremaining
    obtain ⟨hsound', rfl⟩ := css_eq_ok_iff.mp hremaining
    rw [compiled_withoutColor hsound' hentries]

/-- A theme with a background, a color that nothing refers to, and one that only a zIndex token
refers to. -/
def layered : Theme where
  schema := supportedSchema
  name := "layered"
  description := ""
  base := { BaseTokens.empty with
    palette := .ofList [("ink", "#111"), ("foam", "#eff"), ("rust", "#b41")]
    zIndex := .ofList [("modal", "ink palette")] }
  light := ⟨.ofList [("text", "rust palette")]⟩
  dark := ⟨.ofList [("text", "rust palette")]⟩

/-- Both colors are reported. The one can be removed, and the other one is missed. -/
theorem removes_unused_layered :
    (∃ text, layered.css = .ok text) ∧
      layered.ReportsAt "UNUSED_PALETTE_COLOR" ("base.palette." ++ "foam") ∧
      (∃ remaining, (layered.withoutColor "foam").css = .ok remaining) ∧
      layered.ReportsAt "UNUSED_PALETTE_COLOR" ("base.palette." ++ "ink") ∧
      ¬ ∃ remaining, (layered.withoutColor "ink").css = .ok remaining := by
  have hfoam : layered.ReportsAt "UNUSED_PALETTE_COLOR" ("base.palette." ++ "foam") :=
    reportsAt_unused_iff.mpr ⟨by decide, by decide⟩
  have hink : layered.ReportsAt "UNUSED_PALETTE_COLOR" ("base.palette." ++ "ink") :=
    reportsAt_unused_iff.mpr ⟨by decide, by decide⟩
  obtain ⟨-, -, -, -, -, -, -, -, -, hremovable, -⟩ := removes_unused layered "foam" _ rfl hfoam
  obtain ⟨-, -, -, -, -, -, -, -, -, hneeded, -⟩ := removes_unused layered "ink" _ rfl hink
  refine ⟨⟨_, rfl⟩, hfoam, hremovable.mpr (by decide), hink, fun hcompiles => ?_⟩
  exact hneeded.mp hcompiles "ink palette" (by decide) (by decide) (by decide)

/-- **A color that is reported as unused may be needed**, as its theme does not compile without
it. -/
theorem not_forall_removable :
    ¬ ∀ (theme : Theme) (key text : String), theme.css = .ok text →
      theme.ReportsAt "UNUSED_PALETTE_COLOR" ("base.palette." ++ key) →
        ∃ remaining, (theme.withoutColor key).css = .ok remaining := by
  intro h
  obtain ⟨remaining, hremaining⟩ :=
    h layered "ink" _ rfl (reportsAt_unused_iff.mpr ⟨by decide, by decide⟩)
  have hfault : fault? (layered.withoutColor "ink").css ≠ none := by decide
  exact hfault (fault?_eq_none_iff.mpr ⟨remaining, hremaining⟩)

end Theme

end DesignTokens
