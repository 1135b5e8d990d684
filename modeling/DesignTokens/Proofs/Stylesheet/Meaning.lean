import DesignTokens.Proofs.Report.Passes
import DesignTokens.Proofs.Stylesheet.Cascade

/-!
# The meaning of a stylesheet

What the aliases of a stylesheet stand for. An alias refers to a background, the background to the
color that its value starts with, and the color is a literal of the palette unless an alias of the
same name hides it. Where no color that is referred to is hidden, every alias ends at the literal
that its theme means.

## Main Definitions

* `Theme.RefersToPalette` — every background refers to a color
* `Theme.HidesNoReference` — no color that a background refers to has the name of an alias

## Main Statements

* `Theme.resolves_alias_iff` — the literal of an alias in a mode
* `Theme.declares_iff` — the backgrounds that a block declares
* `Theme.resolves_and_reports_fallbacks` — the literals in both modes, together with the fallbacks
  that a report tells
-/

namespace DesignTokens.Theme

/-- Every background refers to a palette color. -/
def RefersToPalette (theme : Theme) : Prop :=
  ∀ value ∈ theme.light.bg.values ++ theme.dark.bg.values, isReference value = true

/-- No color that a background refers to has the name of a light background. -/
def HidesNoReference (theme : Theme) : Prop :=
  ∀ value ∈ theme.light.bg.values ++ theme.dark.bg.values,
    referenceKey value ∉ theme.light.bg.keys

theorem mem_values_of_find? {tokens : TokenMap} {key value : String}
    (h : tokens.find? key = some value) : value ∈ tokens.values :=
  List.mem_map.mpr ⟨_, OrderedMap.find?_eq_some_iff.mp h, rfl⟩

/-- What is in force in a mode is a background of one of the modes. -/
theorem mem_values_of_background? {theme : Theme} {mode : Mode} {key value : String}
    (h : theme.background? mode key = some value) :
    value ∈ theme.light.bg.values ++ theme.dark.bg.values := by
  cases mode with
  | light => exact List.mem_append_left _ (mem_values_of_find? h)
  | dark =>
      rcases Option.or_eq_some_iff.mp h with hdark | ⟨-, hlight⟩
      · exact List.mem_append_right _ (mem_values_of_find? hdark)
      · exact List.mem_append_left _ (mem_values_of_find? hlight)

/-- In a theme that compiles every background that refers to the palette finds its color there. -/
theorem exists_color {theme : Theme} (hsound : theme.IsSound) (href : theme.RefersToPalette)
    {mode : Mode} {key value : String} (h : theme.background? mode key = some value) :
    ∃ color, theme.base.palette.find? (referenceKey value) = some color := by
  have hmem := mem_values_of_background? h
  rw [OrderedMap.exists_find?_iff]
  by_contra hkey
  exact hsound.not_isBroken_background hmem ⟨href value hmem, hkey⟩

/-- **The literal of an alias in a mode** is the palette's literal for the first word of the
background in force. The chain has two references: to the background and to the color. -/
theorem resolves_alias_iff {theme : Theme} (hhides : theme.HidesNoReference) {mode : Mode}
    {key value color : String} (hkey : key ∈ theme.light.bg.keys)
    (hvalue : theme.background? mode key = some value)
    (hcolor : theme.base.palette.find? (referenceKey value) = some color) (text : String) :
    theme.compiled.Resolves mode (Property.name ⟨.color, key⟩) text ↔ text = color := by
  have halias : theme.compiled.RefersTo mode (Property.name ⟨.color, key⟩)
      (Property.name ⟨.mode, key⟩) :=
    refersTo_iff.mpr (.inr ⟨key, hkey, rfl, rfl⟩)
  have hmode : theme.compiled.RefersTo mode (Property.name ⟨.mode, key⟩)
      (Property.name ⟨.color, referenceKey value⟩) :=
    refersTo_iff.mpr (.inl ⟨key, value, hvalue, rfl, rfl⟩)
  have hliteral : theme.compiled.valueIn mode (Property.name ⟨.color, referenceKey value⟩) =
      some (.literal color) := by
    have hfree := hhides value (mem_values_of_background? hvalue)
    rw [valueIn_color, OrderedMap.find?_eq_none_iff.mpr hfree, hcolor]
    rfl
  have hends : theme.compiled.Resolves mode (Property.name ⟨.color, key⟩) color :=
    ((Stylesheet.resolves_of_literal hliteral).of_refersTo hmode).of_refersTo halias
  constructor
  · exact fun h => h.unique hends
  · rintro rfl
    exact hends

/-- A block of backgrounds declares the keys of its mode. -/
theorem declares_iff (mode : ModeTokens) (key : String) :
    (∃ v, winner? mode.declarations (Property.name ⟨.mode, key⟩) = some v) ↔
      key ∈ mode.bg.keys := by
  rw [winner?_declarations, ← OrderedMap.exists_find?_iff]
  simp only [Option.map_eq_some_iff]
  constructor
  · rintro ⟨-, value, h, -⟩
    exact ⟨value, h⟩
  · rintro ⟨value, h⟩
    exact ⟨_, value, h, rfl⟩

/-- **The meaning of the stylesheet.**  Where every background refers to the palette and no color
that is referred to has the name of an alias, an alias ends in the light mode at the literal that
its light background means. In the dark mode it ends at the literal of its dark background, and at
the light one if there is none. The keys of the second kind are those that a report tells of the
light mode; the keys that it tells of the dark mode are declared in the dark block and not in the
light one. -/
theorem resolves_and_reports_fallbacks (theme : Theme) (text : String)
    (hcss : theme.css = .ok text) (href : theme.RefersToPalette)
    (hhides : theme.HidesNoReference) :
    ∃ sheet, Stylesheet.ofTheme theme = .ok sheet ∧ text = sheet.render ∧
      (∀ key value, theme.light.bg.find? key = some value →
        ∃ color, theme.base.palette.find? (Text.firstWord value) = some color ∧
          (∀ t, sheet.Resolves .light (Property.name ⟨.color, key⟩) t ↔ t = color) ∧
          (theme.dark.bg.find? key = none →
            ∀ t, sheet.Resolves .dark (Property.name ⟨.color, key⟩) t ↔ t = color) ∧
          ∀ darkValue, theme.dark.bg.find? key = some darkValue →
            ∃ darkColor, theme.base.palette.find? (Text.firstWord darkValue) = some darkColor ∧
              ∀ t, sheet.Resolves .dark (Property.name ⟨.color, key⟩) t ↔ t = darkColor) ∧
      (∀ key, theme.ReportsAt "MODE_KEY_MISMATCH" ("light.bg." ++ key) ↔
        key ∈ theme.light.bg.keys ∧ theme.dark.bg.find? key = none) ∧
      ∀ key, theme.ReportsAt "MODE_KEY_MISMATCH" ("dark.bg." ++ key) ↔
        (∃ v, winner? sheet.dark (Property.name ⟨.mode, key⟩) = some v) ∧
          winner? sheet.light (Property.name ⟨.mode, key⟩) = none := by
  obtain ⟨hsound, htext⟩ := css_eq_ok_iff.mp hcss
  refine ⟨theme.compiled, ofTheme_eq_ok_iff.mpr ⟨hsound, rfl⟩, htext, ?_, ?_, ?_⟩
  · intro key value hvalue
    have hkey : key ∈ theme.light.bg.keys := OrderedMap.exists_find?_iff.mp ⟨value, hvalue⟩
    have hlight : theme.background? .light key = some value := hvalue
    obtain ⟨color, hcolor⟩ := exists_color hsound href hlight
    -- In the dark mode the dark background is in force, or the light one if there is none.
    refine ⟨color, hcolor, resolves_alias_iff hhides hkey hlight hcolor, ?_, ?_⟩
    · intro hnone
      have hforce : theme.background? .dark key = some value := by simp [background?, hnone, hvalue]
      exact resolves_alias_iff hhides hkey hforce hcolor
    · intro darkValue hdark
      have hforce : theme.background? .dark key = some darkValue := by simp [background?, hdark]
      obtain ⟨darkColor, hdarkColor⟩ := exists_color hsound href hforce
      exact ⟨darkColor, hdarkColor, resolves_alias_iff hhides hkey hforce hdarkColor⟩
  · intro key
    rw [reportsAt_mismatch_light_iff, OrderedMap.find?_eq_none_iff]
  · intro key
    have hlight : winner? theme.compiled.light (Property.name ⟨.mode, key⟩) = none ↔
        key ∉ theme.light.bg.keys := by
      rw [← declares_iff theme.light key]
      show winner? theme.light.declarations _ = none ↔ _
      cases winner? theme.light.declarations (Property.name ⟨.mode, key⟩) <;> simp
    rw [reportsAt_mismatch_dark_iff, hlight]
    exact and_congr_left fun _ => (declares_iff theme.dark key).symm

/-- A theme with a background of both modes, one of the light mode only and one of the dark mode
only. -/
def threeBackgrounds : Theme where
  schema := supportedSchema
  name := "sea"
  description := ""
  base := { BaseTokens.empty with palette := .ofList [("ink", "#001"), ("foam", "#eff")] }
  light := ⟨.ofList [("button", "ink palette"), ("card", "foam palette")]⟩
  dark := ⟨.ofList [("button", "foam palette"), ("nav", "ink palette")]⟩

/-- The button changes with the mode and the card falls back. -/
theorem resolves_and_reports_fallbacks_threeBackgrounds :
    threeBackgrounds.RefersToPalette ∧ threeBackgrounds.HidesNoReference ∧
    ∃ sheet, Stylesheet.ofTheme threeBackgrounds = .ok sheet ∧
      sheet.Resolves .light "color-button" "#001" ∧ sheet.Resolves .dark "color-button" "#eff" ∧
      sheet.Resolves .dark "color-card" "#eff" ∧
      threeBackgrounds.ReportsAt "MODE_KEY_MISMATCH" "light.bg.card" ∧
      threeBackgrounds.ReportsAt "MODE_KEY_MISMATCH" "dark.bg.nav" := by
  have href : threeBackgrounds.RefersToPalette := by
    unfold RefersToPalette
    decide
  have hhides : threeBackgrounds.HidesNoReference := by
    unfold HidesNoReference
    decide
  refine ⟨href, hhides, ?_⟩
  obtain ⟨sheet, hsheet, -, hends, hlight, hdark⟩ :=
    resolves_and_reports_fallbacks threeBackgrounds _ rfl href hhides
  obtain ⟨ink, hink, hbutton, -, hdarkButton⟩ := hends "button" "ink palette" rfl
  obtain ⟨foam, hfoam, hdarkButton⟩ := hdarkButton "foam palette" rfl
  obtain ⟨foam', hfoam', -, hcard, -⟩ := hends "card" "foam palette" rfl
  obtain rfl : "#001" = ink := Option.some.inj hink
  obtain rfl : "#eff" = foam := Option.some.inj hfoam
  obtain rfl : "#eff" = foam' := Option.some.inj hfoam'
  obtain rfl : sheet = threeBackgrounds.compiled := (ofTheme_eq_ok_iff.mp hsheet).2
  exact ⟨_, hsheet, (hbutton _).mpr rfl, (hdarkButton _).mpr rfl, (hcard rfl _).mpr rfl,
    (hlight "card").mpr ⟨by decide, rfl⟩, (hdark "nav").mpr ⟨⟨_, rfl⟩, rfl⟩⟩

end DesignTokens.Theme
