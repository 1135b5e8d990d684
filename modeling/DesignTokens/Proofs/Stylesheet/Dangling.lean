import DesignTokens.Proofs.Stylesheet.Cascade

/-!
# Dangling references

The blocks of the modes refer to a color for every background: the one that the first word of its
value names. Whether there is such a color is only asked of values with the keyword, so a background
that is a literal, or any other text without the keyword, refers to whatever it starts with. This
module says exactly which colors a stylesheet refers to although its palette lacks them.

## Main Definitions

* `Stylesheet.MentionsColor` — a block of a mode refers to a color

## Main Statements

* `Theme.mentionsColor_iff` — the colors that the modes refer to
* `Theme.dangles_iff` — the colors among them that the palette lacks
* `Theme.not_forall_mem_palette` — there are such colors
-/

namespace DesignTokens

/-- A block of a mode refers to the color of a key. -/
def Stylesheet.MentionsColor (sheet : Stylesheet) (key : String) : Prop :=
  ∃ d ∈ sheet.light ++ sheet.dark, d.value.text = "var(--color-" ++ key ++ ")"

namespace Theme

variable {theme : Theme} {key : String}

/-- The declarations of a mode refer to the first words of its backgrounds. -/
theorem exists_mode_reference_iff (mode : ModeTokens) (key : String) :
    (∃ d ∈ mode.declarations, d.value.text = "var(--color-" ++ key ++ ")") ↔
      ∃ value ∈ mode.bg.values, Text.firstWord value = key := by
  have htext : "var(--color-" ++ key ++ ")" = "var(--" ++ Property.name ⟨.color, key⟩ ++ ")" := by
    simp only [Property.name, ← String.append_assoc]
    rfl
  have hiff : ∀ value, (DeclaredValue.reference ⟨.color, referenceKey value⟩).text =
      "var(--color-" ++ key ++ ")" ↔ Text.firstWord value = key := by
    intro value
    rw [htext, text_reference_eq_iff, Property.name_inj]
    simp [referenceKey]
  simp only [ModeTokens.declarations, OrderedMap.values, List.mem_map, exists_exists_and_eq_and,
    hiff]

/-- **The colors that the modes refer to** are the first words of the backgrounds. -/
theorem mentionsColor_iff :
    theme.compiled.MentionsColor key ↔
      ∃ value ∈ theme.light.bg.values ++ theme.dark.bg.values, Text.firstWord value = key := by
  simp only [Stylesheet.MentionsColor, compiled, List.mem_append, or_and_right, exists_or,
    exists_mode_reference_iff]

/-- A color of the palette is declared for both modes. -/
theorem declares_color (hkey : key ∈ theme.base.palette.keys) :
    Declares theme.compiled.base ("color-" ++ key) := by
  obtain ⟨e, he, rfl⟩ := List.mem_map.mp hkey
  refine ⟨⟨⟨.color, e.1⟩, .literal e.2⟩, ?_, rfl⟩
  exact List.mem_append_left _ (List.mem_append_left _ (List.mem_map.mpr ⟨e, he, rfl⟩))

/-- In a theme that compiles, a background whose first word is no color lacks the keyword. -/
theorem IsSound.isReference_eq_false (hsound : theme.IsSound) {value : String}
    (hvalue : value ∈ theme.light.bg.values ++ theme.dark.bg.values)
    (hkey : Text.firstWord value ∉ theme.base.palette.keys) : isReference value = false := by
  by_contra href
  rw [Bool.not_eq_false] at href
  exact hsound.not_isBroken_background hvalue ⟨href, hkey⟩

/-- **The colors that a stylesheet refers to and that its palette lacks.**  A color of the palette
is declared for both modes. A key that is none is referred to exactly when a background without the
keyword starts with it, so that all references hit the palette exactly when every background without
the keyword happens to start with a color. -/
theorem dangles_iff (theme : Theme) (text : String) (hcss : theme.css = .ok text) :
    ∃ sheet, Stylesheet.ofTheme theme = .ok sheet ∧ text = sheet.render ∧
      (∀ key ∈ theme.base.palette.keys, Declares sheet.base ("color-" ++ key)) ∧
      (∀ key ∉ theme.base.palette.keys, sheet.MentionsColor key ↔
        ∃ value ∈ theme.light.bg.values ++ theme.dark.bg.values,
          isReference value = false ∧ Text.firstWord value = key) ∧
      ((∀ key, sheet.MentionsColor key → key ∈ theme.base.palette.keys) ↔
        ∀ value ∈ theme.light.bg.values ++ theme.dark.bg.values,
          isReference value = false → Text.firstWord value ∈ theme.base.palette.keys) := by
  obtain ⟨hsound, htext⟩ := css_eq_ok_iff.mp hcss
  refine ⟨theme.compiled, ofTheme_eq_ok_iff.mpr ⟨hsound, rfl⟩, htext, fun key => declares_color,
    ?_, ?_⟩
  · intro key hkey
    rw [mentionsColor_iff]
    constructor
    · rintro ⟨value, hvalue, rfl⟩
      exact ⟨value, hvalue, hsound.isReference_eq_false hvalue hkey, rfl⟩
    · rintro ⟨value, hvalue, -, rfl⟩
      exact ⟨value, hvalue, rfl⟩
  · constructor
    · intro hall value hvalue _
      exact hall _ (mentionsColor_iff.mpr ⟨value, hvalue, rfl⟩)
    · intro hall key hkey
      obtain ⟨value, hvalue, rfl⟩ := mentionsColor_iff.mp hkey
      by_contra hnone
      exact hnone (hall value hvalue (hsound.isReference_eq_false hvalue hnone))

/-- A theme with a background that is a literal color. -/
def literalBackground : Theme where
  schema := supportedSchema
  name := "plain"
  description := ""
  base := { BaseTokens.empty with palette := .ofList [("ink", "#111")] }
  light := ⟨.ofList [("text", "ink palette"), ("surface", "#fff")]⟩
  dark := .empty

/-- The literal is taken for a color, which the palette lacks. -/
theorem dangles_iff_literalBackground :
    (∃ text, literalBackground.css = .ok text) ∧
      ∃ sheet, Stylesheet.ofTheme literalBackground = .ok sheet ∧ sheet.MentionsColor "#fff" ∧
        Declares sheet.base "color-ink" := by
  refine ⟨⟨_, rfl⟩, ?_⟩
  obtain ⟨sheet, hsheet, -, hdeclares, hmentions, -⟩ := dangles_iff literalBackground _ rfl
  refine ⟨sheet, hsheet, ?_, hdeclares "ink" (by decide)⟩
  exact (hmentions "#fff" (by decide)).mpr ⟨"#fff", by decide, by decide, by decide⟩

/-- **There are stylesheets that refer to a color that the palette lacks**, among those that are
made without a fault. -/
theorem not_forall_mem_palette :
    ¬ ∀ (theme : Theme) (text : String), theme.css = .ok text →
      ∀ sheet, Stylesheet.ofTheme theme = .ok sheet →
        ∀ key, sheet.MentionsColor key → key ∈ theme.base.palette.keys := by
  intro h
  have hsheet : Stylesheet.ofTheme literalBackground = .ok literalBackground.compiled := rfl
  have hmentions : literalBackground.compiled.MentionsColor "#fff" :=
    mentionsColor_iff.mpr ⟨"#fff", by decide, by decide⟩
  have hkey : "#fff" ∈ literalBackground.base.palette.keys :=
    h literalBackground _ rfl _ hsheet "#fff" hmentions
  revert hkey
  decide

end Theme

end DesignTokens
