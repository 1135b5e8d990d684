import DesignTokens.Proofs.Stylesheet.Cascade

/-!
# Circular references

Palette colors and the aliases of backgrounds share the names of one family, and an alias hides a
color of its name. A background that refers to a hidden color therefore leads to the alias and from
there to another background. This module says exactly when such steps lead back to where they
began.

## Main Definitions

* `Theme.PointsTo` — the background of a key refers to a color by another key

## Main Statements

* `Theme.transGen_refersTo_color_iff` — steps between colors are steps between keys
* `Theme.acyclic_iff` — a stylesheet has no circle exactly when the keys of its theme have none
* `Theme.not_forall_acyclic` — there are stylesheets with a circle
-/

namespace DesignTokens.Theme

open Relation (TransGen ReflTransGen)

/-- The background of a key that has an alias refers, in a mode, to the color of another key. -/
def PointsTo (theme : Theme) (mode : Mode) (key other : String) : Prop :=
  key ∈ theme.light.bg.keys ∧
    ∃ value, theme.background? mode key = some value ∧ referenceKey value = other

variable {theme : Theme} {mode : Mode}

/-- The only step from a color is that of its alias. -/
theorem refersTo_color_iff {key other : String} :
    theme.compiled.RefersTo mode (Property.name ⟨.color, key⟩) other ↔
      key ∈ theme.light.bg.keys ∧ other = Property.name ⟨.mode, key⟩ := by
  rw [refersTo_iff]
  constructor
  · rintro (⟨key', value, -, hname, -⟩ | ⟨key', hkey, hname, rfl⟩)
    · cases Property.name_injective hname
    · cases Property.name_injective hname
      exact ⟨hkey, rfl⟩
  · rintro ⟨hkey, rfl⟩
    exact .inr ⟨key, hkey, rfl, rfl⟩

/-- The only step from a background is to the color that its value starts with. -/
theorem refersTo_mode_iff {key other : String} :
    theme.compiled.RefersTo mode (Property.name ⟨.mode, key⟩) other ↔
      ∃ value, theme.background? mode key = some value ∧
        other = Property.name ⟨.color, referenceKey value⟩ := by
  rw [refersTo_iff]
  constructor
  · rintro (⟨key', value, hvalue, hname, rfl⟩ | ⟨key', -, hname, -⟩)
    · cases Property.name_injective hname
      exact ⟨value, hvalue, rfl⟩
    · cases Property.name_injective hname
  · rintro ⟨value, hvalue, rfl⟩
    exact .inl ⟨key, value, hvalue, rfl, rfl⟩

/-- From one key to the next there are two steps: to the background, and to its color. -/
theorem PointsTo.transGen {key other : String} (h : theme.PointsTo mode key other) :
    TransGen (theme.compiled.RefersTo mode) (Property.name ⟨.color, key⟩)
      (Property.name ⟨.color, other⟩) := by
  obtain ⟨hkey, value, hvalue, rfl⟩ := h
  exact .tail (.single (refersTo_color_iff.mpr ⟨hkey, rfl⟩))
    (refersTo_mode_iff.mpr ⟨value, hvalue, rfl⟩)

/-- Steps from a color are at a background or at a color, and either was reached along keys. -/
theorem reaches_of_transGen {key name : String}
    (h : TransGen (theme.compiled.RefersTo mode) (Property.name ⟨.color, key⟩) name) :
    (∃ other, name = Property.name ⟨.mode, other⟩ ∧ other ∈ theme.light.bg.keys ∧
      ReflTransGen (theme.PointsTo mode) key other) ∨
    ∃ other, name = Property.name ⟨.color, other⟩ ∧ TransGen (theme.PointsTo mode) key other := by
  -- The steps lead from a color to a background and back in turn.
  induction h with
  | single hstep =>
      obtain ⟨hkey, rfl⟩ := refersTo_color_iff.mp hstep
      exact .inl ⟨key, rfl, hkey, .refl⟩
  | tail _ hstep ih =>
      rcases ih with ⟨other, rfl, hother, hkeys⟩ | ⟨other, rfl, hkeys⟩
      · obtain ⟨value, hvalue, rfl⟩ := refersTo_mode_iff.mp hstep
        exact .inr ⟨_, rfl, .tail' hkeys ⟨hother, value, hvalue, rfl⟩⟩
      · obtain ⟨hother, rfl⟩ := refersTo_color_iff.mp hstep
        exact .inl ⟨other, rfl, hother, hkeys.to_reflTransGen⟩

/-- **Steps between colors are steps between keys.** -/
theorem transGen_refersTo_color_iff {key other : String} :
    TransGen (theme.compiled.RefersTo mode) (Property.name ⟨.color, key⟩)
      (Property.name ⟨.color, other⟩) ↔ TransGen (theme.PointsTo mode) key other := by
  constructor
  · intro h
    rcases reaches_of_transGen h with ⟨last, hname, -, -⟩ | ⟨last, hname, hkeys⟩
    · cases Property.name_injective hname
    · cases Property.name_injective hname
      exact hkeys
  · intro h
    induction h with
    | single hstep => exact hstep.transGen
    | tail _ hstep ih => exact ih.trans hstep.transGen

/-- A circle through any name leads through a color. -/
theorem exists_color_of_circle {name : String}
    (h : TransGen (theme.compiled.RefersTo mode) name name) :
    ∃ key, TransGen (theme.compiled.RefersTo mode) (Property.name ⟨.color, key⟩)
      (Property.name ⟨.color, key⟩) := by
  obtain ⟨next, hstep, hback⟩ := TransGen.head'_iff.mp h
  rcases refersTo_iff.mp hstep with ⟨key, value, -, rfl, rfl⟩ | ⟨key, -, rfl, rfl⟩
  · exact ⟨_, .tail' hback hstep⟩
  · exact ⟨_, h⟩

/-- **A stylesheet has no circle exactly when the keys of its theme have none.**  The keys have one
where a background refers to a color that an alias hides, and the hiding aliases lead back. -/
theorem acyclic_iff (theme : Theme) (text : String) (hcss : theme.css = .ok text) :
    ∃ sheet, Stylesheet.ofTheme theme = .ok sheet ∧ text = sheet.render ∧
      ∀ mode, (∀ name, ¬ TransGen (sheet.RefersTo mode) name name) ↔
        ∀ key, ¬ TransGen (theme.PointsTo mode) key key := by
  obtain ⟨hsound, htext⟩ := css_eq_ok_iff.mp hcss
  refine ⟨theme.compiled, ofTheme_eq_ok_iff.mpr ⟨hsound, rfl⟩, htext, fun mode => ?_⟩
  constructor
  · intro hnames key hkey
    exact hnames _ (transGen_refersTo_color_iff.mpr hkey)
  · intro hkeys name hname
    obtain ⟨key, hkey⟩ := exists_color_of_circle hname
    exact hkeys key (transGen_refersTo_color_iff.mp hkey)

/-- A theme with a background that is named like the color it refers to. -/
def namesake : Theme where
  schema := supportedSchema
  name := "namesake"
  description := ""
  base := { BaseTokens.empty with palette := .ofList [("primary", "#0070f3")] }
  light := ⟨.ofList [("primary", "primary palette")]⟩
  dark := .empty

theorem pointsTo_namesake (mode : Mode) : namesake.PointsTo mode "primary" "primary" := by
  refine ⟨by decide, "primary palette", ?_, by decide⟩
  cases mode <;> rfl

/-- The namesake of a color makes a circle in either mode. -/
theorem acyclic_iff_namesake :
    (∃ text, namesake.css = .ok text) ∧
      ∃ sheet, Stylesheet.ofTheme namesake = .ok sheet ∧
        ∀ mode, ∃ name, TransGen (sheet.RefersTo mode) name name := by
  refine ⟨⟨_, rfl⟩, ?_⟩
  obtain ⟨sheet, hsheet, -, hiff⟩ := acyclic_iff namesake _ rfl
  refine ⟨sheet, hsheet, fun mode => ?_⟩
  by_contra hnone
  exact (hiff mode).mp (not_exists.mp hnone) "primary" (.single (pointsTo_namesake mode))

/-- **There are stylesheets with a circle**, among those that are made without a fault. -/
theorem not_forall_acyclic :
    ¬ ∀ (theme : Theme) (text : String), theme.css = .ok text →
      ∀ sheet, Stylesheet.ofTheme theme = .ok sheet →
        ∀ mode name, ¬ TransGen (sheet.RefersTo mode) name name := by
  intro h
  have hsheet : Stylesheet.ofTheme namesake = .ok namesake.compiled := rfl
  exact h namesake _ rfl _ hsheet .light _ (pointsTo_namesake .light).transGen

end DesignTokens.Theme
