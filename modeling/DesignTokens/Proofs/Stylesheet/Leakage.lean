import DesignTokens.Proofs.Stylesheet.Meaning
import DesignTokens.Proofs.Stylesheet.Verbatim

/-!
# References that are left

A token of a scale is resolved once: a value with the keyword is replaced by the color that it
refers to. What the color holds is neither checked nor resolved. So a stylesheet has a reference for
a literal exactly where a color is itself told as a reference, be it the color's own declaration or
that of a token which refers to it.

## Main Definitions

* `TokenValue.IsReferenceText` — the grammar reads a string as a reference
* `Theme.IsSettled` — resolving a literal again changes nothing

## Main Statements

* `Theme.isReferenceText_literal_iff` — which tokens of a scale are resolved to a reference
* `Theme.resolve_literal_iff` — for which values a second resolution changes nothing
* `Theme.no_reference_iff` — when no declaration has a reference for a literal
* `Theme.leaks_iff` — which declarations have a reference for a literal
* `Theme.not_forall_replaced` — some have

## Design Notes

The two readings of references part here as well. A color such as `palette-red` has the keyword, so
that a value which stands for it cannot be resolved again, but the grammar does not read it as a
reference. A color that is told as a reference to itself is the other way round: it is left in the
stylesheet, and a second resolution gives it again.
-/

namespace DesignTokens

/-- The grammar reads a string as a reference to a palette color. -/
def TokenValue.IsReferenceText (v : String) : Prop := ∃ key, parse v = .ok (.reference key)

/-- A string that is read as a reference has the keyword. -/
theorem TokenValue.IsReferenceText.isReference {v : String} (h : IsReferenceText v) :
    DesignTokens.isReference v = true := by
  obtain ⟨key, hparse⟩ := h
  exact (reads_reference hparse).1

namespace Theme

open TokenValue (IsReferenceText)

variable {theme : Theme}

/-- A literal stands for itself, or is the color of its own first word. -/
def IsSettled (theme : Theme) (literal : String) : Prop :=
  isReference literal = true → theme.base.palette.find? (Text.firstWord literal) = some literal

theorem not_isBroken_of_resolve {value literal : String} (h : theme.resolve value = .ok literal) :
    ¬ theme.IsBroken value := by
  have hsite : theme.siteFault? ⟨none, value⟩ = none := by
    rw [← fault?_resolve, h]
    rfl
  exact siteFault?_eq_none_iff.mp hsite

/-- What a value stands for is a color, or the value itself if it lacks the keyword. -/
theorem resolve_eq_ok_iff {value literal : String} :
    theme.resolve value = .ok literal ↔
      if isReference value then theme.base.palette.find? (Text.firstWord value) = some literal
      else literal = value := by
  constructor
  · intro h
    have hbroken := not_isBroken_of_resolve h
    obtain rfl : theme.literal value = literal :=
      Except.ok.inj ((resolve_eq_ok hbroken).symm.trans h)
    split
    · next href => exact find?_eq_some_literal hbroken href
    · next href => exact if_neg href
  · intro h
    unfold resolve
    split at h
    · next href =>
        rw [if_pos href]
        simp only [referenceKey, h]
    · next href => rw [if_neg href, h]

/-- **For which values a second resolution changes nothing**: those whose literal is settled. -/
theorem resolve_literal_iff {literal : String} :
    theme.resolve literal = .ok literal ↔ theme.IsSettled literal := by
  rw [resolve_eq_ok_iff]
  unfold IsSettled
  split <;> simp_all

/-- **Which tokens of a scale are resolved to a reference**: those that refer to a color which is
told as one. -/
theorem isReferenceText_literal_iff {value literal : String}
    (h : theme.resolve value = .ok literal) :
    IsReferenceText literal ↔ isReference value = true ∧
      ∃ color, theme.base.palette.find? (Text.firstWord value) = some color ∧
        IsReferenceText color := by
  rw [resolve_eq_ok_iff] at h
  split at h
  · next href => simp [href, h]
  · next href =>
      subst h
      exact ⟨fun hliteral => absurd hliteral.isReference href, fun hcolor => absurd hcolor.1 href⟩

/-- A literal of the stylesheet is a color, or what a token of a scale stands for. -/
theorem mem_base_literal_iff {d : Declaration} {literal : String}
    (hvalue : d.value = .literal literal) :
    d ∈ theme.compiled.base ↔
      (∃ e ∈ theme.base.palette.entries, d = ⟨⟨.color, e.1⟩, .literal e.2⟩) ∨
      ∃ c ∈ scales, ∃ e ∈ (theme.base.tokens c).entries,
        d = ⟨⟨c.family, e.1⟩, .literal (theme.literal e.2)⟩ := by
  have halias : d ∉ theme.aliasDeclarations := by
    intro hd
    obtain ⟨key, -, rfl⟩ := List.mem_map.mp hd
    cases hvalue
  rw [compiled, List.mem_append, List.mem_append, or_iff_left halias, List.mem_flatMap,
    paletteDeclarations, List.mem_map]
  simp only [scaleLiterals, List.mem_map, eq_comm]

theorem color_mem_base (theme : Theme) {e : String × String}
    (he : e ∈ theme.base.palette.entries) :
    ⟨⟨.color, e.1⟩, .literal e.2⟩ ∈ theme.compiled.base :=
  (mem_base_literal_iff rfl).mpr (.inl ⟨e, he, rfl⟩)

theorem resolve_of_isSound (hsound : theme.IsSound) {c : Category} (hc : c ∈ scales)
    {e : String × String} (he : e ∈ (theme.base.tokens c).entries) :
    theme.resolve e.2 = .ok (theme.literal e.2) :=
  resolve_eq_ok (not_isBroken_of_isSound hsound hc he)

/-- **No declaration has a reference for a literal** exactly if no color is told as one. -/
theorem no_reference_iff (hsound : theme.IsSound) :
    (∀ d ∈ theme.compiled.base, ∀ literal, d.value = .literal literal →
      ¬ IsReferenceText literal) ↔
      ∀ color ∈ theme.base.palette.values, ¬ IsReferenceText color := by
  constructor
  · intro h color hmem
    obtain ⟨e, he, rfl⟩ := List.mem_map.mp hmem
    exact h _ (theme.color_mem_base he) _ rfl
  · intro h d hd literal hvalue
    rcases (mem_base_literal_iff hvalue).mp hd with ⟨e, he, rfl⟩ | ⟨c, hc, e, he, rfl⟩
    · cases hvalue
      exact h _ (List.mem_map_of_mem he)
    · cases hvalue
      rw [isReferenceText_literal_iff (resolve_of_isSound hsound hc he)]
      rintro ⟨-, color, hfind, hread⟩
      exact h color (mem_values_of_find? hfind) hread

/-- If no color has the keyword, all literals are settled. -/
theorem isSettled_of_resolve (h : ∀ color ∈ theme.base.palette.values, isReference color = false)
    {value literal : String} (hvalue : theme.resolve value = .ok literal) :
    theme.IsSettled literal := by
  intro href
  rw [resolve_eq_ok_iff] at hvalue
  split at hvalue
  · rw [h literal (mem_values_of_find? hvalue)] at href
    cases href
  · next hplain => exact absurd (hvalue ▸ href) hplain

/-- **Which declarations have a reference for a literal.**  In a theme that compiles each color and
each token of a scale is declared with a literal. The literal of a token is read as a reference
exactly if the token refers to a color that is told as one, so none of these declarations has a
reference for a literal exactly if no color is told as one. All values stand for a literal, and a
second resolution gives it again exactly if the literal is settled, which it always is if no color
has the keyword. -/
theorem leaks_iff (theme : Theme) (text : String) (hcss : theme.css = .ok text) :
    ∃ sheet, Stylesheet.ofTheme theme = .ok sheet ∧ text = sheet.render ∧
      (∀ e ∈ theme.base.palette.entries, ⟨⟨.color, e.1⟩, .literal e.2⟩ ∈ sheet.base) ∧
      (∀ c ∈ scales, ∀ e ∈ (theme.base.tokens c).entries, ∃ literal,
        theme.resolve e.2 = .ok literal ∧ ⟨⟨c.family, e.1⟩, .literal literal⟩ ∈ sheet.base ∧
        (IsReferenceText literal ↔ isReference e.2 = true ∧
          ∃ color, theme.base.palette.find? (Text.firstWord e.2) = some color ∧
            IsReferenceText color)) ∧
      ((∀ d ∈ sheet.base, ∀ literal, d.value = .literal literal → ¬ IsReferenceText literal) ↔
        ∀ color ∈ theme.base.palette.values, ¬ IsReferenceText color) ∧
      (∀ site ∈ theme.referenceSites, ∃ literal, theme.resolve site.value = .ok literal ∧
        (theme.resolve literal = .ok literal ↔ theme.IsSettled literal)) ∧
      ((∀ color ∈ theme.base.palette.values, isReference color = false) →
        ∀ value literal, theme.resolve value = .ok literal →
          theme.resolve literal = .ok literal) := by
  obtain ⟨hsound, htext⟩ := css_eq_ok_iff.mp hcss
  refine ⟨theme.compiled, ofTheme_eq_ok_iff.mpr ⟨hsound, rfl⟩, htext,
    fun e he => theme.color_mem_base he, fun c hc e he => ?_, no_reference_iff hsound,
    fun site hsite => ⟨_, resolve_eq_ok (hsound site hsite), resolve_literal_iff⟩,
    fun h value literal hvalue => resolve_literal_iff.mpr (isSettled_of_resolve h hvalue)⟩
  have hresolve := resolve_of_isSound hsound hc he
  refine ⟨_, hresolve, ?_, isReferenceText_literal_iff hresolve⟩
  exact (mem_base_literal_iff rfl).mpr (.inr ⟨c, hc, e, he, rfl⟩)

/-- A theme with a color that is told as a reference to another one, and a spacing that refers to
it. -/
def chained : Theme where
  schema := supportedSchema
  name := "chained"
  description := ""
  base := { BaseTokens.empty with
    palette := .ofList [("ink", "#111"), ("text", "ink palette")]
    spacing := .ofList [("gap", "text palette"), ("pad", "ink palette")] }
  light := .empty
  dark := .empty

/-- The one spacing has a reference for a literal, and the other one has a color. -/
theorem leaks_iff_chained :
    (∃ text, chained.css = .ok text) ∧ ∃ sheet, Stylesheet.ofTheme chained = .ok sheet ∧
      ⟨⟨.space, "gap"⟩, .literal "ink palette"⟩ ∈ sheet.base ∧ IsReferenceText "ink palette" ∧
      ⟨⟨.space, "pad"⟩, .literal "#111"⟩ ∈ sheet.base ∧ ¬ IsReferenceText "#111" := by
  obtain ⟨sheet, hsheet, -, -, hscales, -⟩ := leaks_iff chained _ rfl
  have hmem : Category.spacing ∈ scales := List.mem_cons_self
  obtain ⟨gap, hgap, hdeclared, hread⟩ := hscales .spacing hmem ("gap", "text palette") (by decide)
  obtain ⟨pad, hpad, hdeclared', hread'⟩ := hscales .spacing hmem ("pad", "ink palette") (by decide)
  obtain rfl : "ink palette" = gap := Except.ok.inj hgap
  obtain rfl : "#111" = pad := Except.ok.inj hpad
  refine ⟨⟨_, rfl⟩, sheet, hsheet, hdeclared, ⟨"ink", rfl⟩, hdeclared', ?_⟩
  rintro ⟨key, hkey⟩
  cases hkey

/-- **Not every reference is replaced by a literal**, and a literal may be resolved further. -/
theorem not_forall_replaced :
    (¬ ∀ (theme : Theme) (text : String), theme.css = .ok text →
      ∀ sheet, Stylesheet.ofTheme theme = .ok sheet →
        ∀ d ∈ sheet.base, ∀ literal, d.value = .literal literal → ¬ IsReferenceText literal) ∧
    ¬ ∀ (theme : Theme) (text : String), theme.css = .ok text →
      ∀ c ∈ scales, ∀ e ∈ (theme.base.tokens c).entries, ∀ literal,
        theme.resolve e.2 = .ok literal → theme.resolve literal = .ok literal := by
  constructor
  · intro h
    have hsheet : Stylesheet.ofTheme chained = .ok chained.compiled := rfl
    have hdeclared : ⟨⟨.color, "text"⟩, .literal "ink palette"⟩ ∈ chained.compiled.base := by decide
    exact h chained _ rfl _ hsheet _ hdeclared _ rfl ⟨"ink", rfl⟩
  · intro h
    have hagain := h chained _ rfl .spacing List.mem_cons_self ("gap", "text palette") (by decide)
      "ink palette" rfl
    have hcolor : chained.resolve "ink palette" = .ok "#111" := rfl
    exact absurd (Except.ok.inj (hcolor.symm.trans hagain)) (by decide)

end Theme

end DesignTokens
