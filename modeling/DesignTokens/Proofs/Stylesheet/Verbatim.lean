import DesignTokens.Proofs.Report.Passes
import DesignTokens.Proofs.Stylesheet.Decoding
import DesignTokens.Proofs.Value.References

/-!
# Values that are emitted verbatim

A report says of a spacing or a size outside the grammar that its value is emitted verbatim. The
grammar asks whether the keyword is the second word of the value, while the resolution of scales asks
whether it occurs at all. So a value that holds the keyword in another place is reported, and yet the
stylesheet has the color that its first word names.

## Main Statements

* `Theme.declaration_of_scale_iff` — a token of a scale has one declaration
* `Theme.literal_eq_self_iff` — the values that stand for themselves
* `Theme.emits_verbatim_iff` — which of the reported values are emitted verbatim
* `Theme.not_forall_verbatim` — not all of them are
-/

namespace DesignTokens.Theme

variable {theme : Theme}

/-- **A token of a scale has one declaration**, with the literal that its value stands for. -/
theorem declaration_of_scale_iff {c : Category} (hc : c ∈ scales) {key value : String}
    (hvalue : (theme.base.tokens c).find? key = some value) (d : Declaration) :
    d ∈ theme.compiled.base ∧ d.property.name = Property.name ⟨c.family, key⟩ ↔
      d = ⟨⟨c.family, key⟩, .literal (theme.literal value)⟩ := by
  have hscale : d ∈ theme.scaleLiterals c ↔
      d ∈ theme.compiled.base ∧ d.property.family = c.family := by
    simp [← filter_base_scale theme hc]
  rw [Property.name_inj]
  constructor
  · rintro ⟨hd, hproperty⟩
    obtain ⟨e, he, rfl⟩ := List.mem_map.mp (hscale.mpr ⟨hd, congrArg Property.family hproperty⟩)
    obtain rfl : e.1 = key := congrArg Property.key hproperty
    rw [OrderedMap.find?_eq_some_iff.mpr he] at hvalue
    cases hvalue
    rfl
  · rintro rfl
    have hmem : (key, value) ∈ (theme.base.tokens c).entries :=
      OrderedMap.find?_eq_some_iff.mp hvalue
    exact ⟨(hscale.mp (List.mem_map_of_mem hmem)).1, rfl⟩

/-- In a theme that compiles a value with the keyword stands for the color of its first word. -/
theorem find?_eq_some_literal {value : String} (hsound : ¬ theme.IsBroken value)
    (href : isReference value = true) :
    theme.base.palette.find? (Text.firstWord value) = some (theme.literal value) := by
  have hkey : referenceKey value ∈ theme.base.palette.keys := by
    by_contra hkey
    exact hsound ⟨href, hkey⟩
  obtain ⟨color, hcolor⟩ := OrderedMap.exists_find?_iff.mpr hkey
  rw [literal, if_pos href, hcolor]
  exact hcolor

/-- **The values that stand for themselves** are those without the keyword, and those whose color is
the very same text. -/
theorem literal_eq_self_iff {value : String} (hsound : ¬ theme.IsBroken value) :
    theme.literal value = value ↔ (isReference value = true →
      theme.base.palette.find? (Text.firstWord value) = some value) := by
  constructor
  · intro hself href
    rw [find?_eq_some_literal hsound href, hself]
  · intro h
    by_cases href : isReference value = true
    · exact Option.some.inj ((find?_eq_some_literal hsound href).symm.trans (h href))
    · rw [literal, if_neg href]

/-- A value that does not follow the grammar has another second word than the keyword. -/
theorem getElem?_words_ne_of_parse {value : String} {fault : ValueFault}
    (h : TokenValue.parse value = .error fault) :
    (Text.words value)[1]? ≠ some paletteKeyword := by
  intro hsecond
  obtain ⟨first, rest, hwords⟩ : ∃ first rest,
      Text.words value = first :: paletteKeyword :: rest := by
    match hsplit : Text.words value with
    | [] => simp [hsplit] at hsecond
    | [first] => simp [hsplit] at hsecond
    | first :: second :: rest =>
        obtain rfl : second = paletteKeyword := by simpa [hsplit] using hsecond
        exact ⟨first, rest, rfl⟩
  rw [TokenValue.parse_eq_ok_iff.mpr (.inl ⟨first, rest, hwords, rfl⟩)] at h
  cases h

/-- **Which of the reported values are emitted verbatim.**  A token is reported if its value does not
follow the grammar. It has one declaration, and this has the value itself exactly if the value lacks
the keyword, unless the color of its first word happens to be the same text. A value with the keyword
is replaced by that color, though the keyword is not its second word. -/
theorem emits_verbatim_iff (theme : Theme) (text : String) (hcss : theme.css = .ok text) :
    ∃ sheet, Stylesheet.ofTheme theme = .ok sheet ∧ text = sheet.render ∧
      ∀ c ∈ [Category.spacing, .size], ∀ key,
        theme.ReportsAt "UNPARSEABLE_VALUE" ("base." ++ c.name ++ "." ++ key) →
        ∃ value literal, (theme.base.tokens c).find? key = some value ∧
          (Text.words value)[1]? ≠ some paletteKeyword ∧
          (∀ d, d ∈ sheet.base ∧ d.property.name = Property.name ⟨c.family, key⟩ ↔
            d = ⟨⟨c.family, key⟩, .literal literal⟩) ∧
          (literal = value ↔ (isReference value = true →
            theme.base.palette.find? (Text.firstWord value) = some value)) ∧
          (isReference value = true →
            theme.base.palette.find? (Text.firstWord value) = some literal) := by
  obtain ⟨hsound, htext⟩ := css_eq_ok_iff.mp hcss
  refine ⟨theme.compiled, ofTheme_eq_ok_iff.mpr ⟨hsound, rfl⟩, htext, ?_⟩
  intro c hc key hreport
  obtain ⟨value, hvalue, fault, hparse⟩ := (reportsAt_unparseable_iff hc).mp hreport
  have hscale : c ∈ scales := by
    simp only [List.mem_cons, List.not_mem_nil, or_false] at hc
    rcases hc with rfl | rfl <;> decide
  have hbroken : ¬ theme.IsBroken value :=
    not_isBroken_of_isSound hsound hscale (OrderedMap.find?_eq_some_iff.mp hvalue)
  exact ⟨value, theme.literal value, hvalue, getElem?_words_ne_of_parse hparse,
    declaration_of_scale_iff hscale hvalue, literal_eq_self_iff hbroken,
    find?_eq_some_literal hbroken⟩

/-- A theme with a reference whose keyword is in the plural, and a length of the usual kind. -/
def pluralReference : Theme where
  schema := supportedSchema
  name := "plural"
  description := ""
  base := { BaseTokens.empty with
    palette := .ofList [("ink", "#111")]
    spacing := .ofList [("gap", "ink palettes"), ("pad", "0.5rem")] }
  light := ⟨.ofList [("text", "ink palette")]⟩
  dark := ⟨.ofList [("text", "ink palette")]⟩

/-- The length is emitted verbatim, and the reference is replaced by the color. -/
theorem emits_verbatim_iff_pluralReference :
    (∀ key ∈ ["gap", "pad"], pluralReference.ReportsAt "UNPARSEABLE_VALUE" ("base.spacing." ++ key)) ∧
      ∃ sheet, Stylesheet.ofTheme pluralReference = .ok sheet ∧
        ⟨⟨.space, "pad"⟩, .literal "0.5rem"⟩ ∈ sheet.base ∧
        ⟨⟨.space, "gap"⟩, .literal "#111"⟩ ∈ sheet.base := by
  have hreports : ∀ key ∈ ["gap", "pad"],
      pluralReference.ReportsAt "UNPARSEABLE_VALUE" ("base.spacing." ++ key) := by
    intro key hkey
    refine (reportsAt_unparseable_iff (c := .spacing) List.mem_cons_self).mpr ?_
    simp only [List.mem_cons, List.not_mem_nil, or_false] at hkey
    rcases hkey with rfl | rfl
    · exact ⟨"ink palettes", rfl, _, rfl⟩
    · exact ⟨"0.5rem", rfl, _, rfl⟩
  obtain ⟨sheet, hsheet, -, hverbatim⟩ := emits_verbatim_iff pluralReference _ rfl
  obtain ⟨pad, literal, hpad, -, hdeclared, hself, -⟩ :=
    hverbatim .spacing List.mem_cons_self "pad" (hreports "pad" (by decide))
  obtain ⟨gap, color, hgap, -, hdeclared', -, hcolor⟩ :=
    hverbatim .spacing List.mem_cons_self "gap" (hreports "gap" (by decide))
  obtain rfl : "0.5rem" = pad := Option.some.inj hpad
  obtain rfl : "ink palettes" = gap := Option.some.inj hgap
  obtain rfl : literal = "0.5rem" := hself.mpr (by decide)
  obtain rfl : "#111" = color := Option.some.inj (hcolor (by decide))
  exact ⟨hreports, sheet, hsheet, ((hdeclared _).mpr rfl).1, ((hdeclared' _).mpr rfl).1⟩

/-- **Not all values that are reported are emitted verbatim.** -/
theorem not_forall_verbatim :
    ¬ ∀ (theme : Theme) (text : String), theme.css = .ok text →
      ∀ sheet, Stylesheet.ofTheme theme = .ok sheet →
        ∀ c ∈ [Category.spacing, .size], ∀ key value,
          theme.ReportsAt "UNPARSEABLE_VALUE" ("base." ++ c.name ++ "." ++ key) →
          (theme.base.tokens c).find? key = some value →
          ⟨⟨c.family, key⟩, .literal value⟩ ∈ sheet.base := by
  intro h
  have hreport : pluralReference.ReportsAt "UNPARSEABLE_VALUE" ("base.spacing." ++ "gap") :=
    (reportsAt_unparseable_iff (c := .spacing) List.mem_cons_self).mpr
      ⟨"ink palettes", rfl, _, rfl⟩
  have hsheet : Stylesheet.ofTheme pluralReference = .ok pluralReference.compiled := rfl
  have hmem := h pluralReference _ rfl _ hsheet .spacing List.mem_cons_self "gap" "ink palettes"
    hreport rfl
  revert hmem
  decide

end DesignTokens.Theme
