import DesignTokens.Proofs.Stylesheet.Removal
import DesignTokens.Tailwind

/-!
# Changing a color

A color of the palette is carried by its own declaration, and by those of the spacing, size, zIndex
and container tokens that refer to it. When the color gets another literal, these declarations
follow and all others stay, each in its place. Whether a theme compiles, its configuration and its
report only depend on the names of the colors.

## Main Definitions

* `Theme.recolored` — the theme with another literal for a color
* `Theme.carriedColors` — which color each declaration carries, if any
* `Declaration.recolored` — a declaration with another literal if it carries a color

## Main Statements

* `OrderedMap.entries_insert_of_mem` — a present key keeps its place
* `Theme.compiled_recolored` — which declarations follow
* `Theme.report_recolored`, `Theme.tailwind?_recolored` — what does not depend on the literal
* `Theme.recolors_in_place` — all of this for a theme that compiles

## Design Notes

A mode's declaration refers to a color by its name and never carries one, so the first two blocks
stay as they are.
-/

namespace DesignTokens

/-- A key that is present keeps its place, and all other entries stay. -/
theorem OrderedMap.entries_insert_of_mem {κ α : Type} [DecidableEq κ] {m : OrderedMap κ α} {key : κ}
    (h : key ∈ m.keys) (value : α) : (m.insert key value).entries =
      m.entries.map fun e => if e.1 = key then (key, value) else e := by
  have hinsert : ∀ entries : List (κ × α), (entries.map Prod.fst).Nodup →
      key ∈ entries.map Prod.fst → insertInto key value entries =
        entries.map fun e => if e.1 = key then (key, value) else e := by
    intro entries hnodup hmem
    induction entries with
    | nil => cases hmem
    | cons first rest ih =>
        rw [List.map_cons, List.nodup_cons] at hnodup
        rw [insertInto, List.map_cons]
        split
        · next hfirst =>
            -- The key stands nowhere behind its first place.
            have hrest : ∀ e ∈ rest, (if e.1 = key then (key, value) else e) = e := by
              intro e he
              apply if_neg
              rintro rfl
              exact hnodup.1 (hfirst ▸ List.mem_map_of_mem he)
            rw [List.map_congr_left hrest, List.map_id']
        · next hfirst =>
            rw [ih hnodup.2 ((List.mem_cons.mp hmem).resolve_left fun e => hfirst e.symm)]
  exact hinsert m.entries m.nodup_keys h

/-- A declaration whose literal is another one, if it carries a color. -/
def Declaration.recolored (key color : String) (carried : Option String) (d : Declaration) :
    Declaration :=
  if carried = some key then { d with value := .literal color } else d

/-- The color that a token's value refers to, if it has the keyword. -/
def referredColor? (value : String) : Option String :=
  if isReference value then some (referenceKey value) else none

namespace Theme

variable {theme : Theme} {key color : String}

/-- The theme with another literal for a color of its palette. -/
def recolored (theme : Theme) (key color : String) : Theme :=
  { theme with base := { theme.base with palette := theme.base.palette.insert key color } }

/-- Which color each of the declarations carries that do not depend on the mode: a color itself, an
alias none, and a token of a scale the one that its value refers to. -/
def carriedColors (theme : Theme) : List (Option String) :=
  theme.base.palette.keys.map some ++ theme.light.bg.keys.map (fun _ => none) ++
    scales.flatMap fun c => (theme.base.tokens c).values.map referredColor?

theorem keys_recolored (hkey : key ∈ theme.base.palette.keys) (color : String) :
    (theme.recolored key color).base.palette.keys = theme.base.palette.keys :=
  (OrderedMap.keys_insert _ _ _).trans (if_pos hkey)

/-! ### What does not depend on the literal -/

theorem siteFault?_recolored (hkey : key ∈ theme.base.palette.keys) (color : String) :
    (theme.recolored key color).siteFault? = theme.siteFault? :=
  theme.siteFault?_congr_palette (keys_recolored hkey color) theme.base.extras theme.base.sharing

/-- **Whether a theme compiles** does not depend on the literals of its colors. -/
theorem isSound_recolored (hkey : key ∈ theme.base.palette.keys) (color : String) :
    (theme.recolored key color).IsSound ↔ theme.IsSound := by
  have hsites : (theme.recolored key color).referenceSites = theme.referenceSites := rfl
  simp only [IsSound, ← siteFault?_eq_none_iff, hsites, siteFault?_recolored hkey]

/-- **A report looks at the names of colors only.** -/
theorem report_recolored (hkey : key ∈ theme.base.palette.keys) (color : String) :
    (theme.recolored key color).report = theme.report := by
  have hreferences : (theme.recolored key color).referenceIssues = theme.referenceIssues := by
    rw [referenceIssues_eq, referenceIssues_eq, fault?_checkReferences, fault?_checkReferences,
      siteFault?_recolored hkey]
    rfl
  have hpalette : (theme.recolored key color).paletteIssues = theme.paletteIssues := by
    have hempty : ∀ tokens : TokenMap, tokens.entries.isEmpty = tokens.keys.isEmpty := by
      intro tokens
      rw [OrderedMap.keys, List.isEmpty_map]
    rw [paletteIssues, paletteIssues, hempty, hempty, keys_recolored hkey]
  have husage : (theme.recolored key color).usageIssues = theme.usageIssues := by
    rw [usageIssues, usageIssues, keys_recolored hkey]
    rfl
  rw [report, report, hreferences, hpalette, husage]
  rfl

/-- **A configuration names colors only.** -/
theorem tailwind?_recolored (hkey : key ∈ theme.base.palette.keys) (color : String) :
    (theme.recolored key color).tailwind? = theme.tailwind? := by
  have hconfig : TailwindConfig.ofTheme (theme.recolored key color) = .ofTheme theme := by
    simp only [TailwindConfig.ofTheme, bucketEntries, keys_recolored hkey]
    rfl
  have hprintable : (theme.recolored key color).hasPrintableKeys = theme.hasPrintableKeys := rfl
  rw [tailwind?, tailwind?, hconfig, hprintable]

/-! ### Which declarations follow -/

/-- The palette's declarations: only that of the color itself follows. -/
theorem paletteDeclarations_recolored (hkey : key ∈ theme.base.palette.keys) (color : String) :
    (theme.recolored key color).paletteDeclarations =
      List.zipWith (Declaration.recolored key color) (theme.base.palette.keys.map some)
        theme.paletteDeclarations := by
  have hentries : (theme.recolored key color).base.palette.entries =
      theme.base.palette.entries.map fun e => if e.1 = key then (key, color) else e :=
    OrderedMap.entries_insert_of_mem hkey color
  rw [paletteDeclarations, paletteDeclarations, hentries, OrderedMap.keys]
  simp only [List.map_map, List.zipWith_map, List.zipWith_self]
  refine List.map_congr_left fun e _ => ?_
  by_cases he : e.1 = key
  · simp [Declaration.recolored, he]
  · simp [Declaration.recolored, he]

/-- No alias follows. -/
theorem aliasDeclarations_recolored :
    (theme.recolored key color).aliasDeclarations =
      List.zipWith (Declaration.recolored key color) (theme.light.bg.keys.map fun _ => none)
        theme.aliasDeclarations := by
  rw [aliasDeclarations, aliasDeclarations, List.zipWith_map, List.zipWith_self]
  rfl

/-- A value stands for the new literal if it refers to the color, and else for what it stood for. -/
theorem literal_recolored (theme : Theme) (key color value : String) :
    (theme.recolored key color).literal value =
      if referredColor? value = some key then color else theme.literal value := by
  have hfind : (theme.recolored key color).base.palette.find? (referenceKey value) =
      if referenceKey value = key then some color
      else theme.base.palette.find? (referenceKey value) :=
    OrderedMap.find?_insert _ _ _ _
  unfold literal referredColor?
  rw [hfind]
  by_cases href : isReference value = true
  · by_cases hvalue : referenceKey value = key
    · simp [href, hvalue]
    · simp [href, hvalue]
  · simp [href]

/-- Of the tokens of a scale those follow that refer to the color. -/
theorem scaleLiterals_recolored {c : Category} (hc : c ∈ scales) :
    (theme.recolored key color).scaleLiterals c =
      List.zipWith (Declaration.recolored key color)
        ((theme.base.tokens c).values.map referredColor?) (theme.scaleLiterals c) := by
  have htokens : (theme.recolored key color).base.tokens c = theme.base.tokens c := by
    cases c with
    | palette => simp [scales] at hc
    | _ => rfl
  rw [scaleLiterals, scaleLiterals, htokens, OrderedMap.values, List.map_map, List.zipWith_map,
    List.zipWith_self]
  refine List.map_congr_left fun e _ => ?_
  rw [literal_recolored]
  unfold Declaration.recolored
  split <;> simp_all

/-- Lists that are put together from parts of equal lengths are gone through part by part. -/
theorem zipWith_flatMap {α β γ δ : Type} (f : α → β → γ) {g : δ → List α} {h : δ → List β}
    {l : List δ} (hlength : ∀ c ∈ l, (g c).length = (h c).length) :
    List.zipWith f (l.flatMap g) (l.flatMap h) = l.flatMap fun c => List.zipWith f (g c) (h c) := by
  induction l with
  | nil => rfl
  | cons c rest ih =>
      obtain ⟨hfirst, hrest⟩ := List.forall_mem_cons.mp hlength
      rw [List.flatMap_cons, List.flatMap_cons, List.flatMap_cons, List.zipWith_append hfirst,
        ih hrest]

theorem length_carriedColors (theme : Theme) :
    theme.carriedColors.length = theme.compiled.base.length := by
  simp [carriedColors, compiled, paletteDeclarations, aliasDeclarations, scaleLiterals,
    OrderedMap.keys, OrderedMap.values, List.length_flatMap]

/-- **Which declarations follow**: those that carry the color, each in its place. -/
theorem compiled_recolored (hkey : key ∈ theme.base.palette.keys) (color : String) :
    (theme.recolored key color).compiled = { theme.compiled with
      base := List.zipWith (Declaration.recolored key color) theme.carriedColors
        theme.compiled.base } := by
  have hscales : scales.flatMap (theme.recolored key color).scaleLiterals =
      List.zipWith (Declaration.recolored key color)
        (scales.flatMap fun c => (theme.base.tokens c).values.map referredColor?)
        (scales.flatMap theme.scaleLiterals) := by
    rw [zipWith_flatMap _ fun c _ => by simp [scaleLiterals, OrderedMap.values]]
    exact List.flatMap_congr fun c => scaleLiterals_recolored
  have hbase : (theme.recolored key color).compiled.base =
      List.zipWith (Declaration.recolored key color) theme.carriedColors theme.compiled.base := by
    rw [compiled, compiled, carriedColors, List.zipWith_append, List.zipWith_append,
      ← paletteDeclarations_recolored hkey, ← aliasDeclarations_recolored, ← hscales]
    · simp [paletteDeclarations, OrderedMap.keys]
    · simp [paletteDeclarations, aliasDeclarations, OrderedMap.keys]
  rw [← hbase]
  rfl

/-- **A color is changed in place.**  A theme that compiles still does so when a color of its
palette gets another literal. A declaration follows if it is that of the color itself, or that of a
spacing, size, zIndex or container token whose value has the keyword and starts with the color; all
declarations stay in their places, and the others as they are. So do the blocks of both modes, the
configuration with its module, and the report. -/
theorem recolors_in_place (theme : Theme) (key color text : String)
    (hkey : key ∈ theme.base.palette.keys) (hcss : theme.css = .ok text) :
    ∃ sheet changed, Stylesheet.ofTheme theme = .ok sheet ∧ text = sheet.render ∧
      Stylesheet.ofTheme (theme.recolored key color) = .ok changed ∧
      (theme.recolored key color).css = .ok changed.render ∧
      changed.light = sheet.light ∧ changed.dark = sheet.dark ∧
      changed.base.length = sheet.base.length ∧
      theme.carriedColors.length = sheet.base.length ∧
      (∀ (i : Nat) (d : Declaration), sheet.base[i]? = some d → changed.base[i]? = some
        (if theme.carriedColors[i]? = some (some key) then { d with value := .literal color }
          else d)) ∧
      (theme.recolored key color).tailwind? = theme.tailwind? ∧
      (theme.recolored key color).tailwindModule? = theme.tailwindModule? ∧
      (theme.recolored key color).report = theme.report := by
  obtain ⟨hsound, htext⟩ := css_eq_ok_iff.mp hcss
  have hsound' := (isSound_recolored hkey color).mpr hsound
  have hlength := theme.length_carriedColors
  have hcompiled := compiled_recolored hkey color
  have htailwind := tailwind?_recolored hkey color
  refine ⟨theme.compiled, (theme.recolored key color).compiled,
    ofTheme_eq_ok_iff.mpr ⟨hsound, rfl⟩, htext, ofTheme_eq_ok_iff.mpr ⟨hsound', rfl⟩,
    css_eq_ok_iff.mpr ⟨hsound', rfl⟩, rfl, rfl, ?_, hlength, ?_, htailwind,
    by rw [tailwindModule?, tailwindModule?, htailwind], report_recolored hkey color⟩
  · rw [hcompiled, List.length_zipWith, hlength, Nat.min_self]
  · intro i d hd
    obtain ⟨carried, hcarried⟩ : ∃ carried, theme.carriedColors[i]? = some carried := by
      have hi : i < theme.carriedColors.length := hlength ▸ (List.getElem?_eq_some_iff.mp hd).1
      exact ⟨_, List.getElem?_eq_getElem hi⟩
    rw [hcompiled, List.getElem?_zipWith, hcarried, hd]
    simp [Declaration.recolored]

/-- A theme whose one color is carried by a spacing and by a container, beside a spacing and a
zIndex token that have literals. -/
def spread : Theme where
  schema := supportedSchema
  name := "spread"
  description := ""
  base := { BaseTokens.empty with
    palette := .ofList [("foam", "#eff"), ("ink", "#111")]
    spacing := .ofList [("gap", "ink palettes"), ("pad", "0.5rem")]
    zIndex := .ofList [("modal", "10")]
    container := .ofList [("md", "ink palette")] }
  light := ⟨.ofList [("text", "ink palette"), ("ink", "foam palette")]⟩
  dark := ⟨.ofList [("text", "foam palette")]⟩

/-- Of the eight declarations three follow, and the alias that has the color's name does not. -/
theorem recolors_in_place_spread :
    "ink" ∈ spread.base.palette.keys ∧ (∃ text, spread.css = .ok text) ∧
      (spread.recolored "ink" "navy").report = spread.report ∧
      ∃ changed, Stylesheet.ofTheme (spread.recolored "ink" "navy") = .ok changed ∧
        changed.base[1]? = some ⟨⟨.color, "ink"⟩, .literal "navy"⟩ ∧
        changed.base[3]? = some ⟨⟨.color, "ink"⟩, .reference ⟨.mode, "ink"⟩⟩ ∧
        changed.base[4]? = some ⟨⟨.space, "gap"⟩, .literal "navy"⟩ := by
  have hkey : "ink" ∈ spread.base.palette.keys := by decide
  obtain ⟨sheet, changed, hsheet, -, hchanged, -, -, -, -, -, hplaces, -, -, hreport⟩ :=
    recolors_in_place spread "ink" "navy" _ hkey rfl
  obtain rfl : spread.compiled = sheet := Except.ok.inj hsheet
  exact ⟨hkey, ⟨_, rfl⟩, hreport, changed, hchanged, hplaces 1 _ rfl, hplaces 3 _ rfl,
    hplaces 4 _ rfl⟩

end Theme

end DesignTokens
