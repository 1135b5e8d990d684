import DesignTokens.Proofs.FirstFault
import DesignTokens.Stylesheet

/-!
# When a theme compiles

A stylesheet is made in two passes over the values of a theme. The first one checks the references
of four sections and knows where they stand; the second one resolves the four scales and does not.
Two of the scales are met in both passes. This module joins the passes into one order of sites and
says what the stylesheet of a theme without broken references is.

## Main Definitions

* `ReferenceSite`, `Theme.referenceSites` — the values that may refer to a color, in order
* `Theme.IsBroken` — a value that refers to a color that the palette lacks
* `Theme.compiled` — the stylesheet of a theme, made without a check

## Main Statements

* `Theme.fault?_css` — the fault of a theme is that of its first broken site
* `Theme.ofTheme_eq_ok_iff` — a theme without broken sites has the stylesheet `Theme.compiled`
* `Theme.css_eq_ok_iff_and_eq_error_iff` — both at once, as a law of success and of the first fault
-/

namespace DesignTokens

/-- A value that may refer to a palette color, with the name of its place if that is told. -/
structure ReferenceSite where
  /-- The place, if it is told. -/
  place : Option String
  /-- The value. -/
  value : String
  deriving DecidableEq

/-- The sites of a section. Without a name of the section no places are told. -/
def TokenMap.sites (part : Option String) (tokens : TokenMap) : List ReferenceSite :=
  tokens.entries.map fun e => ⟨part.map fun name => name ++ "." ++ e.1, e.2⟩

namespace Theme

/-- The values that may refer to a palette color, in the order in which a broken one is met. -/
def referenceSites (theme : Theme) : List ReferenceSite :=
  theme.light.bg.sites "light.bg" ++ theme.dark.bg.sites "dark.bg" ++
    theme.base.spacing.sites "base.spacing" ++ theme.base.size.sites "base.size" ++
    theme.base.zIndex.sites none ++ theme.base.container.sites none

/-- A value contains the keyword, and its first word is no palette color. -/
def IsBroken (theme : Theme) (value : String) : Prop :=
  isReference value = true ∧ referenceKey value ∉ theme.base.palette.keys

instance (theme : Theme) (value : String) : Decidable (theme.IsBroken value) :=
  inferInstanceAs (Decidable (_ ∧ _))

/-- What is reported of a broken site. -/
def faultAt (theme : Theme) (site : ReferenceSite) : ReferenceFault :=
  match site.place with
  | some place => .invalid (referenceKey site.value) (some place) theme.base.palette.keys
  | none => .unresolved (referenceKey site.value) theme.name theme.base.palette.keys

/-- A fault names the first word of the value, the colors that there are, and the place. -/
theorem faultAt_fields (theme : Theme) (site : ReferenceSite) :
    (theme.faultAt site).key = Text.firstWord site.value ∧
      (theme.faultAt site).available = theme.base.palette.keys ∧
      (theme.faultAt site).place = site.place := by
  obtain ⟨_ | place, value⟩ := site <;> exact ⟨rfl, rfl, rfl⟩

/-- What is reported of a site, if it is broken. -/
def siteFault? (theme : Theme) (site : ReferenceSite) : Option ReferenceFault :=
  if theme.IsBroken site.value then some (theme.faultAt site) else none

theorem siteFault?_eq_some_iff {theme : Theme} {site : ReferenceSite} {fault : ReferenceFault} :
    theme.siteFault? site = some fault ↔
      theme.IsBroken site.value ∧ fault = theme.faultAt site := by
  unfold siteFault?
  split
  · next h => simp [h, eq_comm]
  · next h => simp [h]

theorem siteFault?_eq_none_iff {theme : Theme} {site : ReferenceSite} :
    theme.siteFault? site = none ↔ ¬ theme.IsBroken site.value := by
  unfold siteFault?
  split <;> simp_all

/-- A site is told as broken with or without its place. -/
theorem siteFault?_eq_none_congr {theme : Theme} {site other : ReferenceSite}
    (h : site.value = other.value) :
    theme.siteFault? site = none ↔ theme.siteFault? other = none := by
  rw [siteFault?_eq_none_iff, siteFault?_eq_none_iff, h]

/-! ### The two passes -/

/-- The check of a value finds what is reported of its site. -/
theorem fault?_checkReference (theme : Theme) (value place : String) :
    fault? (theme.checkReference value (some place)) = theme.siteFault? ⟨some place, value⟩ := by
  unfold checkReference siteFault? IsBroken faultAt OrderedMap.contains
  by_cases href : isReference value = true
  · by_cases hkey : referenceKey value ∈ theme.base.palette.keys
    · simp [href, hkey]
    · simp [href, hkey]
  · simp [href]

/-- So does the resolution of a value, but for the place. -/
theorem fault?_resolve (theme : Theme) (value : String) :
    fault? (theme.resolve value) = theme.siteFault? ⟨none, value⟩ := by
  unfold resolve siteFault? IsBroken faultAt
  by_cases href : isReference value = true
  · cases hfind : theme.base.palette.find? (referenceKey value) with
    | some color =>
        have hkey : referenceKey value ∈ theme.base.palette.keys :=
          OrderedMap.exists_find?_iff.mp ⟨color, hfind⟩
        simp [href, hfind, hkey]
    | none =>
        have hkey := OrderedMap.find?_eq_none_iff.mp hfind
        simp [href, hfind, hkey]
  · simp [href]

theorem fault?_checkReferences (theme : Theme) :
    fault? theme.checkReferences =
      (theme.light.bg.sites "light.bg" ++ theme.dark.bg.sites "dark.bg" ++
        theme.base.spacing.sites "base.spacing" ++
        theme.base.size.sites "base.size").findSome? theme.siteFault? := by
  have hsites : theme.light.bg.sites "light.bg" ++ theme.dark.bg.sites "dark.bg" ++
      theme.base.spacing.sites "base.spacing" ++ theme.base.size.sites "base.size" =
      theme.checkedValues.map fun v => ⟨some v.1, v.2⟩ := by
    simp [checkedValues, checkedSections, TokenMap.sites, Function.comp_def]
  rw [hsites, checkReferences, fault?_forM, List.findSome?_map]
  exact congrArg (theme.checkedValues.findSome? ·)
    (funext fun v => fault?_checkReference theme v.2 v.1)

theorem fault?_scaleDeclarations (theme : Theme) (c : Category) :
    fault? (theme.scaleDeclarations c) =
      ((theme.base.tokens c).sites none).findSome? theme.siteFault? := by
  rw [scaleDeclarations, fault?_mapM, TokenMap.sites, List.findSome?_map]
  refine congrArg ((theme.base.tokens c).entries.findSome? ·) (funext fun e => ?_)
  exact (fault?_map _ _).trans (fault?_resolve theme e.2)

/-- A scale that passes the first pass has no fault in the second one. -/
theorem findSome?_sites_eq_none_congr (theme : Theme) (tokens : TokenMap)
    (part other : Option String) :
    (tokens.sites part).findSome? theme.siteFault? = none ↔
      (tokens.sites other).findSome? theme.siteFault? = none := by
  simp only [TokenMap.sites, List.findSome?_map, List.findSome?_eq_none_iff, Function.comp_apply]
  exact forall₂_congr fun e _ => siteFault?_eq_none_congr rfl

/-- **The fault of a theme is that of its first broken site.** -/
theorem fault?_ofTheme (theme : Theme) :
    fault? (Stylesheet.ofTheme theme) = theme.referenceSites.findSome? theme.siteFault? := by
  -- The first pass checks and gives nothing, the second one resolves the scales.
  have hscales : ∀ u : PUnit, fault? (do
      let scales ← Theme.scales.mapM theme.scaleDeclarations
      pure (⟨theme.light.declarations, theme.dark.declarations,
        theme.paletteDeclarations ++ theme.aliasDeclarations ++ scales.flatten⟩ : Stylesheet)) =
      Theme.scales.findSome? fun c => ((theme.base.tokens c).sites none).findSome?
        theme.siteFault? := by
    intro u
    rw [fault?_bind (o := none) fun _ => rfl, fault?_mapM, Option.or_none]
    exact congrArg (Theme.scales.findSome? ·) (funext (fault?_scaleDeclarations theme))
  have hsplit : fault? (Stylesheet.ofTheme theme) = (fault? theme.checkReferences).or
      (Theme.scales.findSome? fun c => ((theme.base.tokens c).sites none).findSome?
        theme.siteFault?) := fault?_bind hscales
  rw [hsplit, fault?_checkReferences, referenceSites]
  simp only [List.findSome?_append, Theme.scales, List.findSome?_cons, List.findSome?_nil,
    BaseTokens.tokens]
  -- Spacing and sizes have no fault left when the first pass is over.
  cases hspacing : (theme.base.spacing.sites "base.spacing").findSome? theme.siteFault? with
  | some fault => simp
  | none =>
      cases hsize : (theme.base.size.sites "base.size").findSome? theme.siteFault? with
      | some fault => simp
      | none =>
          rw [(findSome?_sites_eq_none_congr theme _ _ _).mp hspacing,
            (findSome?_sites_eq_none_congr theme _ _ _).mp hsize]
          cases (theme.base.zIndex.sites none).findSome? theme.siteFault? <;>
            cases (theme.base.container.sites none).findSome? theme.siteFault? <;> simp

/-- The same of the text. -/
theorem fault?_css (theme : Theme) :
    fault? theme.css = theme.referenceSites.findSome? theme.siteFault? :=
  (fault?_map Stylesheet.render (Stylesheet.ofTheme theme)).trans (fault?_ofTheme theme)

/-! ### The stylesheet of a theme that compiles -/

/-- No value of a theme refers to a color that the palette lacks. -/
def IsSound (theme : Theme) : Prop :=
  ∀ site ∈ theme.referenceSites, ¬ theme.IsBroken site.value

/-- The literal that a value stands for. A broken reference stands for itself. -/
def literal (theme : Theme) (value : String) : String :=
  if isReference value then (theme.base.palette.find? (referenceKey value)).getD value else value

theorem resolve_eq_ok {theme : Theme} {value : String} (h : ¬ theme.IsBroken value) :
    theme.resolve value = .ok (theme.literal value) := by
  obtain ⟨text, hok⟩ := fault?_eq_none_iff.mp
    ((fault?_resolve theme value).trans (siteFault?_eq_none_iff.mpr h))
  rw [hok]
  unfold resolve at hok
  unfold literal
  split at hok
  · next href =>
      rw [if_pos href]
      cases hfind : theme.base.palette.find? (referenceKey value) with
      | some color => simpa [hfind, eq_comm] using hok
      | none => simp [hfind] at hok
  · next href =>
      rw [if_neg href]
      exact hok.symm

/-- The tokens of a scale with the literals that they stand for. -/
def scaleLiterals (theme : Theme) (c : Category) : List Declaration :=
  (theme.base.tokens c).entries.map fun e => ⟨⟨c.family, e.1⟩, .literal (theme.literal e.2)⟩

/-- The stylesheet of a theme, made without a check. -/
def compiled (theme : Theme) : Stylesheet :=
  ⟨theme.light.declarations, theme.dark.declarations,
    theme.paletteDeclarations ++ theme.aliasDeclarations ++ scales.flatMap theme.scaleLiterals⟩

theorem scaleDeclarations_eq_ok {theme : Theme} {c : Category}
    (h : ∀ e ∈ (theme.base.tokens c).entries, ¬ theme.IsBroken e.2) :
    theme.scaleDeclarations c = .ok (theme.scaleLiterals c) := by
  refine mapM_eq_ok_map fun e he => ?_
  rw [resolve_eq_ok (h e he)]
  rfl

/-- The values of all scales are among the sites of a theme. -/
theorem not_isBroken_of_isSound {theme : Theme} (h : theme.IsSound) {c : Category}
    (hc : c ∈ scales) {e : String × String} (he : e ∈ (theme.base.tokens c).entries) :
    ¬ theme.IsBroken e.2 := by
  have hsite : ∀ part, (⟨Option.map (fun name => name ++ "." ++ e.1) part, e.2⟩ : ReferenceSite) ∈
      (theme.base.tokens c).sites part := fun part => List.mem_map.mpr ⟨e, he, rfl⟩
  simp only [scales, List.mem_cons, List.not_mem_nil, or_false] at hc
  simp only [IsSound, referenceSites, List.mem_append] at h
  rcases hc with rfl | rfl | rfl | rfl
  · exact h _ (.inl (.inl (.inl (.inr (hsite (some "base.spacing"))))))
  · exact h _ (.inl (.inl (.inr (hsite (some "base.size")))))
  · exact h _ (.inl (.inr (hsite none)))
  · exact h _ (.inr (hsite none))

/-- The backgrounds of both modes are among the sites of a theme. -/
theorem IsSound.not_isBroken_background {theme : Theme} (h : theme.IsSound) {value : String}
    (hvalue : value ∈ theme.light.bg.values ++ theme.dark.bg.values) :
    ¬ theme.IsBroken value := by
  simp only [IsSound, referenceSites, List.mem_append] at h
  rcases List.mem_append.mp hvalue with hv | hv <;> obtain ⟨e, he, rfl⟩ := List.mem_map.mp hv
  · exact h _ (.inl (.inl (.inl (.inl (.inl (List.mem_map.mpr ⟨e, he, rfl⟩))))))
  · exact h _ (.inl (.inl (.inl (.inl (.inr (List.mem_map.mpr ⟨e, he, rfl⟩))))))

/-- A theme has a stylesheet exactly when it is sound, and then it is `Theme.compiled`. -/
theorem ofTheme_eq_ok_iff {theme : Theme} {sheet : Stylesheet} :
    Stylesheet.ofTheme theme = .ok sheet ↔ theme.IsSound ∧ sheet = theme.compiled := by
  have hsound : theme.IsSound ↔ fault? (Stylesheet.ofTheme theme) = none := by
    simp only [fault?_ofTheme, List.findSome?_eq_none_iff, siteFault?_eq_none_iff, IsSound]
  have hmade : theme.IsSound → Stylesheet.ofTheme theme = .ok theme.compiled := by
    intro h
    have hscales : Theme.scales.mapM theme.scaleDeclarations =
        .ok (Theme.scales.map theme.scaleLiterals) :=
      mapM_eq_ok_map fun c hc => scaleDeclarations_eq_ok fun e => not_isBroken_of_isSound h hc
    obtain ⟨made, hok⟩ := fault?_eq_none_iff.mp (hsound.mp h)
    unfold Stylesheet.ofTheme at hok ⊢
    rw [hscales] at hok ⊢
    cases hcheck : theme.checkReferences with
    | error fault =>
        rw [hcheck] at hok
        cases hok
    | ok u => rfl
  constructor
  · intro h
    have hs := hsound.mpr (fault?_eq_none_iff.mpr ⟨sheet, h⟩)
    refine ⟨hs, ?_⟩
    rw [hmade hs] at h
    exact (Except.ok.inj h).symm
  · rintro ⟨h, rfl⟩
    exact hmade h

theorem css_eq_ok_iff {theme : Theme} {text : String} :
    theme.css = .ok text ↔ theme.IsSound ∧ text = theme.compiled.render := by
  unfold css
  cases h : Stylesheet.ofTheme theme with
  | ok sheet =>
      obtain ⟨hs, rfl⟩ := ofTheme_eq_ok_iff.mp h
      simp [Except.map, hs, eq_comm]
  | error fault =>
      have hs : ¬ theme.IsSound := fun hs => by
        rw [ofTheme_eq_ok_iff.mpr ⟨hs, rfl⟩] at h
        cases h
      simp [Except.map, hs]

/-- The palette's values, the extras and what is shared in them have no part in the sites. -/
theorem siteFault?_congr_palette (theme : Theme) {palette : TokenMap}
    (hkeys : palette.keys = theme.base.palette.keys) (extras : OrderedMap String Datum)
    (sharing : SharedData) :
    siteFault? { theme with base := { theme.base with palette, extras, sharing } } =
      theme.siteFault? := by
  funext site
  have hbroken : IsBroken { theme with base := { theme.base with palette, extras, sharing } }
      site.value ↔ theme.IsBroken site.value := by simp only [IsBroken, hkeys]
  unfold siteFault?
  by_cases h : theme.IsBroken site.value
  · rw [if_pos h, if_pos (hbroken.mpr h)]
    simp only [faultAt, hkeys]
  · rw [if_neg h, if_neg (mt hbroken.mp h)]

/-- **The law of success and of the first fault.**  A theme has a stylesheet exactly when every
value with the keyword starts with a palette color.  Otherwise the first value in the order of the
sites for which this fails is reported: by its first word, with all palette colors, and at its
place unless it is a zIndex or container token.  Neither palette values nor extras are looked
at. -/
theorem css_eq_ok_iff_and_eq_error_iff (theme : Theme) :
    ((∃ text, theme.css = .ok text) ↔
      ∀ site ∈ theme.referenceSites, isReference site.value = true →
        Text.firstWord site.value ∈ theme.base.palette.keys) ∧
    (∀ fault, theme.css = .error fault ↔
      ∃ before site after, theme.referenceSites = before ++ site :: after ∧
        (∀ s ∈ before, ¬ theme.IsBroken s.value) ∧ theme.IsBroken site.value ∧
        fault = theme.faultAt site) ∧
    (∀ site, (theme.faultAt site).key = Text.firstWord site.value ∧
      (theme.faultAt site).available = theme.base.palette.keys ∧
      (theme.faultAt site).place = site.place) ∧
    (∀ palette extras sharing, palette.keys = theme.base.palette.keys → ∀ fault,
      (css { theme with base := { theme.base with palette, extras, sharing } } = .error fault ↔
        theme.css = .error fault)) := by
  refine ⟨?_, fun fault => ?_, theme.faultAt_fields, ?_⟩
  · rw [exists_congr fun text => css_eq_ok_iff]
    simp only [exists_and_left, exists_eq, and_true, IsSound, IsBroken, not_and, not_not]
    rfl
  · rw [← fault?_eq_some_iff, fault?_css, List.findSome?_eq_some_iff]
    simp only [siteFault?_eq_some_iff, siteFault?_eq_none_iff]
    constructor
    · rintro ⟨before, site, after, hsplit, ⟨hbroken, hfault⟩, hbefore⟩
      exact ⟨before, site, after, hsplit, hbefore, hbroken, hfault⟩
    · rintro ⟨before, site, after, hsplit, hbefore, hbroken, hfault⟩
      exact ⟨before, site, after, hsplit, ⟨hbroken, hfault⟩, hbefore⟩
  · intro palette extras sharing hkeys fault
    rw [← fault?_eq_some_iff, ← fault?_eq_some_iff, fault?_css, fault?_css,
      siteFault?_congr_palette theme hkeys]
    rfl

end Theme

end DesignTokens
