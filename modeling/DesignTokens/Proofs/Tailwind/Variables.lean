import DesignTokens.Proofs.Stylesheet.Cascade
import DesignTokens.Tailwind

/-!
# The variables of a configuration

A configuration names a variable for every base token by the category of the token, and a stylesheet
declares a property for it by the family of the category. The two agree for sizes and containers
alone: the other categories have names that no family's properties start with. Since a name ends its
first part at the first hyphen, this does not depend on the keys.

## Main Statements

* `Category.variable_eq_name_iff` — when a variable is a property
* `Theme.declares_variable_iff` — the variables that the stylesheet of a theme declares
* `TailwindConfig.exists_token_of_mem` — the token behind an entry of a configuration
* `TailwindConfig.declares_iff_sizes` — the entries whose variables are declared
-/

namespace DesignTokens

namespace Category

theorem hyphen_notMem_name (c : Category) : '-' ∉ c.name.toList := by
  cases c <;> decide

/-- The name of a category is the stem of a family for sizes and containers only. -/
theorem name_eq_stem_iff {c : Category} {f : Family} :
    c.name = f.stem ↔ f = c.family ∧ (c = .size ∨ c = .container) := by
  cases c <;> cases f <;> decide

/-- **When a variable is a property.**  Both are parted at their first hyphen. -/
theorem variable_eq_name_iff {c : Category} {key : String} {p : Property} :
    c.name ++ "-" ++ key = p.name ↔ p = ⟨c.family, key⟩ ∧ (c = .size ∨ c = .container) := by
  obtain ⟨f, k⟩ := p
  have hhyphen : "-".toList = ['-'] := rfl
  constructor
  · intro h
    obtain ⟨hname, hkey : key = k⟩ := Text.append_separator_inj hhyphen c.hyphen_notMem_name
      f.hyphen_notMem_stem h
    obtain ⟨hfamily, hc⟩ := name_eq_stem_iff.mp hname
    rw [hfamily, hkey]
    exact ⟨rfl, hc⟩
  · rintro ⟨hp, hc⟩
    rw [hp, Property.name, name_eq_stem_iff.mpr ⟨rfl, hc⟩]

end Category

namespace Theme

variable {theme : Theme}

/-- Sizes and containers are declared for both modes under the names of their variables. -/
theorem declares_base_variable {c : Category} (hc : c = .size ∨ c = .container) {key : String}
    (hkey : key ∈ (theme.base.tokens c).keys) :
    Declares theme.compiled.base (c.name ++ "-" ++ key) := by
  obtain ⟨e, he, rfl⟩ := List.mem_map.mp hkey
  have hscale : c ∈ scales := by
    rcases hc with rfl | rfl <;> decide
  refine ⟨⟨⟨c.family, e.1⟩, .literal (theme.literal e.2)⟩, ?_,
    (Category.variable_eq_name_iff.mpr ⟨rfl, hc⟩).symm⟩
  exact List.mem_append_right _
    (List.mem_flatMap.mpr ⟨c, hscale, List.mem_map.mpr ⟨e, he, rfl⟩⟩)

/-- **The variables that the stylesheet of a theme declares** are those of sizes and containers. -/
theorem declares_variable_iff {c : Category} {key : String}
    (hkey : key ∈ (theme.base.tokens c).keys) :
    Declares (theme.compiled.light ++ theme.compiled.dark ++ theme.compiled.base)
      (c.name ++ "-" ++ key) ↔ c = .size ∨ c = .container := by
  constructor
  · rintro ⟨d, -, hname⟩
    exact (Category.variable_eq_name_iff.mp hname.symm).2
  · intro hc
    obtain ⟨d, hd, hname⟩ := declares_base_variable hc hkey
    exact ⟨d, List.mem_append_right _ hd, hname⟩

end Theme

namespace TailwindConfig

theorem eq_ofTheme {theme : Theme} {config : TailwindConfig} (h : theme.tailwind? = some config) :
    config = .ofTheme theme := by
  unfold Theme.tailwind? at h
  split at h
  · exact (Option.some.inj h).symm
  · cases h

/-- An entry that stems from the keys of a category names the variable of one of them. -/
theorem exists_key_of_mem {c : Category} {rekey : String → String} {tokens : TokenMap}
    {e : String × String} (h : e ∈ bucketEntries c rekey tokens) :
    ∃ key ∈ tokens.keys, e.2 = "var(--" ++ (c.name ++ "-" ++ key) ++ ")" := by
  obtain ⟨key, hkey, rfl⟩ := List.mem_map.mp h
  refine ⟨key, hkey, ?_⟩
  simp only [Category.variableText, String.append_assoc]

/-- **The token behind an entry of a configuration.**  A container may have taken the entry of a
size, and only these two share a bucket. -/
theorem exists_token_of_mem {theme : Theme} {bucket : String × TokenMap}
    (hbucket : bucket ∈ (ofTheme theme).buckets) {e : String × String}
    (he : e ∈ bucket.2.entries) :
    ∃ c key, key ∈ (theme.base.tokens c).keys ∧
      e.2 = "var(--" ++ (c.name ++ "-" ++ key) ++ ")" ∧
      (bucket.1 = "sizes" ↔ c = .size ∨ c = .container) := by
  simp only [buckets, List.mem_cons, List.not_mem_nil, or_false] at hbucket
  rcases hbucket with rfl | rfl | rfl | rfl <;> have he := OrderedMap.mem_of_mem_entries_ofList he
  · obtain ⟨key, hkey, hvalue⟩ := exists_key_of_mem he
    exact ⟨.palette, key, hkey, hvalue, by simp⟩
  · obtain ⟨key, hkey, hvalue⟩ := exists_key_of_mem he
    exact ⟨.spacing, key, hkey, hvalue, by simp⟩
  · rcases List.mem_append.mp he with he | he <;>
      obtain ⟨key, hkey, hvalue⟩ := exists_key_of_mem he
    · exact ⟨.size, key, hkey, hvalue, by simp⟩
    · exact ⟨.container, key, hkey, hvalue, by simp⟩
  · obtain ⟨key, hkey, hvalue⟩ := exists_key_of_mem he
    exact ⟨.zIndex, key, hkey, hvalue, by simp⟩

/-- **The entries whose variables are declared.**  Every entry names one variable. A block of the
theme's stylesheet declares it exactly when the entry is in the bucket of sizes; then it is the
variable of a size or of a container, and declared for both modes. -/
theorem declares_iff_sizes (theme : Theme) (text : String) (config : TailwindConfig)
    (hcss : theme.css = .ok text) (hconfig : theme.tailwind? = some config) :
    ∃ sheet, Stylesheet.ofTheme theme = .ok sheet ∧ text = sheet.render ∧
      ∀ bucket ∈ config.buckets, ∀ e ∈ bucket.2.entries,
        ∃ name, (∀ other, e.2 = "var(--" ++ other ++ ")" ↔ name = other) ∧
          (Declares (sheet.light ++ sheet.dark ++ sheet.base) name ↔ bucket.1 = "sizes") ∧
          (bucket.1 = "sizes" → Declares sheet.base name ∧
            ((∃ key ∈ theme.base.size.keys, name = "size-" ++ key) ∨
              ∃ key ∈ theme.base.container.keys, name = "container-" ++ key)) := by
  obtain ⟨hsound, htext⟩ := Theme.css_eq_ok_iff.mp hcss
  obtain rfl := eq_ofTheme hconfig
  refine ⟨theme.compiled, Theme.ofTheme_eq_ok_iff.mpr ⟨hsound, rfl⟩, htext, ?_⟩
  intro bucket hbucket e he
  obtain ⟨c, key, hkey, hvalue, hsizes⟩ := exists_token_of_mem hbucket he
  have hnames : ∀ other, e.2 = "var(--" ++ other ++ ")" ↔ c.name ++ "-" ++ key = other := by
    intro other
    rw [hvalue, variable_text_inj]
  refine ⟨c.name ++ "-" ++ key, hnames, ?_, fun hbucket => ⟨?_, ?_⟩⟩
  · rw [Theme.declares_variable_iff hkey, hsizes]
  · exact Theme.declares_base_variable (hsizes.mp hbucket) hkey
  · rcases hsizes.mp hbucket with rfl | rfl
    · exact .inl ⟨key, hkey, rfl⟩
    · exact .inr ⟨key, hkey, rfl⟩

/-- A theme with a token in each category, one of which hides another one in the bucket of sizes. -/
def crowdedSizes : Theme where
  schema := supportedSchema
  name := "crowded"
  description := ""
  base := { BaseTokens.empty with
    palette := .ofList [("ink", "#111")]
    spacing := .ofList [("base", "1rem")]
    size := .ofList [("container-md", "2rem"), ("icon", "1rem")]
    zIndex := .ofList [("modal", "10")]
    container := .ofList [("md", "64rem")] }
  light := .empty
  dark := .empty

/-- The container that hides a size is declared, and the zIndex token is not. -/
theorem declares_iff_sizes_crowdedSizes :
    (∃ text, crowdedSizes.css = .ok text) ∧
      ∃ config sheet, crowdedSizes.tailwind? = some config ∧
        Stylesheet.ofTheme crowdedSizes = .ok sheet ∧
        ("container-md", "var(--container-md)") ∈ config.sizes.entries ∧
        Declares sheet.base "container-md" ∧
        ("modal", "var(--zIndex-modal)") ∈ config.zIndex.entries ∧
        ¬ Declares (sheet.light ++ sheet.dark ++ sheet.base) "zIndex-modal" := by
  refine ⟨⟨_, rfl⟩, ofTheme crowdedSizes, ?_⟩
  obtain ⟨sheet, hsheet, -, hentries⟩ :=
    declares_iff_sizes crowdedSizes _ (ofTheme crowdedSizes) rfl rfl
  have hsize : ("container-md", "var(--container-md)") ∈ (ofTheme crowdedSizes).sizes.entries := by
    decide
  have hmodal : ("modal", "var(--zIndex-modal)") ∈ (ofTheme crowdedSizes).zIndex.entries := by
    decide
  obtain ⟨name, hname, -, hdeclared⟩ := hentries ("sizes", _) (by simp [buckets]) _ hsize
  obtain ⟨other, hother, hundeclared, -⟩ := hentries ("zIndex", _) (by simp [buckets]) _ hmodal
  obtain rfl : name = "container-md" := (hname "container-md").mp rfl
  obtain rfl : other = "zIndex-modal" := (hother "zIndex-modal").mp rfl
  exact ⟨sheet, rfl, hsheet, hsize, (hdeclared rfl).1, hmodal, mt hundeclared.mp (by decide)⟩

end TailwindConfig

end DesignTokens
