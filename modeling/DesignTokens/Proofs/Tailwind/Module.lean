import DesignTokens.Proofs.Json.RoundTrip
import DesignTokens.Tailwind
import Mathlib.Algebra.Group.Int.Defs
import Mathlib.Algebra.Group.Nat.Defs

/-!
# The module that exports a configuration

A module is a comment, an assignment and a JSON text, and a reader of JSON gets the configuration
back from the text: the same buckets with the same entries in the same order, whatever characters
the keys of tokens are made of. A theme has no module only where a key of an extra cannot be shown.

## Main Definitions

* `Datum.IsShort` — data in which no integer has too many digits
* `TailwindConfig.IsExported` — a text is a module in which a reader of JSON finds a configuration

## Main Statements

* `Datum.isSome_plain?_iff` — short data are those that can be shown
* `TailwindConfig.moduleText_injective` — two configurations have different modules
* `Theme.exports` — which themes have a module, and that it decodes to the configuration
* `Theme.not_forall_exports` — not every theme has a module

## Design Notes

Extras have no entries in a configuration, yet their keys are written out like those of any other
category. This is why they decide whether there is a module.
-/

namespace DesignTokens

open Number

/-! ### Data that can be shown -/

namespace Number

/-- An integer that has no more digits than are shown. -/
theorem isSome_intText?_iff {n : Int} :
    (intText? n).isSome = true ↔ n.natAbs < 10 ^ integerDigitLimit := by
  have hlength : (natDigits n.natAbs).length ≤ integerDigitLimit ↔
      n.natAbs < 10 ^ integerDigitLimit := Nat.length_toDigits_le_iff (by decide) (by decide)
  rw [← hlength, intText?]
  split
  · next h => simp [Nat.not_le.mpr h]
  · next h => simp [Nat.not_lt.mp h]

end Number

namespace Datum

mutual

/-- No integer has too many digits. -/
def IsShort : Datum → Prop
  | int n => n.natAbs < 10 ^ integerDigitLimit
  | list items => AreShort items
  | pair a b => IsShort a ∧ IsShort b
  | mapping entries => EntriesAreShort entries
  | set members => AreShort members
  | _ => True

/-- No integer in a list has too many digits. -/
def AreShort : List Datum → Prop
  | [] => True
  | x :: xs => IsShort x ∧ AreShort xs

/-- No integer in a mapping has too many digits. -/
def EntriesAreShort : List (Datum × Datum) → Prop
  | [] => True
  | (key, value) :: rest => IsShort key ∧ IsShort value ∧ EntriesAreShort rest

end

/-- A value of which nothing is asked but that it is there. -/
theorem any_const {α : Type} (x : Option α) (b : Bool) :
    (x.any fun _ => b) = (x.isSome && b) := by
  cases x <;> rfl

mutual

/-- Where all numbers can be shown, data can be shown if no integer has too many digits. -/
theorem isSome_quotedWith_iff {form : Nat → Option String}
    (hform : ∀ number, (form number).isSome = true) :
    ∀ d : Datum, (quotedWith form d).isSome = true ↔ IsShort d
  | null | bool _ | float _ | text _ | bytes _ | date _ | moment _ => by
      simp [quotedWith, IsShort]
  | int n => isSome_intText?_iff
  | list items => by
      have hitems := isSome_quotedItems_iff hform items
      simpa [quotedWith, IsShort, Option.isSome_bind, any_const] using hitems
  | pair a b => by
      have hfirst := isSome_quotedWith_iff hform a
      have hsecond := isSome_quotedWith_iff hform b
      simp [quotedWith, IsShort, Option.isSome_bind, any_const, hfirst, hsecond]
  | mapping entries => by
      have hentries := isSome_quotedEntries_iff hform entries
      simpa [quotedWith, IsShort, Option.isSome_bind, any_const] using hentries
  | set [] => by simp [quotedWith, IsShort, AreShort]
  | set (x :: xs) => by
      have hfirst := isSome_quotedWith_iff hform x
      have hmore := isSome_quotedItems_iff hform xs
      simp [quotedWith, IsShort, AreShort, Option.isSome_bind, any_const, hfirst, hmore]
  | shared number => by simp [quotedWith, IsShort, hform number]

theorem isSome_quotedItems_iff {form : Nat → Option String}
    (hform : ∀ number, (form number).isSome = true) :
    ∀ items : List Datum, (quotedItems form items).isSome = true ↔ AreShort items
  | [] => by simp [quotedItems, AreShort]
  | x :: xs => by
      have hfirst := isSome_quotedWith_iff hform x
      have hmore := isSome_quotedItems_iff hform xs
      simp [quotedItems, AreShort, Option.isSome_bind, any_const, hfirst, hmore]

theorem isSome_quotedEntries_iff {form : Nat → Option String}
    (hform : ∀ number, (form number).isSome = true) :
    ∀ entries : List (Datum × Datum),
      (quotedEntries form entries).isSome = true ↔ EntriesAreShort entries
  | [] => by simp [quotedEntries, EntriesAreShort]
  | (key, value) :: rest => by
      have hkey := isSome_quotedWith_iff hform key
      have hvalue := isSome_quotedWith_iff hform value
      have hmore := isSome_quotedEntries_iff hform rest
      simp [quotedEntries, EntriesAreShort, Option.isSome_bind, any_const, hkey, hvalue, hmore]

end

/-- **Data that can be shown** without knowing what numbers stand for. -/
theorem isSome_plain?_iff (d : Datum) : (d.plain? []).isSome = true ↔ IsShort d := by
  have hquoted : (d.quoted? []).isSome = true ↔ IsShort d :=
    isSome_quotedWith_iff (fun _ => rfl) d
  cases d with
  | text s => exact iff_of_true rfl trivial
  | date d => exact iff_of_true rfl trivial
  | moment m => exact iff_of_true rfl trivial
  | shared number => exact iff_of_true rfl trivial
  | _ => exact hquoted

end Datum

/-! ### Configurations in modules -/

namespace TailwindConfig

/-- The objects of a configuration have no name twice: the names of the buckets differ, and so do
the keys of a bucket. -/
theorem isLegible_toJson (config : TailwindConfig) : config.toJson.IsLegible := by
  refine ⟨?_, ?_⟩
  · show ["colors", "spacing", "sizes", "zIndex"].Nodup
    decide
  · exact ⟨Json.isLegible_ofStrings config.colors.nodup_keys,
      Json.isLegible_ofStrings config.spacing.nodup_keys,
      Json.isLegible_ofStrings config.sizes.nodup_keys,
      Json.isLegible_ofStrings config.zIndex.nodup_keys, trivial⟩

/-- A text is a module in which a reader of JSON finds a configuration: the four buckets, with their
entries in order. -/
def IsExported (config : TailwindConfig) (text : String) : Prop :=
  ∃ body, text = moduleHeader ++ "\nexport const themeTailwind = " ++ body ++ " as const;\n" ∧
    Json.read? body = some (.object [("colors", Json.ofStrings config.colors.entries),
      ("spacing", Json.ofStrings config.spacing.entries),
      ("sizes", Json.ofStrings config.sizes.entries),
      ("zIndex", Json.ofStrings config.zIndex.entries)])

theorem isExported_moduleText (config : TailwindConfig) : config.IsExported config.moduleText :=
  ⟨config.toJson.indented, rfl, Json.read?_indented config.isLegible_toJson⟩

/-- Token maps are told apart by their objects. -/
theorem ofStrings_injective {m n : TokenMap}
    (h : Json.ofStrings m.entries = Json.ofStrings n.entries) : m = n := by
  have hentry : ∀ d e : String × String,
      (d.1, Json.string d.2) = (e.1, Json.string e.2) → d = e := by
    rintro ⟨k, v⟩ ⟨k', v'⟩ heq
    cases heq
    rfl
  exact OrderedMap.ext ((List.map_inj_right hentry).mp (Json.object.inj h))

/-- A module holds one configuration. -/
theorem IsExported.unique {a b : TailwindConfig} {text : String} (ha : a.IsExported text)
    (hb : b.IsExported text) : a = b := by
  obtain ⟨body, rfl, ha⟩ := ha
  obtain ⟨other, htext, hb⟩ := hb
  -- What is around the JSON text is the same in all modules.
  have hbody : body = other := by
    simpa [String.append_assoc] using htext
  rw [← hbody, ha] at hb
  have hmembers := Json.object.inj (Option.some.inj hb)
  simp only [List.cons.injEq, Prod.mk.injEq, true_and, and_true] at hmembers
  obtain ⟨hcolors, hspacing, hsizes, hzIndex⟩ := hmembers
  rw [TailwindConfig.mk.injEq]
  exact ⟨ofStrings_injective hcolors, ofStrings_injective hspacing, ofStrings_injective hsizes,
    ofStrings_injective hzIndex⟩

/-- **Two configurations have different modules.** -/
theorem moduleText_injective : Function.Injective moduleText := by
  intro a b htext
  have ha := a.isExported_moduleText
  rw [htext] at ha
  exact ha.unique b.isExported_moduleText

end TailwindConfig

namespace Theme

/-- A theme has a configuration if no key of an extra holds an integer with too many digits. -/
theorem exists_tailwind?_iff (theme : Theme) :
    (∃ config, theme.tailwind? = some config) ↔
      ∀ extra ∈ theme.base.mappingExtras, ∀ entry ∈ extra.2, entry.1.IsShort := by
  have hprintable : theme.hasPrintableKeys = true ↔
      ∀ extra ∈ theme.base.mappingExtras, ∀ entry ∈ extra.2, entry.1.IsShort := by
    simp only [hasPrintableKeys, List.all_eq_true, Datum.isSome_plain?_iff]
  rw [← hprintable]
  unfold tailwind?
  cases theme.hasPrintableKeys <;> simp

/-- A theme has a module if it has a configuration. -/
theorem exists_tailwindModule?_iff (theme : Theme) :
    (∃ text, theme.tailwindModule? = some text) ↔
      ∀ extra ∈ theme.base.mappingExtras, ∀ entry ∈ extra.2, entry.1.IsShort := by
  rw [← exists_tailwind?_iff, tailwindModule?]
  cases theme.tailwind? <;> simp

/-- **The module of a theme decodes to its configuration.**  There is one if no key of an extra
holds an integer with too many digits, and if there is one, then it is a comment, an assignment and a
JSON text that is read as the configuration of the theme. -/
theorem exports (theme : Theme) :
    ((∃ text, theme.tailwindModule? = some text) ↔
      ∀ extra ∈ theme.base.mappingExtras, ∀ entry ∈ extra.2, entry.1.IsShort) ∧
    ∀ text, theme.tailwindModule? = some text →
      ∃ config, theme.tailwind? = some config ∧ config.IsExported text := by
  refine ⟨theme.exists_tailwindModule?_iff, fun text htext => ?_⟩
  obtain ⟨config, hconfig, rfl⟩ := Option.map_eq_some_iff.mp htext
  exact ⟨config, hconfig, config.isExported_moduleText⟩

/-- A theme whose one extra has a key with too many digits. -/
def longKeyed : Theme :=
  ⟨supportedSchema, "long", "", { BaseTokens.empty with
    extras := .ofList [("layers", .mapping [(.int (10 ^ integerDigitLimit), .text "top")])] },
    .empty, .empty⟩

theorem tailwindModule?_longKeyed : longKeyed.tailwindModule? = none := by
  rw [Option.eq_none_iff_forall_ne_some]
  intro text htext
  have hkeys := longKeyed.exists_tailwindModule?_iff.mp ⟨text, htext⟩
  have hshort := hkeys _ (List.mem_singleton.mpr rfl) _ (List.mem_singleton.mpr rfl)
  -- With any other limit in place of the real one, lest the power be evaluated.
  have hlong : ∀ limit : Nat, ¬ (10 ^ limit : Int).natAbs < 10 ^ limit := by
    intro limit
    rw [Int.natAbs_pow]
    exact Nat.lt_irrefl _
  exact hlong integerDigitLimit hshort

/-- **Not every theme has a module**, though what keeps it from one has no entry in it. -/
theorem not_forall_exports : ¬ ∀ theme : Theme, ∃ text config,
    theme.tailwindModule? = some text ∧ theme.tailwind? = some config ∧
      config.IsExported text := by
  intro h
  obtain ⟨text, -, htext, -⟩ := h longKeyed
  rw [tailwindModule?_longKeyed] at htext
  cases htext

end Theme

end DesignTokens
