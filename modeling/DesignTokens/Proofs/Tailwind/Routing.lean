import DesignTokens.Proofs.Tailwind.Module
import DesignTokens.Proofs.Tailwind.Variables
import Mathlib.Data.List.Nodup

/-!
# The routing of tokens

A configuration has a bucket for each category of base tokens, with sizes and containers in one of
them. A token stands in its bucket under a key of its own and names its own variable, with one
exception: a size is lost if a container goes by its key. This module states where a token goes and
proves that nothing else is ever lost.

## Main Definitions

* `Category.bucketKey`, `TailwindConfig.bucket` — where a token goes
* `Theme.Hides` — a container takes the entry of a token

## Main Statements

* `TailwindConfig.keys_sizes_ofTheme` — the order of sizes and containers
* `TailwindConfig.find?_bucket_iff` — which tokens have an entry of their own
* `TailwindConfig.size_sizes_iff` — the entries of sizes and containers are as many as these if none
  is lost
* `Theme.routes` — **where all tokens go**, and which of them are lost
* `Theme.not_forall_routed` — not every token has an entry of its own
-/

namespace DesignTokens

/-- The key that a token has in its bucket. -/
def Category.bucketKey : Category → String → String
  | container, key => "container-" ++ key
  | _, key => key

/-- The bucket that the tokens of a category go to. -/
def TailwindConfig.bucket (config : TailwindConfig) : Category → TokenMap
  | .palette => config.colors
  | .spacing => config.spacing
  | .size => config.sizes
  | .zIndex => config.zIndex
  | .container => config.sizes

/-- A container takes the entry of a token, which is a size with the container's key. -/
def Theme.Hides (theme : Theme) (c : Category) (key : String) : Prop :=
  c = .size ∧ ∃ other ∈ theme.base.container.keys, key = Category.container.bucketKey other

instance (theme : Theme) (c : Category) (key : String) : Decidable (theme.Hides c key) :=
  inferInstanceAs (Decidable (_ ∧ _))

namespace Category

theorem bucketKey_injective (c : Category) : Function.Injective c.bucketKey := by
  intro a b h
  cases c with
  | container => exact String.append_right_inj _ |>.mp h
  | _ => exact h

theorem bucketKey_eq_id {c : Category} (h : c ≠ .container) : c.bucketKey = id := by
  cases c <;> first | rfl | exact absurd rfl h

end Category

namespace TailwindConfig

variable {theme : Theme} {c : Category} {rekey : String → String} {tokens : TokenMap} {key : String}

/-! ### The entries of one category -/

theorem map_fst_bucketEntries :
    (bucketEntries c rekey tokens).map Prod.fst = tokens.keys.map rekey := by
  simp [bucketEntries]

/-- Keys that are told apart have different keys in a bucket. -/
theorem nodup_bucketEntries (h : Function.Injective rekey) :
    ((bucketEntries c rekey tokens).map Prod.fst).Nodup := by
  rw [map_fst_bucketEntries]
  exact List.Nodup.map h tokens.nodup_keys

/-- No token of a category takes the entry of another one of the same category. -/
theorem find?_ofList_bucketEntries (h : Function.Injective rekey) {routed text : String} :
    (OrderedMap.ofList (bucketEntries c rekey tokens)).find? routed = some text ↔
      ∃ key ∈ tokens.keys, rekey key = routed ∧ c.variableText key = text := by
  rw [OrderedMap.find?_eq_some_iff, OrderedMap.entries_ofList (nodup_bucketEntries h)]
  simp [bucketEntries]

/-! ### Sizes and containers -/

/-- Containers are inserted behind the sizes. -/
theorem sizes_ofTheme (theme : Theme) : (ofTheme theme).sizes =
    (bucketEntries .container Category.container.bucketKey theme.base.container).foldl
      (fun m e => m.insert e.1 e.2) (.ofList (bucketEntries .size id theme.base.size)) :=
  List.foldl_append

/-- **The order of sizes and containers**: all sizes in order, and then the containers that go by
the key of no size. -/
theorem keys_sizes_ofTheme (theme : Theme) : (ofTheme theme).sizes.keys = theme.base.size.keys ++
    (theme.base.container.keys.map Category.container.bucketKey).filter
      fun key => decide (key ∉ theme.base.size.keys) := by
  have hsizes : (OrderedMap.ofList (bucketEntries .size id theme.base.size)).keys =
      theme.base.size.keys := by
    rw [OrderedMap.keys, OrderedMap.entries_ofList (nodup_bucketEntries Function.injective_id),
      map_fst_bucketEntries, List.map_id]
  have hnodup : ((bucketEntries .container Category.container.bucketKey
      theme.base.container).map Prod.fst).Nodup :=
    nodup_bucketEntries Category.container.bucketKey_injective
  rw [sizes_ofTheme, OrderedMap.keys_foldl_insert _ hnodup, hsizes, map_fst_bucketEntries]

/-- What is found under a key is the variable of the container with this key, or else that of the
size. -/
theorem find?_sizes_ofTheme (theme : Theme) (key : String) : (ofTheme theme).sizes.find? key =
    ((OrderedMap.ofList (bucketEntries .container Category.container.bucketKey
        theme.base.container)).find? key).or
      ((OrderedMap.ofList (bucketEntries .size id theme.base.size)).find? key) := by
  rw [sizes_ofTheme, OrderedMap.find?_foldl_insert]

/-- The variable of a container is not that of a size. -/
theorem variableText_container_ne (key other : String) :
    Category.container.variableText key ≠ Category.size.variableText other := by
  intro h
  have hchars := congrArg String.toList h
  simp [Category.variableText, Category.name] at hchars

/-- A size has its own entry unless a container hides it. -/
theorem find?_size_iff (hkey : key ∈ theme.base.size.keys) :
    (ofTheme theme).sizes.find? key = some (Category.size.variableText key) ↔
      ¬ theme.Hides .size key := by
  rw [find?_sizes_ofTheme]
  cases hfind : (OrderedMap.ofList (bucketEntries .container Category.container.bucketKey
      theme.base.container)).find? key with
  | none =>
      refine iff_of_true ?_ ?_
      · rw [Option.none_or]
        exact (find?_ofList_bucketEntries Function.injective_id).mpr ⟨key, hkey, rfl, rfl⟩
      · rintro ⟨-, other, hother, rfl⟩
        rw [(find?_ofList_bucketEntries Category.container.bucketKey_injective).mpr
          ⟨other, hother, rfl, rfl⟩] at hfind
        cases hfind
  | some text =>
      obtain ⟨other, hother, hrouted, rfl⟩ :=
        (find?_ofList_bucketEntries Category.container.bucketKey_injective).mp hfind
      refine iff_of_false ?_ (not_not.mpr ⟨rfl, other, hother, hrouted.symm⟩)
      rw [Option.some_or, Option.some.injEq]
      exact variableText_container_ne other key

/-- A container always has its own entry. -/
theorem find?_container (hkey : key ∈ theme.base.container.keys) :
    (ofTheme theme).sizes.find? (Category.container.bucketKey key) =
      some (Category.container.variableText key) := by
  rw [find?_sizes_ofTheme,
    (find?_ofList_bucketEntries Category.container.bucketKey_injective).mpr ⟨key, hkey, rfl, rfl⟩,
    Option.some_or]

/-! ### All categories -/

/-- A bucket of one category has its tokens in order. -/
theorem entries_bucket_ofTheme (hsize : c ≠ .size) (hcontainer : c ≠ .container) :
    ((ofTheme theme).bucket c).entries =
      (theme.base.tokens c).keys.map fun key => (key, c.variableText key) := by
  cases c with
  | size => exact absurd rfl hsize
  | container => exact absurd rfl hcontainer
  | _ => exact OrderedMap.entries_ofList (nodup_bucketEntries Function.injective_id)

/-- **Which tokens have an entry of their own**: all but the sizes that a container hides. -/
theorem find?_bucket_iff (hkey : key ∈ (theme.base.tokens c).keys) :
    ((ofTheme theme).bucket c).find? (c.bucketKey key) = some (c.variableText key) ↔
      ¬ theme.Hides c key := by
  by_cases hsize : c = .size
  · subst hsize
    exact find?_size_iff hkey
  · refine iff_of_true ?_ fun hhides => hsize hhides.1
    by_cases hcontainer : c = .container
    · subst hcontainer
      exact find?_container hkey
    · rw [OrderedMap.find?_eq_some_iff, entries_bucket_ofTheme hsize hcontainer,
        Category.bucketKey_eq_id hcontainer]
      exact List.mem_map.mpr ⟨key, hkey, rfl⟩

/-- Sizes and containers have as many entries as there are of them if and only if none is hidden. -/
theorem size_sizes_iff (theme : Theme) :
    (ofTheme theme).sizes.size = theme.base.size.size + theme.base.container.size ↔
      ∀ key ∈ theme.base.size.keys, ¬ theme.Hides .size key := by
  have hlength : ∀ m : TokenMap, m.size = m.keys.length := fun m => (List.length_map _).symm
  have hrouted : theme.base.container.size =
      (theme.base.container.keys.map Category.container.bucketKey).length := by
    rw [hlength, List.length_map]
  rw [hlength, hlength theme.base.size, hrouted, keys_sizes_ofTheme, List.length_append,
    Nat.add_left_cancel_iff, List.length_filter_eq_length_iff, List.forall_mem_map]
  constructor
  · rintro hnew key hkey ⟨-, other, hother, rfl⟩
    exact of_decide_eq_true (hnew other hother) hkey
  · intro hhidden other hother
    exact decide_eq_true fun hkey => hhidden _ hkey ⟨rfl, other, hother, rfl⟩

end TailwindConfig

namespace Theme

/-- **Where all tokens go.**  A theme has a configuration if no key of an extra has too many digits.
In it every token has an entry in the bucket of its category, under its key, that names the token's
own variable, unless it is a size that a container hides. The tokens of a bucket are in order, sizes
before containers, and sizes and containers have as many entries as they are exactly if no size is
hidden. -/
theorem routes (theme : Theme) :
    ((∃ config, theme.tailwind? = some config) ↔
      ∀ extra ∈ theme.base.mappingExtras, ∀ entry ∈ extra.2, entry.1.IsShort) ∧
    ∀ config, theme.tailwind? = some config →
      (∀ c key, key ∈ (theme.base.tokens c).keys →
        ((config.bucket c).find? (c.bucketKey key) = some (c.variableText key) ↔
          ¬ theme.Hides c key)) ∧
      (∀ c, c ≠ .size → c ≠ .container → (config.bucket c).entries =
        (theme.base.tokens c).keys.map fun key => (key, c.variableText key)) ∧
      config.sizes.keys = theme.base.size.keys ++
        (theme.base.container.keys.map Category.container.bucketKey).filter
          (fun key => decide (key ∉ theme.base.size.keys)) ∧
      (config.sizes.size = theme.base.size.size + theme.base.container.size ↔
        ∀ key ∈ theme.base.size.keys, ¬ theme.Hides .size key) := by
  refine ⟨theme.exists_tailwind?_iff, fun config hconfig => ?_⟩
  obtain rfl := TailwindConfig.eq_ofTheme hconfig
  exact ⟨fun _ _ => TailwindConfig.find?_bucket_iff,
    fun _ => TailwindConfig.entries_bucket_ofTheme, TailwindConfig.keys_sizes_ofTheme theme,
    TailwindConfig.size_sizes_iff theme⟩

/-- A size that goes by the key of a container. -/
def hidingSize : Theme where
  schema := supportedSchema
  name := "hiding"
  description := ""
  base := { BaseTokens.empty with
    size := .ofList [("container-md", "2rem")]
    container := .ofList [("md", "64rem")] }
  light := .empty
  dark := .empty

/-- **Not every token has an entry of its own**: a size is lost to the container with its key. -/
theorem not_forall_routed : ¬ ∀ theme : Theme, ∃ config, theme.tailwind? = some config ∧
    config.sizes.size = theme.base.size.size + theme.base.container.size ∧
    ∀ c key, key ∈ (theme.base.tokens c).keys →
      (config.bucket c).find? (c.bucketKey key) = some (c.variableText key) := by
  intro h
  obtain ⟨config, hconfig, -, hrouted⟩ := h hidingSize
  obtain rfl := TailwindConfig.eq_ofTheme hconfig
  have hkey : "container-md" ∈ hidingSize.base.size.keys := by decide
  have hhides : hidingSize.Hides .size "container-md" := by decide
  exact TailwindConfig.find?_size_iff hkey |>.mp (hrouted .size _ hkey) hhides

end Theme

end DesignTokens
