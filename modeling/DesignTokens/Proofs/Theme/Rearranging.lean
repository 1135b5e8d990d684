import DesignTokens.Proofs.Collection.Schemas
import DesignTokens.Proofs.Tailwind.Module
import DesignTokens.Proofs.Theme.Likeness

/-!
# Rearranged data

The order in which data tell the categories of a theme does not matter, and neither does what they
hold under names that no category has. Data that differ in nothing else are accepted together, and
nothing that is made from the themes tells them apart, but for one thing: an extra with a key that
has too many digits leaves its theme without a configuration and without a module.

## Main Definitions

* `Datum.names` — the names among the keys of a mapping
* `Datum.SameCategories` — base tokens that only differ in their order and in their extras
* `Theme.Rearranged` — data of themes that only differ in their order and in such base tokens
* `BaseTokens.ListsCategories` — the five categories come first, and no name comes twice

## Main Statements

* `Datum.lookup_perm` — what is found under a name does not depend on the order
* `readBase_of_sameCategories` — base tokens are read but for their extras
* `Theme.parses_rearranged` — what the themes of rearranged data have in common
* `Theme.not_forall_rearranged` — a module can be lost by an extra alone

## Design Notes

The two mappings come each with its own numbers for what stands at several places, so values that
stay are alike rather than equal. That no name stands twice in a mapping is a premise, as entries know
nothing of it. An extra never goes by one of the names of a category, since an
entry that does is used for the category; only `z_index` beside `zIndex` is one, and it has a name of
its own.
-/

namespace DesignTokens

variable {s s' : SharedData}

/-! ### Entries in another order -/

namespace Datum

/-- The names among the keys of a mapping. -/
def names (entries : Entries) : List String :=
  entries.filterMap fun e =>
    match e.1 with
    | .text name => some name
    | _ => none

theorem mem_names {entries : Entries} {name : String} {value : Datum}
    (h : (text name, value) ∈ entries) : name ∈ names entries :=
  List.mem_filterMap.mpr ⟨_, h, rfl⟩

/-- Where no name stands twice, a value is found exactly if it stands under the name. -/
theorem lookup_eq_some_iff {entries : Entries} (hnames : (names entries).Nodup) {name : String}
    {value : Datum} : lookup entries name = some value ↔ (text name, value) ∈ entries := by
  induction entries with
  | nil => simp [lookup]
  | cons e rest ih =>
      obtain ⟨key, v⟩ := e
      rw [lookup_cons, List.mem_cons]
      have hrest : (names rest).Nodup := hnames.sublist ((List.sublist_cons_self _ _).filterMap _)
      by_cases hkey : key = text name
      · subst hkey
        have hfresh : name ∉ names rest := (List.nodup_cons.mp hnames).1
        have hnone : (text name, value) ∉ rest := fun h => hfresh (mem_names h)
        simp [hnone, eq_comm]
      · have hne : (text name, value) ≠ (key, v) := fun h => hkey (Prod.mk.inj h).1.symm
        simp [hkey, hne, ih hrest]

/-- **What is found under a name does not depend on the order of entries.** -/
theorem lookup_perm {entries others : Entries} (h : entries.Perm others)
    (hnames : (names entries).Nodup) (name : String) : lookup entries name = lookup others name := by
  have hothers : (names others).Nodup := (h.filterMap _).nodup_iff.mp hnames
  ext value
  rw [lookup_eq_some_iff hnames, lookup_eq_some_iff hothers, h.mem_iff]

/-! ### Base tokens -/

/-- The names that categories go by. -/
def categoryKeys : List String := Category.all.flatMap categoryNames

/-- Whether an entry of base tokens goes by a name that no category has. -/
def isOther (e : Datum × Datum) : Bool :=
  match e.1 with
  | text name => !categoryKeys.contains name
  | _ => false

/-- The entries of base tokens but for those under other names than the categories'. -/
def categoryEntries (entries : Entries) : Entries := entries.filter fun e => !isOther e

/-- Base tokens with the same categories, in whatever order, and any entries under other names. -/
def SameCategories (s : SharedData) (d : Datum) (s' : SharedData) (d' : Datum) : Prop :=
  ∃ given given' middle, d.opened s = mapping given ∧ d'.opened s' = mapping given' ∧
    (names given).Nodup ∧ (categoryEntries given).Perm middle ∧
      AlikeEntries s middle s' (categoryEntries given')

theorem lookup_categoryEntries {name : String} (hname : name ∈ categoryKeys) (entries : Entries) :
    lookup (categoryEntries entries) name = lookup entries name := by
  induction entries with
  | nil => rfl
  | cons e rest ih =>
      cases hother : isOther e with
      | true =>
          have hkey : e.1 ≠ text name := by
            intro hkey
            simp [isOther, hkey, hname] at hother
          rw [lookup_cons, if_neg hkey, ← ih]
          simp [categoryEntries, hother]
      | false =>
          have hkept : categoryEntries (e :: rest) = e :: categoryEntries rest := by
            simp [categoryEntries, hother]
          rw [hkept, lookup_cons, lookup_cons, ih]

end Datum

/-- The extras among entries can be read exactly if all keys are names. -/
theorem exists_readExtras_iff {path : List String} {entries : Entries} :
    (∃ extras, readExtras s path entries = .ok extras) ↔
      ∀ e ∈ entries, ∃ name, e.1 = .text name := by
  rw [readExtras]
  constructor
  · rintro ⟨extras, h⟩ e he
    obtain ⟨kept, hall, -⟩ := map_eq_ok_iff.mp h
    rw [Checked.all_eq_ok_iff] at hall
    by_contra hkey
    -- What is read from another key is a violation, and it would be among the results.
    have hread : readExtra s path (usedNames entries) e =
        some (.fail (path ++ [pathLabel e.1]) .keyNotText) := by
      unfold readExtra
      split
      · next name hname => exact (hkey ⟨name, hname⟩).elim
      · rfl
    have hmem := List.mem_filterMap.mpr ⟨e, he, hread⟩
    rw [hall] at hmem
    obtain ⟨extra, -, hextra⟩ := List.mem_map.mp hmem
    cases hextra
  · intro hkeys
    have hread : ∀ used, ∃ extras : List (String × Datum),
        entries.filterMap (readExtra s path used) = extras.map .ok := by
      intro used
      induction entries with
      | nil => exact ⟨[], rfl⟩
      | cons e rest ih =>
          obtain ⟨⟨name, hname⟩, hrest⟩ := List.forall_mem_cons.mp hkeys
          obtain ⟨extras, hextras⟩ := ih hrest
          by_cases hused : name ∈ used
          · exact ⟨extras, by simp [readExtra, hname, hused, hextras]⟩
          · exact ⟨(name, e.2.opened s) :: extras, by simp [readExtra, hname, hused, hextras]⟩
    obtain ⟨extras, hextras⟩ := hread (usedNames entries)
    exact ⟨.ofList extras, by rw [hextras, Checked.all_ok]; rfl⟩

/-- **Base tokens with the same categories are read alike** but for their extras. -/
theorem readBase_of_sameCategories {path : List String} {d d' : Datum} {base : BaseTokens}
    (h : Datum.SameCategories s d s' d') (hread : readBase s path (d.opened s) = .ok base) :
    ∃ extras, readBase s' path (d'.opened s') =
      .ok { base with extras := extras, sharing := s' } := by
  obtain ⟨given, given', middle, hopened, hopened', hnames, hperm, halike⟩ := h
  rw [hopened, readBase_mapping_iff] at hread
  obtain ⟨htokens, hextras, -⟩ := hread
  have hkept : (Datum.names (Datum.categoryEntries given)).Nodup :=
    hnames.sublist (List.filter_sublist.filterMap _)
  -- Under the names of categories, alike values are found in both.
  have hlookup : ∀ name ∈ Datum.categoryKeys, Option.Rel (fun a b => Datum.Alike s a s' b)
      (Datum.lookup given name) (Datum.lookup given' name) := by
    intro name hname
    rw [← Datum.lookup_categoryEntries hname given, ← Datum.lookup_categoryEntries hname given',
      Datum.lookup_perm hperm hkept]
    exact halike.lookup name
  have htokens' : ∀ c, readOptional s' path readTokens .empty given' (categoryNames c) =
      .ok (base.tokens c) := by
    intro c
    have hcategory : ∀ name ∈ categoryNames c, name ∈ Datum.categoryKeys := fun name hname =>
      List.mem_flatMap.mpr ⟨c, by cases c <;> simp [Category.all], hname⟩
    exact readOptional_of_lookup (fun name hname => hlookup name (hcategory name hname))
      (fun _ _ _ _ => readTokens_of_alike) (htokens c)
  -- All keys are names: those of other entries by definition, the others because they were before.
  have hkeys : ∀ e ∈ given', ∃ name, e.1 = .text name := by
    intro e he
    cases hother : Datum.isOther e with
    | true =>
        unfold Datum.isOther at hother
        split at hother
        · next name hname => exact ⟨name, hname⟩
        · cases hother
    | false =>
        have hmem : e ∈ Datum.categoryEntries given' := List.mem_filter.mpr ⟨he, by simp [hother]⟩
        obtain ⟨f, hf, hfe⟩ := halike.exists_mem hmem
        have hgiven : f ∈ given := List.mem_of_mem_filter (hperm.mem_iff.mpr hf)
        obtain ⟨name, hname⟩ := exists_readExtras_iff.mp ⟨_, hextras⟩ f hgiven
        exact ⟨name, Datum.alike_text_iff.mp (hname ▸ hfe.1.symm)⟩
  obtain ⟨extras, hextras'⟩ := exists_readExtras_iff.mpr hkeys
  refine ⟨extras, ?_⟩
  rw [hopened', readBase_mapping_iff]
  refine ⟨fun c => ?_, hextras', rfl⟩
  rw [htokens' c]
  cases c <;> rfl

/-! ### The categories in order -/

namespace BaseTokens

/-- The five categories come first, in their order and with their tokens, and no name comes
twice. -/
def ListsCategories (base : BaseTokens) : Prop :=
  (base.categories.map Prod.fst).Nodup ∧
    ∃ others, base.categories =
      ("palette", base.palette.toDatum) :: ("spacing", base.spacing.toDatum) ::
        ("size", base.size.toDatum) :: ("zIndex", base.zIndex.toDatum) ::
        ("container", base.container.toDatum) :: others

/-- Categories are listed so if no extra goes by the name of one. -/
theorem listsCategories_of_keepsNames {base : BaseTokens} (h : base.KeepsNames) :
    base.ListsCategories := by
  refine ⟨?_, _, rfl⟩
  have hnames : base.categories.map Prod.fst =
      Category.all.map Category.name ++ base.mappingExtras.map Prod.fst := by
    simp [categories, Function.comp_def]
  rw [hnames, List.nodup_append]
  refine ⟨by decide, base.extras.nodup_keys.sublist base.mappingExtras_sublist, ?_⟩
  intro name hname other hother heq
  obtain ⟨c, -, rfl⟩ := List.mem_map.mp hname
  exact h c (base.mappingExtras_sublist.subset (heq ▸ hother))

end BaseTokens

namespace Theme

variable {entries entries' : Entries} {theme : Theme}

/-! ### Themes from rearranged data -/

/-- Entries of themes that are alike, but for base tokens, which need only have the same
categories. -/
def MatchingEntry (s s' : SharedData) (e f : Datum × Datum) : Prop :=
  Datum.Alike s e.1 s' f.1 ∧
    if e.1 = .text "base" then Datum.SameCategories s e.2 s' f.2 else Datum.Alike s e.2 s' f.2

/-- Data of themes that are the same but for the order of their entries and of those of the base
tokens, and for what the base tokens hold under names that no category has. -/
def Rearranged (s : SharedData) (entries : Entries) (s' : SharedData) (entries' : Entries) : Prop :=
  ∃ middle, entries.Perm middle ∧ List.Forall₂ (MatchingEntry s s') middle entries'

/-- Under any other name than that of the base tokens, alike values are found. -/
theorem Rearranged.lookup (h : Rearranged s entries s' entries')
    (hnames : (Datum.names entries).Nodup) {name : String} (hname : name ≠ "base") :
    Option.Rel (fun d d' => Datum.Alike s d s' d') (Datum.lookup entries name)
      (Datum.lookup entries' name) := by
  obtain ⟨middle, hperm, hmatching⟩ := h
  rw [Datum.lookup_perm hperm hnames]
  refine lookup_of_forall₂ (hmatching.imp fun e f hef => ⟨hef.1, fun hkey => ?_⟩)
  have hbase : e.1 ≠ .text "base" := by
    rw [hkey]
    exact fun heq => hname (Datum.text.inj heq)
  simpa only [if_neg hbase] using hef.2

/-- Under their name, base tokens with the same categories are found. -/
theorem Rearranged.lookup_base (h : Rearranged s entries s' entries')
    (hnames : (Datum.names entries).Nodup) :
    Option.Rel (fun d d' => Datum.SameCategories s d s' d') (Datum.lookup entries "base")
      (Datum.lookup entries' "base") := by
  obtain ⟨middle, hperm, hmatching⟩ := h
  rw [Datum.lookup_perm hperm hnames]
  refine lookup_of_forall₂ (hmatching.imp fun e f hef => ⟨hef.1, fun hkey => ?_⟩)
  simpa only [if_pos hkey] using hef.2

/-- **Rearranged data are read as the same theme** but for its extras. -/
theorem ofDatum_rearranged (h : Rearranged s entries s' entries')
    (hnames : (Datum.names entries).Nodup) (hread : ofDatum s (.mapping entries) = .ok theme) :
    ∃ extras sharing, ofDatum s' (.mapping entries') = .ok (theme.withExtras extras sharing) := by
  obtain ⟨hschema, ⟨name, hlookup, hname⟩, hdescription, hbase, hlight, hdark⟩ :=
    ofDatum_mapping_iff.mp hread
  have hbase' : ∃ base, readOptional s' [] (readBase s') .empty entries' ["base"] = .ok base ∧
      ∃ extras sharing, base = { theme.base with extras := extras, sharing := sharing } := by
    refine readOptional_of_rel (S := fun a b => ∃ extras sharing,
      b = { a with extras := extras, sharing := sharing })
      (List.forall_mem_singleton.mpr (h.lookup_base hnames)) ?_ ⟨_, _, rfl⟩ hbase
    intro path d d' base hd hbase
    obtain ⟨extras, hextras⟩ := readBase_of_sameCategories hd hbase
    exact ⟨_, hextras, extras, s', rfl⟩
  obtain ⟨_, hbase', extras, sharing, rfl⟩ := hbase'
  have hname' : ∃ value, Datum.lookup entries' "name" = some value ∧
      readText ["name"] (value.opened s') = .ok theme.name := by
    have hrel := h.lookup hnames (show "name" ≠ "base" by decide)
    rw [hlookup] at hrel
    obtain ⟨value, hvalue, halike⟩ := exists_of_rel_some hrel
    exact ⟨value, hvalue, readText_of_alike halike hname⟩
  have hfound : ∀ names : List String, "base" ∉ names → ∀ name ∈ names,
      Option.Rel (fun d d' => Datum.Alike s d s' d') (Datum.lookup entries name)
        (Datum.lookup entries' name) := fun names hbase name hmem =>
    h.lookup hnames fun heq => hbase (heq ▸ hmem)
  refine ⟨extras, sharing, ofDatum_mapping_iff.mpr ⟨?_, hname', ?_, hbase', ?_, ?_⟩⟩
  · exact readOptional_of_lookup (hfound _ (by decide)) (fun _ _ _ _ => readText_of_alike) hschema
  · exact readOptional_of_lookup (hfound _ (by decide)) (fun _ _ _ _ => readText_of_alike)
      hdescription
  · exact readOptional_of_lookup (hfound _ (by decide)) (fun _ _ _ _ => readMode_of_opened) hlight
  · exact readOptional_of_lookup (hfound _ (by decide)) (fun _ _ _ _ => readMode_of_opened) hdark

/-- Data are accepted if they describe a theme and declare no other schema under its first name. -/
theorem parse_of_ofDatum
    (hschema : ∀ value, Datum.lookup entries "schema" = some value → value = .text supportedSchema)
    (hread : ofDatum s (.mapping entries) = .ok theme) : parse s entries = .ok theme := by
  have hdeclared : (Datum.lookup entries "schema").getD (.text supportedSchema) =
      .text supportedSchema := by
    cases hlookup : Datum.lookup entries "schema" with
    | none => rfl
    | some value => exact hschema value hlookup
  simp [parse, hdeclared, hread, Except.mapError]

/-- Rearranged data are accepted as the same theme but for its extras. -/
theorem exists_parse_of_rearranged (h : Rearranged s entries s' entries')
    (hnames : (Datum.names entries).Nodup) (hparse : parse s entries = .ok theme) :
    ∃ extras sharing, parse s' entries' = .ok (theme.withExtras extras sharing) := by
  obtain ⟨hschema, hread⟩ := of_parse hparse
  obtain ⟨extras, sharing, hread'⟩ := ofDatum_rearranged h hnames hread
  refine ⟨extras, sharing, parse_of_ofDatum (fun value hvalue => ?_) hread'⟩
  have hrel := h.lookup hnames (show "schema" ≠ "base" by decide)
  rw [hvalue] at hrel
  obtain ⟨given, hgiven, halike⟩ := exists_of_rel_some_right hrel
  rw [hschema given hgiven] at halike
  exact Datum.alike_text_iff.mp halike.symm

/-! ### What is made from the themes -/

/-- No key of an extra holds an integer with too many digits. -/
def HasShortKeys (theme : Theme) : Prop :=
  ∀ extra ∈ theme.base.mappingExtras, ∀ entry ∈ extra.2, entry.1.IsShort

/-- Extras decide whether there is a configuration, and nothing else about it. -/
theorem tailwind?_withExtras_iff (theme : Theme) (extras : OrderedMap String Datum)
    (sharing : SharedData) :
    (theme.withExtras extras sharing).tailwind? = theme.tailwind? ↔
      ((theme.withExtras extras sharing).HasShortKeys ↔ theme.HasShortKeys) := by
  unfold HasShortKeys
  rw [← exists_tailwind?_iff, ← exists_tailwind?_iff]
  have hof : TailwindConfig.ofTheme (theme.withExtras extras sharing) = .ofTheme theme := rfl
  unfold tailwind?
  rw [hof]
  cases theme.hasPrintableKeys <;> cases (theme.withExtras extras sharing).hasPrintableKeys <;> simp

/-- The same is true of the module. -/
theorem tailwindModule?_withExtras_iff (theme : Theme) (extras : OrderedMap String Datum)
    (sharing : SharedData) :
    (theme.withExtras extras sharing).tailwindModule? = theme.tailwindModule? ↔
      ((theme.withExtras extras sharing).HasShortKeys ↔ theme.HasShortKeys) := by
  rw [← tailwind?_withExtras_iff]
  exact (Option.map_injective TailwindConfig.moduleText_injective).eq_iff

/-- **Rearranged data are accepted together.**  Whatever data are accepted, the same data in another
order and with any other extras are accepted too. Both themes have the same stylesheet or the same
fault, and the same report. They have the same configuration and the same module exactly if both or
none of them has an extra with a key that has too many digits. And both list the five categories
first, in the same order, and no category twice. -/
theorem parses_rearranged (s s' : SharedData) (entries entries' : Entries) (theme : Theme)
    (hnames : (Datum.names entries).Nodup) (h : Rearranged s entries s' entries')
    (hparse : parse s entries = .ok theme) :
    ∃ other, parse s' entries' = .ok other ∧ other.css = theme.css ∧
      other.report = theme.report ∧
      (other.tailwind? = theme.tailwind? ↔ (other.HasShortKeys ↔ theme.HasShortKeys)) ∧
      (other.tailwindModule? = theme.tailwindModule? ↔
        (other.HasShortKeys ↔ theme.HasShortKeys)) ∧
      theme.base.ListsCategories ∧ other.base.ListsCategories := by
  have hlists : ∀ {s : SharedData} {entries : Entries} {theme : Theme},
      parse s entries = .ok theme → theme.base.ListsCategories := fun hparse =>
    BaseTokens.listsCategories_of_keepsNames (keepsNames_of_ofDatum (of_parse hparse).2)
  obtain ⟨extras, sharing, hparse'⟩ := exists_parse_of_rearranged h hnames hparse
  exact ⟨_, hparse', rfl, rfl, theme.tailwind?_withExtras_iff extras sharing,
    theme.tailwindModule?_withExtras_iff extras sharing, hlists hparse, hlists hparse'⟩

/-- Data with a color, a space and a note, and with a background that refers to the color. -/
def noted : Entries :=
  [(.text "name", .text "noted"),
   (.text "base", .mapping [(.text "spacing", .mapping [(.text "gap", .int 4)]),
     (.text "notes", .mapping [(.text "gap", .text "draft")]),
     (.text "palette", .mapping [(.text "ink", .text "#111")])]),
   (.text "light", .mapping [(.text "bg", .mapping [(.text "page", .text "ink palette")])])]

/-- The mode of these data under a number. -/
def numbered : SharedData :=
  [(1, .mapping [(.text "bg", .mapping [(.text "page", .text "ink palette")])])]

/-- The same data in another order, with a list in place of the note, and with a number in place of
the mode. -/
def unnoted : Entries :=
  [(.text "light", .shared 1),
   (.text "base", .mapping [(.text "palette", .mapping [(.text "ink", .text "#111")]),
     (.text "layers", .list [.text "top"]),
     (.text "spacing", .mapping [(.text "gap", .int 4)])]),
   (.text "name", .text "noted")]

/-- The theme of the first data. -/
def notedTheme : Theme where
  schema := supportedSchema
  name := "noted"
  description := ""
  base := { BaseTokens.empty with
    palette := .ofList [("ink", "#111")]
    spacing := .ofList [("gap", "4")]
    extras := .ofList [("notes", .mapping [(.text "gap", .text "draft")])] }
  light := ⟨.ofList [("page", "ink palette")]⟩
  dark := .empty

theorem parse_noted : parse [] noted = .ok notedTheme :=
  parse_of_ofDatum (fun value hvalue => by simp [noted, Datum.lookup] at hvalue) rfl

theorem rearranged_unnoted : Rearranged [] noted numbered unnoted := by
  have hentry : ∀ (name : String) {d d' : Datum}, Datum.Alike [] d numbered d' →
      Datum.Alike [] (.mapping [(.text name, d)]) numbered (.mapping [(.text name, d')]) :=
    fun name _ _ h => Datum.alike_mapping (.cons ⟨Datum.alike_text_iff.mpr rfl, h⟩ .nil)
  have hplain : ∀ {d : Datum}, d.isPlain = true → Datum.Alike [] d numbered d := fun hd =>
    (Datum.alike_iff_of_isPlain hd).mpr rfl
  refine ⟨[noted[2], noted[1], noted[0]], by decide, .cons ⟨hplain rfl, ?_⟩
    (.cons ⟨hplain rfl, ?_⟩ (.cons ⟨hplain rfl, ?_⟩ .nil))⟩
  · -- What is alike to the number is alike to what it stands for.
    rw [if_neg (by decide)]
    have hmode := Datum.alike_iff_matches.mp
      (hentry "bg" (hentry "page" (hplain (d := .text "ink palette") rfl)))
    exact Datum.alike_iff_matches.mpr hmode
  · rw [if_pos (by decide)]
    exact ⟨_, _, _, rfl, rfl, by decide, (by decide : List.Perm _
      [(.text "palette", .mapping [(.text "ink", .text "#111")]),
        (.text "spacing", .mapping [(.text "gap", .int 4)])]),
      .cons ⟨hplain rfl, hentry "ink" (hplain rfl)⟩
        (.cons ⟨hplain rfl, hentry "gap" (hplain rfl)⟩ .nil)⟩
  · rw [if_neg (by decide)]
    exact hplain rfl

/-- Nothing tells the two themes apart, since the lost note has a short key. -/
theorem parses_rearranged_unnoted :
    ∃ other, parse numbered unnoted = .ok other ∧ other.css = notedTheme.css ∧
      other.report = notedTheme.report ∧ other.tailwindModule? = notedTheme.tailwindModule? ∧
      other.base.ListsCategories := by
  obtain ⟨other, hparse, hcss, hreport, -, hmodule, -, hlists⟩ :=
    parses_rearranged [] numbered noted unnoted notedTheme (by decide) rearranged_unnoted
      parse_noted
  refine ⟨other, hparse, hcss, hreport, hmodule.mpr ?_, hlists⟩
  have hother : other = notedTheme.withExtras (.ofList [("layers", .list [.text "top"])])
      numbered := by
    refine Except.ok.inj (hparse.symm.trans (parse_of_ofDatum ?_ rfl))
    intro value hvalue
    simp [unnoted, Datum.lookup] at hvalue
  rw [hother, HasShortKeys, HasShortKeys, ← exists_tailwind?_iff, ← exists_tailwind?_iff]
  exact iff_of_true ⟨_, rfl⟩ ⟨_, rfl⟩

/-- Data of a theme whose base tokens have no other entries than these. -/
def ofExtras (extras : Entries) : Entries :=
  [(.text "name", .text "long"), (.text "base", .mapping extras)]

/-- An entry matches itself if it is not that of base tokens. -/
theorem matchingEntry_refl {e : Datum × Datum} (he : e.1 ≠ .text "base") :
    MatchingEntry s s e e := by
  rw [MatchingEntry, if_neg he]
  exact ⟨.refl s e.1, .refl s e.2⟩

/-- **A module can be lost by an extra alone**, though nothing in it is about extras. -/
theorem not_forall_rearranged :
    ¬ ∀ (s s' : SharedData) (entries entries' : Entries) (theme : Theme),
      (Datum.names entries).Nodup → Rearranged s entries s' entries' →
        parse s entries = .ok theme →
          ∃ other, parse s' entries' = .ok other ∧ other.css = theme.css ∧
            other.report = theme.report ∧ other.tailwind? = theme.tailwind? ∧
            other.tailwindModule? = theme.tailwindModule? := by
  intro h
  have hparse : parse [] (ofExtras []) = .ok { longKeyed with base := .empty } :=
    parse_of_ofDatum (fun value hvalue => by simp [ofExtras, Datum.lookup] at hvalue) rfl
  have hlong : parse [] (ofExtras [(.text "layers",
      .mapping [(.int (10 ^ Number.integerDigitLimit), .text "top")])]) = .ok longKeyed :=
    parse_of_ofDatum (fun value hvalue => by simp [ofExtras, Datum.lookup] at hvalue) rfl
  have hrearranged : Rearranged [] (ofExtras []) [] (ofExtras [(.text "layers",
      .mapping [(.int (10 ^ Number.integerDigitLimit), .text "top")])]) := by
    refine ⟨_, .refl _, .cons (matchingEntry_refl (by decide)) (.cons ⟨.refl _ _, ?_⟩ .nil)⟩
    rw [if_pos (by decide)]
    exact ⟨_, _, _, rfl, rfl, .nil, .refl _, .nil⟩
  obtain ⟨other, hother, -, -, -, hmodule⟩ := h _ _ _ _ _ (by decide) hrearranged hparse
  obtain rfl := Except.ok.inj (hother.symm.trans hlong)
  -- The first theme has a module, and the other one has none.
  rw [tailwindModule?_longKeyed] at hmodule
  cases hmodule

end Theme

end DesignTokens
