import DesignTokens.Proofs.Datum.Alike
import DesignTokens.Proofs.FirstFault
import DesignTokens.Theme.Reading

/-!
# Themes are read back

A theme as data can be read again. Data that are alike to it are read as a theme that is alike to
the first one: all of it is the same but for the numbers in its extras, and for extras that are no
mappings, which are not written out.

## Main Definitions

* `BaseTokens.KeepsNames` — no extra goes by the name of a category
* `Theme.SameData` — two themes are alike as data

## Main Statements

* `readTokens_toDatum` — a category is read as it was
* `readBase_mapping_iff`, `Theme.ofDatum_mapping_iff` — what it takes that base tokens and a theme are
  read
* `Theme.keepsNames_of_ofDatum` — a theme that was read has no extra of a category's name
* `Theme.ofDatum_of_alike` — data alike to a theme are read as that theme
* `Theme.parse_of_alike` — the same if the schema is examined too
-/

namespace DesignTokens

/-! ### Checks without violations -/

@[simp] theorem Checked.both_ok {α β : Type} (a : α) (b : β) :
    Checked.both (.ok a) (.ok b) = .ok (a, b) := rfl

theorem Checked.both_eq_ok_iff {α β : Type} {x : Checked α} {y : Checked β} {r : α × β} :
    Checked.both x y = .ok r ↔ x = .ok r.1 ∧ y = .ok r.2 := by
  cases x <;> cases y <;> simp [Checked.both, Prod.ext_iff]

/-- Results without violations are all kept. -/
theorem Checked.all_ok {α : Type} (l : List α) : Checked.all (l.map .ok) = .ok l := by
  induction l with
  | nil => rfl
  | cons a rest ih =>
      rw [List.map_cons, Checked.all, ih]
      rfl

/-- Whatever all results without violations are, none of the single ones has any. -/
theorem Checked.all_eq_ok_iff {α : Type} {l : List (Checked α)} {as : List α} :
    Checked.all l = .ok as ↔ l = as.map .ok := by
  constructor
  · intro h
    induction l generalizing as with
    | nil => cases h; rfl
    | cons first rest ih =>
        obtain ⟨⟨a, more⟩, hboth, rfl⟩ := map_eq_ok_iff.mp h
        obtain ⟨hfirst, hrest⟩ := Checked.both_eq_ok_iff.mp hboth
        rw [hfirst, ih hrest]
        rfl
  · rintro rfl
    exact Checked.all_ok as

/-! ### Categories -/

namespace Datum

@[simp] theorem same_text (selfSame : Bool) (a b : String) :
    same selfSame (.text a) (.text b) = (a == b) := by
  simp only [same, sameScalar]

theorem insertEntry_of_forall {key value : Datum} {made : Entries}
    (h : ∀ e ∈ made, sameKey e.1 key = false) :
    insertEntry key value made = made ++ [(key, value)] := by
  induction made with
  | nil => rfl
  | cons e rest ih =>
      obtain ⟨hfirst, hrest⟩ := List.forall_mem_cons.mp h
      simp only [insertEntry, hfirst, ih hrest]
      rfl

/-- Entries with different keys are the mapping that they make. -/
theorem ofEntries_eq_self {entries : Entries}
    (h : entries.Pairwise fun e f => sameKey e.1 f.1 = false) : ofEntries entries = entries := by
  have hfold : ∀ (rest made : Entries), (made ++ rest).Pairwise (fun e f => sameKey e.1 f.1 = false) →
      rest.foldl (fun made e => insertEntry e.1 e.2 made) made = made ++ rest := by
    intro rest
    induction rest with
    | nil => intro made _; simp
    | cons e rest ih =>
        intro made hmade
        have hnew : ∀ f ∈ made, sameKey f.1 e.1 = false := fun f hf =>
          (List.pairwise_append.mp hmade).2.2 f hf e List.mem_cons_self
        rw [List.foldl_cons, insertEntry_of_forall hnew, ih _ (by simpa using hmade)]
        simp
  exact hfold entries [] h

end Datum

/-- The entry of a token as data. -/
def tokenEntry (e : String × String) : Datum × Datum := (.text e.1, .text e.2)

theorem TokenMap.toDatum_eq (tokens : TokenMap) :
    tokens.toDatum = .mapping (tokens.entries.map tokenEntry) := rfl

theorem stringifyEntries?_tokens (tokens : TokenMap) :
    stringifyEntries? (tokens.entries.map tokenEntry) = some (tokens.entries.map tokenEntry) := by
  have hmap : ∀ l : List (String × String),
      (l.map tokenEntry).mapM stringifyEntry? = some (l.map tokenEntry) := by
    intro l
    induction l with
    | nil => rfl
    | cons e rest ih =>
        rw [List.map_cons, List.mapM_cons, ih]
        rfl
  have hkeys : (tokens.entries.map tokenEntry).Pairwise
      fun e f => Datum.sameKey e.1 f.1 = false := by
    have hnodup := tokens.nodup_keys
    rw [List.Nodup, List.pairwise_map] at hnodup
    rw [List.pairwise_map]
    refine hnodup.imp fun {a b} hne => ?_
    rw [tokenEntry, tokenEntry, Datum.sameKey, Datum.same_text]
    exact beq_false_of_ne hne
  rw [stringifyEntries?, hmap]
  exact congrArg some (Datum.ofEntries_eq_self hkeys)

/-- **A category is read as it was.** -/
theorem readTokens_toDatum (path : List String) (tokens : TokenMap) :
    readTokens path tokens.toDatum = .ok tokens := by
  have hentries : (tokens.entries.map tokenEntry).map (readTextEntry path) =
      tokens.entries.map .ok := by
    rw [List.map_map]
    rfl
  rw [TokenMap.toDatum_eq]
  simp only [readTokens, stringifyEntries?_tokens, readTextMap, hentries, Checked.all_ok]
  exact congrArg Except.ok tokens.ofList_entries

/-- What is alike to a category as data is, at its place, the category as data. -/
theorem Datum.Alike.opened_tokens {s s' : SharedData} {d : Datum} {tokens : TokenMap}
    (h : Datum.Alike s d s' tokens.toDatum) : d.opened s = tokens.toDatum := by
  obtain ⟨given, hopened, hentries⟩ := Datum.Alike.exists_mapping h
  rw [hopened, TokenMap.toDatum_eq]
  refine congrArg Datum.mapping ?_
  rw [List.forall₂_map_right_iff] at hentries
  have hsame : List.Forall₂ (fun e f => e = tokenEntry f) given tokens.entries :=
    hentries.imp fun e f hef => Prod.ext (Datum.alike_text_iff.mp hef.1) (Datum.alike_text_iff.mp hef.2)
  rw [← List.forall₂_map_right_iff, List.forall₂_eq_eq_eq] at hsame
  exact hsame

theorem Datum.alike_tokens (s s' : SharedData) (tokens : TokenMap) :
    Datum.Alike s tokens.toDatum s' tokens.toDatum := by
  refine Datum.alike_mapping (List.forall₂_same.mpr fun e he => ?_)
  obtain ⟨token, -, rfl⟩ := List.mem_map.mp he
  exact ⟨Datum.alike_text_iff.mpr rfl, Datum.alike_text_iff.mpr rfl⟩

/-! ### Readers taken apart -/

/-- Base tokens are read exactly if each category and the extras are. -/
theorem readBase_mapping_iff {s : SharedData} {path : List String} {entries : Entries}
    {base : BaseTokens} :
    readBase s path (.mapping entries) = .ok base ↔
      (∀ c, readOptional s path readTokens .empty entries (categoryNames c) =
        .ok (base.tokens c)) ∧
      readExtras s path entries = .ok base.extras ∧ base.sharing = s := by
  constructor
  · intro h
    obtain ⟨⟨palette, spacing, size, zIndex, container, extras⟩, hall, rfl⟩ :=
      map_eq_ok_iff.mp h
    simp only [Checked.both_eq_ok_iff] at hall
    obtain ⟨hpalette, hspacing, hsize, hzIndex, hcontainer, hextras⟩ := hall
    refine ⟨fun c => ?_, hextras, rfl⟩
    cases c with
    | palette => exact hpalette
    | spacing => exact hspacing
    | size => exact hsize
    | zIndex => exact hzIndex
    | container => exact hcontainer
  · rintro ⟨htokens, hextras, rfl⟩
    simp only [readBase, htokens, hextras, Checked.both_ok]
    rfl

/-- A theme is read exactly if each of its entries is. -/
theorem Theme.ofDatum_mapping_iff {s : SharedData} {entries : Entries} {theme : Theme} :
    ofDatum s (.mapping entries) = .ok theme ↔
      readOptional s [] readText supportedSchema entries ["schema", "schema_version"] =
        .ok theme.schema ∧
      (∃ value, Datum.lookup entries "name" = some value ∧
        readText ["name"] (value.opened s) = .ok theme.name) ∧
      readOptional s [] readText "" entries ["description"] = .ok theme.description ∧
      readOptional s [] (readBase s) .empty entries ["base"] = .ok theme.base ∧
      readOptional s [] (readMode s) .empty entries ["light"] = .ok theme.light ∧
      readOptional s [] (readMode s) .empty entries ["dark"] = .ok theme.dark := by
  constructor
  · intro h
    obtain ⟨⟨schema, name, description, base, light, dark⟩, hall, rfl⟩ :=
      map_eq_ok_iff.mp h
    simp only [Checked.both_eq_ok_iff] at hall
    obtain ⟨hschema, hname, hrest⟩ := hall
    refine ⟨hschema, ?_, hrest⟩
    cases hlookup : Datum.lookup entries "name" with
    | none => simp [findEntry, hlookup, Checked.fail] at hname
    | some value =>
        have hfind : findEntry entries ["name"] = some ("name", value) := by
          simp [findEntry, hlookup]
        rw [hfind] at hname
        exact ⟨value, rfl, hname⟩
  · rintro ⟨hschema, ⟨value, hlookup, hname⟩, hdescription, hbase, hlight, hdark⟩
    have hfind : findEntry entries ["name"] = some ("name", value) := by
      simp [findEntry, hlookup]
    simp only [ofDatum, hschema, hfind, hname, hdescription, hbase, hlight, hdark, Checked.both_ok]
    rfl

/-! ### Names of extras -/

/-- No extra goes by the name of a category. -/
def BaseTokens.KeepsNames (base : BaseTokens) : Prop :=
  ∀ c : Category, c.name ∉ base.extras.keys

theorem lookup_ne_none {entries : Entries} {name : String} {value : Datum}
    (h : (Datum.text name, value) ∈ entries) : Datum.lookup entries name ≠ none := by
  induction entries with
  | nil => simp at h
  | cons e rest ih =>
      obtain ⟨key, v⟩ := e
      rcases List.mem_cons.mp h with heq | hrest
      · cases heq
        simp [Datum.lookup]
      · cases key with
        | text k =>
            by_cases hk : k = name
            · simp [Datum.lookup, hk]
            · simpa [Datum.lookup, hk] using ih hrest
        | _ => simpa [Datum.lookup] using ih hrest

/-- An entry that goes by the name of a category is used for the category. -/
theorem mem_usedNames {entries : Entries} {c : Category} {value : Datum}
    (h : (Datum.text c.name, value) ∈ entries) : c.name ∈ usedNames entries := by
  obtain ⟨found, hfound⟩ := Option.ne_none_iff_exists'.mp (lookup_ne_none h)
  refine List.mem_filterMap.mpr ⟨c, by cases c <;> simp [Category.all], ?_⟩
  have hfirst : ∃ others, categoryNames c = c.name :: others := by cases c <;> exact ⟨_, rfl⟩
  obtain ⟨others, hnames⟩ := hfirst
  simp [findEntry, hnames, hfound]

theorem readBase_keepsNames {sharing : SharedData} {path : List String} {d : Datum}
    {base : BaseTokens} (h : readBase sharing path d = .ok base) : base.KeepsNames := by
  cases d with
  | mapping entries =>
      obtain ⟨-, hextras, -⟩ := readBase_mapping_iff.mp h
      obtain ⟨kept, hkept, heq⟩ := map_eq_ok_iff.mp hextras
      rw [Checked.all_eq_ok_iff] at hkept
      intro c hc
      rw [← heq] at hc
      obtain ⟨e, he, hname⟩ := List.mem_map.mp (OrderedMap.mem_keys_ofList.mp hc)
      -- An extra of this name would stem from an entry that is used for the category.
      obtain ⟨given, hgiven, hread⟩ := List.mem_filterMap.mp (hkept ▸ List.mem_map.mpr ⟨e, he, rfl⟩)
      obtain ⟨key, value⟩ := given
      cases key with
      | text name =>
          simp only [readExtra] at hread
          split at hread
          · cases hread
          · next hunused =>
              cases hread
              obtain rfl : name = c.name := hname
              exact hunused (List.contains_iff_mem.mpr (mem_usedNames hgiven))
      | _ => cases hread
  | _ => cases h

/-- **A theme that was read has no extra of a category's name.** -/
theorem Theme.keepsNames_of_ofDatum {sharing : SharedData} {d : Datum} {theme : Theme}
    (h : Theme.ofDatum sharing d = .ok theme) : theme.base.KeepsNames := by
  cases d with
  | mapping entries =>
      obtain ⟨-, -, -, hbase, -, -⟩ := ofDatum_mapping_iff.mp h
      unfold readOptional at hbase
      split at hbase
      · exact readBase_keepsNames hbase
      · rw [← Except.ok.inj hbase]
        intro c hc
        cases hc
  | _ => cases h

/-! ### What was written is read -/

/-- Entries that are alike, key by key and value by value. -/
def AlikeEntries (s : SharedData) (given : Entries) (s' : SharedData) (written : Entries) : Prop :=
  List.Forall₂ (fun e f => Datum.Alike s e.1 s' f.1 ∧ Datum.Alike s e.2 s' f.2) given written

variable {s s' : SharedData}

/-- What is alike to entries that start with a text key starts with that key too. -/
theorem AlikeEntries.exists_cons {given rest : Entries} {name : String} {value : Datum}
    (h : AlikeEntries s given s' ((.text name, value) :: rest)) :
    ∃ d more, given = (.text name, d) :: more ∧ Datum.Alike s d s' value ∧
      AlikeEntries s more s' rest := by
  obtain ⟨e, more, ⟨hkey, hvalue⟩, hmore, rfl⟩ := List.forall₂_cons_right_iff.mp h
  exact ⟨e.2, more, by rw [← Datum.alike_text_iff.mp hkey], hvalue, hmore⟩

/-- Extras as they are written out. -/
def mappingEntry (e : String × Entries) : Datum × Datum := (.text e.1, .mapping e.2)

/-- What is alike to extras that are mappings is opened as such extras. -/
theorem AlikeEntries.exists_extras {given : Entries} {extras : List (String × Entries)}
    (h : AlikeEntries s given s' (extras.map mappingEntry)) :
    ∃ again : List (String × Entries),
      List.Forall₂ (fun e f => e.1 = .text f.1 ∧ e.2.opened s = .mapping f.2) given again ∧
        List.Forall₂ (fun e f => e.1 = f.1 ∧ AlikeEntries s e.2 s' f.2) again extras := by
  induction extras generalizing given with
  | nil =>
      cases h
      exact ⟨[], .nil, .nil⟩
  | cons extra rest ih =>
      obtain ⟨d, more, rfl, hvalue, hmore⟩ := AlikeEntries.exists_cons h
      obtain ⟨entries, hopened, hentries⟩ := hvalue.exists_mapping
      obtain ⟨again, hagain, hrest⟩ := ih hmore
      exact ⟨(extra.1, entries) :: again, .cons ⟨rfl, hopened⟩ hagain,
        .cons ⟨rfl, hentries⟩ hrest⟩

/-- Extras under names that no category uses are read as they are opened. -/
theorem readExtras_of_forall₂ {path used : List String} {categories given : Entries}
    {again : List (String × Entries)} (hnames : usedNames (categories ++ given) = used)
    (hused : ∀ e ∈ categories, ∃ name ∈ used, e.1 = .text name)
    (hfree : ∀ e ∈ again, e.1 ∉ used)
    (hgiven : List.Forall₂ (fun e f => e.1 = .text f.1 ∧ e.2.opened s = .mapping f.2) given again) :
    readExtras s path (categories ++ given) =
      .ok (.ofList (again.map fun e => (e.1, .mapping e.2))) := by
  -- The names of the categories are used, so that their entries give no extras.
  have hskipped : categories.filterMap (readExtra s path used) = [] := by
    refine List.filterMap_eq_nil_iff.mpr fun e he => ?_
    obtain ⟨name, hname, hkey⟩ := hused e he
    simp [readExtra, hkey, hname]
  have hread : given.filterMap (readExtra s path used) =
      (again.map fun e => (e.1, Datum.mapping e.2)).map .ok := by
    clear hnames
    induction hgiven with
    | nil => rfl
    | cons hef _ ih =>
        obtain ⟨hkey, hopened⟩ := hef
        obtain ⟨hfirst, hrest⟩ := List.forall_mem_cons.mp hfree
        simp [readExtra, ih hrest, hkey, hopened, hfirst]
  rw [readExtras, hnames, List.filterMap_append, hskipped, hread, List.nil_append,
    Checked.all_ok]
  rfl

theorem BaseTokens.map_categories (base : BaseTokens) :
    base.categories.map (fun e => (Datum.text e.1, e.2)) =
      (.text "palette", base.palette.toDatum) :: (.text "spacing", base.spacing.toDatum) ::
      (.text "size", base.size.toDatum) :: (.text "zIndex", base.zIndex.toDatum) ::
      (.text "container", base.container.toDatum) :: base.mappingExtras.map mappingEntry := by
  simp only [BaseTokens.categories, Category.all, List.map_cons, List.map_nil,
    List.map_map, List.cons_append, List.nil_append]
  rfl

/-- The names of the extras that are written out are different ones among the names of extras. -/
theorem BaseTokens.mappingExtras_sublist (base : BaseTokens) :
    (base.mappingExtras.map Prod.fst).Sublist base.extras.keys := by
  unfold mappingExtras OrderedMap.keys
  induction base.extras.entries with
  | nil => exact .slnil
  | cons e rest ih =>
      obtain ⟨name, value⟩ := e
      cases value with
      | mapping entries => exact ih.cons_cons name
      | _ => exact ih.cons name

/-- Extras that are mappings are all written out. -/
theorem BaseTokens.mappingExtras_of_entries {base : BaseTokens} {again : List (String × Entries)}
    (h : base.extras.entries = again.map fun e => (e.1, .mapping e.2)) :
    base.mappingExtras = again := by
  unfold mappingExtras
  rw [h]
  clear h
  induction again with
  | nil => rfl
  | cons e rest ih =>
      rw [List.map_cons, List.filterMap_cons, ih]

theorem readOptional_of_findEntry {α : Type} {path : List String}
    {read : List String → Datum → Checked α} {default : α} {entries : Entries}
    {names : List String} {name : String} {d : Datum}
    (h : findEntry entries names = some (name, d)) :
    readOptional s path read default entries names = read (path ++ [name]) (d.opened s) := by
  simp only [readOptional, h]

/-- Entries of base tokens: one for each category, and others. -/
def baseEntries (category : Category → Datum) (others : Entries) : Entries :=
  Category.all.map (fun c => (.text c.name, category c)) ++ others

/-- Every category is found under its name. -/
theorem findEntry_baseEntries (category : Category → Datum) (others : Entries) (c : Category) :
    findEntry (baseEntries category others) (categoryNames c) = some (c.name, category c) := by
  cases c <;>
    simp [findEntry, baseEntries, Category.all, categoryNames, Category.name, Datum.lookup]

/-- And its name is all that is used. -/
theorem usedNames_baseEntries (category : Category → Datum) (others : Entries) :
    usedNames (baseEntries category others) = Category.all.map Category.name := by
  simp only [usedNames, findEntry_baseEntries, Option.map_some]
  rfl

/-- Entries alike to base tokens start with the categories, in their order. -/
theorem AlikeEntries.exists_baseEntries {base : BaseTokens} {given : Entries}
    (h : AlikeEntries s given s' (base.categories.map fun e => (.text e.1, e.2))) :
    ∃ category others, given = baseEntries category others ∧
      (∀ c, (category c).opened s = (base.tokens c).toDatum) ∧
        AlikeEntries s others s' (base.mappingExtras.map mappingEntry) := by
  rw [BaseTokens.map_categories] at h
  obtain ⟨palette, _, rfl, hpalette, h⟩ := h.exists_cons
  obtain ⟨spacing, _, rfl, hspacing, h⟩ := h.exists_cons
  obtain ⟨size, _, rfl, hsize, h⟩ := h.exists_cons
  obtain ⟨zIndex, _, rfl, hzIndex, h⟩ := h.exists_cons
  obtain ⟨container, others, rfl, hcontainer, h⟩ := h.exists_cons
  refine ⟨Category.rec palette spacing size zIndex container, others, rfl, fun c => ?_, h⟩
  cases c with
  | palette => exact hpalette.opened_tokens
  | spacing => exact hspacing.opened_tokens
  | size => exact hsize.opened_tokens
  | zIndex => exact hzIndex.opened_tokens
  | container => exact hcontainer.opened_tokens

/-- Base tokens with other extras are alike as data if the extras that are written are. -/
theorem BaseTokens.alikeEntries_categories {base : BaseTokens} {extras : OrderedMap String Datum}
    (h : List.Forall₂ (fun e f => e.1 = f.1 ∧ AlikeEntries s e.2 s' f.2)
      (BaseTokens.mappingExtras { base with extras := extras, sharing := s }) base.mappingExtras) :
    AlikeEntries s
      ((BaseTokens.categories { base with extras := extras, sharing := s }).map
        fun e => (.text e.1, e.2)) s'
      (base.categories.map fun e => (.text e.1, e.2)) := by
  have htokens : ∀ (name : String) (tokens : TokenMap),
      Datum.Alike s (.text name) s' (.text name) ∧
        Datum.Alike s tokens.toDatum s' tokens.toDatum := fun name tokens =>
    ⟨Datum.alike_text_iff.mpr rfl, Datum.alike_tokens s s' tokens⟩
  rw [BaseTokens.map_categories, BaseTokens.map_categories]
  refine .cons (htokens _ _) (.cons (htokens _ _) (.cons (htokens _ _) (.cons (htokens _ _)
    (.cons (htokens _ _) ?_))))
  rw [List.forall₂_map_left_iff, List.forall₂_map_right_iff]
  refine h.imp fun e f hef => ?_
  rw [mappingEntry, mappingEntry, hef.1]
  exact ⟨Datum.alike_text_iff.mpr rfl, Datum.alike_mapping hef.2⟩

/-- **Base tokens are read from entries for their categories and for extras of other names**, which
are mappings where they stand. -/
theorem readBase_baseEntries {base : BaseTokens} (hkeeps : base.KeepsNames) (path : List String)
    {category : Category → Datum} {others : Entries} {again : List (String × Entries)}
    (hcategory : ∀ c, (category c).opened s = (base.tokens c).toDatum)
    (hkeys : again.map Prod.fst = base.mappingExtras.map Prod.fst)
    (hopened : List.Forall₂ (fun e f => e.1 = .text f.1 ∧ e.2.opened s = .mapping f.2) others
      again) :
    readBase s path (.mapping (baseEntries category others)) =
      .ok { base with extras := .ofList (again.map fun e => (e.1, .mapping e.2)), sharing := s } := by
  -- The extras that were written go by none of these names, and so do those that are read.
  have hfree : ∀ e ∈ again, e.1 ∉ Category.all.map Category.name := by
    intro e he hname
    obtain ⟨c, -, hc⟩ := List.mem_map.mp hname
    refine hkeeps c (base.mappingExtras_sublist.subset ?_)
    rw [hc, ← hkeys]
    exact List.mem_map.mpr ⟨e, he, rfl⟩
  have hextras : readExtras s path (baseEntries category others) =
      .ok (.ofList (again.map fun e => (e.1, .mapping e.2))) := by
    refine readExtras_of_forall₂ (usedNames_baseEntries category others) ?_ hfree hopened
    intro e he
    obtain ⟨c, hc, rfl⟩ := List.mem_map.mp he
    exact ⟨c.name, List.mem_map.mpr ⟨c, hc, rfl⟩, rfl⟩
  have htokens : ∀ c, readOptional s path readTokens .empty (baseEntries category others)
      (categoryNames c) = .ok (base.tokens c) := by
    intro c
    rw [readOptional_of_findEntry (findEntry_baseEntries category others c), hcategory,
      readTokens_toDatum]
  simp only [readBase, hextras, htokens, Checked.both_ok]
  rfl

/-- Names that the extras of base tokens go by are different ones. -/
theorem BaseTokens.nodup_extras {base : BaseTokens} {again : List (String × Entries)}
    (hkeys : again.map Prod.fst = base.mappingExtras.map Prod.fst) :
    ((again.map fun e => (e.1, Datum.mapping e.2)).map Prod.fst).Nodup := by
  rw [List.map_map]
  show (again.map Prod.fst).Nodup
  rw [hkeys]
  exact base.extras.nodup_keys.sublist base.mappingExtras_sublist

/-- **Data alike to base tokens are read as these base tokens**, with the extras that were
written. -/
theorem readBase_of_alike {base : BaseTokens} (hkeeps : base.KeepsNames) (path : List String)
    {given : Entries}
    (h : AlikeEntries s given s' (base.categories.map fun e => (.text e.1, e.2))) :
    ∃ extras : OrderedMap String Datum,
      readBase s path (.mapping given) = .ok { base with extras := extras, sharing := s } ∧
        AlikeEntries s
          ((BaseTokens.categories { base with extras := extras, sharing := s }).map
            fun e => (.text e.1, e.2)) s'
          (base.categories.map fun e => (.text e.1, e.2)) := by
  obtain ⟨category, others, rfl, hcategory, hothers⟩ := h.exists_baseEntries
  obtain ⟨again, hopened, hagain⟩ := hothers.exists_extras
  have hkeys : again.map Prod.fst = base.mappingExtras.map Prod.fst := by
    rw [← List.forall₂_eq_eq_eq, List.forall₂_map_left_iff, List.forall₂_map_right_iff]
    exact hagain.imp fun _ _ hef => hef.1
  refine ⟨_, readBase_baseEntries hkeeps path hcategory hkeys hopened,
    BaseTokens.alikeEntries_categories ?_⟩
  rw [BaseTokens.mappingExtras_of_entries (OrderedMap.entries_ofList
    (BaseTokens.nodup_extras hkeys))]
  exact hagain

/-- Data alike to a mode are read as that mode. -/
theorem readMode_of_alike {mode : ModeTokens} (path : List String) {d : Datum}
    (h : Datum.Alike s d s' mode.toDatum) : readMode s path (d.opened s) = .ok mode := by
  obtain ⟨given, hopened, hentries⟩ := h.exists_mapping
  obtain ⟨bg, rest, rfl, hbg, -⟩ := AlikeEntries.exists_cons hentries
  have hfind : findEntry ((.text "bg", bg) :: rest) ["bg"] = some ("bg", bg) := by
    simp [findEntry, Datum.lookup]
  rw [hopened]
  simp only [readMode, readOptional_of_findEntry hfind, hbg.opened_tokens, readTokens_toDatum]
  rfl

theorem ModeTokens.alike_toDatum (s s' : SharedData) (mode : ModeTokens) :
    Datum.Alike s mode.toDatum s' mode.toDatum :=
  Datum.alike_mapping (.cons ⟨Datum.alike_text_iff.mpr rfl, Datum.alike_tokens s s' mode.bg⟩ .nil)

namespace Theme

/-- Two themes are alike as data. -/
def SameData (a b : Theme) : Prop :=
  Datum.Alike a.base.sharing a.toDatum b.base.sharing b.toDatum

theorem SameData.refl (theme : Theme) : theme.SameData theme := Datum.Alike.refl _ _

/-- Themes that are alike as data have the same name. -/
theorem SameData.name_eq {a b : Theme} (h : a.SameData b) : a.name = b.name := by
  obtain ⟨entries, hopened, hentries⟩ := Datum.Alike.exists_mapping h
  cases hopened
  obtain ⟨-, hrest⟩ := List.forall₂_cons.mp hentries
  obtain ⟨⟨-, hname⟩, -⟩ := List.forall₂_cons.mp hrest
  exact Datum.text.inj (Datum.alike_text_iff.mp hname)

/-- The theme with other extras, and what the numbers in these stand for. -/
def withExtras (theme : Theme) (extras : OrderedMap String Datum) (sharing : SharedData) : Theme :=
  { theme with base := { theme.base with extras := extras, sharing := sharing } }

/-- Entries in their usual order are read one after the other. -/
theorem ofDatum_of_reads {schema name description : String} {base light dark : Datum}
    {others : Entries} {tokens : BaseTokens} {lightMode darkMode : ModeTokens}
    (hbase : readBase s ["base"] (base.opened s) = .ok tokens)
    (hlight : readMode s ["light"] (light.opened s) = .ok lightMode)
    (hdark : readMode s ["dark"] (dark.opened s) = .ok darkMode) :
    ofDatum s (.mapping ((.text "schema", .text schema) :: (.text "name", .text name) ::
      (.text "description", .text description) :: (.text "base", base) ::
      (.text "light", light) :: (.text "dark", dark) :: others)) =
      .ok ⟨schema, name, description, tokens, lightMode, darkMode⟩ := by
  have hopened : ∀ t : String, (Datum.text t).opened s = .text t := fun _ => rfl
  simp [ofDatum, readOptional, findEntry, Datum.lookup, hbase, hlight, hdark, hopened, readText,
    Except.map]

/-- **Data alike to a theme are read as that theme**, with the extras that were written. -/
theorem ofDatum_of_alike {theme : Theme} (hkeeps : theme.base.KeepsNames) {d : Datum}
    (h : Datum.Alike s d theme.base.sharing theme.toDatum) :
    ∃ (entries : Entries) (extras : OrderedMap String Datum),
      d.opened s = .mapping entries ∧ Datum.lookup entries "schema" = some (.text theme.schema) ∧
        ofDatum s (.mapping entries) = .ok (theme.withExtras extras s) ∧
        (theme.withExtras extras s).SameData theme := by
  obtain ⟨entries, hopened, hentries⟩ := h.exists_mapping
  obtain ⟨schema, _, rfl, hschema, h⟩ := AlikeEntries.exists_cons hentries
  obtain ⟨name, _, rfl, hname, h⟩ := h.exists_cons
  obtain ⟨description, _, rfl, hdescription, h⟩ := h.exists_cons
  obtain ⟨base, _, rfl, hbase, h⟩ := h.exists_cons
  obtain ⟨light, _, rfl, hlight, h⟩ := h.exists_cons
  obtain ⟨dark, rest, rfl, hdark, -⟩ := h.exists_cons
  obtain rfl := Datum.alike_text_iff.mp hschema
  obtain rfl := Datum.alike_text_iff.mp hname
  obtain rfl := Datum.alike_text_iff.mp hdescription
  obtain ⟨given, hgivenOpened, hgiven⟩ := hbase.exists_mapping
  obtain ⟨extras, hread, hextras⟩ := readBase_of_alike hkeeps ["base"] hgiven
  rw [← hgivenOpened] at hread
  refine ⟨_, extras, hopened, by simp [Datum.lookup], ?_, ?_⟩
  · rw [ofDatum_of_reads hread (readMode_of_alike ["light"] hlight)
      (readMode_of_alike ["dark"] hdark)]
    rfl
  · have htext : ∀ name text : String, Datum.Alike s (.text name) theme.base.sharing (.text name) ∧
        Datum.Alike s (.text text) theme.base.sharing (.text text) := fun name text =>
      ⟨Datum.alike_text_iff.mpr rfl, Datum.alike_text_iff.mpr rfl⟩
    refine Datum.alike_mapping (.cons (htext _ _) (.cons (htext _ _) (.cons (htext _ _)
      (.cons ⟨Datum.alike_text_iff.mpr rfl, ?_⟩ (.cons ⟨Datum.alike_text_iff.mpr rfl, ?_⟩
        (.cons ⟨Datum.alike_text_iff.mpr rfl, ?_⟩ .nil))))))
    · exact Datum.alike_mapping hextras
    · exact theme.light.alike_toDatum _ _
    · exact theme.dark.alike_toDatum _ _

/-- **Data alike to a theme of the supported schema are accepted**, and give a theme that is alike
to it. -/
theorem parse_of_alike {theme : Theme} (hkeeps : theme.base.KeepsNames)
    (hschema : theme.schema = supportedSchema) {d : Datum}
    (h : Datum.Alike s d theme.base.sharing theme.toDatum) :
    ∃ entries again, d.opened s = .mapping entries ∧ parse s entries = .ok again ∧
      again.SameData theme := by
  obtain ⟨entries, extras, hopened, hlookup, hread, hsame⟩ := ofDatum_of_alike hkeeps h
  refine ⟨entries, theme.withExtras extras s, hopened, ?_, hsame⟩
  simp [parse, hlookup, hschema, hread, Except.mapError]

end Theme

end DesignTokens
