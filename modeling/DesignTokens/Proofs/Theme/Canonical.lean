import DesignTokens.Proofs.Theme.Rereading
import DesignTokens.Report
import DesignTokens.Stylesheet
import DesignTokens.Tailwind

/-!
# The canonical form

Data spell a theme in many ways: entries go by two names, numbers stand for text, and categories are
left empty or out. Writing the theme as data keeps one spelling, and what it reads as is the
canonical form of the theme. All that it lacks are extras that are no mappings, which nothing that
is made from the theme depends on.

## Main Definitions

* `Theme.canonical` — the theme without the extras that are no mappings

## Main Statements

* `Datum.same_self` — data that come from one source are the same as themselves
* `Theme.ofDatum_toDatum` — a theme as data is read as its canonical form
* `Theme.canonical_eq_self_iff`, `Theme.same_canonical_iff` — when nothing is lost
* `Theme.canonical_of_ofDatum` — what a theme that was read shares with what it is read again as
-/

namespace DesignTokens

/-! ### Data are the same as themselves -/

theorem Number.Double.sameValue_self {x : Number.Double} (h : x.isNaN = false) :
    x.sameValue x = true := by
  simp [sameValue, h]

theorem Moment.sameInstant_self (m : Moment) : m.sameInstant m = true := by
  unfold sameInstant
  cases m.offset <;> simp

namespace Datum

/-- A mapping whose entries are the same as themselves has all entries of a part of it. -/
theorem sameEntries_of_subset {selfSame : Bool} {part entries : Entries}
    (hself : ∀ e ∈ part, same selfSame e.1 e.1 = true ∧ same selfSame e.2 e.2 = true)
    (hsub : ∀ e ∈ part, e ∈ entries) : sameEntries selfSame part entries = true := by
  induction part with
  | nil => simp [sameEntries]
  | cons e rest ih =>
      obtain ⟨hfirst, hrest⟩ := List.forall_mem_cons.mp hself
      obtain ⟨hmem, hmore⟩ := List.forall_mem_cons.mp hsub
      rw [sameEntries, Bool.and_eq_true, List.any_eq_true]
      exact ⟨⟨e, hmem, by rw [hfirst.1, hfirst.2]; rfl⟩, ih hrest hmore⟩

/-- A set whose members are the same as themselves has all members of a part of it. -/
theorem sameMembers_of_subset {selfSame : Bool} {part members : List Datum}
    (hself : ∀ x ∈ part, same selfSame x x = true) (hsub : ∀ x ∈ part, x ∈ members) :
    sameMembers selfSame part members = true := by
  induction part with
  | nil => simp [sameMembers]
  | cons x rest ih =>
      obtain ⟨hfirst, hrest⟩ := List.forall_mem_cons.mp hself
      obtain ⟨hmem, hmore⟩ := List.forall_mem_cons.mp hsub
      rw [sameMembers, Bool.and_eq_true, List.any_eq_true]
      exact ⟨⟨x, hmem, hfirst⟩, ih hrest hmore⟩

mutual

/-- **Data that come from one source are the same as themselves**, even where they hold what is no
number. -/
theorem same_self : ∀ d : Datum, same true d d = true
  | null => by simp [same, sameScalar]
  | bool b => by simp [same, sameScalar]
  | int n => by simp [same, sameScalar]
  | float x => by
      rw [same, sameScalar]
      · cases h : x.isNaN with
        | true => simp
        | false => rw [Number.Double.sameValue_self h]; rfl
      all_goals simp
  | text s => by simp
  | bytes bs => by simp [same, sameScalar]
  | date d => by simp [same, sameScalar]
  | moment m => by simp [same, sameScalar, m.sameInstant_self]
  | list items => by simpa [same] using sameItems_self items
  | pair a b => by simp [same, same_self a, same_self b]
  | mapping entries => by
      simpa [same] using sameEntries_of_subset (same_self_of_mem_entries entries) fun _ h => h
  | set members => by
      simpa [same] using sameMembers_of_subset (same_self_of_mem members) fun _ h => h
  | shared number => by simp [same, sameScalar]

theorem sameItems_self : ∀ items : List Datum, sameItems true items items = true
  | [] => by simp [sameItems]
  | x :: rest => by simp [sameItems, same_self x, sameItems_self rest]

theorem same_self_of_mem : ∀ members : List Datum, ∀ x ∈ members, same true x x = true
  | [] => List.forall_mem_nil _
  | x :: rest => List.forall_mem_cons.mpr ⟨same_self x, same_self_of_mem rest⟩

theorem same_self_of_mem_entries : ∀ entries : Entries, ∀ e ∈ entries,
    same true e.1 e.1 = true ∧ same true e.2 e.2 = true
  | [] => List.forall_mem_nil _
  | (key, value) :: rest =>
    List.forall_mem_cons.mpr ⟨⟨same_self key, same_self value⟩, same_self_of_mem_entries rest⟩

end

/-- Whether a datum is a mapping. -/
def isMapping : Datum → Bool
  | mapping _ => true
  | _ => false

theorem isMapping_iff {d : Datum} : d.isMapping = true ↔ ∃ entries, d = mapping entries := by
  cases d <;> simp [isMapping]

end Datum

/-- A map agrees with itself if its values do. -/
theorem OrderedMap.agrees_self {κ α : Type} [DecidableEq κ] {eq : α → α → Bool}
    (heq : ∀ a, eq a a = true) (m : OrderedMap κ α) : m.agrees eq m = true := by
  unfold agrees
  rw [Bool.and_eq_true, List.all_eq_true]
  refine ⟨beq_self_eq_true _, fun e he => ?_⟩
  rw [find?_eq_some_iff.mpr he, Option.any_some]
  exact heq e.2

/-! ### Extras that are written out -/

namespace BaseTokens

/-- The base tokens without the extras that are no mappings. -/
def canonical (base : BaseTokens) : BaseTokens :=
  { base with extras := base.extras.filter fun e => e.2.isMapping }

/-- The extras that stay are those that are written out. -/
theorem filter_isMapping_eq (entries : List (String × Datum)) :
    entries.filter (fun e => e.2.isMapping) =
      (entries.filterMap fun e =>
        match e.2 with
        | .mapping entries => some (e.1, entries)
        | _ => none).map fun e => (e.1, .mapping e.2) := by
  induction entries with
  | nil => rfl
  | cons e rest ih =>
      obtain ⟨name, value⟩ := e
      cases value with
      | mapping entries => rw [List.filter_cons_of_pos rfl, ih]; rfl
      | _ => rw [List.filter_cons_of_neg Bool.false_ne_true, ih]; rfl

theorem entries_canonical (base : BaseTokens) :
    base.canonical.extras.entries = base.mappingExtras.map fun e => (e.1, .mapping e.2) :=
  filter_isMapping_eq base.extras.entries

theorem mappingExtras_canonical (base : BaseTokens) :
    base.canonical.mappingExtras = base.mappingExtras :=
  mappingExtras_of_entries base.entries_canonical

theorem ofList_mappingExtras (base : BaseTokens) :
    OrderedMap.ofList (base.mappingExtras.map fun e => (e.1, Datum.mapping e.2)) =
      base.canonical.extras :=
  OrderedMap.ext (by rw [OrderedMap.entries_ofList (nodup_extras rfl), entries_canonical])

theorem categories_canonical (base : BaseTokens) :
    base.canonical.categories = base.categories := by
  have htokens : ∀ c, base.canonical.tokens c = base.tokens c := by
    intro c
    cases c <;> rfl
  simp only [categories, htokens, mappingExtras_canonical]

/-- The base tokens as data are read as their canonical form. -/
theorem readBase_categories {base : BaseTokens} (hkeeps : base.KeepsNames) (path : List String) :
    readBase base.sharing path (.mapping (base.categories.map fun e => (.text e.1, e.2))) =
      .ok base.canonical := by
  have hentries : base.categories.map (fun e => (Datum.text e.1, e.2)) =
      baseEntries (fun c => (base.tokens c).toDatum) (base.mappingExtras.map mappingEntry) := by
    rw [map_categories]
    rfl
  have hopened : List.Forall₂
      (fun e f => e.1 = .text f.1 ∧ e.2.opened base.sharing = .mapping f.2)
      (base.mappingExtras.map mappingEntry) base.mappingExtras := by
    rw [List.forall₂_map_left_iff]
    exact List.forall₂_same.mpr fun _ _ => ⟨rfl, rfl⟩
  rw [hentries, readBase_baseEntries hkeeps path (fun _ => rfl) rfl hopened,
    ofList_mappingExtras]
  rfl

end BaseTokens

namespace Theme

variable {theme : Theme}

/-- The theme without the extras that are no mappings. -/
def canonical (theme : Theme) : Theme := { theme with base := theme.base.canonical }

/-- **A theme as data is read as its canonical form.** -/
theorem ofDatum_toDatum (hkeeps : theme.base.KeepsNames) :
    ofDatum theme.base.sharing theme.toDatum = .ok theme.canonical := by
  have hmode : ∀ (path : List String) (mode : ModeTokens),
      readMode theme.base.sharing path mode.toDatum = .ok mode := fun path mode =>
    readMode_of_alike path (mode.alike_toDatum theme.base.sharing theme.base.sharing)
  exact ofDatum_of_reads (BaseTokens.readBase_categories hkeeps ["base"]) (hmode _ theme.light)
    (hmode _ theme.dark)

theorem toDatum_canonical (theme : Theme) : theme.canonical.toDatum = theme.toDatum := by
  unfold toDatum toEntries
  rw [show theme.canonical.base.categories = _ from theme.base.categories_canonical]
  rfl

/-- Nothing is generated from extras, so that the stylesheet and the report do not tell whether some
are missing. -/
theorem css_canonical (theme : Theme) : theme.canonical.css = theme.css := rfl

theorem report_canonical (theme : Theme) : theme.canonical.report = theme.report := rfl

/-- A configuration only depends on extras whose keys are written out. -/
theorem tailwind?_canonical (theme : Theme) : theme.canonical.tailwind? = theme.tailwind? := by
  have hprintable : theme.canonical.hasPrintableKeys = theme.hasPrintableKeys := by
    unfold hasPrintableKeys
    rw [show theme.canonical.base.mappingExtras = _ from theme.base.mappingExtras_canonical]
  unfold tailwind?
  rw [hprintable]
  rfl

/-- **Nothing is lost** exactly if all extras are mappings. -/
theorem canonical_eq_self_iff :
    theme.canonical = theme ↔ ∀ e ∈ theme.base.extras.entries, e.2.isMapping = true := by
  rw [← List.filter_eq_self]
  constructor
  · intro h
    exact congrArg (fun t : Theme => t.base.extras.entries) h
  · intro h
    have hextras : theme.base.canonical.extras = theme.base.extras := OrderedMap.ext h
    calc theme.canonical
        = { theme with base := { theme.base with extras := theme.base.canonical.extras } } := rfl
      _ = theme := by rw [hextras]

theorem same_self (theme : Theme) : theme.same true theme = true := by
  have htokens : ∀ tokens : TokenMap, tokens.agrees (· == ·) tokens = true :=
    OrderedMap.agrees_self fun a => beq_self_eq_true a
  have hextras := OrderedMap.agrees_self Datum.same_self theme.base.extras
  have hbase : theme.base.same true theme.base = true := by
    rw [BaseTokens.same, Bool.and_eq_true, List.all_eq_true]
    exact ⟨fun c _ => htokens _, hextras⟩
  simp only [same, beq_self_eq_true, hbase, htokens, Bool.and_self]

/-- A theme is the same as its canonical form exactly if all extras are mappings: an extra that is
lost is missed by the comparison. -/
theorem same_canonical_iff :
    theme.same true theme.canonical = true ↔
      ∀ e ∈ theme.base.extras.entries, e.2.isMapping = true := by
  constructor
  · intro h
    have hsize : theme.base.extras.size = theme.base.canonical.extras.size := by
      simp only [same, BaseTokens.same, OrderedMap.agrees, Bool.and_eq_true, beq_iff_eq] at h
      exact h.1.1.2.2.1
    exact List.length_filter_eq_length_iff.mp hsize.symm
  · intro h
    rw [canonical_eq_self_iff.mpr h]
    exact theme.same_self

/-- **The canonical form of a theme that was read.**  The theme as data is read again. What it is
read as is the same data and gives the same stylesheet or the same fault, the same configuration and
the same report. It is the same theme, in either sense of sameness, exactly if every extra category
of the theme is a mapping. -/
theorem canonical_of_ofDatum (sharing : SharedData) (d : Datum) (theme : Theme)
    (h : ofDatum sharing d = .ok theme) :
    ∃ again, ofDatum theme.base.sharing theme.toDatum = .ok again ∧
      again.toDatum = theme.toDatum ∧ again.base.sharing = theme.base.sharing ∧
      again.css = theme.css ∧ again.tailwind? = theme.tailwind? ∧
      again.report = theme.report ∧
      (theme.same true again = true ↔
        ∀ e ∈ theme.base.extras.entries, ∃ entries, e.2 = .mapping entries) ∧
      (again = theme ↔
        ∀ e ∈ theme.base.extras.entries, ∃ entries, e.2 = .mapping entries) := by
  simp only [← Datum.isMapping_iff]
  exact ⟨theme.canonical, ofDatum_toDatum (keepsNames_of_ofDatum h), theme.toDatum_canonical, rfl,
    theme.css_canonical, theme.tailwind?_canonical, theme.report_canonical, same_canonical_iff,
    canonical_eq_self_iff⟩

/-- Data with an entry under its second name, an empty category, a zIndex token that is a number, and
two extras: the second name of zIndex, with what is no number in it, and a list. -/
def manySpellings : Datum :=
  .mapping [(.text "schema_version", .text supportedSchema), (.text "name", .text "spelled"),
    (.text "base", .mapping [(.text "palette", .null),
      (.text "z_index", .mapping [(.text "old", .float .nan)]),
      (.text "notes", .list [.text "draft"]),
      (.text "zIndex", .mapping [(.text "modal", .int 10)])])]

/-- The theme that they are read as. -/
def spelled : Theme where
  schema := supportedSchema
  name := "spelled"
  description := ""
  base := { BaseTokens.empty with
    zIndex := .ofList [("modal", "10")]
    extras := .ofList [("z_index", .mapping [(.text "old", .float .nan)]),
      ("notes", .list [.text "draft"])] }
  light := .empty
  dark := .empty

/-- The list is lost, and what is no number does no harm. -/
theorem canonical_of_ofDatum_manySpellings :
    ofDatum [] manySpellings = .ok spelled ∧
      ∃ again, ofDatum [] spelled.toDatum = .ok again ∧ again.toDatum = spelled.toDatum ∧
        again.report = spelled.report ∧ spelled.same true again = false ∧ again ≠ spelled := by
  have hread : ofDatum [] manySpellings = .ok spelled := rfl
  have hlost : ¬ ∀ e ∈ spelled.base.extras.entries, ∃ entries, e.2 = .mapping entries := by
    intro h
    obtain ⟨entries, hnotes⟩ := h ("notes", .list [.text "draft"]) (by decide)
    cases hnotes
  obtain ⟨again, hagain, hdata, -, -, -, hreport, hsame, heq⟩ :=
    canonical_of_ofDatum [] manySpellings spelled hread
  refine ⟨hread, again, hagain, hdata, hreport, ?_, mt heq.mp hlost⟩
  rw [← Bool.not_eq_true]
  exact mt hsame.mp hlost

end Theme

end DesignTokens
