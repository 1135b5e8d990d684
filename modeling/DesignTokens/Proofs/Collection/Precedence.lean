import DesignTokens.Proofs.Collection.Agreement
import Mathlib.Data.List.Induction
import Mathlib.Data.List.Permutation

/-!
# Precedence in listings

A listing folds the themes of two folders, file after file, into one record for each name that they
declare. A name takes its place from the first file that declares it and its record from the last
one. As the project's files come after the library's, its themes go before them. Files that give no
theme leave no trace in the listing.

## Main Definitions

* `Workspace.Declares` — a file gives a theme of a name
* `Workspace.SameThemes` — the same files of a folder give the same themes on two disks
* `Collection.DeclaredBefore` — a name is declared before another one is

## Main Statements

* `OrderedMap.pairwise_keys_ofList` — keys stand in the order of their first entries
* `Workspace.exists_sorted_names` — the files of a folder stand in the order of their names
* `Workspace.themesOf_eq_of_sameThemes` — the files without a theme do not matter
* `Collection.prevails_in_project` — a theme of the project prevails over those of the library
* `Collection.lists_by_precedence` — names, records and order of a listing

## Design Notes

What prevails under a name is told by `Collection.Prevails`. That the files without a theme do not
matter is said of any two disks on which a listing succeeds, so that such files may be added,
removed and changed at will.
-/

namespace DesignTokens

namespace OrderedMap

universe u v

variable {κ : Type u} {α : Type v} [DecidableEq κ]

theorem ofList_concat (entries : List (κ × α)) (entry : κ × α) :
    ofList (entries ++ [entry]) = (ofList entries).insert entry.1 entry.2 := by
  simp [ofList]

/-- **Keys stand in the order of their first entries**: of two keys the first one has an entry up to
which the second one has none. -/
theorem pairwise_keys_ofList (entries : List (κ × α)) :
    (ofList entries).keys.Pairwise fun key other => ∃ front value back,
      entries = front ++ (key, value) :: back ∧
        other ∉ (front ++ [(key, value)]).map Prod.fst := by
  -- From the end, as an insertion leaves the keys or adds one behind them.
  induction entries using List.reverseRecOn with
  | nil => exact .nil
  | append_singleton entries entry ih =>
      have hlonger := ih.imp fun {key other} ⟨front, value, back, heq, hother⟩ =>
        (⟨front, value, back ++ [entry], by simp [heq], hother⟩ :
          ∃ front value back, entries ++ [entry] = front ++ (key, value) :: back ∧
            other ∉ (front ++ [(key, value)]).map Prod.fst)
      rw [ofList_concat, keys_insert]
      split
      · exact hlonger
      · next hnew =>
          refine List.pairwise_append.mpr ⟨hlonger, List.pairwise_singleton _ _, ?_⟩
          rintro key hkey other hother
          obtain rfl := List.mem_singleton.mp hother
          rw [mem_keys_ofList] at hkey hnew
          obtain ⟨⟨_, value⟩, hmem, rfl⟩ := List.mem_map.mp hkey
          obtain ⟨front, back, rfl⟩ := List.append_of_mem hmem
          refine ⟨front, value, back ++ [entry], by simp, fun hold => hnew ?_⟩
          simp only [List.map_append, List.map_cons, List.map_nil, List.mem_append,
            List.mem_cons, List.not_mem_nil, or_false] at hold ⊢
          exact hold.imp_right .inl

end OrderedMap

/-! ### Files in order -/

/-- The names in a folder stand in their order, each once. -/
theorem FileTree.sorted_namesIn (tree : FileTree) (folder : Location) :
    (tree.namesIn folder).Pairwise (· < ·) := by
  unfold namesIn
  extract_lets names
  have hnodup : names.Nodup := by
    refine List.Nodup.filterMap (fun first second name hfirst hsecond => ?_)
      tree.entries.nodup_keys
    -- A place is told by its folder and its name.
    split at hfirst
    · next heq =>
        split at hsecond
        · next heq' =>
            rw [← List.dropLast_append_getLast? name hfirst, heq, ← heq',
              List.dropLast_append_getLast? name hsecond]
        · cases hsecond
    · cases hfirst
  let before : String → String → Bool := fun a b => decide (a ≤ b)
  have htrans : ∀ a b c, before a b = true → before b c = true → before a c = true :=
    fun a b c hab hbc => decide_eq_true
      (String.le_trans (of_decide_eq_true hab) (of_decide_eq_true hbc))
  have htotal : ∀ a b, (before a b || before b a) = true := fun a b => by
    simpa [before] using String.le_total a b
  have hsorted := List.pairwise_mergeSort htrans htotal names
  have hdistinct := (List.mergeSort_perm names fun a b => decide (a ≤ b)).nodup_iff.mpr hnodup
  refine hsorted.imp₂ (fun a b hle hne => ?_) hdistinct
  by_contra hlt
  exact hne (String.le_antisymm (of_decide_eq_true hle) (String.not_lt.mp hlt))

namespace Workspace

variable {w w' : Workspace} {folder : Path}

/-- **The files of a folder stand in the order of their names.** -/
theorem exists_sorted_names (w : Workspace) (ending : String) (folder : Path) :
    ∃ names : List String, names.Pairwise (· < ·) ∧ w.entriesEnding ending folder =
      names.map fun name => ⟨folder.anchor, folder.names ++ [name]⟩ := by
  unfold entriesEnding
  split
  · next location _ =>
      split
      · exact ⟨_, (w.tree.sorted_namesIn location).filter _, rfl⟩
      · exact ⟨[], .nil, rfl⟩
  · exact ⟨[], .nil, rfl⟩

/-- A file gives a theme of a name. -/
def Declares (w : Workspace) (file : Path) (name : String) : Prop :=
  ∃ theme, w.loadTheme file = .ok theme ∧ theme.name = name

/-- The same theme files of a folder give the same themes on two disks. The others may differ. -/
def SameThemes (w w' : Workspace) (folder : Path) : Prop :=
  ∀ file theme,
    file ∈ w.entriesEnding Collection.ending folder ∧ w.loadTheme file = .ok theme ↔
      file ∈ w'.entriesEnding Collection.ending folder ∧ w'.loadTheme file = .ok theme

/-- The theme of a name in a folder, if its file gives one. -/
def themeIn? (w : Workspace) (folder : Path) (name : String) : Option (String × Theme) :=
  (w.loadTheme ⟨folder.anchor, folder.names ++ [name]⟩).toOption.map (name, ·)

theorem themeIn?_eq_some_iff {name : String} {entry : String × Theme} :
    w.themeIn? folder name = some entry ↔
      name = entry.1 ∧ w.loadTheme ⟨folder.anchor, folder.names ++ [name]⟩ = .ok entry.2 := by
  unfold themeIn?
  rw [Option.map_eq_some_iff]
  constructor
  · rintro ⟨theme, htheme, rfl⟩
    exact ⟨rfl, toOption_loadTheme_eq_some_iff.mp htheme⟩
  · rintro ⟨rfl, hload⟩
    exact ⟨entry.2, toOption_loadTheme_eq_some_iff.mpr hload, rfl⟩

/-- **The files without a theme do not matter** for the themes of a folder and their order. -/
theorem themesOf_eq_of_sameThemes (h : w.SameThemes w' folder) :
    w.themesOf (w.entriesEnding Collection.ending folder) =
      w'.themesOf (w'.entriesEnding Collection.ending folder) := by
  obtain ⟨names, hsorted, hnames⟩ := w.exists_sorted_names Collection.ending folder
  obtain ⟨names', hsorted', hnames'⟩ := w'.exists_sorted_names Collection.ending folder
  -- The themes with the names of their files are sorted, hence determined by their members.
  have hthemes : ∀ (disk : Workspace) (names : List String),
      disk.themesOf (names.map fun name => ⟨folder.anchor, folder.names ++ [name]⟩) =
        (names.filterMap (disk.themeIn? folder)).map Prod.snd := by
    intro disk names
    rw [themesOf, List.filterMap_map, List.map_filterMap]
    refine List.filterMap_congr fun name _ => ?_
    simp [themeIn?, Function.comp_def]
  have hlt : ∀ (disk : Workspace) {names : List String}, names.Pairwise (· < ·) →
      (names.filterMap (disk.themeIn? folder)).Pairwise fun e f => e.1 < f.1 := by
    intro disk names hnames
    refine hnames.filterMap _ fun name name' hlt e he f hf => ?_
    rw [← (themeIn?_eq_some_iff.mp he).1, ← (themeIn?_eq_some_iff.mp hf).1]
    exact hlt
  have hnodup : ∀ {l : List (String × Theme)}, (l.Pairwise fun e f => e.1 < f.1) → l.Nodup := by
    intro l hl
    refine List.Pairwise.imp (fun {e f} hlt heq => ?_) hl
    rw [heq] at hlt
    exact String.lt_irrefl _ hlt
  have hmem : ∀ e, e ∈ names.filterMap (w.themeIn? folder) ↔
      e ∈ names'.filterMap (w'.themeIn? folder) := by
    rintro ⟨name, theme⟩
    have hfile := h ⟨folder.anchor, folder.names ++ [name]⟩ theme
    rw [hnames, hnames'] at hfile
    simpa [List.mem_filterMap, themeIn?_eq_some_iff] using hfile
  rw [hnames, hnames', hthemes, hthemes]
  refine congrArg (List.map Prod.snd) (List.Perm.eq_of_pairwise ?_ (hlt w hsorted)
    (hlt w' hsorted') ((List.perm_ext_iff_of_nodup (hnodup (hlt w hsorted))
      (hnodup (hlt w' hsorted'))).mpr hmem))
  exact fun e f _ _ hef hfe => absurd hfe (String.lt_asymm hef)

end Workspace

namespace Collection

open Workspace

variable {c : Collection} {w after : Workspace} {listed : List Metadata} {file : Path}
  {name : String}

/-- A name is declared by a file up to which none declares the other one. -/
def DeclaredBefore (c : Collection) (w : Workspace) (name other : String) : Prop :=
  ∃ front file back, c.files w = front ++ file :: back ∧ w.Declares file name ∧
    ∀ earlier ∈ front ++ [file], ¬ w.Declares earlier other

/-! ### Names and their order -/

/-- The records of an overview go by the names of the themes. -/
theorem names_overview (themes : List Theme) :
    (overview themes).map Metadata.name =
      (OrderedMap.ofList (themes.map fun t => (t.name, t.metadata))).keys := by
  rw [overview, OrderedMap.values, OrderedMap.keys, List.map_map]
  refine List.map_congr_left fun entry hentry => ?_
  obtain ⟨theme, -, rfl⟩ := List.mem_map.mp (OrderedMap.mem_of_mem_entries_ofList hentry)
  rfl

theorem mem_names_overview_iff {themes : List Theme} :
    name ∈ (overview themes).map Metadata.name ↔ ∃ theme ∈ themes, theme.name = name := by
  rw [names_overview, OrderedMap.mem_keys_ofList, List.map_map]
  exact List.mem_map

/-- The themes of a collection are those that its files give. -/
theorem exists_mem_themesOf_iff {files : List Path} :
    (∃ theme ∈ w.themesOf files, theme.name = name) ↔ ∃ file ∈ files, w.Declares file name := by
  simp only [themesOf, List.mem_filterMap, toOption_loadTheme_eq_some_iff,
    Workspace.Declares]
  constructor
  · rintro ⟨theme, ⟨file, hfile, hload⟩, hname⟩
    exact ⟨file, hfile, theme, hload, hname⟩
  · rintro ⟨file, hfile, theme, hload, hname⟩
    exact ⟨theme, ⟨file, hfile, hload⟩, hname⟩

/-- The names of an overview stand in the order of the files that declare them first. -/
theorem pairwise_names_overview (c : Collection) (w : Workspace) :
    ((overview (w.themesOf (c.files w))).map Metadata.name).Pairwise (c.DeclaredBefore w) := by
  rw [names_overview]
  refine (OrderedMap.pairwise_keys_ofList _).imp ?_
  rintro name other ⟨front, value, back, heq, hother⟩
  obtain ⟨before, rest, hsplit, rfl, hrest⟩ := List.map_eq_append_iff.mp heq
  obtain ⟨theme, later, rfl, htheme, rfl⟩ := List.map_eq_cons_iff.mp hrest
  obtain ⟨rfl, rfl⟩ := Prod.mk.inj htheme
  -- The theme comes from a file, and the themes before it from that file's predecessors.
  obtain ⟨first, tail, hfiles, rfl, htail⟩ := List.filterMap_eq_append_iff.mp hsplit
  obtain ⟨skipped, file, last, rfl, hskipped, hfile, rfl⟩ := List.filterMap_eq_cons_iff.mp htail
  have hload := toOption_loadTheme_eq_some_iff.mp hfile
  refine ⟨first ++ skipped, file, last, by simp [hfiles], ⟨theme, hload, rfl⟩, ?_⟩
  rintro earlier hearlier ⟨more, hmore, rfl⟩
  refine hother ?_
  simp only [List.map_append, List.map_map, List.mem_append, List.map_cons, List.map_nil,
    List.mem_singleton] at hearlier ⊢
  have hsome := toOption_loadTheme_eq_some_iff.mpr hmore
  rcases hearlier with (hmem | hmem) | rfl
  · exact .inl (List.mem_map.mpr ⟨more, List.mem_filterMap.mpr ⟨earlier, hmem, hsome⟩, rfl⟩)
  · rw [hskipped earlier hmem] at hsome
    cases hsome
  · exact .inr (congrArg Theme.name (Option.some.inj (hsome.symm.trans hfile)))

/-! ### The project goes first -/

/-- **A theme of the project prevails over those of the library**: what prevails under a name that
the project declares stems from the project. -/
theorem prevails_in_project {folder : Path} (hproject : c.project = some folder)
    (hfile : file ∈ w.entriesEnding ending folder) {theme : Theme} {prevailing : Path}
    (hprevails : c.Prevails w prevailing theme) (hdeclares : w.Declares file theme.name) :
    prevailing ∈ w.entriesEnding ending folder := by
  obtain ⟨front, back, hfiles, -, hback⟩ := hprevails
  have hboth : c.files w = w.entriesEnding ending c.library ++ w.entriesEnding ending folder := by
    simp [files, folders, hproject]
  by_contra hlibrary
  obtain ⟨middle, rfl⟩ := exists_back_eq (hfiles.symm.trans hboth) hlibrary
  obtain ⟨other, hload, hname⟩ := hdeclares
  exact hback file (List.mem_append_right _ hfile) other hload hname

/-- **Names, records and order of a listing.**  The theme files of a collection are the library's
and then the project's, in each folder in the order of their names. No name is listed twice, and
listed are the names that some file of either folder declares. The record of a name is that of the
last file that declares it, which is a file of the project if one of these declares it. Records
stand in the order of the first files that declare their names. Files that give no theme have no
influence: wherever the same files give the same themes, the listing is the same. -/
theorem lists_by_precedence (c : Collection) (w : Workspace) {listed : List Metadata}
    {after : Workspace} (hlist : c.list w = .ok listed after) :
    (c.files w = (c.library :: c.project.toList).flatMap (w.entriesEnding ".yaml") ∧
      ∀ folder, ∃ names : List String, names.Pairwise (· < ·) ∧ w.entriesEnding ".yaml" folder =
        names.map fun name => ⟨folder.anchor, folder.names ++ [name]⟩) ∧
    (listed.map Metadata.name).Nodup ∧
    (∀ name, name ∈ listed.map Metadata.name ↔ ∃ file ∈ c.files w, w.Declares file name) ∧
    (∀ m, m ∈ listed ↔ ∃ file theme, c.Prevails w file theme ∧ theme.metadata = m) ∧
    (∀ folder, c.project = some folder → ∀ file ∈ w.entriesEnding ".yaml" folder,
      ∀ m ∈ listed, w.Declares file m.name → ∃ prevailing ∈ w.entriesEnding ".yaml" folder,
        ∃ theme, c.Prevails w prevailing theme ∧ theme.metadata = m) ∧
    listed.Pairwise (fun m other => c.DeclaredBefore w m.name other.name) ∧
    ∀ w' listed' after', c.list w' = .ok listed' after' →
      (∀ folder ∈ c.library :: c.project.toList, w.SameThemes w' folder) → listed' = listed := by
  have hrecords := fun m => mem_list_iff (m := m) hlist
  obtain ⟨-, rfl, -⟩ := (list_eq_ok_iff c w listed after).mp hlist
  refine ⟨⟨rfl, w.exists_sorted_names ".yaml"⟩, ?_, ?_, hrecords, ?_, ?_, ?_⟩
  · rw [names_overview]
    exact OrderedMap.nodup_keys _
  · exact fun name => mem_names_overview_iff.trans exists_mem_themesOf_iff
  · intro folder hproject file hfile m hm hdeclares
    obtain ⟨prevailing, theme, hprevails, rfl⟩ := (hrecords m).mp hm
    exact ⟨prevailing, prevails_in_project hproject hfile hprevails hdeclares, theme, hprevails,
      rfl⟩
  · exact List.pairwise_map.mp (pairwise_names_overview c w)
  · intro w' listed' after' hlist' hsame
    obtain ⟨-, rfl, -⟩ := (list_eq_ok_iff c w' listed' after').mp hlist'
    have hthemes : ∀ disk : Workspace, disk.themesOf (c.files disk) =
        c.folders.flatMap fun folder => disk.themesOf (disk.entriesEnding ending folder) :=
      fun disk => List.filterMap_flatMap
    rw [hthemes, hthemes]
    refine congrArg overview (List.flatMap_congr fun folder hfolder => ?_)
    exact (themesOf_eq_of_sameThemes (hsame folder hfolder)).symm

/-- A library with two themes and a file between them, and a project that declares the first theme
anew. -/
def withBetween (content : String) : Workspace :=
  ⟨⟨.ofList [(["lib"], .folder), (["lib", "a.yaml"], .file (Text.encodeUtf8 "name: sea\n")),
    (["lib", "b.yaml"], .file (Text.encodeUtf8 content)),
    (["lib", "c.yaml"], .file (Text.encodeUtf8 "name: wood\n")), (["themes"], .folder),
    (["themes", "z.yaml"], .file (Text.encodeUtf8 "name: sea\ndescription: anew\n"))]⟩, [], []⟩

/-- The files of a folder of both. -/
def filesBetween (folder : Path) : List Path :=
  if folder = ⟨.relative, ["lib"]⟩ then
    ["a.yaml", "b.yaml", "c.yaml"].map fun name => ⟨.relative, ["lib", name]⟩
  else [⟨.relative, ["themes", "z.yaml"]⟩]

theorem entriesEnding_withBetween (content : String) : ∀ folder ∈ ofBoth.folders,
    (withBetween content).entriesEnding ending folder = filesBetween folder := by
  have hkeys : (withBetween content).tree.entries.keys = [["lib"], ["lib", "a.yaml"],
      ["lib", "b.yaml"], ["lib", "c.yaml"], ["themes"], ["themes", "z.yaml"]] := rfl
  have hlibrary : (withBetween content).tree.namesIn ["lib"] = ["a.yaml", "b.yaml", "c.yaml"] := by
    rw [FileTree.namesIn, hkeys]
    cbv
  have hproject : (withBetween content).tree.namesIn ["themes"] = ["z.yaml"] := by
    rw [FileTree.namesIn, hkeys]
    cbv
  have hentries : ∀ folder ∈ ofBoth.folders, (withBetween content).entriesEnding ending folder =
      (((withBetween content).tree.namesIn folder.names).filter fun name =>
        ending.toList.isSuffixOf name.toList).map fun name =>
          ⟨folder.anchor, folder.names ++ [name]⟩ := by
    intro folder hfolder
    rcases List.mem_cons.mp hfolder with rfl | hfolder
    · rfl
    · rw [List.mem_singleton.mp hfolder]
      rfl
  intro folder hfolder
  rw [hentries folder hfolder]
  rcases List.mem_cons.mp hfolder with rfl | hfolder
  · rw [show ofBoth.library.names = ["lib"] from rfl, hlibrary]
    decide +kernel
  · rw [List.mem_singleton.mp hfolder, hproject]
    decide +kernel

theorem list_withBetween {content : String} (h : content = "[" ∨ content = "- 1\n") :
    ∃ after, ofBoth.list (withBetween content) =
      .ok [⟨"sea", "anew", 0, []⟩, ⟨"wood", "", 0, []⟩] after := by
  have hfiles := entriesEnding_withBetween content
  have hlooks : ∀ folder ∈ ofBoth.folders,
      ((withBetween content).tree.look (withBetween content).folder folder).toOption.isSome =
        true ∧ ∀ file ∈ filesBetween folder,
          (fault? ((withBetween content).loadTheme file)).all Failure.isThemeFailure = true := by
    rcases h with rfl | rfl <;> decide +kernel
  have hrecords : overview ((withBetween content).themesOf
      (ofBoth.folders.flatMap filesBetween)) = [⟨"sea", "anew", 0, []⟩, ⟨"wood", "", 0, []⟩] := by
    rcases h with rfl | rfl <;> decide +kernel
  rw [← List.flatMap_congr hfiles] at hrecords
  refine ⟨_, (list_eq_ok_iff _ _ _ _).mpr ⟨fun folder hfolder => ?_, hrecords.symm, rfl⟩⟩
  obtain ⟨hlook, hadmits⟩ := hlooks folder hfolder
  constructor
  · cases hfound : (withBetween content).tree.look (withBetween content).folder folder with
    | ok found => exact ⟨found, rfl⟩
    | error cause => simp [hfound, Except.toOption] at hlook
  · rintro file hfile failure ⟨hload, hkind⟩
    have hall := hadmits file (hfiles folder hfolder ▸ hfile)
    rw [hload] at hall
    simp [hkind] at hall

/-- Two files that give no theme are the same to a listing. -/
theorem sameThemes_withBetween {folder : Path} (hfolder : folder ∈ ofBoth.folders) :
    (withBetween "[").SameThemes (withBetween "- 1\n") folder := by
  have hloads : ∀ folder ∈ ofBoth.folders, ∀ file ∈ filesBetween folder,
      (withBetween "[").readBytes file = (withBetween "- 1\n").readBytes file ∨
        ((withBetween "[").loadTheme file).toOption.isNone = true ∧
          ((withBetween "- 1\n").loadTheme file).toOption.isNone = true := by decide +kernel
  intro file theme
  rw [entriesEnding_withBetween _ folder hfolder, entriesEnding_withBetween _ folder hfolder]
  refine and_congr_right fun hfile => ?_
  rcases hloads folder hfolder file hfile with hread | ⟨hnone, hnone'⟩
  · rw [loadTheme, loadTheme, hread]
  · rw [← toOption_loadTheme_eq_some_iff, ← toOption_loadTheme_eq_some_iff,
      Option.isNone_iff_eq_none.mp hnone, Option.isNone_iff_eq_none.mp hnone']

/-- The project's record stands at the place of the library's. -/
theorem lists_by_precedence_withBetween : ∃ listed after,
    ofBoth.list (withBetween "[") = .ok listed after ∧ (listed.map Metadata.name).Nodup ∧
      ⟨"sea", "anew", 0, []⟩ ∈ listed ∧ ofBoth.DeclaredBefore (withBetween "[") "sea" "wood" ∧
      ∃ after', ofBoth.list (withBetween "- 1\n") = .ok listed after' := by
  obtain ⟨after, hlist⟩ := list_withBetween (.inl rfl)
  obtain ⟨after', hlist'⟩ := list_withBetween (.inr rfl)
  obtain ⟨-, hnodup, -, -, -, horder, hsame⟩ := lists_by_precedence ofBoth _ hlist
  have hbefore := (List.pairwise_cons.mp horder).1 _ (List.mem_singleton_self _)
  refine ⟨_, after, hlist, hnodup, List.mem_cons_self, hbefore, after', ?_⟩
  rw [← hsame _ _ _ hlist' fun folder => sameThemes_withBetween]
  exact hlist'

end Collection

end DesignTokens
