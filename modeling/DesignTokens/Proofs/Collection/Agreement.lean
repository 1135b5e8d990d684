import DesignTokens.Generator
import DesignTokens.Proofs.Collection.Discovery
import DesignTokens.Proofs.Collection.Stability
import DesignTokens.Proofs.Generator.Undoing
import DesignTokens.Service

/-!
# Listings and look-ups

A listing goes by the names that themes declare, a look-up by the names of files. This module tells
which themes a listing tells of, and which of them a look-up of the listed name finds. Both agree on
a name that only the files of the name declare.

## Main Definitions

* `Collection.Prevails` — a file whose theme is the one that is listed under its name
* `Collection.Reaches` — a look-up of the name in a record finds the theme that it describes
* `Collection.IsFiled` — a name that is declared by the themes of its files, and by no others

## Main Statements

* `Collection.mem_list_iff` — the records of a listing are those of the files that prevail
* `Collection.reaches_iff` — where a record is reached
* `Collection.IsFiled.reaches` — a listed name that is filed is reached
* `Collection.lists_and_finds` — listings, look-ups and what is offered for an unknown name
* `Collection.not_forall_reaches` — a listed name may lead to another theme

## Design Notes

Of two files that declare the same name the later one prevails, and the project's files come later
than the library's. A look-up tries the project's file first. So both prefer the project, but only
among files that have the name of the theme.
-/

namespace DesignTokens

namespace OrderedMap

universe u v

variable {κ : Type u} {α : Type v} [DecidableEq κ]

theorem mem_values_iff {m : OrderedMap κ α} {value : α} :
    value ∈ m.values ↔ ∃ key, m.find? key = some value := by
  simp [values, find?_eq_some_iff]

/-- **The last entry under a key is the one that stays.** -/
theorem find?_ofList_eq_some_iff {entries : List (κ × α)} {key : κ} {value : α} :
    (ofList entries).find? key = some value ↔
      ∃ front back, entries = front ++ (key, value) :: back ∧ key ∉ back.map Prod.fst := by
  -- What a map holds before stays if no entry under the key is inserted.
  have hfold : ∀ (rest : List (κ × α)) (m : OrderedMap κ α),
      (rest.foldl (fun m e => m.insert e.1 e.2) m).find? key = some value ↔
        (∃ front back, rest = front ++ (key, value) :: back ∧ key ∉ back.map Prod.fst) ∨
          (key ∉ rest.map Prod.fst ∧ m.find? key = some value) := by
    intro rest
    induction rest with
    | nil => simp
    | cons entry rest ih =>
        obtain ⟨first, new⟩ := entry
        intro m
        rw [List.foldl_cons, ih, find?_insert]
        constructor
        · rintro (⟨front, back, rfl, hback⟩ | ⟨hrest, hfind⟩)
          · exact .inl ⟨(first, new) :: front, back, rfl, hback⟩
          · split at hfind
            · next hkey =>
                cases hfind
                exact .inl ⟨[], rest, by rw [hkey]; rfl, hrest⟩
            · next hkey => exact .inr ⟨by simpa [hkey] using hrest, hfind⟩
        · rintro (⟨front, back, heq, hback⟩ | ⟨hrest, hfind⟩)
          · rcases List.cons_eq_append_iff.mp heq with ⟨rfl, hcons⟩ | ⟨front, rfl, rfl⟩
            · cases hcons
              exact .inr ⟨hback, if_pos rfl⟩
            · exact .inl ⟨front, back, rfl, hback⟩
          · rw [List.map_cons, List.mem_cons, not_or] at hrest
            exact .inr ⟨hrest.2, by rw [if_neg hrest.1]; exact hfind⟩
  simpa [ofList] using hfold entries empty

end OrderedMap

namespace Workspace

variable {w : Workspace} {file folder : Path} {name : String} {theme : Theme}

theorem toOption_loadTheme_eq_some_iff :
    (w.loadTheme file).toOption = some theme ↔ w.loadTheme file = .ok theme := by
  cases w.loadTheme file <;> simp [Except.toOption]

/-- A look-up ends at a file with a theme if the file gives it. -/
theorem themeAt?_eq_some_iff :
    w.themeAt? file = .ok (some theme) ↔ w.loadTheme file = .ok theme := by
  constructor
  · intro hfound
    obtain ⟨entry, hfind⟩ := exists_find_of_themeAt? hfound
    rw [loadTheme_of_find hfind]
    unfold themeAt? at hfound
    simp only [hfind] at hfound
    cases hload : entry.theme file with
    | ok other =>
        rw [hload] at hfound
        cases hfound
        rfl
    | error failure =>
        rw [hload] at hfound
        cases toOption_of_skipped hfound
  · intro hload
    cases hfind : w.tree.find w.folder file with
    | ok entry =>
        rw [loadTheme_of_find hfind] at hload
        unfold themeAt?
        rw [hfind]
        simp only [hload, skipped]
    | error cause =>
        unfold loadTheme readBytes FileTree.read at hload
        rw [hfind] at hload
        cases hload

/-- The entries of a folder stand directly in it. -/
theorem exists_of_mem_entriesEnding {ending : String} (h : file ∈ w.entriesEnding ending folder) :
    ∃ last, file = ⟨folder.anchor, folder.names ++ [last]⟩ := by
  unfold entriesEnding at h
  split at h
  · split at h
    · obtain ⟨last, -, rfl⟩ := List.mem_map.mp h
      exact ⟨last, rfl⟩
    · cases h
  · cases h

/-- What stands at the file of a name is one of the theme files of its folder. -/
theorem fileIn_mem_entriesEnding (hname : '/' ∉ name.toList) {found : Option Entry}
    (hlook : w.tree.look w.folder folder = .ok found) {entry : Entry}
    (hfind : w.tree.find w.folder (Collection.fileIn folder name) = .ok entry) :
    Collection.fileIn folder name ∈ w.entriesEnding Collection.ending folder := by
  obtain ⟨location, hlocate, hentry⟩ := find_eq_ok_iff.mp hfind
  obtain ⟨hnameable, -, hwalkFile⟩ := FileTree.locate_eq_ok_iff.mp hlocate
  obtain ⟨around, hwalk, haround, -, rfl⟩ := (walk_fileIn_eq_ok_iff hname).mp hwalkFile
  have hfile := Collection.fileIn_eq folder hname
  -- The folder is nameable as the file is, and its path is short because it was looked up.
  have hfolderNameable : folder.isNameable = true := by
    rw [hfile] at hnameable
    simp only [Path.isNameable, List.all_append, Bool.and_eq_true] at hnameable ⊢
    exact hnameable.1
  have hfolder : w.tree.locate w.folder folder = .ok around := by
    refine FileTree.locate_eq_ok_iff.mpr ⟨hfolderNameable, ?_, hwalk⟩
    by_contra hlong
    have htooLong : w.tree.find w.folder folder = .error .tooLong :=
      find_eq_tooLong_iff.mpr (FileTree.locate_eq_tooLong_iff.mpr
        ⟨hfolderNameable, .inl (Nat.not_le.mp hlong)⟩)
    unfold FileTree.look at hlook
    rw [htooLong] at hlook
    cases hlook
  refine (Collection.mem_entriesEnding_iff hfolder haround _).mpr
    ⟨name ++ Collection.ending, ?_, ?_, hfile⟩
  · unfold FileTree.entry? at hentry
    rw [if_neg (by simp)] at hentry
    exact OrderedMap.exists_find?_iff.mp ⟨entry, hentry⟩
  · exact ⟨name.toList, String.toList_append.symm⟩

end Workspace

namespace Collection

open Workspace

variable {c : Collection} {w after : Workspace} {listed : List Metadata} {m : Metadata}
  {name : String} {file : Path} {theme : Theme}

/-! ### What is listed -/

/-- A file gives a theme, and none of the files after it gives one that declares the same name. -/
def Prevails (c : Collection) (w : Workspace) (file : Path) (theme : Theme) : Prop :=
  ∃ front back, c.files w = front ++ file :: back ∧ w.loadTheme file = .ok theme ∧
    ∀ other ∈ back, ∀ more, w.loadTheme other = .ok more → more.name ≠ theme.name

/-- The last theme of a name is the one that is told of. -/
theorem mem_overview_iff {themes : List Theme} :
    m ∈ overview themes ↔ ∃ front theme back, themes = front ++ theme :: back ∧
      theme.metadata = m ∧ ∀ other ∈ back, other.name ≠ theme.name := by
  unfold overview
  simp only [OrderedMap.mem_values_iff, OrderedMap.find?_ofList_eq_some_iff]
  constructor
  · rintro ⟨name, front, back, heq, hback⟩
    obtain ⟨earlier, rest, rfl, rfl, hrest⟩ := List.map_eq_append_iff.mp heq
    obtain ⟨theme, later, rfl, htheme, rfl⟩ := List.map_eq_cons_iff.mp hrest
    obtain ⟨rfl, rfl⟩ := Prod.mk.inj htheme
    refine ⟨earlier, theme, later, rfl, rfl, fun other hother hname => hback ?_⟩
    rw [List.map_map]
    exact List.mem_map.mpr ⟨other, hother, hname⟩
  · rintro ⟨front, theme, back, rfl, rfl, hback⟩
    refine ⟨theme.name, _, _, by rw [List.map_append, List.map_cons], ?_⟩
    rw [List.map_map]
    intro hmem
    obtain ⟨other, hother, hname⟩ := List.mem_map.mp hmem
    exact hback other hother hname

/-- **The records of a listing** are those of the files that prevail. -/
theorem mem_list_iff (hlist : c.list w = .ok listed after) :
    m ∈ listed ↔ ∃ file theme, c.Prevails w file theme ∧ theme.metadata = m := by
  obtain ⟨-, rfl, -⟩ := (list_eq_ok_iff c w listed after).mp hlist
  rw [mem_overview_iff]
  unfold themesOf Prevails
  constructor
  · rintro ⟨front, theme, back, heq, hm, hback⟩
    obtain ⟨before, rest, hfiles, rfl, hrest⟩ := List.filterMap_eq_append_iff.mp heq
    obtain ⟨skipped, file, later, rfl, -, hfile, rfl⟩ := List.filterMap_eq_cons_iff.mp hrest
    refine ⟨file, theme, ⟨before ++ skipped, later, by simp [hfiles], ?_, ?_⟩, hm⟩
    · exact toOption_loadTheme_eq_some_iff.mp hfile
    · intro other hother more hmore
      exact hback more (List.mem_filterMap.mpr ⟨other, hother, by rw [hmore]; rfl⟩)
  · rintro ⟨file, theme, ⟨front, back, heq, hload, hback⟩, hm⟩
    refine ⟨front.filterMap fun file => (w.loadTheme file).toOption, theme,
      back.filterMap fun file => (w.loadTheme file).toOption, ?_, hm, ?_⟩
    · rw [heq, List.filterMap_append, List.filterMap_cons_some (by rw [hload]; rfl)]
    · intro other hother
      obtain ⟨place, hplace, hother⟩ := List.mem_filterMap.mp hother
      exact hback place hplace other (toOption_loadTheme_eq_some_iff.mp hother)

/-! ### What is reached -/

/-- A look-up of the name in a record finds the theme that the record describes. -/
def Reaches (c : Collection) (w : Workspace) (m : Metadata) : Prop :=
  ∃ theme next after, c.find m.name w = .ok (some theme, next) after ∧ theme.metadata = m

/-- **A record is reached** if the first of the files of its name that a look-up does not pass over
gives the theme that the record describes. -/
theorem reaches_iff (hseen : c.seen.find? m.name = none) :
    c.Reaches w m ↔ ∃ front file rest theme, c.candidates m.name = front ++ file :: rest ∧
      (∀ other ∈ front, w.themeAt? other = .ok none) ∧ w.loadTheme file = .ok theme ∧
      theme.metadata = m := by
  constructor
  · rintro ⟨theme, next, after, hfind, hm⟩
    rcases (find_eq_ok_logged_iff c m.name w (some theme) after).mp ⟨next, hfind⟩ with
      ⟨other, hother, -⟩ | ⟨-, hfirst, -⟩
    · rw [hseen] at hother
      cases hother
    · obtain ⟨front, file, rest, heq, hfront, hfile⟩ := (firstOf_eq_iff (by simp) _).mp hfirst
      exact ⟨front, file, rest, theme, heq, hfront, themeAt?_eq_some_iff.mp hfile, hm⟩
  · rintro ⟨front, file, rest, theme, heq, hfront, hload, hm⟩
    have hfirst : w.firstOf (c.candidates m.name) = .ok (some theme) :=
      (firstOf_eq_iff (by simp) _).mpr
        ⟨front, file, rest, heq, hfront, themeAt?_eq_some_iff.mpr hload⟩
    obtain ⟨next, hfind⟩ := (find_eq_ok_logged_iff c m.name w (some theme) _).mpr
      (.inr ⟨hseen, hfirst, rfl⟩)
    exact ⟨theme, next, _, hfind, hm⟩

/-- A name is declared by the themes of its files, and by no others. -/
structure IsFiled (c : Collection) (w : Workspace) (name : String) : Prop where
  /-- The name does not part folders. -/
  whole : '/' ∉ name.toList
  /-- No file of the name has a path that is too long. -/
  short : ∀ file ∈ c.candidates name, w.tree.find w.folder file ≠ .error .tooLong
  /-- The themes that declare the name are those of the files of the name. -/
  declared : ∀ file ∈ c.files w, ∀ theme, w.loadTheme file = .ok theme →
    (theme.name = name ↔ file ∈ c.candidates name)

/-- The files of the last folder are behind a file that is not among them. -/
theorem exists_back_eq {α : Type} {front back first last : List α} {a : α}
    (heq : front ++ a :: back = first ++ last) (ha : a ∉ last) :
    ∃ middle, back = middle ++ last := by
  rcases List.append_eq_append_iff.mp heq with ⟨middle, -, hrest⟩ | ⟨middle, -, hrest⟩
  · rcases List.cons_eq_append_iff.mp hrest with ⟨-, hlast⟩ | ⟨middle, -, hback⟩
    · exact absurd (by simp [hlast]) ha
    · exact ⟨middle, hback⟩
  · exact absurd (by simp [hrest]) ha

/-- **A filed name whose library file prevails has no theme in the project**, as that one would come
later. -/
theorem IsFiled.themeAt?_project (hfiled : c.IsFiled w theme.name)
    (hprevails : c.Prevails w (fileIn c.library theme.name) theme) {folder : Path}
    (hproject : c.project = some folder) (hlistable : IsListable w folder)
    (hne : fileIn c.library theme.name ≠ fileIn folder theme.name) :
    w.themeAt? (fileIn folder theme.name) = .ok none := by
  have hcandidate : fileIn folder theme.name ∈ c.candidates theme.name := by
    simp [candidates, hproject]
  obtain ⟨⟨looked, hlook⟩, hadmits⟩ := hlistable
  cases hfind : w.tree.find w.folder (fileIn folder theme.name) with
  | error cause =>
      refine themeAt?_eq_none (fun entry hentry => ?_) (hfiled.short _ hcandidate)
      rw [hfind] at hentry
      cases hentry
  | ok entry =>
      have hmem := fileIn_mem_entriesEnding hfiled.whole hlook hfind
      have hfiles : c.files w =
          w.entriesEnding ending c.library ++ w.entriesEnding ending folder := by
        simp [files, folders, hproject]
      have hload := loadTheme_of_find hfind
      unfold themeAt?
      simp only [hfind, ← hload]
      cases hresult : w.loadTheme (fileIn folder theme.name) with
      | error failure =>
          cases hkind : failure.isThemeFailure with
          | true => simp [skipped, hkind]
          | false => exact absurd ⟨hresult, hkind⟩ (hadmits _ hmem failure)
      | ok more =>
          have hname : more.name = theme.name :=
            (hfiled.declared _ (by simp [hfiles, hmem]) more hresult).mpr hcandidate
          obtain ⟨front, back, heq, -, hback⟩ := hprevails
          -- A project file in the place of the library's has its last name, hence is this file.
          have hnotMem : fileIn c.library theme.name ∉ w.entriesEnding ending folder := by
            intro hproject'
            obtain ⟨last, hplace⟩ := exists_of_mem_entriesEnding hproject'
            rw [fileIn_eq c.library hfiled.whole, fileIn_eq folder hfiled.whole] at hne
            rw [fileIn_eq c.library hfiled.whole, Path.mk.injEq] at hplace
            obtain ⟨hanchor, hnames⟩ := hplace
            obtain ⟨hfolder, -⟩ := List.append_inj' hnames rfl
            exact hne (by rw [hanchor, hfolder])
          obtain ⟨middle, rfl⟩ := exists_back_eq (heq.symm.trans hfiles) hnotMem
          exact absurd hname (hback _ (by simp [hmem]) more hresult)

/-- **A listed name that is filed is reached.** -/
theorem IsFiled.reaches (hseen : c.seen.find? m.name = none) (hlist : c.list w = .ok listed after)
    (hm : m ∈ listed) (hfiled : c.IsFiled w m.name) : c.Reaches w m := by
  obtain ⟨file, theme, hprevails, rfl⟩ := (mem_list_iff hlist).mp hm
  have hlistable := ((list_eq_ok_iff c w listed after).mp hlist).1
  obtain ⟨front, back, heq, hload, -⟩ := id hprevails
  have hcandidate : file ∈ c.candidates theme.name :=
    (hfiled.declared file (by simp [heq]) theme hload).mp rfl
  rw [reaches_iff hseen]
  cases hproject : c.project with
  | none =>
      have hlibrary : c.candidates theme.name = [fileIn c.library theme.name] := by
        simp [candidates, hproject]
      rw [hlibrary, List.mem_singleton] at hcandidate
      exact ⟨[], file, [], theme, by rw [hcandidate]; exact hlibrary, by simp, hload, rfl⟩
  | some folder =>
      have hboth : c.candidates theme.name =
          [fileIn folder theme.name, fileIn c.library theme.name] := by
        simp [candidates, hproject]
      by_cases hfile : file = fileIn folder theme.name
      · exact ⟨[], file, [_], theme, by rw [hfile]; exact hboth, by simp, hload, rfl⟩
      · obtain rfl : file = fileIn c.library theme.name := by simpa [hboth, hfile] using hcandidate
        refine ⟨[fileIn folder theme.name], _, [], theme, hboth, ?_, hload, rfl⟩
        rw [List.forall_mem_singleton]
        exact hfiled.themeAt?_project hprevails hproject
          (hlistable folder (by simp [folders, hproject])) hfile

end Collection

/-! ### What is offered -/

namespace Generator

open Collection

variable {w after : Workspace} {text : String} {folder : Path} {m : Metadata}

/-- What ends a look-up has not to do with a theme. -/
theorem isThemeFailure_of_firstOf {files : List Path} {failure : Failure}
    (h : w.firstOf files = .error failure) : failure.isThemeFailure = false := by
  obtain ⟨front, file, rest, -, -, hfile⟩ := (Workspace.firstOf_eq_iff (by simp) files).mp h
  unfold Workspace.themeAt? at hfile
  split at hfile
  · exact (skipped_eq_error_iff.mp hfile).2
  · cases hfile
    rfl
  · cases hfile

/-- What hinders a listing has not to do with a theme. -/
theorem isThemeFailure_of_hinders {failure : Failure} (h : Hinders w folder failure) :
    failure.isThemeFailure = false := by
  rcases h with ⟨cause, -, rfl⟩ | ⟨file, -, -, hkind⟩
  · rfl
  · exact hkind

/-- No file fails because a name is unknown. -/
theorem loadTheme_ne_unknownTheme (file : Path) (name : String) (names : List String) :
    w.loadTheme file ≠ .error (.unknownTheme name names) := by
  unfold Workspace.loadTheme
  split
  · split
    · simp
    · simp
  · split
    · unfold Failure.ofDocument
      split <;> simp
    · split
      · next entries _ =>
          cases Theme.parse _ entries with
          | ok theme => simp [Except.mapError]
          | error fault => cases fault <;> simp [Except.mapError, Failure.ofTheme]
      · simp

/-- **For an unknown name the listed names are offered.** -/
theorem exists_list_eq_of_loadTheme {name : String} {names : List String}
    (h : loadTheme text folder w = .error (.unknownTheme name names) after) :
    name = text ∧ ∃ listed between, (make none (some folder)).list w = .ok listed between ∧
      names = listed.map Metadata.name := by
  have hends : (loadTheme text folder).Ends w (fun _ _ => True) fun failure _ =>
      ∀ name names, failure = .unknownTheme name names → name = text ∧ ∃ listed between,
        (make none (some folder)).list w = .ok listed between ∧
          names = listed.map Metadata.name := by
    unfold loadTheme
    refine ((isFilePath_ends _ w).mono_bad ?_).bind ?_
    · rintro failure _ ⟨-, hkind⟩ name names rfl
      cases hkind
    · rintro isPath _ rfl
      split
      · refine Job.ends_get_bind (Job.ends_ofExcept (fun _ _ => trivial) ?_)
        rintro failure hload name names rfl
        exact absurd hload (loadTheme_ne_unknownTheme _ name names)
      · refine ((find_log_ends rfl _).mono_bad ?_).bind ?_
        · rintro failure _ ⟨-, hfirst⟩ name names rfl
          cases isThemeFailure_of_firstOf hfirst
        · rintro ⟨found, next⟩ between ⟨-, hnext, hbetween⟩
          cases found with
          | some theme => exact Job.ends_pure trivial
          | none =>
              -- The listing is made on the same disk, after the warnings of the look-up.
              obtain rfl : next = make none (some folder) := hnext
              subst hbetween
              refine ((list_log_ends _ _).mono_bad ?_).bind ?_
              · rintro failure _ ⟨place, -, hhinders⟩ name names rfl
                cases isThemeFailure_of_hinders hhinders
              · rintro listed _ ⟨hlistable, hlisted, -⟩
                refine Job.ends_throw ?_
                rintro name names hfailure
                cases hfailure
                exact ⟨rfl, listed, _, (list_eq_ok_iff _ _ _ _).mpr ⟨hlistable, hlisted, rfl⟩, rfl⟩
  exact hends.of_error h name names rfl

/-- **A name that is no path of a file is loaded** exactly if it is looked up with success. -/
theorem loadTheme_eq_ok_iff (hpath : isFilePath (.ofText text) w = .ok false w) {theme : Theme} :
    loadTheme text folder w = .ok theme after ↔
      ∃ next, (make none (some folder)).find text w = .ok (some theme, next) after := by
  unfold loadTheme
  simp only [bind, EStateM.bind, hpath, Bool.false_eq_true, if_false]
  cases hfind : (make none (some folder)).find text w with
  | error failure between => simp
  | ok result between =>
      obtain ⟨found, next⟩ := result
      cases found with
      | some other => simp [pure, EStateM.pure]
      | none =>
          refine iff_of_false (fun hload => ?_) (by simp)
          -- The listing may fail as well, but in no case is a theme loaded.
          simp only [EStateM.bind] at hload
          split at hload <;> cases hload

end Generator

/-- **A request about a reached record is answered from the theme that it describes**, whatever is
asked about it. -/
theorem Service.exists_answerFor_eq {s : Service} {w : Workspace} {m : Metadata}
    (h : s.themes.Reaches w m) (attempted : String) (expected : Failure → Bool)
    (compile : Theme → Job Json) :
    ∃ theme next between, theme.metadata = m ∧
      s.answerFor m.name attempted expected compile w =
        (do return (← answering attempted expected (compile theme), { s with themes := next }))
          between := by
  obtain ⟨theme, next, between, hfind, hm⟩ := h
  refine ⟨theme, next, between, hm, ?_⟩
  unfold answerFor Job.attempt
  simp only [bind, EStateM.bind, hfind]

namespace Collection

/-- **Listings and look-ups.**  A listing tells of the themes that prevail among those of their
names. A record is reached by its name if the first of the files of the name that is not passed over
gives the theme that the record describes; a listed name that is filed always is. Requests about a
reached record are answered from that theme. The generator offers the listed names when a name is
unknown, and loads a name that is no path of a file as a look-up does. -/
theorem lists_and_finds (library project : Option Path) (w : Workspace) {listed : List Metadata}
    {after : Workspace} (hlist : (make library project).list w = .ok listed after) :
    (∀ m, m ∈ listed ↔ ∃ file theme,
      (make library project).Prevails w file theme ∧ theme.metadata = m) ∧
    (∀ m, (make library project).Reaches w m ↔ ∃ front file rest theme,
      (make library project).candidates m.name = front ++ file :: rest ∧
      (∀ other ∈ front, w.themeAt? other = .ok none) ∧ w.loadTheme file = .ok theme ∧
      theme.metadata = m) ∧
    (∀ m ∈ listed, (make library project).IsFiled w m.name →
      (make library project).Reaches w m) ∧
    (∀ m, (make library project).Reaches w m → ∀ s : Service, s.themes = make library project →
      ∀ attempted expected compile, ∃ theme next between, theme.metadata = m ∧
        s.answerFor m.name attempted expected compile w =
          (do return (← Service.answering attempted expected (compile theme),
            { s with themes := next })) between) ∧
    ∀ folder, library = none → project = some folder →
      (∀ text name names last,
        Generator.loadTheme text folder w = .error (.unknownTheme name names) last →
          names = listed.map Metadata.name) ∧
      ∀ m, Generator.isFilePath (.ofText m.name) w = .ok false w →
        ((∃ theme last, Generator.loadTheme m.name folder w = .ok theme last ∧
          theme.metadata = m) ↔ (make library project).Reaches w m) := by
  refine ⟨fun m => mem_list_iff hlist, fun m => reaches_iff rfl,
    fun m hm hfiled => hfiled.reaches rfl hlist hm, ?_, ?_⟩
  · rintro m hreaches s hthemes
    exact Service.exists_answerFor_eq (hthemes.symm ▸ hreaches)
  · rintro folder rfl rfl
    constructor
    · intro text name names last herror
      obtain ⟨-, others, between, hothers, rfl⟩ := Generator.exists_list_eq_of_loadTheme herror
      rw [hlist] at hothers
      cases hothers
      rfl
    · intro m hpath
      simp only [Generator.loadTheme_eq_ok_iff hpath]
      constructor
      · rintro ⟨theme, last, ⟨next, hfind⟩, hm⟩
        exact ⟨theme, next, last, hfind, hm⟩
      · rintro ⟨theme, next, last, hfind, hm⟩
        exact ⟨theme, last, ⟨next, hfind⟩, hm⟩

/-- A library with the theme `a`, and a project in which a file of some name declares it anew. -/
def declaredAnew (name : String) : Workspace :=
  ⟨⟨.ofList [(["lib"], .folder), (["lib", "a.yaml"], .file (Text.encodeUtf8 "name: a\n")),
    (["themes"], .folder), (["themes", name],
      .file (Text.encodeUtf8 "name: a\ndescription: anew\n"))]⟩, [], []⟩

/-- The collection of a library and a project. -/
def ofBoth : Collection := make (some ⟨.relative, ["lib"]⟩) (some ⟨.relative, ["themes"]⟩)

/-- The listing tells of the project's theme, whatever the name of its file. -/
theorem lists_declaredAnew (name : String) (h : name = "a.yaml" ∨ name = "b.yaml") :
    ∃ after, ofBoth.list (declaredAnew name) = .ok [⟨"a", "anew", 0, []⟩] after := by
  have hpasses : ofBoth.list.passes (declaredAnew name) fun listed _ =>
      decide (listed = [⟨"a", "anew", 0, []⟩]) := by
    rcases h with rfl | rfl <;> decide +kernel
  obtain ⟨listed, after, hlist, hlisted⟩ := Job.exists_of_passes hpasses
  exact ⟨after, of_decide_eq_true hlisted ▸ hlist⟩

theorem isFiled_declaredAnew : ofBoth.IsFiled (declaredAnew "a.yaml") "a" where
  whole := by decide
  short := by decide +kernel
  declared := by
    have hfiles : ∀ file ∈ ofBoth.files (declaredAnew "a.yaml"),
        ((declaredAnew "a.yaml").loadTheme file).toOption.map Theme.name = some "a" ∧
          file ∈ ofBoth.candidates "a" := by decide +kernel
    intro file hfile theme hload
    obtain ⟨hname, hcandidate⟩ := hfiles file hfile
    rw [hload] at hname
    exact iff_of_true (Option.some.inj hname) hcandidate

theorem lists_and_finds_declaredAnew : ∃ listed after,
    ofBoth.list (declaredAnew "a.yaml") = .ok listed after ∧
      ⟨"a", "anew", 0, []⟩ ∈ listed ∧
      ofBoth.Reaches (declaredAnew "a.yaml") ⟨"a", "anew", 0, []⟩ := by
  obtain ⟨after, hlist⟩ := lists_declaredAnew "a.yaml" (.inl rfl)
  refine ⟨_, after, hlist, List.mem_singleton_self _, ?_⟩
  exact (lists_and_finds _ _ (declaredAnew "a.yaml") hlist).2.2.1 _ (List.mem_singleton_self _)
    isFiled_declaredAnew

/-- **A listed name may lead to another theme**: a project theme that declares the name of a library
theme in a file of another name is listed in its place, and the library's theme is found. -/
theorem not_forall_reaches :
    ¬ ∀ (library project : Option Path) (w : Workspace) (listed : List Metadata)
      (after : Workspace), (make library project).list w = .ok listed after →
        ∀ m ∈ listed, (make library project).Reaches w m := by
  intro h
  obtain ⟨after, hlist⟩ := lists_declaredAnew "b.yaml" (.inr rfl)
  obtain ⟨theme, next, last, hfind, hm⟩ :=
    h _ _ (declaredAnew "b.yaml") _ after hlist _ (List.mem_singleton_self _)
  have hlibrary : (ofBoth.find "a").passes (declaredAnew "b.yaml") fun result _ =>
      decide (result.1.map Theme.metadata = some ⟨"a", "", 0, []⟩) := by decide +kernel
  obtain ⟨result, last', hfind', hresult⟩ := Job.exists_of_passes hlibrary
  cases hfind.symm.trans hfind'
  have hother := of_decide_eq_true hresult
  rw [Option.map_some, hm] at hother
  exact absurd hother (by decide)

end Collection

end DesignTokens
