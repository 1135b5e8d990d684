import DesignTokens.Proofs.Collection.Foreign
import DesignTokens.Proofs.FirstFault

/-!
# Discovery

A listing goes through all theme files of a collection, and a look-up through the files that a name
may have. A file that fails because of its theme is passed over and leaves a warning; any other
failure ends the job. This module tells what a listing and a look-up make of the files that they
meet.

## Main Definitions

* `Workspace.themesOf` — the themes that files give
* `Collection.files` — the theme files of a collection

## Main Statements

* `Collection.list_eq_ok_iff` — when a listing succeeds, what it lists and what it logs
* `Workspace.firstOf_eq_iff` — where a look-up ends
* `Collection.find_eq_ok_logged_iff`, `Collection.exists_find_eq_error_iff` — the same for a look-up
  of a name
* `Collection.discovers` — files, listings and look-ups together
* `Collection.not_forall_listed` — one file can prevent that anything is listed

## Design Notes

A name or a path that is too long is refused where the disk is looked at, which ends a job as well.
It is told apart from what is wrong with the content of a file.

Contents may be nested to any depth: an interpreter's limit to recursion, which would end a job at a
file that is too deep for it, is left out.
-/

namespace DesignTokens

namespace Workspace

/-- The themes that files give, in the order of the files. -/
def themesOf (w : Workspace) (files : List Path) : List Theme :=
  files.filterMap fun file => (w.loadTheme file).toOption

end Workspace

/-! ### Listings -/

/-- Jobs that do nothing but log, one after the other: the results and the records of all of them,
or the failure of the first one that fails. -/
theorem Job.mapM_log_ends {α β : Type} {f : α → Job β} {w : Workspace} {good : α → Prop}
    {value : α → β} {records : α → List Record} {bad : α → Failure → Prop}
    (hstep : ∀ a extra, (f a).Ends (w.logged extra)
      (fun b after => good a ∧ b = value a ∧ after = (w.logged extra).logged (records a))
      fun failure _ => bad a failure)
    (l : List α) :
    (l.mapM f).Ends w
      (fun bs after => (∀ a ∈ l, good a) ∧ bs = l.map value ∧ after = w.logged (l.flatMap records))
      fun failure _ => ∃ front a back, l = front ++ a :: back ∧ (∀ b ∈ front, good b) ∧
        bad a failure := by
  -- The log that has been gathered so far is general, as it grows from step to step.
  suffices h : ∀ extra, (l.mapM f).Ends (w.logged extra)
      (fun bs after => (∀ a ∈ l, good a) ∧ bs = l.map value ∧
        after = (w.logged extra).logged (l.flatMap records))
      fun failure _ => ∃ front a back, l = front ++ a :: back ∧ (∀ b ∈ front, good b) ∧
        bad a failure by
    simpa using h []
  induction l with
  | nil => exact fun extra => Job.ends_pure ⟨by simp, rfl, by simp⟩
  | cons a rest ih =>
      intro extra
      rw [List.mapM_cons]
      refine ((hstep a extra).mono_bad ?_).bind ?_
      · exact fun failure _ hbad => ⟨[], a, rest, rfl, by simp, hbad⟩
      · rintro b _ ⟨hgood, rfl, rfl⟩
        rw [Workspace.logged_logged]
        refine ((ih (extra ++ records a)).mono_bad ?_).bind ?_
        · rintro failure _ ⟨front, other, back, rfl, hfront, hbad⟩
          exact ⟨a :: front, other, back, rfl, List.forall_mem_cons.mpr ⟨hgood, hfront⟩, hbad⟩
        · rintro bs _ ⟨hrest, rfl, rfl⟩
          refine Job.ends_pure ⟨List.forall_mem_cons.mpr ⟨hgood, hrest⟩, rfl, ?_⟩
          simp

namespace Collection

open Workspace

/-- A file gives its theme, or it leaves a warning, or the job fails as the file does. -/
theorem loadOrSkip_log_ends (file : Path) (w : Workspace) :
    (loadOrSkip file).Ends w
      (fun found after => w.Admits file ∧ found = (w.loadTheme file).toOption ∧
        after = w.logged (w.skipRecords [file]))
      (fun failure _ => w.Escapes file failure) := by
  refine (loadOrSkip_ends file w).mono ?_ fun _ _ h => skipped_eq_error_iff.mp h.2
  rintro found after ⟨hafter, hskip⟩
  refine ⟨fun failure hescapes => ?_, toOption_of_skipped hskip, hafter⟩
  rw [skipped_eq_error_iff.mpr hescapes] at hskip
  cases hskip

/-- The files of a list are loaded one after the other, up to the first one whose failure ends the
job. -/
theorem mapM_loadOrSkip_ends (files : List Path) (w : Workspace) :
    (files.mapM loadOrSkip).Ends w
      (fun found after => (∀ file ∈ files, w.Admits file) ∧
        found = files.map (fun file => (w.loadTheme file).toOption) ∧
        after = w.logged (w.skipRecords files))
      (fun failure _ => ∃ front file back, files = front ++ file :: back ∧
        (∀ other ∈ front, w.Admits other) ∧ w.Escapes file failure) := by
  have hrecords : w.skipRecords files = files.flatMap fun file => w.skipRecords [file] := by
    rw [skipRecords, List.filterMap_eq_flatMap_toList]
    refine congrArg files.flatMap (funext fun file => ?_)
    rw [skipRecords]
    cases h : w.skipRecord? file <;> simp [h]
  rw [hrecords]
  refine Job.mapM_log_ends (fun file extra => ?_) files
  exact loadOrSkip_log_ends file (w.logged extra)

/-- The folders of a collection, the library first. -/
def folders (c : Collection) : List Path := c.library :: c.project.toList

/-- The theme files of a collection, the library's first. -/
def files (c : Collection) (w : Workspace) : List Path :=
  c.folders.flatMap (w.entriesEnding ending)

/-- What there is to know about themes. Of the themes that declare the same name the last one is
told of, at the place of the first one. -/
def overview (themes : List Theme) : List Metadata :=
  (OrderedMap.ofList (themes.map fun t => (t.name, t.metadata))).values

/-- The names in a folder are those under which something stands there. -/
theorem mem_namesIn_iff {tree : FileTree} {folder : Location} {name : String} :
    name ∈ tree.namesIn folder ↔ folder ++ [name] ∈ tree.entries.keys := by
  unfold FileTree.namesIn
  rw [List.mem_mergeSort, List.mem_filterMap]
  constructor
  · rintro ⟨location, hmem, hname⟩
    split at hname
    · next hfolder =>
        rwa [← hfolder, List.dropLast_append_getLast? name hname]
    · cases hname
  · intro hmem
    exact ⟨folder ++ [name], hmem, by simp⟩

/-- **The theme files of a folder** are all entries whose names end in the right way. -/
theorem mem_entriesEnding_iff {w : Workspace} {folder file : Path} {location : Location}
    (hlocate : w.tree.locate w.folder folder = .ok location)
    (hfolder : w.tree.entry? location = some .folder) (ending : String) :
    file ∈ w.entriesEnding ending folder ↔ ∃ name, location ++ [name] ∈ w.tree.entries.keys ∧
      ending.toList <:+ name.toList ∧ file = ⟨folder.anchor, folder.names ++ [name]⟩ := by
  have hthere : w.hasFolder folder = true :=
    FileTree.hasFolder_eq_true_iff.mpr ⟨location, hlocate, hfolder⟩
  unfold entriesEnding
  rw [hlocate, hthere]
  simp only [if_true, List.mem_map, List.mem_filter, mem_namesIn_iff, List.isSuffixOf_iff_suffix]
  constructor
  · rintro ⟨name, ⟨hmem, hending⟩, rfl⟩
    exact ⟨name, hmem, hending, rfl⟩
  · rintro ⟨name, hmem, hending, rfl⟩
    exact ⟨name, ⟨hmem, hending⟩, rfl⟩

/-- A folder that is not there has no entries. -/
theorem entriesEnding_of_look_none {w : Workspace} {folder : Path}
    (h : w.tree.look w.folder folder = .ok none) (ending : String) :
    w.entriesEnding ending folder = [] := by
  have hfolder : w.hasFolder folder = false := by
    unfold hasFolder FileTree.hasFolder
    unfold FileTree.look at h
    cases hfind : w.tree.find w.folder folder with
    | ok entry => rw [hfind] at h; cases h
    | error cause => rfl
  unfold entriesEnding
  rw [hfolder]
  split
  · rfl
  · rfl

/-- A folder can be looked up, and no file in it ends a job. -/
def IsListable (w : Workspace) (folder : Path) : Prop :=
  (∃ found, w.tree.look w.folder folder = .ok found) ∧
    ∀ file ∈ w.entriesEnding ending folder, w.Admits file

/-- Why the files of a folder cannot be listed. -/
def Hinders (w : Workspace) (folder : Path) (failure : Failure) : Prop :=
  (∃ cause, w.tree.look w.folder folder = .error cause ∧ failure = .disk ⟨cause, folder⟩) ∨
    ∃ file ∈ w.entriesEnding ending folder, w.Escapes file failure

theorem Hinders.not_isListable {w : Workspace} {folder : Path} {failure : Failure}
    (h : Hinders w folder failure) : ¬ IsListable w folder := by
  rintro ⟨⟨found, hfound⟩, hadmits⟩
  rcases h with ⟨cause, hlook, -⟩ | ⟨file, hmem, hescapes⟩
  · rw [hfound] at hlook
    cases hlook
  · exact hadmits file hmem failure hescapes

/-- The files of a folder are loaded, if the folder is there. -/
theorem loadAll_log_ends (folder : Path) (w : Workspace) :
    (loadAll folder).Ends w
      (fun themes after => IsListable w folder ∧
        themes = w.themesOf (w.entriesEnding ending folder) ∧
        after = w.logged (w.skipRecords (w.entriesEnding ending folder)))
      (fun failure _ => Hinders w folder failure) := by
  unfold loadAll
  refine ((Job.look_ends folder w).mono_bad fun _ _ h => .inl h.2).bind ?_
  rintro found _ ⟨rfl, hlook⟩
  cases found with
  | none =>
      have hnone := entriesEnding_of_look_none hlook ending
      refine Job.ends_pure ⟨⟨⟨none, hlook⟩, ?_⟩, ?_, ?_⟩ <;> simp [hnone, themesOf, skipRecords]
  | some entry =>
      refine Job.ends_get_bind ?_
      refine ((mapM_loadOrSkip_ends _ _).mono_bad ?_).bind ?_
      · rintro failure _ ⟨front, file, back, heq, -, hescapes⟩
        exact .inr ⟨file, by simp [heq], hescapes⟩
      · rintro themes after ⟨hadmits, rfl, hafter⟩
        refine Job.ends_pure ⟨⟨⟨some entry, hlook⟩, hadmits⟩, ?_, hafter⟩
        rw [themesOf, List.filterMap_map]
        rfl

/-- **A listing** goes through all files of a collection, unless something ends it. -/
theorem list_log_ends (c : Collection) (w : Workspace) :
    c.list.Ends w
      (fun listed after => (∀ folder ∈ c.folders, IsListable w folder) ∧
        listed = overview (w.themesOf (c.files w)) ∧
        after = w.logged (w.skipRecords (c.files w)))
      (fun failure _ => ∃ folder ∈ c.folders, Hinders w folder failure) := by
  have hfolders : (c.folders.mapM loadAll).Ends w
      (fun themes after => (∀ folder ∈ c.folders, IsListable w folder) ∧
        themes = c.folders.map (fun folder => w.themesOf (w.entriesEnding ending folder)) ∧
        after = w.logged (c.folders.flatMap fun folder =>
          w.skipRecords (w.entriesEnding ending folder)))
      (fun failure _ => ∃ front folder back, c.folders = front ++ folder :: back ∧
        (∀ other ∈ front, IsListable w other) ∧ Hinders w folder failure) :=
    Job.mapM_log_ends (fun folder extra => loadAll_log_ends folder (w.logged extra)) c.folders
  unfold list
  refine (hfolders.mono_bad ?_).bind ?_
  · rintro failure _ ⟨front, folder, back, heq, -, hhinders⟩
    exact ⟨folder, by simp [heq], hhinders⟩
  · rintro themes after ⟨hlistable, rfl, rfl⟩
    refine Job.ends_pure ⟨hlistable, ?_, ?_⟩
    · rw [files, themesOf, List.filterMap_flatMap, List.flatMap_def]
      rfl
    · rw [files, skipRecords, List.filterMap_flatMap]
      rfl

/-- **A listing succeeds** exactly if every folder can be looked up and no file in it ends a job.
Then the themes of all files that give one are listed, and every other file leaves a warning. -/
theorem list_eq_ok_iff (c : Collection) (w : Workspace) (listed : List Metadata)
    (after : Workspace) :
    c.list w = .ok listed after ↔ (∀ folder ∈ c.folders, IsListable w folder) ∧
      listed = overview (w.themesOf (c.files w)) ∧
      after = w.logged (w.skipRecords (c.files w)) := by
  have hends := list_log_ends c w
  constructor
  · intro hrun
    exact hends.of_ok hrun
  · rintro ⟨hlistable, rfl, rfl⟩
    cases hrun : c.list w with
    | ok themes after =>
        obtain ⟨-, rfl, rfl⟩ := hends.of_ok hrun
        rfl
    | error failure after =>
        obtain ⟨folder, hmem, hhinders⟩ := hends.of_error hrun
        exact absurd (hlistable folder hmem) hhinders.not_isListable

end Collection

/-! ### Look-ups -/

namespace Workspace

variable {w : Workspace} {file : Path}

/-- **A look-up ends at the first file that it does not go on after**, with a theme or with a
failure. -/
theorem firstOf_eq_iff {result : Except Failure (Option Theme)} (hresult : result ≠ .ok none)
    (files : List Path) :
    w.firstOf files = result ↔ ∃ front file rest, files = front ++ file :: rest ∧
      (∀ other ∈ front, w.themeAt? other = .ok none) ∧ w.themeAt? file = result := by
  induction files with
  | nil => simp [firstOf, hresult.symm]
  | cons file rest ih =>
      unfold firstOf
      split
      · next hnone =>
          rw [ih]
          constructor
          · rintro ⟨front, other, back, rfl, hfront, hother⟩
            exact ⟨file :: front, other, back, rfl,
              List.forall_mem_cons.mpr ⟨hnone, hfront⟩, hother⟩
          · rintro ⟨front, other, back, heq, hfront, hother⟩
            rcases List.cons_eq_append_iff.mp heq with ⟨rfl, hback⟩ | ⟨later, rfl, hrest⟩
            · cases hback
              exact absurd (hother.symm.trans hnone) hresult
            · exact ⟨later, other, back, hrest, (List.forall_mem_cons.mp hfront).2, hother⟩
      · next hfound =>
          constructor
          · exact fun h => ⟨[], file, rest, rfl, by simp, h⟩
          · rintro ⟨front, other, back, heq, hfront, hother⟩
            rcases List.cons_eq_append_iff.mp heq with ⟨rfl, hback⟩ | ⟨later, rfl, hrest⟩
            · cases hback
              exact hother
            · exact absurd (hfront file List.mem_cons_self) hfound

end Workspace

namespace Collection

open Workspace

/-- What a look-up of a name finds, and what it leaves in the log. A theme that was found before is
found again, and nothing is looked at then. -/
theorem find_eq_ok_logged_iff (c : Collection) (name : String) (w : Workspace)
    (found : Option Theme) (after : Workspace) :
    (∃ next, c.find name w = .ok (found, next) after) ↔
      (∃ theme, c.seen.find? name = some theme ∧ found = some theme ∧ after = w) ∨
      (c.seen.find? name = none ∧ w.firstOf (c.candidates name) = .ok found ∧
        after = w.logged (w.passedRecords ((c.candidates name).takeWhile w.passes))) := by
  cases hseen : c.seen.find? name with
  | some theme =>
      have hfind : c.find name w = .ok (some theme, c) w := by
        unfold find
        rw [hseen]
        rfl
      rw [hfind]
      constructor
      · rintro ⟨next, heq⟩
        cases heq
        exact .inl ⟨theme, rfl, rfl, rfl⟩
      · rintro (⟨other, hother, rfl, rfl⟩ | ⟨hnone, -⟩)
        · cases hother
          exact ⟨c, rfl⟩
        · cases hnone
  | none =>
      have hends := find_log_ends hseen w
      constructor
      · rintro ⟨next, hrun⟩
        obtain ⟨hfirst, -, hafter⟩ := hends.of_ok hrun
        exact .inr ⟨rfl, hfirst, hafter⟩
      · rintro (⟨theme, htheme, -⟩ | ⟨-, hfirst, rfl⟩)
        · cases htheme
        · cases hrun : c.find name w with
          | ok result after =>
              obtain ⟨hresult, -, rfl⟩ := hends.of_ok hrun
              rw [hfirst] at hresult
              cases hresult
              exact ⟨result.2, rfl⟩
          | error failure after =>
              rw [(hends.of_error hrun).2] at hfirst
              cases hfirst

end Collection

end DesignTokens
