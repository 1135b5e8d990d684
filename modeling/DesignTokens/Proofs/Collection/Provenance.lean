import DesignTokens.Proofs.Collection.Runs
import DesignTokens.Proofs.Workspace.Changes

/-!
# Where the kept themes come from

A collection keeps the themes that it has looked up or saved. Nothing is asked here of what was
saved, nor of the calls that fail. All the same a theme that is kept is either what the library says,
or the project has a file of its name: files of the library are never changed while the project has
no file of the name, and files of the project are never removed.

## Main Definitions

* `Collection.Founded` — where the themes come from that are kept
* `Collection.Call.NamesFiles` — a call whose names are those of files

## Main Statements

* `Collection.Founded.after`, `Collection.Founded.run` — this is kept by one call and by all

## Design Notes

Coherence says more of a collection, but it is only kept as long as the system does not get in the
way and saved themes are read as what was written.
-/

namespace DesignTokens

namespace Workspace

variable {w after : Workspace} {file : Path}

/-- A theme that was found is found when folders are gained. -/
theorem themeAt?_of_gains (h : w.Gains after) {theme : Theme}
    (hfound : w.themeAt? file = .ok (some theme)) : after.themeAt? file = .ok (some theme) := by
  obtain ⟨entry, hfind⟩ := exists_find_of_themeAt? hfound
  rw [themeAt?_eq_of_find hfind (find_of_grows h.grows h.sameFolder hfind), hfound]

/-- A theme that is found at the first of several files that gives one is found at one of them. -/
theorem exists_themeAt?_of_firstOf {files : List Path} {theme : Theme}
    (h : w.firstOf files = .ok (some theme)) :
    ∃ file ∈ files, w.themeAt? file = .ok (some theme) := by
  induction files with
  | nil => cases h
  | cons file rest ih =>
      rw [firstOf] at h
      split at h
      · obtain ⟨other, hother, hfound⟩ := ih h
        exact ⟨other, List.mem_cons_of_mem _ hother, hfound⟩
      · exact ⟨file, List.mem_cons_self, h⟩

end Workspace

namespace Collection

open Workspace

/-- The project has something under a name. -/
def HasInProject (c : Collection) (w : Workspace) (name : String) : Prop :=
  ∃ folder entry, c.project = some folder ∧ w.tree.find w.folder (fileIn folder name) = .ok entry

/-- A theme that is kept is what the library says, unless the project has a file of its name. -/
structure Founded (c : Collection) (w : Workspace) : Prop where
  /-- The disk is in order. -/
  sound : w.IsSound
  /-- Where a theme that is kept comes from. -/
  kept : ∀ name theme, c.seen.find? name = some theme → '/' ∉ name.toList ∧
    (c.HasInProject w name ∨ w.themeAt? (fileIn c.library name) = .ok (some theme))

/-- The names of a call are those of files. -/
def Call.NamesFiles : Call → Prop
  | find name | copy name => '/' ∉ name.toList
  | save theme => '/' ∉ theme.name.toList
  | list | forget => True

variable {c : Collection} {w : Workspace} {folder : Path} {name : String}

theorem make_founded {library project : Option Path} (hw : w.IsSound) :
    (make library project).Founded w :=
  ⟨hw, fun _ _ hkept => by cases hkept⟩

theorem Founded.forget (h : c.Founded w) : c.forget.Founded w :=
  ⟨h.sound, fun _ _ hkept => by cases hkept⟩

/-! ### Changes of the disk -/

/-- What is found stays where it is when folders are gained. -/
theorem Founded.gains {after : Workspace} (h : c.Founded w) (hgains : w.Gains after)
    (hsound : after.IsSound) : c.Founded after := by
  refine ⟨hsound, fun name theme hkept => ?_⟩
  obtain ⟨hname, hfound⟩ := h.kept name theme hkept
  refine ⟨hname, hfound.imp ?_ (themeAt?_of_gains hgains)⟩
  rintro ⟨folder, entry, hproject, hfind⟩
  exact ⟨folder, entry, hproject, find_of_grows hgains.grows hgains.sameFolder hfind⟩

theorem Founded.sameDisk {after : Workspace} (h : c.Founded w) (hsame : w.SameDisk after) :
    c.Founded after :=
  h.gains hsame.gains (h.sound.sameDisk hsame)

/-- **A file that is written into the project** takes the place of what the library says under its
name, whatever is kept there now. -/
theorem Founded.written (h : c.Founded w) (hproject : c.project = some folder)
    (hname : '/' ∉ name.toList) {location : Location}
    (hlocate : w.tree.locate w.folder (fileIn folder name) = .ok location)
    (hplace : w.tree.entry? location ≠ some .folder) {content : List UInt8}
    {seen : OrderedMap String Theme}
    (hothers : ∀ other theme, other ≠ name → seen.find? other = some theme →
      c.seen.find? other = some theme) :
    Founded { c with seen := seen } (w.written location content) := by
  have hfolder : (w.written location content).folder = w.folder := rfl
  refine ⟨h.sound.written hlocate hplace, fun other theme hkept => ?_⟩
  by_cases hsame : other = name
  · subst hsame
    exact ⟨hname, .inl ⟨folder, .file content, hproject, find_written hlocate hplace⟩⟩
  · obtain ⟨hother, hfound⟩ := h.kept other theme (hothers other theme hsame hkept)
    refine ⟨hother, hfound.imp ?_ fun hlibrary => ?_⟩
    · rintro ⟨folder', entry, hproject', hfind⟩
      obtain ⟨last, hlast⟩ := exists_find_written hplace hfind
      exact ⟨folder', last, hproject', hlast⟩
    · rw [← hlibrary]
      exact themeAt?_written_of_ne hplace fun _ hfile =>
        locate_fileIn_ne hother hname hsame hfile hlocate

/-! ### One call -/

/-- What is known after a job that is done for a call, and after one that fails. -/
def KeepsFounded {α : Type} (c : Collection) (w : Workspace) (job : Job (α × Collection)) : Prop :=
  job.Ends w (fun result after => c.SamePlaces result.2 ∧ result.2.Founded after)
    fun _ after => c.Founded after

/-- A theme that is found in the project or in the library may be kept. -/
theorem Founded.insert (h : c.Founded w) (hname : '/' ∉ name.toList) {theme : Theme}
    (hfirst : w.firstOf (c.candidates name) = .ok (some theme)) :
    Founded { c with seen := c.seen.insert name theme } w := by
  refine ⟨h.sound, fun other kept hkept => ?_⟩
  change (c.seen.insert name theme).find? other = some kept at hkept
  rw [OrderedMap.find?_insert] at hkept
  split at hkept
  · next hother =>
      cases hkept
      subst hother
      obtain ⟨file, hfile, hfound⟩ := exists_themeAt?_of_firstOf hfirst
      obtain ⟨folder, hfolder, rfl⟩ := List.mem_map.mp hfile
      refine ⟨hname, ?_⟩
      rcases List.mem_append.mp hfolder with hproject | hlibrary
      · obtain ⟨entry, hfind⟩ := exists_find_of_themeAt? hfound
        exact .inl ⟨folder, entry, Option.mem_toList.mp hproject, hfind⟩
      · exact .inr (List.mem_singleton.mp hlibrary ▸ hfound)
  · exact h.kept other kept hkept

theorem Founded.find_keeps (h : c.Founded w) (hname : '/' ∉ name.toList) :
    c.KeepsFounded w (c.find name) := by
  cases hseen : c.seen.find? name with
  | some theme =>
      unfold find
      rw [hseen]
      exact Job.ends_pure ⟨.refl c, h⟩
  | none =>
      refine (find_ends hseen w).mono ?_ fun _ _ hbad => h.sameDisk hbad.1
      rintro ⟨found, next⟩ after ⟨hsame, hfirst, hnext⟩
      obtain rfl : next = { c with seen := found.elim c.seen (c.seen.insert name) } := hnext
      refine ⟨⟨rfl, rfl⟩, ?_⟩
      cases found with
      | none => exact h.sameDisk hsame
      | some theme =>
          refine (h.sameDisk hsame).insert hname ?_
          rw [firstOf_congr hsame, hfirst]

/-- Making the project folder keeps where the themes come from, also if it is given up halfway. -/
theorem Founded.makeFolders_ends (h : c.Founded w) (path : Path) :
    (Job.makeFolders path).Ends w (fun _ after => c.Founded after) fun _ after => c.Founded after :=
  ((Job.makeFoldersOf_gains _ path w).and (Job.makeFoldersOf_isSound h.sound _ path)).mono
    (fun _ _ hmade => h.gains hmade.1 hmade.2) fun _ _ hmade => h.gains hmade.1 hmade.2

theorem Founded.writeFile_ends (h : c.Founded w) (hproject : c.project = some folder)
    (hname : '/' ∉ name.toList) (text : String) {seen : OrderedMap String Theme}
    (hothers : ∀ other theme, other ≠ name → seen.find? other = some theme →
      c.seen.find? other = some theme) :
    (Job.writeFile (fileIn folder name) text).Ends w
      (fun _ after => Founded { c with seen := seen } after) fun _ after => c.Founded after := by
  refine (Job.writeFile_ends (fileIn folder name) text w).mono ?_ ?_
  · rintro _ after ⟨location, hlocate, hplace, rfl⟩
    exact h.written hproject hname hlocate hplace hothers
  · rintro failure after ⟨rfl, -⟩
    exact h

theorem Founded.copy_keeps (h : c.Founded w) (hname : '/' ∉ name.toList) :
    c.KeepsFounded w (c.copyToProject name) := by
  unfold copyToProject
  refine ((projectFolder_ends c w).mono_bad fun _ _ hbad => hbad ▸ h).bind ?_
  rintro folder _ ⟨rfl, hproject⟩
  refine ((Job.look_ends _ _).mono_bad fun _ _ hbad => hbad.1 ▸ h).bind ?_
  rintro found _ ⟨rfl, -⟩
  split
  · refine (h.makeFolders_ends folder).bind fun _ between hbetween => ?_
    refine ((Job.look_ends _ _).mono_bad fun _ _ hbad => hbad.1 ▸ hbetween).bind ?_
    rintro found between ⟨rfl, -⟩
    split
    · exact Job.ends_throw hbetween
    · refine Job.ends_get_bind ?_
      have hread : (Job.ofExcept (between.readText (fileIn c.library name))).Ends between
          (fun _ after => after = between) fun _ after => c.Founded after :=
        Job.ends_ofExcept (fun _ _ => rfl) fun _ _ => hbetween
      refine hread.bind ?_
      rintro text _ rfl
      have hothers : ∀ other theme, other ≠ name → (c.seen.erase name).find? other = some theme →
          c.seen.find? other = some theme := by
        intro other theme hother hkept
        rwa [OrderedMap.find?_erase, if_neg hother] at hkept
      refine (hbetween.writeFile_ends hproject hname text hothers).bind fun _ after hafter => ?_
      exact Job.ends_pure ⟨⟨rfl, rfl⟩, hafter⟩
  · exact Job.ends_pure ⟨.refl c, h⟩

theorem Founded.save_keeps (h : c.Founded w) {theme : Theme} (hname : '/' ∉ theme.name.toList) :
    c.KeepsFounded w (c.save theme) := by
  unfold save
  refine ((projectFolder_ends c w).mono_bad fun _ _ hbad => hbad ▸ h).bind ?_
  rintro folder _ ⟨rfl, hproject⟩
  refine (h.makeFolders_ends folder).bind fun _ between hbetween => ?_
  have hwritten : (Job.ofOption theme.documentText? .unprintable).Ends between
      (fun _ after => after = between) fun _ after => c.Founded after :=
    Job.ends_ofOption (fun _ _ => rfl) fun _ => hbetween
  refine hwritten.bind ?_
  rintro text _ rfl
  have hothers : ∀ other kept, other ≠ theme.name →
      (c.seen.insert theme.name theme).find? other = some kept →
        c.seen.find? other = some kept := by
    intro other kept hother hkept
    rwa [OrderedMap.find?_insert, if_neg hother] at hkept
  refine (hbetween.writeFile_ends hproject hname text hothers).bind fun _ after hafter => ?_
  exact Job.ends_pure ⟨⟨rfl, rfl⟩, hafter⟩

/-! ### Runs -/

theorem Founded.job_ends (h : c.Founded w) {call : Call} (hnames : call.NamesFiles) :
    (call.job c).Ends w (fun next after => c.SamePlaces next ∧ next.Founded after)
      fun _ after => c.Founded after := by
  cases call with
  | find name => exact (h.find_keeps hnames).bind fun _ _ hafter => Job.ends_pure hafter
  | list =>
      refine ((list_ends c w).mono (fun _ _ hsame => hsame)
        fun _ _ hsame => h.sameDisk hsame).bind fun _ after hsame => ?_
      exact Job.ends_pure ⟨.refl c, h.sameDisk hsame⟩
  | copy name => exact (h.copy_keeps hnames).bind fun _ _ hafter => Job.ends_pure hafter
  | save theme => exact (h.save_keeps hnames).bind fun _ _ hafter => Job.ends_pure hafter
  | forget => exact Job.ends_pure ⟨⟨rfl, rfl⟩, h.forget⟩

/-- **Every call keeps where the themes come from**, whether it fails or not. -/
theorem Founded.after (h : c.Founded w) {call : Call} (hnames : call.NamesFiles) :
    c.SamePlaces (call.after c w).1 ∧ (call.after c w).1.Founded (call.after c w).2 := by
  have hends := h.job_ends hnames
  unfold Call.after
  cases hrun : call.job c w with
  | ok next after => exact hends.of_ok hrun
  | error failure after => exact ⟨.refl c, hends.of_error hrun⟩

/-- **All calls keep where the themes come from.** -/
theorem Founded.run (h : c.Founded w) {calls : List Call}
    (hnames : ∀ call ∈ calls, call.NamesFiles) :
    c.SamePlaces (c.run w calls).1 ∧ (c.run w calls).1.Founded (c.run w calls).2 := by
  induction calls generalizing c w with
  | nil => exact ⟨.refl c, h⟩
  | cons call rest ih =>
      obtain ⟨hplaces, hafter⟩ := h.after (hnames call List.mem_cons_self)
      obtain ⟨hrest, hlast⟩ := ih hafter fun call hcall =>
        hnames call (List.mem_cons_of_mem _ hcall)
      exact ⟨hplaces.trans hrest, hlast⟩

end Collection

end DesignTokens
