import DesignTokens.Proofs.Collection.Lookup
import DesignTokens.Proofs.Workspace.Files

/-!
# Where a disk changes

A job that writes changes the disk in few places: it puts files where no folders stand, and makes
folders where nothing stands. This module tells at which places the steps of writing do so, whether
they succeed or fail. Nothing is asked of the disk.

## Main Definitions

* `Workspace.Changes` — new folders and files at some places, and nothing else
* `Job.ChangesOnly` — what a job does to the disk, however it ends
* `Path.LeadsThrough` — the places on the way along the names of a path

## Main Statements

* `Workspace.Changes.trans`, `Job.ChangesOnly.bind` — changes one after the other
* `Job.makeFolders_changes` — folders are made on the way along the path
* `Job.writeFile_changes` — a file is put where the path leads
* `Job.writeText_changes`, `Job.writeMade_changes` — both
-/

namespace DesignTokens

/-- A place on the way along the names of a path, when all of them name folders. -/
def Path.LeadsThrough (path : Path) (workingFolder location : Location) : Prop :=
  ∃ count, location = Path.resolve workingFolder { path with names := path.names.take count }

/-- The way to the folder around is part of the way. -/
theorem Path.LeadsThrough.of_parent {path : Path} {workingFolder location : Location}
    (h : path.parent.LeadsThrough workingFolder location) :
    path.LeadsThrough workingFolder location := by
  obtain ⟨count, rfl⟩ := h
  refine ⟨min count (path.names.length - 1), ?_⟩
  simp only [parent, List.dropLast_eq_take, List.take_take]

/-- The way leads to the place itself in the end. -/
theorem Path.leadsThrough_resolve (path : Path) (workingFolder : Location) :
    path.LeadsThrough workingFolder (path.resolve workingFolder) :=
  ⟨path.names.length, by rw [List.take_length]⟩

namespace Workspace

variable {w between after : Workspace} {folders files folders' files' : Location → Prop}

/-- A workspace with the same disk has gained records at most. -/
theorem SameDisk.gains (h : w.SameDisk after) : w.Gains after := ⟨h.tree ▸ .refl _, h.folder⟩

/-- New folders and files stand at some places, and everything else is as it was. -/
structure Changes (folders files : Location → Prop) (w after : Workspace) : Prop where
  /-- The working folder is the same. -/
  sameFolder : after.folder = w.folder
  /-- A place is as it was, or a new folder stands there, or a file where no folder stood. -/
  changed : ∀ location, after.tree.entry? location = w.tree.entry? location ∨
    (folders location ∧ w.tree.entry? location = none ∧
      after.tree.entry? location = some .folder) ∨
    (files location ∧ w.tree.entry? location ≠ some .folder ∧
      ∃ content, after.tree.entry? location = some (.file content))

theorem Changes.of_sameDisk (h : w.SameDisk after) : w.Changes folders files after :=
  ⟨h.folder, fun _ => .inl (by rw [h.tree])⟩

theorem Changes.refl (w : Workspace) : w.Changes folders files w := .of_sameDisk (.refl w)

theorem Changes.mono (h : w.Changes folders files after)
    (hfolders : ∀ location, folders location → folders' location)
    (hfiles : ∀ location, files location → files' location) : w.Changes folders' files' after :=
  ⟨h.sameFolder, fun location => (h.changed location).imp_right
    (.imp (.imp_left (hfolders location)) (.imp_left (hfiles location)))⟩

/-- **Changes one after the other** are changes. A new folder stays one, as files are put
elsewhere. -/
theorem Changes.trans (h : w.Changes folders files between)
    (h' : between.Changes folders files after) : w.Changes folders files after := by
  refine ⟨h'.sameFolder.trans h.sameFolder, fun location => ?_⟩
  rcases h'.changed location with hsame | ⟨hfolders, hnone, hfolder⟩ | ⟨hfiles, hplace, hfile⟩
  · rw [hsame]
    exact h.changed location
  · rcases h.changed location with hbefore | ⟨-, -, hbefore⟩ | ⟨-, -, content, hbefore⟩
    · exact .inr (.inl ⟨hfolders, hbefore ▸ hnone, hfolder⟩)
    · rw [hnone] at hbefore
      cases hbefore
    · rw [hnone] at hbefore
      cases hbefore
  · rcases h.changed location with hbefore | ⟨-, -, hbefore⟩ | ⟨-, hfolder, -⟩
    · exact .inr (.inr ⟨hfiles, hbefore ▸ hplace, hfile⟩)
    · exact absurd hbefore hplace
    · exact .inr (.inr ⟨hfiles, hfolder, hfile⟩)

theorem Changes.put_folder {location : Location} (hnone : w.tree.entry? location = none)
    (hfolders : folders location) :
    w.Changes folders files { w with tree := w.tree.put location .folder } := by
  refine ⟨rfl, fun place => ?_⟩
  show FileTree.entry? (w.tree.put location .folder) place = _ ∨ _
  rw [FileTree.entry?_put]
  split
  · next hroot => exact .inl (by rw [hroot, FileTree.entry?_root])
  · split
    · next hsame => exact .inr (.inl ⟨hsame ▸ hfolders, hsame ▸ hnone, rfl⟩)
    · exact .inl rfl

theorem Changes.put_file {location : Location} {content : List UInt8}
    (hplace : w.tree.entry? location ≠ some .folder) (hfiles : files location) :
    w.Changes folders files { w with tree := w.tree.put location (.file content) } := by
  refine ⟨rfl, fun place => ?_⟩
  show FileTree.entry? (w.tree.put location (.file content)) place = _ ∨ _
  rw [FileTree.entry?_put]
  split
  · next hroot => exact .inl (by rw [hroot, FileTree.entry?_root])
  · split
    · next hsame => exact .inr (.inr ⟨hsame ▸ hfiles, hsame ▸ hplace, content, rfl⟩)
    · exact .inl rfl

end Workspace

namespace Job

open Workspace

variable {α β : Type} {job : Job α} {w : Workspace} {folders files : Location → Prop}

/-- A job makes folders at some places and puts files at others, however it ends. -/
def ChangesOnly (job : Job α) (folders files : Location → Prop) (w : Workspace) : Prop :=
  job.Ends w (fun _ after => w.Changes folders files after)
    fun _ after => w.Changes folders files after

theorem ChangesOnly.bind {next : α → Job β} (h : job.ChangesOnly folders files w)
    (hnext : ∀ a between, between.folder = w.folder → (next a).ChangesOnly folders files between) :
    (job >>= next).ChangesOnly folders files w :=
  Ends.bind h fun a between hbetween =>
    (hnext a between hbetween.sameFolder).mono (fun _ _ h => hbetween.trans h)
      fun _ _ h => hbetween.trans h

/-- The same with something known of the result. -/
theorem ChangesOnly.bind_ends {next : α → Job β} {result : β → Prop}
    (h : job.ChangesOnly folders files w)
    (hnext : ∀ a between, between.folder = w.folder → (next a).Ends between
      (fun b after => between.Changes folders files after ∧ result b)
      fun _ after => between.Changes folders files after) :
    (job >>= next).Ends w (fun b after => w.Changes folders files after ∧ result b)
      fun _ after => w.Changes folders files after :=
  Ends.bind h fun a between hbetween =>
    (hnext a between hbetween.sameFolder).mono (fun _ _ h => ⟨hbetween.trans h.1, h.2⟩)
      fun _ _ h => hbetween.trans h

theorem ChangesOnly.mono {folders' files' : Location → Prop} (h : job.ChangesOnly folders files w)
    (hfolders : ∀ location, folders location → folders' location)
    (hfiles : ∀ location, files location → files' location) : job.ChangesOnly folders' files' w :=
  Ends.mono h (fun _ _ h => h.mono hfolders hfiles) fun _ _ h => h.mono hfolders hfiles

/-- A job that changes the log at most changes nothing on the disk. -/
theorem ChangesOnly.of_sameDisk
    (h : job.Ends w (fun _ after => w.SameDisk after) fun _ after => w.SameDisk after) :
    job.ChangesOnly folders files w :=
  h.mono (fun _ _ h => .of_sameDisk h) fun _ _ h => .of_sameDisk h

theorem ChangesOnly.pure (a : α) : (Pure.pure a : Job α).ChangesOnly folders files w :=
  ends_pure (.refl w)

theorem look_changes (path : Path) (w : Workspace) : (look path).ChangesOnly folders files w :=
  .of_sameDisk ((look_ends path w).mono (fun _ _ h => h.1 ▸ .refl w) fun _ _ h => h.1 ▸ .refl w)

theorem ofExcept_changes (result : Except Failure α) (w : Workspace) :
    (ofExcept result).ChangesOnly folders files w :=
  ends_ofExcept (fun _ _ => .refl w) fun _ _ => .refl w

theorem ofOption_changes (result : Option α) (failure : Failure) (w : Workspace) :
    (ofOption result failure).ChangesOnly folders files w :=
  ends_ofOption (fun _ _ => .refl w) fun _ => .refl w

theorem record_changes (level : Level) (message : String) (w : Workspace) :
    (record level message).ChangesOnly folders files w := by
  have h : (record level message >>= Pure.pure).ChangesOnly folders files w :=
    ends_record_bind (ends_pure (.of_sameDisk ⟨rfl, rfl⟩))
  rwa [bind_pure] at h

/-- Making a folder makes one where the path leads, at most. -/
theorem makeFolder_changes (path : Path) (w : Workspace)
    (hfolders : folders (path.resolve w.folder)) :
    (makeFolder path).ChangesOnly folders files w := by
  unfold makeFolder
  refine ends_get_bind ?_
  rw [FileTree.makeFolder_eq]
  cases hlocate : w.tree.locate w.folder path with
  | error cause =>
      dsimp only
      split
      · exact ends_pure (.refl w)
      · exact ends_throw (.refl w)
  | ok location =>
      obtain ⟨-, -, hwalk⟩ := FileTree.locate_eq_ok_iff.mp hlocate
      cases hentry : w.tree.entry? location with
      | none =>
          simp only [hentry]
          exact ends_set (.put_folder hentry (FileTree.walk_eq_resolve hwalk ▸ hfolders))
      | some entry =>
          simp only [hentry]
          split
          · exact ends_pure (.refl w)
          · exact ends_throw (.refl w)

theorem makeFoldersOf_changes (count : Nat) (path : Path) (w : Workspace) :
    (makeFoldersOf path count).ChangesOnly (path.LeadsThrough w.folder) files w := by
  have hpath := path.leadsThrough_resolve w.folder
  induction count generalizing path w with
  | zero => exact makeFolder_changes path w hpath
  | succ count ih =>
      unfold makeFoldersOf
      refine ends_get_bind ?_
      split
      · refine ((ih path.parent w (path.parent.leadsThrough_resolve _)).mono
          (fun _ => Path.LeadsThrough.of_parent) fun _ h => h).bind fun _ between hfolder => ?_
        exact makeFolder_changes path between (hfolder ▸ hpath)
      · exact makeFolder_changes path w hpath

/-- **Making a folder and those around it** makes folders on the way along its path, at most. -/
theorem makeFolders_changes (path : Path) (w : Workspace) :
    (makeFolders path).ChangesOnly (path.LeadsThrough w.folder) files w :=
  makeFoldersOf_changes path.names.length path w

/-- **Writing a file** puts it where its path leads, at most. -/
theorem writeFile_changes (path : Path) (text : String) (w : Workspace)
    (hfiles : files (path.resolve w.folder)) :
    (writeFile path text).ChangesOnly folders files w := by
  refine (writeFile_ends path text w).mono ?_ ?_
  · rintro _ _ ⟨location, hlocate, hplace, rfl⟩
    obtain ⟨-, -, hwalk⟩ := FileTree.locate_eq_ok_iff.mp hlocate
    exact .put_file hplace (FileTree.walk_eq_resolve hwalk ▸ hfiles)
  · rintro failure _ ⟨rfl, -⟩
    exact .refl _

/-- **Writing a text** makes folders on the way to the folder around its file, and puts the file in
its place, at most. -/
theorem writeText_changes (path : Path) (text : String) (w : Workspace) :
    (writeText none path text).ChangesOnly ((w.fileAt path).parent.LeadsThrough w.folder)
      (· = w.placeAt path) w := by
  unfold writeText
  refine ((resolve_ends path w).mono_bad ?_).bind ?_
  · rintro failure _ rfl
    exact .refl _
  · rintro file _ ⟨rfl, rfl⟩
    refine (makeFolders_changes _ _).bind fun _ between hfolder => ?_
    refine (writeFile_changes _ text between ?_).bind fun _ after _ => .pure _
    rw [hfolder]
    rfl

/-- The same for a text that is made first, when it is told where it stands. -/
theorem writeMade_changes {make : Job String}
    (hmake : ∀ {folders files}, make.ChangesOnly folders files w)
    (path : Path) (message : Path → String) :
    (do
      let text ← make
      let file ← writeText none path text
      record .info (message file)
      Pure.pure file).ChangesOnly
      ((w.fileAt path).parent.LeadsThrough w.folder) (· = w.placeAt path) w := by
  refine hmake.bind fun text start hstart => ?_
  have hwritten := writeText_changes path text start
  rw [placeAt, fileAt, hstart] at hwritten
  exact hwritten.bind fun file between _ =>
    (record_changes _ _ between).bind fun _ last _ => .pure file

end Job

end DesignTokens
