import DesignTokens.Output
import DesignTokens.Proofs.Workspace.Folders

/-!
# Files that are kept

A text is written to a file in two steps: the folders around the file are made, and then the file is
put in its place. A failure at either step leaves nothing but folders behind. What is put in a place
and removed again is gone, together with whatever stood there before.

## Main Definitions

* `FileTree.SameFiles` — the same files, with the same contents
* `Workspace.fileAt`, `Workspace.placeAt` — the file that a path names, and where it belongs
* `Workspace.Gains` — a workspace has gained folders and records, and nothing else
* `Workspace.Puts` — it has gained a file besides

## Main Statements

* `Job.writeText_ends`, `Job.writeMade_ends` — writing a text puts a file in its place, or gains
  folders at most
* `Workspace.Puts.removeFile_eq` — the file can be removed, and then it alone is missing

## Design Notes

Nothing is asked of the disk here. Even on a disk with holes, whose files need not stand in folders,
what is written is found again where it was written.
-/

namespace DesignTokens

namespace FileTree

variable {tree other grown : FileTree}

/-- Two trees have the same files, with the same contents. -/
def SameFiles (tree other : FileTree) : Prop :=
  ∀ location content, tree.entry? location = some (.file content) ↔
    other.entry? location = some (.file content)

/-- Folders that are added leave the files as they are. -/
theorem Grows.sameFiles (h : tree.Grows grown) : tree.SameFiles grown := by
  intro location content
  refine ⟨h.kept location _, fun hgrown => ?_⟩
  cases htree : tree.entry? location with
  | none => rcases h.added location htree with hnone | hfolder <;> simp_all
  | some entry => rw [← hgrown, h.kept location entry htree]

theorem entry?_clear (tree : FileTree) (location place : Location) :
    entry? (tree.clear location) place =
      if place = [] then some .folder
      else if place = location then none else tree.entry? place := by
  unfold entry? clear
  by_cases hroot : place = []
  · simp [hroot]
  · simp [hroot, OrderedMap.find?_erase]

/-- Folders that are added do not matter to what is left when a place is cleared. -/
theorem Grows.clear (h : tree.Grows grown) (location : Location) :
    (tree.clear location).Grows (grown.clear location) := by
  constructor
  · intro place entry hplace
    rw [entry?_clear] at hplace ⊢
    split
    · next hroot => simpa [hroot] using hplace
    · next hroot =>
        rw [if_neg hroot] at hplace
        split
        · next hsame => rw [if_pos hsame] at hplace; cases hplace
        · next hother =>
            rw [if_neg hother] at hplace
            exact h.kept place entry hplace
  · intro place hplace
    rw [entry?_clear] at hplace ⊢
    split
    · exact .inr rfl
    · next hroot =>
        rw [if_neg hroot] at hplace
        split
        · exact .inl rfl
        · next hother =>
            rw [if_neg hother] at hplace
            exact h.added place hplace

/-- What is put in a place does not matter to what is left when the place is cleared. -/
theorem grows_clear_put (tree : FileTree) (location : Location) (entry : Entry) :
    (tree.clear location).Grows ((tree.put location entry).clear location) := by
  have hsame : ∀ place, entry? ((tree.put location entry).clear location) place =
      entry? (tree.clear location) place := by
    intro place
    simp only [entry?_clear, entry?_put]
    split
    · rfl
    · split <;> rfl
  exact ⟨fun place _ h => by rw [hsame place, h], fun place h => .inl (by rw [hsame place, h])⟩

/-- A file is removed where its path leads to. -/
theorem remove_eq {workingFolder location : Location} {path : Path} {content : List UInt8}
    (hlocate : tree.locate workingFolder path = .ok location)
    (hentry : tree.entry? location = some (.file content)) :
    tree.remove workingFolder path = .ok (tree.clear location) := by
  unfold remove
  simp only [hlocate, hentry]

/-- The files of a tree with a place cleared are the other files of the tree. -/
theorem entry?_clear_eq_file_iff {location place : Location} {content : List UInt8} :
    entry? (tree.clear location) place = some (.file content) ↔
      tree.entry? place = some (.file content) ∧ place ≠ location := by
  rw [entry?_clear]
  split
  · next hroot => simp [hroot, entry?_root]
  · split
    · next hsame => simp [hsame]
    · next hother => simp [hother]

end FileTree

namespace Workspace

variable {w between after : Workspace} {file : Path} {content : List UInt8}

/-- The file that a path names, by a path from the root. -/
def fileAt (w : Workspace) (path : Path) : Path := .ofLocation (path.resolve w.folder)

/-- Where the file that a path names belongs. -/
def placeAt (w : Workspace) (path : Path) : Location := (w.fileAt path).resolve w.folder

/-- Which file a path names depends on the working folder alone. -/
theorem fileAt_congr (h : after.folder = w.folder) (path : Path) :
    after.fileAt path = w.fileAt path := by
  rw [fileAt, h, fileAt]

/-- A workspace has gained folders and records, and nothing else. -/
structure Gains (w after : Workspace) : Prop where
  /-- Only folders were added. -/
  grows : w.tree.Grows after.tree
  /-- The working folder is the same. -/
  sameFolder : after.folder = w.folder

theorem Gains.refl (w : Workspace) : w.Gains w := ⟨.refl _, rfl⟩

theorem Gains.trans (h : w.Gains between) (h' : between.Gains after) : w.Gains after :=
  ⟨h.grows.trans h'.grows, h'.sameFolder.trans h.sameFolder⟩

/-- A workspace has gained folders and records, and then a file in a place where no folder
stands. -/
structure Puts (file : Path) (content : List UInt8) (w after : Workspace) : Prop where
  /-- The file was put where its path leads to once the folders are there. -/
  put : ∃ between : Workspace, w.Gains between ∧
    between.tree.locate between.folder file = .ok (file.resolve w.folder) ∧
    between.tree.entry? (file.resolve w.folder) ≠ some .folder ∧
    after.tree = between.tree.put (file.resolve w.folder) (.file content)
  /-- The working folder is the same. -/
  sameFolder : after.folder = w.folder

/-- What is gained before a file is put in its place, and afterwards. -/
theorem Puts.of_gains (h : w.Gains between) (hputs : between.Puts file content after) :
    w.Puts file content after := by
  obtain ⟨⟨grown, hgains, hlocate, hplace, htree⟩, hfolder⟩ := hputs
  rw [h.sameFolder] at hlocate hplace htree
  exact ⟨⟨grown, h.trans hgains, hlocate, hplace, htree⟩, hfolder.trans h.sameFolder⟩

theorem Puts.place_ne_root (h : w.Puts file content after) : file.resolve w.folder ≠ [] := by
  obtain ⟨⟨_, -, -, hplace, -⟩, -⟩ := h
  exact FileTree.ne_root_of_entry? hplace

/-- A file is never put where a folder stood from the beginning. -/
theorem Puts.not_folder (h : w.Puts file content after) :
    w.tree.entry? (file.resolve w.folder) ≠ some .folder := by
  obtain ⟨⟨between, hgains, -, hplace, -⟩, -⟩ := h
  exact fun hfolder => hplace (hgains.grows.kept _ _ hfolder)

/-- Folders that are gained afterwards leave the file in its place, and its path leads there. -/
theorem Puts.found (h : w.Puts file content between) (hgains : between.Gains after) :
    after.tree.locate after.folder file = .ok (file.resolve w.folder) ∧
      after.tree.entry? (file.resolve w.folder) = some (.file content) := by
  obtain ⟨⟨grown, hgrown, hlocate, hplace, htree⟩, hfolder⟩ := h
  rw [hgrown.sameFolder] at hlocate
  obtain ⟨hnameable, hshort, hwalk⟩ := FileTree.locate_eq_ok_iff.mp hlocate
  have hput : between.tree.walk between.folder file = .ok (file.resolve w.folder) := by
    rw [htree, hfolder]
    exact (FileTree.walk_ok_congr (FileTree.sameFolders_put hplace content)).mp hwalk
  refine ⟨FileTree.locate_eq_ok_iff.mpr ⟨hnameable, hshort, ?_⟩, hgains.grows.kept _ _ ?_⟩
  · rw [hgains.sameFolder]
    exact hgains.grows.walk_ok hput
  · rw [htree, FileTree.entry?_put, if_neg (FileTree.ne_root_of_entry? hplace), if_pos rfl]

/-- The files that there are when a file was put in its place, and folders were gained. -/
theorem Puts.entry?_eq_file_iff (h : w.Puts file content between) (hgains : between.Gains after)
    (location : Location) (bytes : List UInt8) :
    after.tree.entry? location = some (.file bytes) ↔
      if location = file.resolve w.folder then bytes = content
      else w.tree.entry? location = some (.file bytes) := by
  have hroot := h.place_ne_root
  obtain ⟨⟨grown, hgrown, -, -, htree⟩, -⟩ := h
  rw [← hgains.grows.sameFiles, htree, FileTree.entry?_put]
  split
  · next hlocation =>
      rw [hlocation, if_neg hroot.symm, FileTree.entry?_root]
  · split
    · simp [eq_comm]
    · exact (hgrown.grows.sameFiles location bytes).symm

/-- What is left when the place of the file is cleared. -/
theorem Puts.grows_clear (h : w.Puts file content between) (hgains : between.Gains after) :
    (w.tree.clear (file.resolve w.folder)).Grows (after.tree.clear (file.resolve w.folder)) := by
  obtain ⟨⟨grown, hgrown, -, -, htree⟩, -⟩ := h
  have hput := FileTree.grows_clear_put grown.tree (file.resolve w.folder) (.file content)
  rw [← htree] at hput
  exact ((hgrown.grows.clear _).trans hput).trans (hgains.grows.clear _)

/-- **A file that was put in its place can be removed again.** -/
theorem Puts.removeFile_eq (h : w.Puts file content between) (hgains : between.Gains after) :
    Job.removeFile file after =
      .ok () { after with tree := after.tree.clear (file.resolve w.folder) } := by
  obtain ⟨hlocate, hentry⟩ := h.found hgains
  have hremove := FileTree.remove_eq hlocate hentry
  have hends := Job.change_ends file FileTree.remove after
  show Job.change file FileTree.remove after = _
  cases hrun : Job.change file FileTree.remove after with
  | ok result last =>
      obtain ⟨tree, htree, rfl⟩ := hends.of_ok hrun
      rw [hremove] at htree
      cases htree
      rfl
  | error failure last =>
      obtain ⟨-, cause, hcause, -⟩ := hends.of_error hrun
      rw [hremove] at hcause
      cases hcause

end Workspace

namespace Job

open Workspace

variable {w : Workspace}

/-- Making a folder gains folders at most, whatever the disk is like. -/
theorem makeFolder_gains (path : Path) (w : Workspace) :
    (makeFolder path).Ends w (fun _ after => w.Gains after) fun _ after => w.Gains after := by
  unfold makeFolder
  refine ends_get_bind ?_
  rw [FileTree.makeFolder_eq]
  cases w.tree.locate w.folder path with
  | error cause =>
      dsimp only
      split
      · exact ends_pure (.refl w)
      · exact ends_throw (.refl w)
  | ok location =>
      cases hentry : w.tree.entry? location with
      | none =>
          simp only [hentry]
          exact ends_set ⟨FileTree.grows_put hentry, rfl⟩
      | some entry =>
          simp only [hentry]
          split
          · exact ends_pure (.refl w)
          · exact ends_throw (.refl w)

/-- Making the folders of a path gains folders at most, also where it is given up halfway. -/
theorem makeFoldersOf_gains (count : Nat) (path : Path) (w : Workspace) :
    (makeFoldersOf path count).Ends w (fun _ after => w.Gains after)
      fun _ after => w.Gains after := by
  induction count generalizing path w with
  | zero => exact makeFolder_gains path w
  | succ count ih =>
      unfold makeFoldersOf
      refine ends_get_bind ?_
      split
      · refine (ih path.parent w).bind fun _ between hbetween => ?_
        exact (makeFolder_gains path between).mono (fun _ _ h => hbetween.trans h)
          fun _ _ h => hbetween.trans h
      · exact makeFolder_gains path w

/-- A path is completed without a look at the disk. -/
theorem resolve_ends (path : Path) (w : Workspace) :
    (Job.resolve path).Ends w
      (fun file after => after = w ∧ file = .ofLocation (path.resolve w.folder))
      fun _ after => after = w := by
  unfold Job.resolve
  refine ends_get_bind ?_
  split
  · exact ends_pure ⟨rfl, rfl⟩
  · exact ends_throw rfl

/-- **Writing a text** puts a file in the place that its path names, or gains folders at most. -/
theorem writeText_ends (path : Path) (text : String) (w : Workspace) :
    (writeText none path text).Ends w
      (fun file after => file = .ofLocation (path.resolve w.folder) ∧
        Puts file (Text.encodeUtf8 text) w after)
      fun _ after => w.Gains after := by
  unfold writeText
  refine ((resolve_ends path w).mono_bad ?_).bind ?_
  · rintro _ _ rfl
    exact .refl _
  · rintro file start ⟨rfl, hfile⟩
    refine (makeFoldersOf_gains _ file.parent start).bind fun _ between hgains => ?_
    refine ((writeFile_ends file text between).mono_bad ?_).bind ?_
    · rintro _ _ ⟨rfl, -⟩
      exact hgains
    · rintro _ after ⟨location, hlocate, hentry, rfl⟩
      have hlocation : location = file.resolve start.folder := by
        rw [← hgains.sameFolder]
        exact FileTree.walk_eq_resolve (FileTree.locate_eq_ok_iff.mp hlocate).2.2
      subst hlocation
      exact ends_pure ⟨hfile, ⟨between, hgains, hlocate, hentry, rfl⟩, hgains.sameFolder⟩

/-- **Writing a text that is made first**, and telling where it stands: the file is put in its place,
or folders are gained at most. -/
theorem writeMade_ends {make : Job String} {made : String → Prop} {w : Workspace}
    (hmake : make.Ends w (fun text after => after = w ∧ made text) fun _ after => after = w)
    (path : Path) (message : Path → String) :
    (do
      let text ← make
      let file ← writeText none path text
      record .info (message file)
      pure file).Ends w
      (fun file after => file = w.fileAt path ∧
        ∃ text, made text ∧ w.Puts file (Text.encodeUtf8 text) after)
      fun _ after => w.Gains after := by
  refine (hmake.mono_bad fun _ _ h => h ▸ .refl _).bind ?_
  rintro text _ ⟨rfl, hmade⟩
  refine (writeText_ends path text _).bind fun file between ⟨hfile, hputs⟩ => ?_
  exact ends_record_bind (ends_pure ⟨hfile, text, hmade, hputs.put, hputs.sameFolder⟩)

end Job

end DesignTokens
