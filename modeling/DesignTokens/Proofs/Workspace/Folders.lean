import DesignTokens.Proofs.Workspace.Outcome

/-!
# Folders that are made

Making a folder makes the folders around it as well, as far as they are missing. When that is done
the path of the folder can be walked; where it cannot be done, something is in the way.

## Main Definitions

* `Workspace.IsSound` — a closed disk and a working folder that is there
* `Workspace.Makes` — a workspace has gained folders, and a path leads to one

## Main Statements

* `Job.makeFolder_ends` — one folder, where the folders around it are there
* `Job.makeFolders_ends` — a folder and those around it
-/

namespace DesignTokens

/-- Everything on the disk stands in a folder, and the working folder is there. -/
structure Workspace.IsSound (w : Workspace) : Prop where
  /-- Everything stands in a folder. -/
  closed : w.tree.IsClosed
  /-- The working folder is there. -/
  folder : w.tree.entry? w.folder = some .folder

instance (w : Workspace) : Decidable w.IsSound :=
  decidable_of_iff (w.tree.IsClosed ∧ w.tree.entry? w.folder = some .folder)
    ⟨fun h => ⟨h.1, h.2⟩, fun h => ⟨h.closed, h.folder⟩⟩

/-- A workspace has gained folders and nothing else, and a path leads to one of its folders. -/
structure Workspace.Makes (path : Path) (w after : Workspace) : Prop where
  /-- Only folders were added. -/
  grows : w.tree.Grows after.tree
  /-- The working folder is the same. -/
  sameFolder : after.folder = w.folder
  /-- The disk is closed. -/
  closed : after.tree.IsClosed
  /-- The path leads to a folder. -/
  reached : ∃ location, after.tree.walk after.folder path = .ok location ∧
    after.tree.entry? location = some .folder

namespace FileTree

variable {tree : FileTree}

/-- Where a walk ends and nothing stands, a folder is around. -/
theorem entry?_dropLast_of_walk (hclosed : tree.IsClosed) {workingFolder location : Location}
    {path : Path} (hstart : tree.entry? (path.start workingFolder) = some .folder)
    (hwalk : tree.walk workingFolder path = .ok location)
    (hnone : tree.entry? location = none) : tree.entry? location.dropLast = some .folder := by
  unfold walk at hwalk
  rcases List.eq_nil_or_concat path.names with hnames | ⟨front, name, hnames⟩
  · rw [hnames, walkFrom_nil] at hwalk
    cases hwalk
    rw [hstart] at hnone
    cases hnone
  · rw [hnames, List.concat_eq_append, walkFrom_concat] at hwalk
    cases hfront : tree.walkFrom (path.start workingFolder) front with
    | error cause => rw [hfront] at hwalk; cases hwalk
    | ok around =>
        rw [hfront] at hwalk
        obtain ⟨hfolder, -, rfl⟩ := enter_eq_ok_iff.mp hwalk
        unfold Path.stepTo at hnone ⊢
        split
        · next hup =>
            rw [if_pos hup, hclosed around (by simp [hfolder])] at hnone
            cases hnone
        · rw [List.dropLast_concat]
          exact hfolder

/-- Where a path leads to something, or to nothing, or not at all, making a folder there is refused,
done, or refused for the same reason. -/
theorem makeFolder_eq (tree : FileTree) (workingFolder : Location) (path : Path) :
    tree.makeFolder workingFolder path =
      match tree.locate workingFolder path with
      | .error cause => .error cause
      | .ok location =>
        match tree.entry? location with
        | some _ => .error .occupied
        | none => .ok (tree.put location .folder) := by
  unfold makeFolder
  cases tree.locate workingFolder path <;> rfl

theorem makeFolder_eq_missing_iff {workingFolder : Location} {path : Path} :
    tree.makeFolder workingFolder path = .error .missing ↔
      tree.locate workingFolder path = .error .missing := by
  rw [makeFolder_eq]
  cases tree.locate workingFolder path with
  | error cause => simp
  | ok location => cases h : tree.entry? location <;> simp [h]

theorem hasFolder_eq_true_iff {workingFolder : Location} {path : Path} :
    tree.hasFolder workingFolder path = true ↔
      ∃ location, tree.locate workingFolder path = .ok location ∧
        tree.entry? location = some .folder := by
  unfold hasFolder find
  cases tree.locate workingFolder path with
  | error cause => simp [bind, Except.bind]
  | ok location =>
      cases h : tree.entry? location with
      | none => simp [bind, Except.bind, h]
      | some entry => cases entry <;> simp [bind, Except.bind, h]

theorem hasFolder_eq_false {workingFolder : Location} {path : Path}
    (h : ∀ location, tree.locate workingFolder path = .ok location →
      tree.entry? location ≠ some .folder) : tree.hasFolder workingFolder path = false := by
  rw [← Bool.not_eq_true, hasFolder_eq_true_iff]
  rintro ⟨location, hlocate, hfolder⟩
  exact h location hlocate hfolder

/-- A path without names needs nothing that could be missing. -/
theorem locate_ne_missing_of_names_nil {workingFolder : Location} {path : Path}
    (h : path.names = []) : tree.locate workingFolder path ≠ .error .missing := by
  unfold locate
  split
  · simp
  · split
    · simp
    · rw [h]; simp [pure, Except.pure]

/-- What is missing on the way along a path is found by the walk along its names. -/
theorem locate_eq_missing_iff {workingFolder : Location} {path : Path} :
    tree.locate workingFolder path = .error .missing ↔
      path.isNameable = true ∧ path.text.utf8ByteSize ≤ pathLimit ∧
        tree.walk workingFolder path = .error .missing := by
  unfold locate
  split
  · next h => simp_all
  · next h =>
      split
      · next hlong => simp [Nat.not_le.mpr hlong]
      · next hshort => simp_all [walk, walkFrom]

theorem enter_ne_unnameable (start : Location) (name : String) :
    tree.enter start name ≠ .error .unnameable := by
  unfold enter
  split
  · split <;> simp
  · simp
  · simp

theorem walkFrom_ne_unnameable (names : List String) (start : Location) :
    tree.walkFrom start names ≠ .error .unnameable := by
  induction names generalizing start with
  | nil => intro h; cases h
  | cons name rest ih =>
      intro h
      rw [walkFrom_cons] at h
      cases hfirst : tree.enter start name with
      | error cause =>
          rw [hfirst] at h
          cases h
          exact enter_ne_unnameable start name hfirst
      | ok next =>
          rw [hfirst] at h
          exact ih next h

/-- A name that no disk knows is refused before anything is looked up. -/
theorem locate_eq_unnameable_iff {workingFolder : Location} {path : Path} :
    tree.locate workingFolder path = .error .unnameable ↔ path.isNameable = false := by
  unfold locate
  split
  · next h => simp_all
  · next h =>
      have hnameable : path.isNameable = true := by simpa using h
      split
      · simp [hnameable]
      · simp only [hnameable]
        exact ⟨fun h => absurd h (walkFrom_ne_unnameable path.names _), fun h => by simp at h⟩

end FileTree

namespace Workspace

variable {w after : Workspace} {path : Path}

/-- Paths are read from a place where a folder is. -/
theorem IsSound.start (h : w.IsSound) (path : Path) :
    w.tree.entry? (path.start w.folder) = some .folder := by
  unfold Path.start
  split
  · exact h.folder
  · rfl

/-- Once the folder around a path is made, nothing on the way along the path is missing. -/
theorem Makes.locate_ne_missing_of_parent (h : Makes path.parent w after) :
    after.tree.locate after.folder path ≠ .error .missing := by
  intro hmissing
  obtain ⟨around, hwalk, hfolder⟩ := h.reached
  rcases List.eq_nil_or_concat path.names with hnames | ⟨front, name, hnames⟩
  · exact FileTree.locate_ne_missing_of_names_nil hnames hmissing
  · have hlast := (FileTree.locate_eq_missing_iff.mp hmissing).2.2
    have hfront : after.tree.walkFrom (path.start after.folder) front = .ok around := by
      have hparent : path.parent.names = front := by
        rw [Path.parent, hnames, List.concat_eq_append, List.dropLast_concat]
      rw [← hparent]
      exact hwalk
    rw [FileTree.walk, hnames, List.concat_eq_append, FileTree.walkFrom_concat, hfront] at hlast
    rw [FileTree.enter_eq_missing_iff.mp hlast] at hfolder
    cases hfolder

/-- What is made after the folder around it is made. -/
theorem Makes.of_parent {between : Workspace} (h : Makes path.parent w between)
    (h' : Makes path between after) : Makes path w after :=
  ⟨h.grows.trans h'.grows, h'.sameFolder.trans h.sameFolder, h'.closed, h'.reached⟩

theorem Makes.isSound (h : Makes path w after) (hw : w.IsSound) : after.IsSound :=
  ⟨h.closed, by rw [h.sameFolder]; exact h.grows.kept _ _ hw.folder⟩

end Workspace

namespace Job

open Workspace

/-- Making a folder where nothing but the folder itself can be missing. -/
theorem makeFolder_ends {w : Workspace} (hw : w.IsSound) {path : Path}
    (hpath : w.tree.locate w.folder path ≠ .error .missing) :
    (makeFolder path).Ends w (fun _ after => Makes path w after)
      (fun failure after => after = w ∧ ∃ cause, failure = .disk ⟨cause, path⟩ ∧
        cause ≠ .missing ∧ (cause = .unnameable → path.isNameable = false)) := by
  unfold makeFolder
  refine ends_get_bind ?_
  rw [FileTree.makeFolder_eq]
  cases hlocate : w.tree.locate w.folder path with
  | error cause =>
      have hnone : w.hasFolder path = false := FileTree.hasFolder_eq_false (by simp [hlocate])
      simp only [hnone]
      refine ends_throw ⟨rfl, cause, rfl, fun h => hpath (h ▸ hlocate), ?_⟩
      rintro rfl
      exact FileTree.locate_eq_unnameable_iff.mp hlocate
  | ok location =>
      have hwalk := (FileTree.locate_eq_ok_iff.mp hlocate).2.2
      cases hentry : w.tree.entry? location with
      | none =>
          have hput : FileTree.entry? (w.tree.put location .folder) location = some .folder := by
            rw [FileTree.entry?_put]
            split <;> simp
          simp only [hentry]
          exact ends_set ⟨FileTree.grows_put hentry, rfl, hw.closed.put
            (FileTree.entry?_dropLast_of_walk hw.closed (hw.start path) hwalk hentry) (.inl rfl),
            location, (FileTree.grows_put hentry).walk_ok hwalk, hput⟩
      | some entry =>
          cases entry with
          | folder =>
              have hthere : w.hasFolder path = true :=
                FileTree.hasFolder_eq_true_iff.mpr ⟨location, hlocate, hentry⟩
              simp only [hentry, hthere]
              exact ends_pure ⟨.refl _, rfl, hw.closed, location, hwalk, hentry⟩
          | file content =>
              have hnone : w.hasFolder path = false :=
                FileTree.hasFolder_eq_false (by simp [hlocate, hentry])
              simp only [hentry, hnone]
              exact ends_throw ⟨rfl, .occupied, rfl, by simp, by simp⟩

/-- Making the folder of at least as many names as a path has. -/
theorem makeFoldersOf_ends {w : Workspace} (hw : w.IsSound) (count : Nat) (path : Path)
    (hcount : path.names.length ≤ count) :
    (makeFoldersOf path count).Ends w (fun _ after => Makes path w after)
      (fun failure after => ∃ cause place, failure = .disk ⟨cause, place⟩ ∧ cause ≠ .missing ∧
        (cause = .unnameable → after = w)) := by
  induction count generalizing path with
  | zero =>
      have hnames : path.names = [] := List.length_eq_zero_iff.mp (Nat.le_zero.mp hcount)
      refine (makeFolder_ends hw (FileTree.locate_ne_missing_of_names_nil hnames)).mono
        (fun _ _ h => h) ?_
      rintro failure after ⟨rfl, cause, rfl, hcause, -⟩
      exact ⟨cause, path, rfl, hcause, fun _ => rfl⟩
  | succ count ih =>
      unfold makeFoldersOf
      refine ends_get_bind ?_
      split
      · next hmissing =>
          rw [FileTree.makeFolder_eq_missing_iff, FileTree.locate_eq_missing_iff] at hmissing
          have hparent : path.parent.names.length ≤ count := by
            simp only [Path.parent, List.length_dropLast]
            omega
          -- Once the folder around is there, nothing but the folder itself can be missing.
          refine (ih path.parent hparent).bind fun _ between hmade => ?_
          refine (makeFolder_ends (hmade.isSound hw) ?_).mono (fun _ _ hlast => ?_) ?_
          · exact hmade.locate_ne_missing_of_parent
          · exact hmade.of_parent hlast
          · rintro failure after ⟨rfl, cause, rfl, hcause, hname⟩
            exact ⟨cause, path, rfl, hcause, fun h => absurd hmissing.1 (by simp [hname h])⟩
      · next hthere =>
          refine (makeFolder_ends hw fun hmissing => ?_).mono_bad ?_
          · exact hthere (FileTree.makeFolder_eq_missing_iff.mpr hmissing)
          · rintro failure after ⟨rfl, cause, rfl, hcause, -⟩
            exact ⟨cause, path, rfl, hcause, fun _ => rfl⟩

/-- **Making a folder and those around it** leads to a folder, unless something is in the way. It
never fails because something is missing, and a name that no disk knows is refused before anything
is done. -/
theorem makeFolders_ends {w : Workspace} (hw : w.IsSound) (path : Path) :
    (makeFolders path).Ends w (fun _ after => Makes path w after)
      (fun failure after => ∃ cause place, failure = .disk ⟨cause, place⟩ ∧ cause ≠ .missing ∧
        (cause = .unnameable → after = w)) :=
  makeFoldersOf_ends hw path.names.length path (Nat.le_refl _)

/-- A folder that is made leaves the workspace in order, and so does one that is refused. -/
theorem makeFolder_isSound {w : Workspace} (hw : w.IsSound) (path : Path) :
    (makeFolder path).Ends w (fun _ after => after.IsSound) fun _ after => after.IsSound := by
  unfold makeFolder
  refine ends_get_bind ?_
  rw [FileTree.makeFolder_eq]
  cases hlocate : w.tree.locate w.folder path with
  | error cause =>
      dsimp only
      split
      · exact ends_pure hw
      · exact ends_throw hw
  | ok location =>
      have hwalk := (FileTree.locate_eq_ok_iff.mp hlocate).2.2
      cases hentry : w.tree.entry? location with
      | none =>
          simp only [hentry]
          exact ends_set ⟨hw.closed.put
            (FileTree.entry?_dropLast_of_walk hw.closed (hw.start path) hwalk hentry) (.inl rfl),
            (FileTree.grows_put hentry).kept _ _ hw.folder⟩
      | some entry =>
          simp only [hentry]
          split
          · exact ends_pure hw
          · exact ends_throw hw

/-- The same for the folders of a path, also where it is given up halfway. -/
theorem makeFoldersOf_isSound {w : Workspace} (hw : w.IsSound) (count : Nat) (path : Path) :
    (makeFoldersOf path count).Ends w (fun _ after => after.IsSound)
      fun _ after => after.IsSound := by
  induction count generalizing path with
  | zero => exact makeFolder_isSound hw path
  | succ count ih =>
      unfold makeFoldersOf
      refine ends_get_bind ?_
      split
      · exact (ih path.parent).bind fun _ _ hbetween => makeFolder_isSound hbetween path
      · exact makeFolder_isSound hw path

end Job

end DesignTokens
