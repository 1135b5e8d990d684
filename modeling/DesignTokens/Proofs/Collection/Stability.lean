import DesignTokens.Proofs.Collection.Lookup

/-!
# What a change of the disk does to look-ups

The disk changes in two ways while a collection is used: folders are made, and a file is put into
the project folder. Neither changes what is found at files of other names, as long as no folder that
was there before comes into sight.

## Main Definitions

* `Workspace.IsInSight` — a folder is not hidden behind something that is missing
* `Workspace.written` — a workspace with a file written to a place

## Main Statements

* `Workspace.themeAt?_of_makes` — what is found in a folder after it is made
* `Workspace.themeAt?_written_of_ne`, `Workspace.themeAt?_written` — what is found under other names
  and under the name of a file after it is written
-/

namespace DesignTokens

namespace Workspace

open Collection (fileIn ending)

/-- If a folder stands where the names of a path lead, the way along the path is not missing. A path
that only goes downwards from a folder always has this property. -/
def IsInSight (w : Workspace) (folder : Path) : Prop :=
  w.tree.entry? (folder.resolve w.folder) = some .folder →
    w.tree.walk w.folder folder ≠ .error .missing

instance (w : Workspace) (folder : Path) : Decidable (w.IsInSight folder) :=
  inferInstanceAs (Decidable (_ → _))

variable {w after : Workspace} {folder file : Path} {name : String}

theorem find_eq_ok_iff {entry : Entry} :
    w.tree.find w.folder file = .ok entry ↔
      ∃ location, w.tree.locate w.folder file = .ok location ∧
        w.tree.entry? location = some entry := by
  unfold FileTree.find
  cases w.tree.locate w.folder file with
  | error cause => simp [bind, Except.bind]
  | ok location =>
      cases h : w.tree.entry? location <;> simp [bind, Except.bind, h]

theorem find_eq_tooLong_iff :
    w.tree.find w.folder file = .error .tooLong ↔
      w.tree.locate w.folder file = .error .tooLong := by
  unfold FileTree.find
  cases w.tree.locate w.folder file with
  | error cause => simp [bind, Except.bind]
  | ok location =>
      cases h : w.tree.entry? location <;> simp [bind, Except.bind, h]

/-- Nothing is found where nothing or a folder stands, if it can be looked up. -/
theorem themeAt?_eq_none (hentry : ∀ entry, w.tree.find w.folder file = .ok entry → entry = .folder)
    (hlong : w.tree.find w.folder file ≠ .error .tooLong) : w.themeAt? file = .ok none := by
  unfold themeAt?
  cases hfind : w.tree.find w.folder file with
  | ok entry =>
      rw [hentry entry hfind]
      rfl
  | error cause => cases cause <;> first | rfl | exact absurd hfind hlong

/-- What stands at a file is found there, whatever else changes. -/
theorem themeAt?_eq_of_find {entry : Entry} (h : w.tree.find w.folder file = .ok entry)
    (h' : after.tree.find after.folder file = .ok entry) : after.themeAt? file = w.themeAt? file := by
  unfold themeAt?
  rw [h, h']

/-- What is found at a file depends on what stands there and on whether the path is too long. -/
theorem themeAt?_eq_of_iff
    (hfind : ∀ entry, after.tree.find after.folder file = .ok entry ↔
      w.tree.find w.folder file = .ok entry)
    (hlong : after.tree.find after.folder file = .error .tooLong ↔
      w.tree.find w.folder file = .error .tooLong) : after.themeAt? file = w.themeAt? file := by
  unfold themeAt?
  cases hold : w.tree.find w.folder file with
  | ok entry => rw [(hfind entry).mpr hold]
  | error cause =>
      cases hnew : after.tree.find after.folder file with
      | ok entry =>
          rw [(hfind entry).mp hnew] at hold
          cases hold
      | error newCause =>
          -- All causes but this one are the same to a look-up.
          have hsame : newCause = .tooLong ↔ cause = .tooLong := by simpa [hold, hnew] using hlong
          cases cause <;> cases newCause <;> first | rfl | simp at hsame

theorem exists_find_of_themeAt? {theme : Theme} (h : w.themeAt? file = .ok (some theme)) :
    ∃ entry, w.tree.find w.folder file = .ok entry := by
  unfold themeAt? at h
  cases hfind : w.tree.find w.folder file with
  | ok entry => exact ⟨entry, rfl⟩
  | error cause => rw [hfind] at h; cases cause <;> cases h

/-! ### The place of a file -/

theorem ending_ne_upward (name : String) : name ++ ending ≠ upward := by
  intro h
  have := congrArg List.getLast? (congrArg String.toList h)
  simp [ending, upward, String.toList_append] at this

/-- The walk to a file goes to its folder and one name further. -/
theorem walk_fileIn_eq_ok_iff (hname : '/' ∉ name.toList) {location : Location} :
    w.tree.walk w.folder (fileIn folder name) = .ok location ↔
      ∃ around, w.tree.walk w.folder folder = .ok around ∧
        w.tree.entry? around = some .folder ∧
        (name ++ ending).utf8ByteSize ≤ FileTree.nameLimit ∧
        location = around ++ [name ++ ending] := by
  rw [Collection.fileIn_eq folder hname]
  show w.tree.walkFrom (folder.start w.folder) (folder.names ++ [name ++ ending]) = _ ↔ _
  rw [FileTree.walkFrom_concat]
  show (w.tree.walk w.folder folder).bind _ = _ ↔ _
  cases w.tree.walk w.folder folder with
  | error cause => simp [Except.bind]
  | ok around =>
      simp [Except.bind, FileTree.enter_eq_ok_iff, Path.stepTo, ending_ne_upward]

/-- Files of different names stand at different places. -/
theorem locate_fileIn_ne {other : Path} {otherName : String} (hname : '/' ∉ name.toList)
    (hother : '/' ∉ otherName.toList) (hne : name ≠ otherName) {location place : Location}
    (h : w.tree.locate w.folder (fileIn folder name) = .ok location)
    (h' : w.tree.locate w.folder (fileIn other otherName) = .ok place) : location ≠ place := by
  obtain ⟨around, -, -, -, rfl⟩ :=
    (walk_fileIn_eq_ok_iff hname).mp (FileTree.locate_eq_ok_iff.mp h).2.2
  obtain ⟨around', -, -, -, rfl⟩ :=
    (walk_fileIn_eq_ok_iff hother).mp (FileTree.locate_eq_ok_iff.mp h').2.2
  intro heq
  have hlast := (List.append_inj' heq rfl).2
  exact hne ((String.append_left_inj ending).mp (List.cons.inj hlast).1)

/-! ### Folders are made -/

/-- What was found is found when there are more folders. -/
theorem find_of_grows (hgrows : w.tree.Grows after.tree) (hfolder : after.folder = w.folder)
    {entry : Entry} (hfind : w.tree.find w.folder file = .ok entry) :
    after.tree.find after.folder file = .ok entry := by
  obtain ⟨location, hlocate, hentry⟩ := find_eq_ok_iff.mp hfind
  obtain ⟨hnameable, hsize, hwalk⟩ := FileTree.locate_eq_ok_iff.mp hlocate
  refine find_eq_ok_iff.mpr ⟨location, FileTree.locate_eq_ok_iff.mpr ⟨hnameable, hsize, ?_⟩,
    hgrows.kept _ _ hentry⟩
  rw [hfolder]
  exact hgrows.walk_ok hwalk

/-- What was found is found when folders are made. -/
theorem find_of_makes (h : Makes folder w after) {entry : Entry}
    (hfind : w.tree.find w.folder file = .ok entry) :
    after.tree.find after.folder file = .ok entry :=
  find_of_grows h.grows h.sameFolder hfind

/-- A place in a folder that is made was empty, if nothing was found there and the folder was not
hidden. -/
theorem entry?_of_makes (hw : w.IsSound) (h : Makes folder w after) (hsight : w.IsInSight folder)
    (hname : '/' ∉ name.toList) {location : Location}
    (hlocate : after.tree.locate after.folder (fileIn folder name) = .ok location)
    (hnone : ∀ entry, w.tree.find w.folder (fileIn folder name) ≠ .ok entry) :
    w.tree.entry? location = none := by
  obtain ⟨hnameable, hsize, hwalkFile⟩ := FileTree.locate_eq_ok_iff.mp hlocate
  obtain ⟨around, hwalk, -, hshort, rfl⟩ := (walk_fileIn_eq_ok_iff hname).mp hwalkFile
  by_cases haround : w.tree.entry? around = some .folder
  · -- The folder was there, so that the walk to it can only have succeeded.
    rw [h.sameFolder] at hwalk
    have hresolve := FileTree.walk_eq_resolve hwalk
    have hbefore : w.tree.walk w.folder folder = .ok around := by
      cases hold : w.tree.walk w.folder folder with
      | ok place => rw [FileTree.walk_eq_resolve hold, hresolve]
      | error cause =>
          by_cases hcause : cause = .missing
          · exact absurd (hcause ▸ hold) (hsight (hresolve ▸ haround))
          · rw [h.grows.walk_error hcause hold] at hwalk
            cases hwalk
    by_contra hsome
    obtain ⟨entry, hentry⟩ := Option.ne_none_iff_exists'.mp hsome
    refine hnone entry (find_eq_ok_iff.mpr ⟨_, FileTree.locate_eq_ok_iff.mpr
      ⟨hnameable, hsize, (walk_fileIn_eq_ok_iff hname).mpr ?_⟩, hentry⟩)
    exact ⟨around, hbefore, haround, hshort, rfl⟩
  · exact hw.closed.entry?_eq_none haround

/-- Once a folder is made, the path of a file in it is too long only if it was too long before: the
walk to the folder succeeds, and the last name is short. -/
theorem find_tooLong_of_makes (h : Makes folder w after) (hname : '/' ∉ name.toList)
    (hshort : (name ++ ending).utf8ByteSize ≤ FileTree.nameLimit)
    (hlong : after.tree.find after.folder (fileIn folder name) = .error .tooLong) :
    w.tree.find w.folder (fileIn folder name) = .error .tooLong := by
  obtain ⟨hnameable, hlong⟩ := FileTree.locate_eq_tooLong_iff.mp (find_eq_tooLong_iff.mp hlong)
  refine find_eq_tooLong_iff.mpr (FileTree.locate_eq_tooLong_iff.mpr ⟨hnameable, .inl ?_⟩)
  rcases hlong with hlong | hlong
  · exact hlong
  · obtain ⟨around, hwalk, -⟩ := h.reached
    rw [Collection.fileIn_eq folder hname] at hlong
    change after.tree.walkFrom (folder.start after.folder) (folder.names ++ [name ++ ending]) = _
      at hlong
    rw [FileTree.walkFrom_concat] at hlong
    change (after.tree.walk after.folder folder).bind _ = _ at hlong
    rw [hwalk] at hlong
    exact absurd (FileTree.enter_eq_tooLong_iff.mp hlong).2 (Nat.not_lt.mpr hshort)

/-- **What is found in a folder stays the same when the folder is made**, unless a name is too long
to be looked up. -/
theorem themeAt?_of_makes (hw : w.IsSound) (h : Makes folder w after) (hsight : w.IsInSight folder)
    (hname : '/' ∉ name.toList) (hshort : (name ++ ending).utf8ByteSize ≤ FileTree.nameLimit)
    {found : Option Theme} (hfound : w.themeAt? (fileIn folder name) = .ok found) :
    after.themeAt? (fileIn folder name) = .ok found := by
  cases hfind : w.tree.find w.folder (fileIn folder name) with
  | ok entry => rw [themeAt?_eq_of_find hfind (find_of_makes h hfind), hfound]
  | error cause =>
      have hnone : found = none := by
        unfold themeAt? at hfound
        rw [hfind] at hfound
        cases cause <;> cases hfound <;> rfl
      rw [hnone]
      refine themeAt?_eq_none ?_ ?_
      · intro entry hentry
        obtain ⟨location, hlocate, hplace⟩ := find_eq_ok_iff.mp hentry
        have hempty := entry?_of_makes hw h hsight hname hlocate (by simp [hfind])
        rcases h.grows.added location hempty with hnothing | hfolder
        · rw [hplace] at hnothing; cases hnothing
        · rw [hplace] at hfolder; exact Option.some.inj hfolder
      · intro hlong
        have hbefore := find_tooLong_of_makes h hname hshort hlong
        unfold themeAt? at hfound
        rw [hbefore] at hfound
        cases hfound

/-! ### A file is written -/

/-- A workspace with a file written to a place. -/
def written (w : Workspace) (location : Location) (content : List UInt8) : Workspace :=
  { w with tree := w.tree.put location (.file content) }

variable {location : Location} {content : List UInt8}

/-- A workspace stays in order when a file is written where a path leads. -/
theorem IsSound.written (hw : w.IsSound) (hlocate : w.tree.locate w.folder file = .ok location)
    (hplace : w.tree.entry? location ≠ some .folder) : (w.written location content).IsSound := by
  have hwalk := (FileTree.locate_eq_ok_iff.mp hlocate).2.2
  have haround : w.tree.entry? location.dropLast = some .folder := by
    by_cases hentry : w.tree.entry? location = none
    · exact FileTree.entry?_dropLast_of_walk hw.closed (hw.start file) hwalk hentry
    · exact hw.closed location hentry
  exact ⟨hw.closed.put haround (.inr hplace),
    (FileTree.sameFolders_put hplace content w.folder).mp hw.folder⟩

theorem locate_written_eq_ok_iff (hplace : w.tree.entry? location ≠ some .folder)
    {place : Location} :
    (w.written location content).tree.locate w.folder file = .ok place ↔
      w.tree.locate w.folder file = .ok place := by
  rw [FileTree.locate_eq_ok_iff, FileTree.locate_eq_ok_iff]
  exact and_congr_right fun _ => and_congr_right fun _ =>
    (FileTree.walk_ok_congr (FileTree.sameFolders_put hplace content)).symm

/-- **What is found elsewhere stays the same when a file is written.** -/
theorem themeAt?_written_of_ne (hplace : w.tree.entry? location ≠ some .folder)
    (hne : ∀ place, w.tree.locate w.folder file = .ok place → place ≠ location) :
    (w.written location content).themeAt? file = w.themeAt? file := by
  have hfolder : (w.written location content).folder = w.folder := rfl
  have hfind : ∀ entry, (w.written location content).tree.find w.folder file = .ok entry ↔
      w.tree.find w.folder file = .ok entry := by
    intro entry
    rw [← hfolder, find_eq_ok_iff, hfolder, find_eq_ok_iff]
    refine exists_congr fun place => ?_
    rw [locate_written_eq_ok_iff hplace]
    refine and_congr_right fun hlocate => ?_
    show FileTree.entry? (w.tree.put location _) place = _ ↔ _
    rw [FileTree.entry?_put, if_neg (hne place hlocate)]
    split
    · next hroot => rw [hroot, FileTree.entry?_root]
    · rfl
  have hlong : (w.written location content).tree.find w.folder file = .error .tooLong ↔
      w.tree.find w.folder file = .error .tooLong := by
    rw [← hfolder, find_eq_tooLong_iff, hfolder, find_eq_tooLong_iff,
      FileTree.locate_eq_tooLong_iff, FileTree.locate_eq_tooLong_iff]
    exact and_congr_right fun _ => or_congr_right
      (FileTree.walk_tooLong_congr (FileTree.sameFolders_put hplace content)).symm
  exact themeAt?_eq_of_iff hfind hlong

/-- What is written is found at its file. -/
theorem find_written (hlocate : w.tree.locate w.folder file = .ok location)
    (hplace : w.tree.entry? location ≠ some .folder) :
    (w.written location content).tree.find w.folder file = .ok (.file content) := by
  refine (find_eq_ok_iff (w := w.written location content)).mpr
    ⟨location, (locate_written_eq_ok_iff hplace).mpr hlocate, ?_⟩
  show FileTree.entry? (w.tree.put location _) location = _
  rw [FileTree.entry?_put, if_neg (FileTree.ne_root_of_entry? hplace), if_pos rfl]

/-- Something is still found at a file when another file is written, or this one. -/
theorem exists_find_written (hplace : w.tree.entry? location ≠ some .folder) {entry : Entry}
    (hfind : w.tree.find w.folder file = .ok entry) :
    ∃ last, (w.written location content).tree.find w.folder file = .ok last := by
  obtain ⟨place, hlocate, hentry⟩ := find_eq_ok_iff.mp hfind
  by_cases hsame : place = location
  · exact ⟨_, find_written (hsame ▸ hlocate) hplace⟩
  · refine ⟨entry, (find_eq_ok_iff (w := w.written location content)).mpr
      ⟨place, (locate_written_eq_ok_iff hplace).mpr hlocate, ?_⟩⟩
    show FileTree.entry? (w.tree.put location _) place = _
    rw [FileTree.entry?_put, if_neg hsame]
    split
    · next hroot => rw [← hentry, hroot, FileTree.entry?_root]
    · exact hentry

/-- **What is found at a file after it is written** is the theme of what was written. -/
theorem themeAt?_written (hlocate : w.tree.locate w.folder file = .ok location)
    (hplace : w.tree.entry? location ≠ some .folder) :
    (w.written location content).themeAt? file = skipped ((Entry.file content).theme file) := by
  have hfolder : (w.written location content).folder = w.folder := rfl
  unfold themeAt?
  rw [hfolder, find_written hlocate hplace]

end Workspace

end DesignTokens
