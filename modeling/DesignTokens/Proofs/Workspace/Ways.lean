import DesignTokens.Proofs.Disk.Rooted
import DesignTokens.Proofs.Workspace.Changes

/-!
# The way to a place

The folders on the way to a place are made before something is put there. If the path from the root
is usable, they are all made, or nothing is made because a file is in the way: once the first one
can be made, nothing prevents the others. Otherwise a name that is too long may be met when some of
them are made already.

## Main Definitions

* `Workspace.HasFileOn` — a file is on the way to a place
* `Workspace.MakesWay` — the folders on the way to a place are there, and nothing else is new
* `Workspace.WritesOnly` — a file was put in its place, on its way, and nothing else is new
* `Workspace.IsBlocked` — nothing can be put in a place
* `Workspace.Refuses` — what is left when a file is not put in its place
* `Workspace.IsGrounded` — a sound workspace whose working folder has a name

## Main Statements

* `Job.makeFolders_ofLocation_ends` — the folders on the way to a place are made, or none
* `Job.writeText_whole` — a text is written whole, or it is refused
* `Job.writeText_leaves_way` — a path that is too long may be refused too late
-/

namespace DesignTokens

/-- The way along a path from the root leads through the places on the way. -/
theorem Path.LeadsThrough.isPrefix {place workingFolder location : Location}
    (h : (ofLocation place).LeadsThrough workingFolder location) (hupward : upward ∉ place) :
    location <+: place := by
  obtain ⟨count, hcount⟩ := h
  have htake : upward ∉ place.take count := fun hmem => hupward (List.mem_of_mem_take hmem)
  have hplace : location = place.take count :=
    hcount.trans (Path.resolve_ofLocation htake workingFolder)
  exact hplace ▸ List.take_prefix count place

namespace Workspace

variable {w between after : Workspace} {place location : Location} {content : List UInt8}

/-- A file is on the way to a place, or stands there. -/
def HasFileOn (w : Workspace) (place : Location) : Prop :=
  ∃ location content, location <+: place ∧ w.tree.entry? location = some (.file content)

theorem HasFileOn.of_dropLast (h : w.HasFileOn place.dropLast) : w.HasFileOn place := by
  obtain ⟨location, content, hway, hfile⟩ := h
  exact ⟨location, content, hway.trans <| List.dropLast_prefix place, hfile⟩

/-- The folders on the way to a place are there, the place included, and nothing else is new. -/
structure MakesWay (place : Location) (w after : Workspace) : Prop where
  /-- The working folder is the same. -/
  sameFolder : after.folder = w.folder
  /-- The disk is closed. -/
  closed : after.tree.IsClosed
  /-- No file was in the way. -/
  free : ¬ w.HasFileOn place
  /-- Folders are on the way, and everything else is as it was. -/
  entry : ∀ location, after.tree.entry? location =
    if location <+: place then some .folder else w.tree.entry? location

/-- Folders are on the whole way to a folder that is made. -/
theorem Makes.folder_of_isPrefix (h : Makes (.ofLocation place) w after) (hupward : upward ∉ place)
    (hway : location <+: place) : after.tree.entry? location = some .folder := by
  obtain ⟨reached, hwalk, hfolder⟩ := h.reached
  rw [FileTree.walk_eq_resolve hwalk, Path.resolve_ofLocation hupward] at hfolder
  by_cases hsame : location = place
  · rw [hsame, hfolder]
  · exact h.closed.folder_of_isPrefix (by simp [hfolder]) hway hsame

/-- The way to a place is all that is new if a folder was made there and folders on the way at
most. -/
theorem Makes.makesWay (h : Makes (.ofLocation place) w after) (hupward : upward ∉ place)
    (hchanges : w.Changes ((Path.ofLocation place).LeadsThrough w.folder) (fun _ => False) after) :
    w.MakesWay place after := by
  refine ⟨h.sameFolder, h.closed, ?_, fun location => ?_⟩
  · rintro ⟨location, content, hway, hfile⟩
    have hkept := h.grows.kept _ _ hfile
    rw [h.folder_of_isPrefix hupward hway] at hkept
    cases hkept
  · split
    · next hway => exact h.folder_of_isPrefix hupward hway
    · next hoff =>
        rcases hchanges.changed location with hsame | ⟨hway, -⟩ | ⟨hfalse, -⟩
        · exact hsame
        · exact absurd (hway.isPrefix hupward) hoff
        · exact hfalse.elim

/-- Once the folder around a place is made there is no file on the way to the place, nor in it. -/
theorem Makes.not_hasFileOn (h : Makes (.ofLocation place.dropLast) w after) (hw : w.IsSound)
    (hupward : upward ∉ place.dropLast) (hnone : w.tree.entry? place.dropLast = none) :
    ¬ after.HasFileOn place := by
  rintro ⟨location, content, hway, hfile⟩
  by_cases hsame : location = place
  · subst hsame
    have hbefore := (h.grows.sameFiles location content).mpr hfile
    rw [hw.closed location (by simp [hbefore])] at hnone
    cases hnone
  · rw [h.folder_of_isPrefix hupward (Path.prefix_dropLast_of_ne hway hsame)] at hfile
    cases hfile

/-- Making the way to a place adds folders on it. -/
theorem MakesWay.changes {files : Location → Prop} (h : w.MakesWay place after) :
    w.Changes (· <+: place) files after := by
  refine ⟨h.sameFolder, fun location => ?_⟩
  rw [h.entry]
  split
  · next hway =>
      cases hentry : w.tree.entry? location with
      | none => exact .inr (.inl ⟨hway, rfl, rfl⟩)
      | some entry =>
          cases entry with
          | folder => exact .inl rfl
          | file content => exact absurd ⟨location, content, hway, hentry⟩ h.free
  · exact .inl rfl

/-- A folder in the place itself was there before. -/
theorem MakesWay.folder_of_folder (h : w.MakesWay place.dropLast after)
    (hfolder : after.tree.entry? place = some .folder) : w.tree.entry? place = some .folder := by
  by_cases hroot : place = []
  · rw [hroot, FileTree.entry?_root]
  · rwa [h.entry, if_neg (Path.not_prefix_dropLast hroot)] at hfolder

/-- Nothing can be put in a place: a file is in the way, or a folder stands there. -/
def IsBlocked (w : Workspace) (place : Location) : Prop :=
  w.HasFileOn place.dropLast ∨ w.tree.entry? place = some .folder

/-- A file was put in its place, the folders on the way to it are there, and nothing else is new. -/
structure WritesOnly (place : Location) (content : List UInt8) (w after : Workspace) : Prop where
  /-- The working folder is the same. -/
  sameFolder : after.folder = w.folder
  /-- The disk is closed. -/
  closed : after.tree.IsClosed
  /-- The path to the place is not too long. -/
  usable : (Path.ofLocation place).IsUsable
  /-- The place was not blocked. -/
  free : ¬ w.IsBlocked place
  /-- The file is in its place, folders are on the way, and everything else is as it was. -/
  entry : ∀ location, after.tree.entry? location =
    if location = place then some (.file content)
    else if location <+: place.dropLast then some .folder else w.tree.entry? location

/-- What is new when the way to a place is made and a file is put there. -/
theorem MakesWay.put (h : w.MakesWay place.dropLast between)
    (husable : (Path.ofLocation place).IsUsable)
    (hplace : between.tree.entry? place ≠ some .folder) (content : List UInt8) :
    w.WritesOnly place content
      { between with tree := between.tree.put place (.file content) } := by
  have hroot := FileTree.ne_root_of_entry? hplace
  have haround : between.tree.entry? place.dropLast = some .folder := by
    rw [h.entry, if_pos List.prefix_rfl]
  refine ⟨h.sameFolder, h.closed.put haround (.inr hplace), husable, ?_, fun location => ?_⟩
  · rintro (hfile | hfolder)
    · exact h.free hfile
    · rw [h.entry, if_neg (Path.not_prefix_dropLast hroot)] at hplace
      exact hplace hfolder
  · show FileTree.entry? (between.tree.put place _) location = _
    rw [FileTree.entry?_put]
    split
    · next hempty =>
        rw [hempty, if_neg hroot.symm, if_pos List.nil_prefix]
    · split
      · rfl
      · exact h.entry location

theorem WritesOnly.entry_place (h : w.WritesOnly place content after) :
    after.tree.entry? place = some (.file content) := by
  rw [h.entry, if_pos rfl]

/-- A place is not blocked once a file was put there. -/
theorem WritesOnly.not_isBlocked (h : w.WritesOnly place content after) :
    ¬ after.IsBlocked place := by
  have hroot : place ≠ [] := by
    rintro rfl
    cases h.entry_place
  rintro (⟨location, bytes, hway, hfile⟩ | hfolder)
  · have hne : location ≠ place := fun heq => Path.not_prefix_dropLast hroot (heq ▸ hway)
    rw [h.entry, if_neg hne, if_pos hway] at hfile
    cases hfile
  · rw [h.entry_place] at hfolder
    cases hfolder

theorem WritesOnly.isSound (h : w.WritesOnly place content after) (hw : w.IsSound) :
    after.IsSound := by
  refine ⟨h.closed, ?_⟩
  rw [h.sameFolder, h.entry]
  split
  · next hplace => exact absurd (.inr (hplace ▸ hw.folder)) h.free
  · split
    · rfl
    · exact hw.folder

theorem WritesOnly.of_sameDisk (h : w.WritesOnly place content between)
    (hsame : between.SameDisk after) : w.WritesOnly place content after := by
  refine ⟨hsame.folder.trans h.sameFolder, ?_, h.usable, h.free, ?_⟩
  · rw [hsame.tree]
    exact h.closed
  · rw [hsame.tree]
    exact h.entry

/-- The same file in the same place changes nothing. -/
theorem WritesOnly.entry?_eq (h : w.WritesOnly place content between)
    (hagain : between.WritesOnly place content after) (location : Location) :
    after.tree.entry? location = between.tree.entry? location := by
  rw [hagain.entry, h.entry]
  split
  · rfl
  · split <;> rfl

/-- What is left when a file is not put in its place. -/
inductive Refuses (place : Location) (w : Workspace) : Failure → Workspace → Prop
  /-- The place is blocked, and nothing is changed. -/
  | blocked {failure : Failure} (hkind : failure.isDiskFailure = true) (h : w.IsBlocked place) :
    Refuses place w failure w
  /-- The path is too long, or a name in it is. Folders on the way to it may have been made. -/
  | tooLong {file : Path} {after : Workspace} (hlong : ¬ (Path.ofLocation place).IsUsable)
    (hchanges : w.Changes (· <+: place.dropLast) (fun _ => False) after) :
    Refuses place w (.disk ⟨.tooLong, file⟩) after

/-- Where a path is usable, nothing is changed if a file is not put there. -/
theorem Refuses.eq_of_isUsable {failure : Failure} (h : w.Refuses place failure after)
    (husable : (Path.ofLocation place).IsUsable) :
    after = w ∧ failure.isDiskFailure = true ∧ w.IsBlocked place := by
  cases h with
  | blocked hkind hblocked => exact ⟨rfl, hkind, hblocked⟩
  | tooLong hlong => exact absurd husable hlong

/-- A sound workspace whose working folder is named from the root by names that can stand on a
disk. -/
structure IsGrounded (w : Workspace) : Prop where
  /-- The disk is closed, and the working folder is there. -/
  sound : w.IsSound
  /-- No name leads upwards. -/
  upward : upward ∉ w.folder
  /-- The names can stand on a disk. -/
  nameable : (Path.ofLocation w.folder).isNameable = true

instance (w : Workspace) : Decidable w.IsGrounded :=
  decidable_of_iff (w.IsSound ∧ DesignTokens.upward ∉ w.folder ∧
      (Path.ofLocation w.folder).isNameable = true)
    ⟨fun h => ⟨h.1, h.2.1, h.2.2⟩, fun h => ⟨h.sound, h.upward, h.nameable⟩⟩

theorem WritesOnly.isGrounded (h : w.WritesOnly place content after) (hw : w.IsGrounded) :
    after.IsGrounded :=
  ⟨h.isSound hw.sound, h.sameFolder ▸ hw.upward, h.sameFolder ▸ hw.nameable⟩

/-- The file that a path names can stand on a disk if the path can. -/
theorem IsGrounded.isNameable_fileAt (h : w.IsGrounded) {path : Path}
    (hpath : path.isNameable = true) : (w.fileAt path).isNameable = true := by
  have hfolder := h.nameable
  unfold Path.isNameable at hpath hfolder ⊢
  rw [List.all_eq_true] at hpath hfolder ⊢
  intro name hname
  rcases Path.mem_resolve hname with hname | hname
  · exact hfolder name hname
  · exact hpath name hname

end Workspace

namespace Job

open Workspace

variable {w : Workspace} {place : Location}

/-- Where making a folder is refused, it is not there, and the disk tells why. -/
theorem makeFolder_refused (path : Path) (w : Workspace) :
    (makeFolder path).Ends w (fun _ _ => True) fun failure after => after = w ∧
      ∃ cause, failure = .disk ⟨cause, path⟩ ∧
        w.tree.makeFolder w.folder path = .error cause ∧ w.hasFolder path = false := by
  unfold makeFolder
  refine ends_get_bind ?_
  cases hmake : w.tree.makeFolder w.folder path with
  | ok tree => exact ends_set trivial
  | error cause =>
      cases hfolder : w.hasFolder path with
      | true => exact ends_pure trivial
      | false => exact ends_throw ⟨rfl, cause, rfl, rfl, rfl⟩

/-- Why the way to a place is not made: a file is on it, and nothing is changed, or it is too
long. -/
def StopsBefore (place : Location) (w : Workspace) (failure : Failure) (after : Workspace) : Prop :=
  (after = w ∧ failure.isDiskFailure = true ∧ w.HasFileOn place) ∨
    (∃ file, failure = .disk ⟨.tooLong, file⟩) ∧ ¬ (Path.ofLocation place).IsUsable

theorem StopsBefore.of_dropLast {failure : Failure} {after : Workspace}
    (h : StopsBefore place.dropLast w failure after) : StopsBefore place w failure after :=
  h.imp (fun ⟨hafter, hkind, hfile⟩ => ⟨hafter, hkind, hfile.of_dropLast⟩)
    fun ⟨hfailure, hlong⟩ => ⟨hfailure, fun husable => hlong husable.dropLast⟩

/-- Where nothing is missing on the way to a place, a folder is made there, unless a file is on the
way or the way is too long. -/
theorem makeFolder_ofLocation_ends (hw : w.IsSound) (hupward : upward ∉ place)
    (hnameable : (Path.ofLocation place).isNameable = true)
    (hthere : w.tree.locate w.folder (.ofLocation place) ≠ .error .missing) :
    (makeFolder (.ofLocation place)).Ends w (fun _ after => Makes (.ofLocation place) w after)
      fun failure after => after = w ∧ StopsBefore place w failure after := by
  refine ((makeFolder_ends hw hthere).and (makeFolder_refused _ w)).mono (fun _ _ h => h.1) ?_
  rintro failure after ⟨⟨hafter, -⟩, -, cause, rfl, hmake, hfolder⟩
  rw [FileTree.makeFolder_eq] at hmake
  refine ⟨hafter, ?_⟩
  have hfollows := FileTree.locate_ofLocation_follows hw.closed hupward hnameable w.folder
  generalize hlocate : w.tree.locate w.folder (.ofLocation place) = result at hfollows hmake hthere
  cases hfollows with
  | there =>
      cases hentry : w.tree.entry? place with
      | none =>
          simp only [hentry] at hmake
          cases hmake
      | some entry =>
          simp only [hentry] at hmake
          cases hmake
          cases entry with
          | file content => exact .inl ⟨hafter, rfl, place, content, List.prefix_rfl, hentry⟩
          | folder =>
              have hfound := FileTree.hasFolder_eq_true_iff.mpr ⟨place, hlocate, hentry⟩
              exact absurd hfound (by simpa [hasFolder] using hfolder)
  | missing => exact absurd rfl hthere
  | blocked hway hfile =>
      cases hmake
      exact .inl ⟨hafter, rfl, HasFileOn.of_dropLast ⟨_, _, hway, hfile⟩⟩
  | tooLong hlong =>
      cases hmake
      exact .inr ⟨⟨_, rfl⟩, hlong⟩

/-- Making the folders of at least as many names as a place has. -/
theorem makeFoldersOf_ofLocation_ends (hw : w.IsSound) (hupward : upward ∉ place)
    (hnameable : (Path.ofLocation place).isNameable = true) (count : Nat)
    (hcount : place.length ≤ count) :
    (makeFoldersOf (.ofLocation place) count).Ends w
      (fun _ after => Makes (.ofLocation place) w after)
      fun failure after => StopsBefore place w failure after := by
  induction count generalizing place with
  | zero =>
      obtain rfl : place = [] := List.length_eq_zero_iff.mp (Nat.le_zero.mp hcount)
      exact (makeFolder_ofLocation_ends hw hupward hnameable
        (FileTree.locate_ne_missing_of_names_nil rfl)).mono_bad fun _ _ h => h.2
  | succ count ih =>
      have haround : upward ∉ place.dropLast := fun hmem => hupward (List.mem_of_mem_dropLast hmem)
      have hlength : place.dropLast.length ≤ count := by
        rw [List.length_dropLast]
        omega
      unfold makeFoldersOf
      refine ends_get_bind ?_
      split
      · next hmissing =>
          rw [FileTree.makeFolder_eq_missing_iff] at hmissing
          have hfollows :=
            FileTree.locate_ofLocation_follows hw.closed hupward hnameable w.folder
          rw [hmissing] at hfollows
          have hnone := hfollows.entry?_eq_none
          have hparent : (Path.ofLocation place.dropLast).isNameable = true :=
            Path.isNameable_of_subset hnameable fun _ => List.mem_of_mem_dropLast
          refine ((ih haround hparent hlength).mono_bad fun _ _ h => h.of_dropLast).bind ?_
          intro _ between hmade
          have hparent : Makes (Path.ofLocation place).parent w between := hmade
          refine (makeFolder_ofLocation_ends (hmade.isSound hw) hupward hnameable
            hparent.locate_ne_missing_of_parent).mono (fun _ _ hlast => hparent.of_parent hlast) ?_
          rintro failure after ⟨-, ⟨-, -, hfile⟩ | hlong⟩
          · exact absurd hfile (hmade.not_hasFileOn hw haround hnone)
          · exact .inr hlong
      · next hthere =>
          rw [FileTree.makeFolder_eq_missing_iff] at hthere
          exact (makeFolder_ofLocation_ends hw hupward hnameable hthere).mono_bad fun _ _ h => h.2

/-- A folder that is there is not made again. -/
theorem makeFolders_of_hasFolder {path : Path} (h : w.hasFolder path = true) :
    (makeFolders path).Ends w (fun _ after => after = w) fun _ _ => False := by
  obtain ⟨location, hlocate, hfolder⟩ := FileTree.hasFolder_eq_true_iff.mp h
  have hmake : w.tree.makeFolder w.folder path = .error .occupied := by
    simp only [FileTree.makeFolder_eq, hlocate, hfolder]
  have hone : (makeFolder path).Ends w (fun _ after => after = w) fun _ _ => False := by
    unfold makeFolder
    refine ends_get_bind ?_
    simp only [hmake, h]
    exact ends_pure rfl
  unfold makeFolders
  cases path.names.length with
  | zero => exact hone
  | succ count =>
      unfold makeFoldersOf
      refine ends_get_bind ?_
      simp only [hmake]
      exact hone

/-- **The folders on the way to a place are made**, or nothing is changed because a file is on the
way, or the way is too long. -/
theorem makeFolders_ofLocation_ends (hw : w.IsSound) (hupward : upward ∉ place)
    (hnameable : (Path.ofLocation place).isNameable = true) :
    (makeFolders (.ofLocation place)).Ends w (fun _ after => w.MakesWay place after)
      fun failure after => StopsBefore place w failure after ∧
        w.Changes (· <+: place) (fun _ => False) after := by
  have hmade := makeFoldersOf_ofLocation_ends hw hupward hnameable place.length (Nat.le_refl _)
  refine (hmade.and (makeFolders_changes (.ofLocation place) w)).mono
    (fun _ _ h => h.1.makesWay hupward h.2) ?_
  exact fun _ _ ⟨hstops, hchanges⟩ =>
    ⟨hstops, hchanges.mono (fun _ hleads => hleads.isPrefix hupward) fun _ h => h⟩

/-- Where the folders on the way to a place are there, a file is put in the place, unless a folder
stands there or the path is too long. -/
theorem writeFile_ofLocation_ends {between : Workspace} (h : w.MakesWay place.dropLast between)
    (hupward : upward ∉ place) (hnameable : (Path.ofLocation place).isNameable = true)
    (text : String) :
    (writeFile (.ofLocation place) text).Ends between
      (fun _ after => w.WritesOnly place (Text.encodeUtf8 text) after)
      fun failure after => after = between ∧
        ((failure.isDiskFailure = true ∧ (Path.ofLocation place).IsUsable ∧
            w.tree.entry? place = some .folder) ∨
          (∃ file, failure = .disk ⟨.tooLong, file⟩) ∧ ¬ (Path.ofLocation place).IsUsable) := by
  have hresolve : ∀ {location}, between.tree.locate between.folder (.ofLocation place) =
      .ok location → location = place := fun hlocate =>
    (FileTree.walk_eq_resolve (FileTree.locate_eq_ok_iff.mp hlocate).2.2).trans
      (Path.resolve_ofLocation hupward between.folder)
  refine (change_ends _ _ between).mono ?_ ?_
  · rintro _ after ⟨tree, hwrite, rfl⟩
    obtain ⟨location, hlocate, hplace, rfl⟩ := FileTree.write_eq_ok_iff.mp hwrite
    have husable := FileTree.isUsable_of_locate hlocate
    rw [hresolve hlocate] at hplace ⊢
    exact h.put husable hplace _
  · rintro failure after ⟨rfl, cause, hwrite, rfl⟩
    refine ⟨rfl, ?_⟩
    rcases FileTree.write_eq_error hwrite with hlocate | ⟨location, hlocate, rfl, hfolder⟩
    · have haround : after.tree.entry? place.dropLast = some .folder := by
        rw [h.entry, if_pos List.prefix_rfl]
      have hfollows :=
        FileTree.locate_ofLocation_follows h.closed hupward hnameable after.folder
      rw [hlocate] at hfollows
      cases hfollows with
      | missing hnone => cases haround.symm.trans hnone
      | blocked hway hfile =>
          rw [h.entry, if_pos hway] at hfile
          cases hfile
      | tooLong hlong => exact .inr ⟨⟨_, rfl⟩, hlong⟩
    · have husable := FileTree.isUsable_of_locate hlocate
      rw [hresolve hlocate] at hfolder
      exact .inl ⟨rfl, husable, h.folder_of_folder hfolder⟩

/-- Where a folder stands in a place with a usable path, nothing is made for a file there. -/
theorem makeFolders_of_folder (hw : w.IsSound) (hupward : upward ∉ place)
    (husable : (Path.ofLocation place).IsUsable) (hfolder : w.tree.entry? place = some .folder) :
    (makeFolders (.ofLocation place.dropLast)).Ends w (fun _ after => after = w)
      fun _ _ => False := by
  have haround := hw.closed place (by simp [hfolder])
  have hupward' : upward ∉ place.dropLast := fun hmem => hupward (List.mem_of_mem_dropLast hmem)
  refine makeFolders_of_hasFolder (FileTree.hasFolder_eq_true_iff.mpr
    ⟨place.dropLast, ?_, haround⟩)
  exact FileTree.locate_ofLocation hw.closed hupward' husable.dropLast
    (hw.closed _ (by simp [haround])) w.folder

/-- The file that a path names is found without a look at the disk. -/
theorem resolve_ends_of_isNameable {path : Path} (h : path.isNameable = true)
    {bad : Failure → Workspace → Prop} :
    (Job.resolve path).Ends w (fun file after => after = w ∧ file = w.fileAt path) bad := by
  unfold Job.resolve
  refine ends_get_bind ?_
  rw [if_pos h]
  exact ends_pure ⟨rfl, rfl⟩

/-- **A text is written whole, or it is refused.** -/
theorem writeText_whole (hw : w.IsGrounded) {path : Path} (hnameable : path.isNameable = true)
    (text : String) :
    (writeText none path text).Ends w
      (fun file after => file = w.fileAt path ∧
        w.WritesOnly (path.resolve w.folder) (Text.encodeUtf8 text) after)
      fun failure after => w.Refuses (path.resolve w.folder) failure after := by
  have hupward := Path.upward_notMem_resolve hw.upward path
  have hupward' : upward ∉ (path.resolve w.folder).dropLast :=
    fun hmem => hupward (List.mem_of_mem_dropLast hmem)
  have hfile := hw.isNameable_fileAt hnameable
  have haround : (Path.ofLocation (path.resolve w.folder).dropLast).isNameable = true :=
    Path.isNameable_of_subset hfile fun _ => List.mem_of_mem_dropLast
  unfold writeText
  refine (resolve_ends_of_isNameable hnameable).bind ?_
  rintro _ _ ⟨rfl, rfl⟩
  refine ((makeFolders_ofLocation_ends hw.sound hupward' haround).with_end.mono
    (fun _ _ h => h) ?_).bind ?_
  · rintro failure after ⟨-, ⟨rfl, hkind, hblocked⟩ | ⟨⟨file, rfl⟩, hlong⟩, hchanges⟩
    · exact .blocked hkind (.inl hblocked)
    · exact .tooLong (fun husable => hlong husable.dropLast) hchanges
  rintro _ between ⟨hrun, hway⟩
  refine ((writeFile_ofLocation_ends hway hupward hfile text).mono_bad ?_).bind ?_
  · rintro failure _ ⟨rfl, ⟨hkind, husable, hfolder⟩ | ⟨⟨file, rfl⟩, hlong⟩⟩
    · obtain rfl := (makeFolders_of_folder hw.sound hupward husable hfolder).of_ok hrun
      exact .blocked hkind (.inr hfolder)
    · exact .tooLong hlong hway.changes
  · exact fun _ after hwritten => ends_pure ⟨rfl, hwritten⟩

/-- **A file is refused too late** if its own path is too long and the path to the folder around it
is not: the folders on the way are made before. -/
theorem writeText_leaves_way (hw : w.IsGrounded) {path : Path} (hnameable : path.isNameable = true)
    (haround : (Path.ofLocation (path.resolve w.folder).dropLast).IsUsable)
    (hlong : ¬ (w.fileAt path).IsUsable) (hfree : ¬ w.HasFileOn (path.resolve w.folder).dropLast)
    (text : String) :
    (writeText none path text).Ends w (fun _ _ => False) fun failure after =>
      (∃ file, failure = .disk ⟨.tooLong, file⟩) ∧
        w.MakesWay (path.resolve w.folder).dropLast after := by
  have hupward := Path.upward_notMem_resolve hw.upward path
  unfold writeText
  refine (resolve_ends_of_isNameable hnameable).bind ?_
  rintro _ _ ⟨rfl, rfl⟩
  refine ((makeFolders_ofLocation_ends hw.sound
    (fun hmem => hupward (List.mem_of_mem_dropLast hmem)) haround.nameable).mono
    (fun _ _ h => h) ?_).bind ?_
  · rintro failure after ⟨⟨-, -, hfile⟩ | ⟨-, hnot⟩, -⟩
    · exact absurd hfile hfree
    · exact absurd haround hnot
  rintro _ between hway
  refine ((writeFile_ofLocation_ends hway hupward (hw.isNameable_fileAt hnameable) text).mono
    (fun _ _ h => h) ?_).bind ?_
  · rintro failure _ ⟨rfl, ⟨-, husable, -⟩ | ⟨htooLong, -⟩⟩
    · exact absurd husable hlong
    · exact ⟨htooLong, hway⟩
  · exact fun _ _ hwritten => absurd hwritten.usable hlong

end Job

end DesignTokens
