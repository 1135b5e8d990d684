import DesignTokens.Output
import DesignTokens.Proofs.Workspace.Ways

/-!
# Files that are written whole

A text is made before the disk is touched, and the folders around its file are made before the file
is written. This module proves that the file is written whole, with nothing else new but the folders
on the way to it, or that everything is as it was, unless the path is too long. Writing the same file
again changes nothing.

## Main Definitions

* `Path.readFrom` — a path that is read from a base folder, if there is one
* `Job.WritesWhole` — a job writes a text whole, or it is refused

## Main Statements

* `Job.writeMade_whole` — a text that is made first is written whole
* `Theme.writes_whole` — so are the stylesheet and the module of a theme
* `Theme.not_forall_unchanged_of_error` — a name that is too long is found out too late

## Design Notes

The length of a name is checked where the name is looked up. The folders in front of it may have been
made by then, and they stay.
-/

namespace DesignTokens

open Workspace

/-- The path itself, or the same names read from a base folder. -/
def Path.readFrom (base : Option Path) (path : Path) : Path :=
  (base.map fun folder => folder.join path).getD path

namespace Job

variable {w : Workspace} {path : Path}

/-- A job that writes a text does so whole, or it is refused. -/
structure WritesWhole (job : Job Path) (text : Except Failure String) (path : Path)
    (w : Workspace) : Prop where
  /-- If the job succeeds the text is in the file that the path names, and only the folders on the
  way to it are new. If the text cannot be made nothing is changed. -/
  once : job.Ends w
    (fun file after => file = w.fileAt path ∧ ∃ made, text = .ok made ∧
      w.WritesOnly (path.resolve w.folder) (Text.encodeUtf8 made) after)
    fun failure after => (after = w ∧ text = .error failure) ∨
      w.Refuses (path.resolve w.folder) failure after
  /-- A job that succeeds does so again, without changing anything. -/
  again : ∀ file after, job w = .ok file after → ∃ last, job after = .ok file last ∧
    ∀ location, last.tree.entry? location = after.tree.entry? location

variable {job : Job Path} {text : Except Failure String}

/-- **A job that writes once as it should** in every workspace changes nothing when it is done again:
the place of the file is not blocked now. -/
theorem WritesWhole.of_once (hw : w.IsGrounded)
    (honce : ∀ {w : Workspace}, w.IsGrounded → job.Ends w
      (fun file after => file = w.fileAt path ∧ ∃ made, text = .ok made ∧
        w.WritesOnly (path.resolve w.folder) (Text.encodeUtf8 made) after)
      fun failure after => (after = w ∧ text = .error failure) ∨
        w.Refuses (path.resolve w.folder) failure after) :
    job.WritesWhole text path w := by
  refine ⟨honce hw, fun file after hrun => ?_⟩
  obtain ⟨hfile, made, hmade, hwritten⟩ := (honce hw).of_ok hrun
  have hagain := honce (hwritten.isGrounded hw)
  rw [fileAt_congr hwritten.sameFolder, hwritten.sameFolder] at hagain
  cases hlast : job after with
  | ok again last =>
      obtain ⟨hfile', made', hmade', hlast'⟩ := hagain.of_ok hlast
      cases hmade.symm.trans hmade'
      exact ⟨last, by rw [hfile', hfile], hwritten.entry?_eq hlast'⟩
  | error failure last =>
      rcases hagain.of_error hlast with ⟨-, herror⟩ | hrefused
      · cases hmade.symm.trans herror
      · obtain ⟨-, -, hblocked⟩ := hrefused.eq_of_isUsable hwritten.usable
        exact absurd hblocked hwritten.not_isBlocked

/-- **A text that is made first is written whole**, if it is made without a look at the disk. -/
theorem writeMade_whole (hw : w.IsGrounded) (hnameable : path.isNameable = true)
    {make : Job String}
    (hmake : ∀ w, make.Ends w (fun made after => after = w ∧ text = .ok made)
      fun failure after => after = w ∧ text = .error failure) (message : Path → String) :
    WritesWhole (do
      let made ← make
      let file ← writeText none path made
      record .info (message file)
      pure file) text path w := by
  refine .of_once hw fun {w} hw => ?_
  refine ((hmake w).mono_bad fun _ _ h => .inl h).bind ?_
  rintro made _ ⟨rfl, hmade⟩
  refine ((writeText_whole hw hnameable made).mono_bad fun _ _ h => .inr h).bind ?_
  rintro file between ⟨hfile, hwritten⟩
  exact ends_record_bind (ends_pure ⟨hfile, made, hmade,
    hwritten.of_sameDisk (sameDisk_logged between [⟨.info, message file⟩])⟩)

end Job

namespace Theme

/-- The text of the module of a theme, or the failure that there is none. -/
def moduleText (theme : Theme) : Except Failure String :=
  theme.tailwindModule?.elim (.error .unprintable) .ok

/-- **The files of a theme are written whole, or they are refused**, wherever they shall stand. -/
theorem writes_whole (theme : Theme) (base : Option Path) (path : Path) (w : Workspace)
    (hw : w.IsGrounded) (hnameable : (path.readFrom base).isNameable = true) :
    (theme.writeStylesheet base path).WritesWhole (theme.css.mapError .reference)
      (path.readFrom base) w ∧
    (theme.writeModule base path).WritesWhole theme.moduleText (path.readFrom base) w := by
  constructor
  · refine Job.writeMade_whole hw hnameable (fun w => ?_) _
    exact Job.ends_ofExcept (fun _ h => ⟨rfl, h⟩) fun _ h => ⟨rfl, h⟩
  · refine Job.writeMade_whole hw hnameable (fun w => ?_) _
    unfold moduleText
    exact Job.ends_ofOption (fun _ h => ⟨rfl, by rw [h]; rfl⟩) fun h => ⟨rfl, by rw [h]; rfl⟩

/-- A theme without values. -/
def bare : Theme := ⟨supportedSchema, "bare", "", .empty, .empty, .empty⟩

/-- A disk with nothing on it. -/
def blankWorkspace : Workspace := ⟨.empty, [], []⟩

theorem writes_whole_bare : ∃ text, bare.tailwindModule? = some text ∧
    (bare.writeStylesheet none (.ofText "out/bare.css")).WritesWhole
      (bare.css.mapError .reference) (.ofText "out/bare.css") blankWorkspace ∧
    (bare.writeModule none (.ofText "out/bare.css")).WritesWhole (.ok text)
      (.ofText "out/bare.css") blankWorkspace := by
  have hwhole := writes_whole bare none (.ofText "out/bare.css") blankWorkspace
    (by decide +kernel) (by decide +kernel)
  obtain ⟨text, htext⟩ := Option.isSome_iff_exists.mp
    (show bare.tailwindModule?.isSome = true by decide +kernel)
  rw [moduleText, htext] at hwhole
  exact ⟨text, htext, hwhole⟩

/-- A name that is too long by one byte. -/
def overlongName : String := String.ofList (.replicate (FileTree.nameLimit + 1) 'x')

/-- A path to a file of this name in a folder. -/
def overlong : Path := ⟨.relative, ["out", overlongName]⟩

theorem isNameable_overlong : overlong.isNameable = true := by
  have hname : ∀ c ∈ overlongName.toList, c = 'x' := by
    rw [overlongName, String.toList_ofList]
    exact fun c hc => List.eq_of_mem_replicate hc
  have hlong : (overlongName.toList.any fun c => c.toNat == 0) = false :=
    List.any_eq_false.mpr fun c hc => by rw [hname c hc]; decide
  simp only [Path.isNameable, overlong, List.all_cons, List.all_nil, hlong]
  decide

/-- The folder in front of the name is made, and then the name is refused. -/
theorem writeStylesheet_overlong : (bare.writeStylesheet none overlong).Ends blankWorkspace
    (fun _ _ => False) fun _ after => after.tree.entry? ["out"] = some .folder := by
  have hgrounded : blankWorkspace.IsGrounded := by decide +kernel
  have hlong : ¬ (blankWorkspace.fileAt overlong).IsUsable := fun husable =>
    absurd (husable.names overlongName (by decide +kernel)) (by decide +kernel)
  have haround : (overlong.resolve blankWorkspace.folder).dropLast = ["out"] := by decide +kernel
  have hfree : ¬ blankWorkspace.HasFileOn (overlong.resolve blankWorkspace.folder).dropLast := by
    rintro ⟨location, content, -, hfile⟩
    unfold FileTree.entry? at hfile
    split at hfile <;> cases hfile
  have hmade : (Job.ofExcept (bare.css.mapError Failure.reference)).Ends blankWorkspace
      (fun _ after => after = blankWorkspace)
      fun _ after => after.tree.entry? ["out"] = some .folder := by
    refine Job.ends_ofExcept (fun _ _ => rfl) fun failure hfailure => ?_
    have hok : (bare.css.mapError Failure.reference).isOk = true := by decide +kernel
    rw [hfailure] at hok
    cases hok
  refine hmade.bind ?_
  rintro text _ rfl
  refine ((Job.writeText_leaves_way hgrounded isNameable_overlong (by decide +kernel) hlong hfree
    text).mono_bad ?_).bind fun _ _ h => h.elim
  rintro failure after ⟨-, hway⟩
  rw [hway.entry, haround]
  exact if_pos List.prefix_rfl

/-- **A name that is too long is found out too late**: a request that fails may leave a folder. -/
theorem not_forall_unchanged_of_error :
    ¬ ∀ (theme : Theme) (base : Option Path) (path : Path) (w : Workspace), w.IsGrounded →
      (path.readFrom base).isNameable = true →
      ∀ failure after, theme.writeStylesheet base path w = .error failure after →
        after.tree = w.tree := by
  intro h
  cases hrun : bare.writeStylesheet none overlong blankWorkspace with
  | ok file after => exact writeStylesheet_overlong.of_ok hrun
  | error failure after =>
      have hfolder := writeStylesheet_overlong.of_error hrun
      have hnone : blankWorkspace.tree.entry? ["out"] = none := by decide +kernel
      have hkept := h bare none overlong blankWorkspace (by decide +kernel) isNameable_overlong
        failure after hrun
      rw [hkept, hnone] at hfolder
      cases hfolder

end Theme

end DesignTokens
