import DesignTokens.Collection.Basic
import DesignTokens.Proofs.Workspace.Folders

/-!
# What a look-up finds

A look-up tries one file after the other. What it finds depends on what stands on the disk alone,
and the log is all that it changes.

## Main Definitions

* `Workspace.SameDisk` — two workspaces that differ in nothing but their logs
* `Entry.theme` — the theme of what stands at a place
* `Workspace.themeAt?` — what is found at a file, or what prevents that anything is found
* `Workspace.firstOf` — the same for the first of several files that gives a theme
* `Workspace.logged` — a workspace with more records in its log
* `Workspace.skipRecords`, `Workspace.passedRecords` — the warnings that files leave, and those that
  a look-up leaves which goes on after them

## Main Statements

* `Collection.firstTheme_ends` — a look-up finds what `Workspace.firstOf` says, and leaves the
  warnings of the files that it has passed
* `Collection.list_ends` — listing changes nothing on the disk
* `Collection.ofText_of_notMem` — a text without slashes is a single name
* `Collection.fileIn_eq` — the file of a name stands directly in its folder
-/

namespace DesignTokens

/-- Two workspaces differ in nothing but their logs. -/
structure Workspace.SameDisk (w other : Workspace) : Prop where
  /-- The disks are the same. -/
  tree : other.tree = w.tree
  /-- The working folders are the same. -/
  folder : other.folder = w.folder

/-- The theme of what stands at a place. -/
def Entry.theme (file : Path) : Entry → Except Failure Theme
  | .folder => .error (.unreadable file (some .isFolder))
  | .file bytes =>
    match Yaml.read (.ofBytes bytes) with
    | .error fault => .error (.ofDocument file fault)
    | .ok (datum, sharing) =>
      match datum.opened sharing with
      | .mapping entries => (Theme.parse sharing entries).mapError .ofTheme
      | _ => .error (.notMapping file)

/-- A theme that fails to load because of the theme is passed over. -/
def skipped : Except Failure Theme → Except Failure (Option Theme)
  | .ok theme => .ok (some theme)
  | .error failure => if failure.isThemeFailure then .ok none else .error failure

theorem skipped_eq_error_iff {result : Except Failure Theme} {failure : Failure} :
    skipped result = .error failure ↔ result = .error failure ∧ failure.isThemeFailure = false := by
  cases result with
  | ok theme => simp [skipped]
  | error other =>
      cases hkind : other.isThemeFailure
      · simp only [skipped, hkind, Bool.false_eq_true, if_false, Except.error.injEq]
        constructor
        · rintro rfl
          exact ⟨rfl, hkind⟩
        · exact fun h => h.1
      · simp only [skipped, hkind, if_true, Except.error.injEq, reduceCtorEq, false_iff]
        rintro ⟨rfl, hother⟩
        rw [hkind] at hother
        cases hother

/-- What is not refused gives its theme, or none. -/
theorem toOption_of_skipped {result : Except Failure Theme} {found : Option Theme}
    (h : skipped result = .ok found) : found = result.toOption := by
  cases result with
  | ok theme => exact (Except.ok.inj h).symm
  | error failure =>
      rw [skipped] at h
      split at h
      · exact (Except.ok.inj h).symm
      · cases h

namespace Workspace

variable {w other : Workspace}

theorem SameDisk.refl (w : Workspace) : w.SameDisk w := ⟨rfl, rfl⟩

theorem SameDisk.trans {more : Workspace} (h : w.SameDisk other) (h' : other.SameDisk more) :
    w.SameDisk more :=
  ⟨h'.tree.trans h.tree, h'.folder.trans h.folder⟩

theorem IsSound.sameDisk (hw : w.IsSound) (h : w.SameDisk other) : other.IsSound := by
  refine ⟨?_, ?_⟩
  · rw [h.tree]
    exact hw.closed
  · rw [h.tree, h.folder]
    exact hw.folder

/-- The theme of a file is that of what stands there. -/
theorem loadTheme_of_find {file : Path} {entry : Entry}
    (h : w.tree.find w.folder file = .ok entry) : w.loadTheme file = entry.theme file := by
  unfold loadTheme readBytes FileTree.read
  rw [h]
  cases entry <;> rfl

/-- What is read from a file is what is found there. -/
theorem readBytes_of_find {file : Path} {content : List UInt8}
    (h : w.tree.find w.folder file = .ok (.file content)) : w.readBytes file = .ok content := by
  unfold readBytes FileTree.read
  rw [h]
  rfl

/-- What is found at a file. Only a name that is too long, or a file that fails for another reason
than the theme in it, prevents that anything is found later. -/
def themeAt? (w : Workspace) (file : Path) : Except Failure (Option Theme) :=
  match w.tree.find w.folder file with
  | .ok entry => skipped (entry.theme file)
  | .error .tooLong => .error (.disk ⟨.tooLong, file⟩)
  | .error _ => .ok none

/-- What is found at the first of several files that gives a theme. -/
def firstOf (w : Workspace) : List Path → Except Failure (Option Theme)
  | [] => .ok none
  | file :: rest =>
    match w.themeAt? file with
    | .ok none => w.firstOf rest
    | found => found

theorem themeAt?_of_look_error {file : Path} {cause : DiskCause}
    (h : w.tree.look w.folder file = .error cause) :
    w.themeAt? file = .error (.disk ⟨cause, file⟩) := by
  unfold FileTree.look at h
  unfold themeAt?
  cases hfind : w.tree.find w.folder file with
  | ok entry => rw [hfind] at h; cases h
  | error found =>
      rw [hfind] at h
      cases found <;> first | (cases h; rfl) | cases h

theorem themeAt?_of_look_none {file : Path} (h : w.tree.look w.folder file = .ok none) :
    w.themeAt? file = .ok none := by
  unfold FileTree.look at h
  unfold themeAt?
  cases hfind : w.tree.find w.folder file with
  | ok entry => rw [hfind] at h; cases h
  | error found =>
      rw [hfind] at h
      cases found <;> first | rfl | cases h

/-- What a look sees is found there. -/
theorem find_of_look_some {file : Path} {entry : Entry}
    (h : w.tree.look w.folder file = .ok (some entry)) : w.tree.find w.folder file = .ok entry := by
  unfold FileTree.look at h
  cases hfind : w.tree.find w.folder file with
  | ok found => rw [hfind] at h; cases h; rfl
  | error found => rw [hfind] at h; cases found <;> cases h

theorem themeAt?_of_look_some {file : Path} {entry : Entry}
    (h : w.tree.look w.folder file = .ok (some entry)) :
    w.themeAt? file = skipped (w.loadTheme file) := by
  have hfind := find_of_look_some h
  unfold themeAt?
  rw [hfind, loadTheme_of_find hfind]

theorem themeAt?_congr (h : w.SameDisk other) (file : Path) :
    other.themeAt? file = w.themeAt? file := by
  unfold themeAt?
  rw [h.tree, h.folder]

theorem firstOf_congr (h : w.SameDisk other) (files : List Path) :
    other.firstOf files = w.firstOf files := by
  induction files with
  | nil => rfl
  | cons file rest ih => rw [firstOf, firstOf, themeAt?_congr h, ih]

/-! ### Records -/

/-- A workspace with more records in its log. -/
def logged (w : Workspace) (records : List Record) : Workspace :=
  { w with log := w.log ++ records }

@[simp] theorem logged_nil (w : Workspace) : w.logged [] = w := by
  unfold logged
  rw [List.append_nil]

@[simp] theorem logged_logged (w : Workspace) (first second : List Record) :
    (w.logged first).logged second = w.logged (first ++ second) := by
  unfold logged
  rw [List.append_assoc]

theorem sameDisk_logged (w : Workspace) (records : List Record) : w.SameDisk (w.logged records) :=
  ⟨rfl, rfl⟩

/-- The warning that a file leaves if it gives no theme. -/
def skipRecord? (w : Workspace) (file : Path) : Option Record :=
  match w.loadTheme file with
  | .ok _ => none
  | .error failure =>
    some ⟨.warning, "Skipping theme file " ++ file.text ++ ": " ++ failure.message⟩

/-- The warnings that files leave, in the order of the files. -/
def skipRecords (w : Workspace) (files : List Path) : List Record := files.filterMap w.skipRecord?

/-- A look-up goes on after a file: it is not there, or fails because of its theme. -/
def passes (w : Workspace) (file : Path) : Bool :=
  match w.themeAt? file with
  | .ok none => true
  | _ => false

theorem passes_eq_true_iff : w.passes file = true ↔ w.themeAt? file = .ok none := by
  unfold passes
  split <;> simp_all

/-- The warnings of the files that a look-up goes on after. A file that is not there leaves none. -/
def passedRecords (w : Workspace) (files : List Path) : List Record :=
  w.skipRecords (files.filter fun file => match w.tree.look w.folder file with
    | .ok found => found.isSome
    | .error _ => false)

theorem passedRecords_cons (w : Workspace) (file : Path) (rest : List Path) :
    w.passedRecords (file :: rest) = w.passedRecords [file] ++ w.passedRecords rest := by
  rw [passedRecords, ← List.singleton_append, List.filter_append, skipRecords,
    List.filterMap_append]
  rfl

/-- A file that is not there leaves no warning. -/
theorem passedRecords_of_look_none {file : Path} (h : w.tree.look w.folder file = .ok none) :
    w.passedRecords [file] = [] := by
  simp [passedRecords, skipRecords, h]

theorem passedRecords_of_look_some {file : Path} {entry : Entry}
    (h : w.tree.look w.folder file = .ok (some entry)) :
    w.passedRecords [file] = w.skipRecords [file] := by
  simp [passedRecords, h]

/-- A file that gives a theme leaves no warning. -/
theorem skipRecords_of_skipped {file : Path} {theme : Theme}
    (h : skipped (w.loadTheme file) = .ok (some theme)) : w.skipRecords [file] = [] := by
  cases hload : w.loadTheme file with
  | ok found => simp [skipRecords, skipRecord?, hload]
  | error failure =>
      rw [hload] at h
      cases toOption_of_skipped h

/-- A look-up that goes on after the first file leaves its warning, and then those of the others. -/
theorem passedRecords_takeWhile_of_none {file : Path} (h : w.themeAt? file = .ok none)
    (rest : List Path) : w.passedRecords ((file :: rest).takeWhile w.passes) =
      w.passedRecords [file] ++ w.passedRecords (rest.takeWhile w.passes) := by
  rw [List.takeWhile_cons_of_pos (passes_eq_true_iff.mpr h), passedRecords_cons]

/-- A look-up that ends at the first file leaves no warning. -/
theorem passedRecords_takeWhile_of_some {file : Path} {theme : Theme}
    (h : w.themeAt? file = .ok (some theme)) (rest : List Path) :
    w.passedRecords ((file :: rest).takeWhile w.passes) = [] := by
  have hpasses : ¬ w.passes file = true := by simp [passes_eq_true_iff, h]
  rw [List.takeWhile_cons_of_neg hpasses]
  rfl

end Workspace

namespace Job

variable {α β : Type} {w : Workspace}

/-- What holds before and after every job of a list holds after all of them. -/
theorem mapM_ends {f : α → Job β} {inv : Workspace → Prop}
    (hstep : ∀ a w, inv w → (f a).Ends w (fun _ after => inv after) fun _ after => inv after)
    (l : List α) (hw : inv w) :
    (l.mapM f).Ends w (fun _ after => inv after) fun _ after => inv after := by
  induction l generalizing w with
  | nil => exact ends_pure hw
  | cons a rest ih =>
      rw [List.mapM_cons]
      refine (hstep a w hw).bind fun b between hbetween => ?_
      refine (ih hbetween).bind fun bs after hafter => ?_
      exact ends_pure hafter

end Job

namespace Collection

open Workspace

/-- Loading a file leaves a warning in the log at most. -/
theorem loadOrSkip_ends (file : Path) (w : Workspace) :
    (loadOrSkip file).Ends w
      (fun found after => after = w.logged (w.skipRecords [file]) ∧
        skipped (w.loadTheme file) = .ok found)
      (fun failure after => after = w ∧ skipped (w.loadTheme file) = .error failure) := by
  unfold loadOrSkip
  refine Job.ends_get_bind ?_
  cases hload : w.loadTheme file with
  | ok theme => exact Job.ends_pure ⟨by simp [skipRecords, skipRecord?, hload], rfl⟩
  | error failure =>
      simp only [skipped]
      split
      · refine Job.ends_record_bind (Job.ends_pure ⟨?_, rfl⟩)
        simp [skipRecords, skipRecord?, hload, logged]
      · exact Job.ends_throw ⟨rfl, rfl⟩

/-- **A look-up finds what stands on the disk**, and leaves the warnings of the files that it has
passed. -/
theorem firstTheme_ends (files : List Path) (w : Workspace) :
    (firstTheme files).Ends w
      (fun found after => w.firstOf files = .ok found ∧
        after = w.logged (w.passedRecords (files.takeWhile w.passes)))
      (fun failure after => w.SameDisk after ∧ w.firstOf files = .error failure) := by
  induction files generalizing w with
  | nil => exact Job.ends_pure ⟨rfl, (logged_nil w).symm⟩
  | cons file rest ih =>
      -- After a file that is passed the other files are looked up on the same disk, and the log has
      -- a warning more, or is the same.
      have hgoesOn : w.themeAt? file = .ok none →
          (firstTheme rest).Ends (w.logged (w.passedRecords [file]))
            (fun found after => w.firstOf (file :: rest) = .ok found ∧
              after = w.logged (w.passedRecords ((file :: rest).takeWhile w.passes)))
            fun failure after => w.SameDisk after ∧
              w.firstOf (file :: rest) = .error failure := by
        intro hnone
        have hfirst : w.firstOf (file :: rest) = w.firstOf rest := by rw [firstOf, hnone]
        have hsame := sameDisk_logged w (w.passedRecords [file])
        have hrest := ih (w.logged (w.passedRecords [file]))
        rw [firstOf_congr hsame] at hrest
        rw [hfirst, passedRecords_takeWhile_of_none hnone, ← logged_logged]
        exact hrest.mono_bad fun _ _ h => ⟨hsame.trans h.1, h.2⟩
      unfold firstTheme
      refine ((Job.look_ends file w).mono_bad ?_).bind ?_
      · rintro failure _ ⟨rfl, cause, hcause, rfl⟩
        exact ⟨.refl _, by rw [firstOf, themeAt?_of_look_error hcause]⟩
      rintro found between ⟨rfl, hlook⟩
      cases found with
      | none =>
          have hrest := hgoesOn (themeAt?_of_look_none hlook)
          rw [passedRecords_of_look_none hlook, logged_nil] at hrest
          exact hrest
      | some entry =>
          have hat := themeAt?_of_look_some hlook
          refine ((loadOrSkip_ends file between).mono_bad ?_).bind ?_
          · rintro failure _ ⟨rfl, hskip⟩
            exact ⟨.refl _, by rw [firstOf, hat, hskip]⟩
          rintro found _ ⟨rfl, hskip⟩
          rw [← passedRecords_of_look_some hlook]
          rw [hskip] at hat
          cases found with
          | none => exact hgoesOn hat
          | some theme =>
              have hnone : between.passedRecords [file] = [] :=
                (passedRecords_of_look_some hlook).trans (skipRecords_of_skipped hskip)
              refine Job.ends_pure ⟨by rw [firstOf, hat], ?_⟩
              rw [hnone, passedRecords_takeWhile_of_some hat]

/-- A name that was not looked up before is looked up on the disk, and what is found is kept. -/
theorem find_log_ends {c : Collection} {name : String} (hseen : c.seen.find? name = none)
    (w : Workspace) :
    (c.find name).Ends w
      (fun result after => w.firstOf (c.candidates name) = .ok result.1 ∧
        result.2 = { c with seen := result.1.elim c.seen (c.seen.insert name) } ∧
        after = w.logged (w.passedRecords ((c.candidates name).takeWhile w.passes)))
      (fun failure after => w.SameDisk after ∧
        w.firstOf (c.candidates name) = .error failure) := by
  unfold find
  rw [hseen]
  refine (firstTheme_ends (c.candidates name) w).bind ?_
  rintro found after ⟨hfirst, hafter⟩
  cases found with
  | none => exact Job.ends_pure ⟨hfirst, rfl, hafter⟩
  | some theme => exact Job.ends_pure ⟨hfirst, rfl, hafter⟩

/-- Looking up a name changes nothing on the disk. -/
theorem find_ends {c : Collection} {name : String} (hseen : c.seen.find? name = none)
    (w : Workspace) :
    (c.find name).Ends w
      (fun result after => w.SameDisk after ∧ w.firstOf (c.candidates name) = .ok result.1 ∧
        result.2 = { c with seen := result.1.elim c.seen (c.seen.insert name) })
      (fun failure after => w.SameDisk after ∧
        w.firstOf (c.candidates name) = .error failure) := by
  refine (find_log_ends hseen w).mono ?_ fun _ _ h => h
  rintro result _ ⟨hfirst, hkept, rfl⟩
  exact ⟨sameDisk_logged w _, hfirst, hkept⟩

/-- The themes of a folder are loaded without a change of the disk. -/
theorem loadAll_ends (folder : Path) (w : Workspace) :
    (loadAll folder).Ends w (fun _ after => w.SameDisk after) fun _ after => w.SameDisk after := by
  have hsame : ∀ {start : Workspace} (file : Path) (w : Workspace), start.SameDisk w →
      (loadOrSkip file).Ends w (fun _ after => start.SameDisk after)
        fun _ after => start.SameDisk after := fun file w hw =>
    (loadOrSkip_ends file w).mono (fun _ _ h => hw.trans (h.1 ▸ sameDisk_logged w _))
      fun _ _ h => h.1 ▸ hw
  unfold loadAll
  refine ((Job.look_ends folder w).mono_bad fun _ _ h => h.1 ▸ SameDisk.refl w).bind ?_
  rintro found between ⟨rfl, -⟩
  split
  · refine Job.ends_get_bind ?_
    refine (Job.mapM_ends (fun file w => hsame file w) _ (.refl between)).bind fun _ after h => ?_
    exact Job.ends_pure h
  · exact Job.ends_pure (.refl between)

/-- **Listing changes nothing on the disk.** -/
theorem list_ends (c : Collection) (w : Workspace) :
    c.list.Ends w (fun _ after => w.SameDisk after) fun _ after => w.SameDisk after := by
  unfold list
  refine (Job.mapM_ends (fun folder between h => ?_) _ (SameDisk.refl w)).bind fun _ after h => ?_
  · exact (loadAll_ends folder between).mono (fun _ _ h' => h.trans h') fun _ _ h' => h.trans h'
  · exact Job.ends_pure h

/-! ### Files of a folder -/

/-- Without the character that parts names a text is a single part. -/
theorem splitAtChar_of_notMem {mark : Char} {cs : List Char} (h : mark ∉ cs) :
    Text.splitAtChar mark cs = [cs] := by
  induction cs with
  | nil => rfl
  | cons c rest ih =>
      obtain ⟨hc, hrest⟩ := not_or.mp (mt List.mem_cons.mpr h)
      have hne : (c == mark) = false := beq_false_of_ne fun e => hc e.symm
      simp [Text.splitAtChar, hne, ih hrest]

/-- **A text without slashes is a single name**, read from the working folder. -/
theorem ofText_of_notMem {text : String} (hslash : '/' ∉ text.toList) (hempty : text ≠ "")
    (hdot : text ≠ ".") : Path.ofText text = ⟨.relative, [text]⟩ := by
  have hnames : Path.namesOfText text = [text] := by
    rw [Path.namesOfText, splitAtChar_of_notMem hslash]
    simp [hempty, hdot]
  have hanchor : (Path.ofText text).anchor = .relative := by
    unfold Path.ofText
    split
    · next e => exact absurd (e ▸ by simp) hslash
    · next e => exact absurd (e ▸ by simp) hslash
    · next e => exact absurd (e ▸ by simp) hslash
    · rfl
  exact congr (congrArg Path.mk hanchor) hnames

/-- **The file of a name stands directly in its folder**, under a name of its own. -/
theorem fileIn_eq (folder : Path) {name : String} (h : '/' ∉ name.toList) :
    fileIn folder name = ⟨folder.anchor, folder.names ++ [name ++ ending]⟩ := by
  have hchars : (name ++ ending).toList = name.toList ++ ['.', 'y', 'a', 'm', 'l'] :=
    String.toList_append
  have hslash : '/' ∉ (name ++ ending).toList := by simp [hchars, h]
  have hempty : name ++ ending ≠ "" := fun e => by simpa [hchars] using congrArg String.toList e
  have hdot : name ++ ending ≠ "." := fun e => by
    have := congrArg List.length (congrArg String.toList e)
    simp [hchars] at this
  unfold fileIn Path.child
  rw [ofText_of_notMem hslash hempty hdot]
  rfl

end Collection

end DesignTokens
