import DesignTokens.Proofs.Collection.Coherence

/-!
# Runs of calls

A collection is asked for one thing after the other, and it keeps what it has looked up. This module
proves that nobody can tell: after any number of look-ups, listings, copies and savings in any order
a name stands for the same theme as for a collection that starts anew in the same folders.

## Main Definitions

* `Collection.Call` — what a collection may be asked for
* `Collection.Call.after`, `Collection.run` — what it does then, once and again and again
* `Collection.SameAnswer` — two look-ups have the same answer
* `Collection.AnswersAnew` — a look-up does not depend on what was seen before

## Main Statements

* `Collection.Coherent.after`, `Collection.Coherent.run` — coherence after one call and after all
* `Collection.answersAnew` — a look-up answers like that of a collection that starts anew

## Design Notes

A call that fails leaves the collection as it was, but what it has changed on the disk stays
changed. Runs in which the system refuses a call for another reason than that something is missing
are left out: a folder that is made halfway may bring a path into sight that cannot be looked up.
-/

namespace DesignTokens

/-- The system refused an access, and not because something is missing. -/
def Failure.isObstacle : Failure → Bool
  | .disk fault => fault.cause.isReported && decide (fault.cause ≠ .missing)
  | _ => false

namespace Collection

open Workspace

/-- What a collection may be asked for. -/
inductive Call
  /-- The theme of a name. -/
  | find (name : String)
  /-- What there is. -/
  | list
  /-- A copy of a library theme in the project. -/
  | copy (name : String)
  /-- A theme to be saved in the project. -/
  | save (theme : Theme)
  /-- Not to keep what was looked up. -/
  | forget

namespace Call

/-- What is done for a call. The result is the collection afterwards. -/
def job (c : Collection) : Call → Job Collection
  | find name => return (← c.find name).2
  | list => do
    let _ ← c.list
    return c
  | copy name => return (← c.copyToProject name).2
  | save theme => return (← c.save theme).2
  | forget => return c.forget

/-- Names are those of files, and themes can be saved. -/
def IsFair : Call → Prop
  | find name | copy name => '/' ∉ name.toList
  | save theme => theme.IsSavable
  | list | forget => True

/-- The collection and the workspace after a call. -/
def after (call : Call) (c : Collection) (w : Workspace) : Collection × Workspace :=
  match call.job c w with
  | .ok next w => (next, w)
  | .error _ w => (c, w)

/-- Whether the system gets in the way of a call. -/
def isHindered (call : Call) (c : Collection) (w : Workspace) : Bool :=
  match call.job c w with
  | .ok _ _ => false
  | .error failure _ => failure.isObstacle

end Call

/-- The collection and the workspace after some calls. -/
def run (c : Collection) (w : Workspace) : List Call → Collection × Workspace
  | [] => (c, w)
  | call :: rest => run (call.after c w).1 (call.after c w).2 rest

/-- Whether the system never gets in the way of some calls. -/
def isFree (c : Collection) (w : Workspace) : List Call → Bool
  | [] => true
  | call :: rest =>
    !call.isHindered c w && isFree (call.after c w).1 (call.after c w).2 rest

/-- The answer to a look-up: a theme or none, or a failure. -/
abbrev Answer := EStateM.Result Failure Workspace (Option Theme × Collection)

/-- Two look-ups answer with the same data, both with none, or with the same failure. -/
inductive SameAnswer : Answer → Answer → Prop
  | found {theme other : Theme} {c d : Collection} {w after : Workspace}
    (h : theme.SameData other) : SameAnswer (.ok (some theme, c) w) (.ok (some other, d) after)
  | none {c d : Collection} {w after : Workspace} :
    SameAnswer (.ok (none, c) w) (.ok (none, d) after)
  | failed {failure : Failure} {w after : Workspace} :
    SameAnswer (.error failure w) (.error failure after)

/-- A look-up after some calls has the same answer as one by the collection that has not seen them,
on the disk that they leave behind. -/
def AnswersAnew (start : Collection) (w : Workspace) (calls : List Call) (name : String) : Prop :=
  SameAnswer (start.find name (start.run w calls).2)
    ((start.run w calls).1.find name (start.run w calls).2)

/-- Two collections have the same folders. -/
structure SamePlaces (c other : Collection) : Prop where
  /-- The libraries are the same. -/
  library : other.library = c.library
  /-- The project folders are the same. -/
  project : other.project = c.project

theorem SamePlaces.refl (c : Collection) : c.SamePlaces c := ⟨rfl, rfl⟩

theorem SamePlaces.trans {c other more : Collection} (h : c.SamePlaces other)
    (h' : other.SamePlaces more) : c.SamePlaces more :=
  ⟨h'.library.trans h.library, h'.project.trans h.project⟩

theorem SamePlaces.candidates_eq {c other : Collection} (h : c.SamePlaces other) (name : String) :
    other.candidates name = c.candidates name := by
  rw [candidates, candidates, h.library, h.project]

variable {c : Collection} {w : Workspace} {folder : Path} {name : String}

/-! ### One call -/

/-- What a job leaves behind that is done for a call. -/
def KeepsCoherent {α : Type} (c : Collection) (w : Workspace) (job : Job (α × Collection)) : Prop :=
  job.Ends w (fun result after => c.SamePlaces result.2 ∧ result.2.Coherent after)
    (fun failure after => failure.isObstacle = true ∨ c.Coherent after)

/-- A collection stays coherent when it keeps what its files say. -/
theorem Coherent.insert (h : c.Coherent w) (hname : '/' ∉ name.toList) {theme : Theme}
    (hfirst : w.firstOf (c.candidates name) = .ok (some theme)) :
    Coherent { c with seen := c.seen.insert name theme } w := by
  refine ⟨h.sound, h.inSight, fun other kept hkept => ?_⟩
  change (c.seen.insert name theme).find? other = some kept at hkept
  rw [OrderedMap.find?_insert] at hkept
  split at hkept
  · next hother =>
      cases hkept
      exact ⟨hother ▸ hname, theme, hother ▸ hfirst, .refl theme⟩
  · exact h.kept other kept hkept

/-- A collection that has seen nothing is coherent. -/
theorem Coherent.forget (h : c.Coherent w) : c.forget.Coherent w :=
  ⟨h.sound, h.inSight, fun _ _ hkept => by cases hkept⟩

theorem Coherent.find_keeps (h : c.Coherent w) (hname : '/' ∉ name.toList) :
    c.KeepsCoherent w (c.find name) := by
  cases hseen : c.seen.find? name with
  | some theme =>
      unfold find
      rw [hseen]
      exact Job.ends_pure ⟨.refl c, h⟩
  | none =>
      refine (find_ends hseen w).mono ?_ fun _ _ hbad => .inr (h.sameDisk hbad.1)
      rintro ⟨found, next⟩ after ⟨hsame, hfirst, hnext⟩
      obtain rfl : next = { c with seen := found.elim c.seen (c.seen.insert name) } := hnext
      refine ⟨⟨rfl, rfl⟩, ?_⟩
      cases found with
      | none => exact h.sameDisk hsame
      | some theme =>
          refine (h.sameDisk hsame).insert hname ?_
          rw [firstOf_congr hsame, hfirst]

theorem projectFolder_ends (c : Collection) (w : Workspace) :
    c.projectFolder.Ends w (fun folder after => after = w ∧ c.project = some folder)
      (fun _ after => after = w) := by
  unfold projectFolder
  cases hproject : c.project with
  | none => exact Job.ends_throw rfl
  | some folder => exact Job.ends_pure ⟨rfl, rfl⟩

/-- The project folder is made, unless the system gets in the way. -/
theorem Coherent.makeFolders_ends (h : c.Coherent w) (hproject : c.project = some folder) :
    (Job.makeFolders folder).Ends w (fun _ after => c.Coherent after)
      (fun failure after => failure.isObstacle = true ∨ c.Coherent after) := by
  refine (Job.makeFolders_ends h.sound folder).mono (fun _ _ hmakes => h.makes hproject hmakes) ?_
  rintro failure after ⟨cause, place, rfl, hcause, hunnameable⟩
  by_cases hname : cause = .unnameable
  · exact .inr (hunnameable hname ▸ h)
  · left
    cases cause <;> first | rfl | contradiction

/-- A file is written into the project folder, and what is kept under its name is what was
written. -/
theorem Coherent.writeFile_ends (h : c.Coherent w) (hproject : c.project = some folder)
    (hname : '/' ∉ name.toList) {text : String} {seen : OrderedMap String Theme}
    (hothers : ∀ other theme, other ≠ name → seen.find? other = some theme →
      c.seen.find? other = some theme)
    (hkept : ∀ theme, seen.find? name = some theme → ∃ again,
      (Entry.file (Text.encodeUtf8 text)).theme (fileIn folder name) = .ok again ∧
        again.SameData theme) :
    (Job.writeFile (fileIn folder name) text).Ends w
      (fun _ after => Coherent { c with seen := seen } after)
      (fun failure after => failure.isObstacle = true ∨ c.Coherent after) := by
  refine (Job.writeFile_ends (fileIn folder name) text w).mono ?_ ?_
  · rintro _ after ⟨location, hlocate, hplace, rfl⟩
    exact h.written hproject hname hlocate hplace hothers hkept
  · rintro failure after ⟨rfl, -⟩
    exact .inr h

theorem Coherent.copy_keeps (h : c.Coherent w) (hname : '/' ∉ name.toList) :
    c.KeepsCoherent w (c.copyToProject name) := by
  have hstays : ∀ {between after : Workspace} {failure : Failure}, c.Coherent between →
      after = between → failure.isObstacle = true ∨ c.Coherent after :=
    fun h heq => .inr (heq ▸ h)
  unfold copyToProject
  refine ((projectFolder_ends c w).mono_bad fun _ _ hbad => hstays h hbad).bind ?_
  rintro folder _ ⟨rfl, hproject⟩
  refine ((Job.look_ends _ _).mono_bad fun _ _ hbad => hstays h hbad.1).bind ?_
  rintro found _ ⟨rfl, -⟩
  split
  · refine (h.makeFolders_ends hproject).bind fun _ between hbetween => ?_
    refine ((Job.look_ends _ _).mono_bad fun _ _ hbad => hstays hbetween hbad.1).bind ?_
    rintro found between ⟨rfl, -⟩
    split
    · exact Job.ends_throw (.inr hbetween)
    · refine Job.ends_get_bind ?_
      have hread : (Job.ofExcept (between.readText (fileIn c.library name))).Ends between
          (fun _ after => after = between)
          (fun failure after => failure.isObstacle = true ∨ c.Coherent after) :=
        Job.ends_ofExcept (fun _ _ => rfl) fun _ _ => .inr hbetween
      refine hread.bind ?_
      rintro text _ rfl
      have hothers : ∀ other theme, other ≠ name → (c.seen.erase name).find? other = some theme →
          c.seen.find? other = some theme := by
        intro other theme hother hkept
        rwa [OrderedMap.find?_erase, if_neg hother] at hkept
      -- Nothing is kept under the name, so that nothing needs to be known of the text.
      have herased : ∀ theme, (c.seen.erase name).find? name ≠ some theme := by
        simp [OrderedMap.find?_erase]
      refine (hbetween.writeFile_ends hproject hname hothers
        fun theme hkept => absurd hkept (herased theme)).bind fun _ after hafter => ?_
      exact Job.ends_pure ⟨⟨rfl, rfl⟩, hafter⟩
  · exact Job.ends_pure ⟨.refl c, h⟩

theorem Coherent.save_keeps (h : c.Coherent w) {theme : Theme} (htheme : theme.IsSavable) :
    c.KeepsCoherent w (c.save theme) := by
  unfold save
  refine ((projectFolder_ends c w).mono_bad fun _ _ hbad => .inr (hbad ▸ h)).bind ?_
  rintro folder _ ⟨rfl, hproject⟩
  refine (h.makeFolders_ends hproject).bind fun _ between hbetween => ?_
  have hwritten : (Job.ofOption theme.documentText? .unprintable).Ends between
      (fun text after => after = between ∧ theme.documentText? = some text)
      (fun failure after => failure.isObstacle = true ∨ c.Coherent after) :=
    Job.ends_ofOption (fun _ htext => ⟨rfl, htext⟩) fun _ => .inr hbetween
  refine hwritten.bind ?_
  rintro text _ ⟨rfl, htext⟩
  have hothers : ∀ other kept, other ≠ theme.name →
      (c.seen.insert theme.name theme).find? other = some kept →
        c.seen.find? other = some kept := by
    intro other kept hother hkept
    rwa [OrderedMap.find?_insert, if_neg hother] at hkept
  refine (hbetween.writeFile_ends hproject htheme.name hothers ?_).bind fun _ after hafter => ?_
  · -- What is kept is the theme itself, and the file gives its data.
    intro kept hkept
    rw [OrderedMap.find?_insert, if_pos rfl] at hkept
    cases hkept
    exact htheme.theme_file htext _
  · exact Job.ends_pure ⟨⟨rfl, rfl⟩, hafter⟩

/-! ### Runs -/

/-- A call leaves a coherent collection behind, unless the system gets in the way. -/
theorem Coherent.job_ends (h : c.Coherent w) {call : Call} (hfair : call.IsFair) :
    (call.job c).Ends w (fun next after => c.SamePlaces next ∧ next.Coherent after)
      (fun failure after => failure.isObstacle = true ∨ c.Coherent after) := by
  cases call with
  | find name => exact (h.find_keeps hfair).bind fun _ _ hafter => Job.ends_pure hafter
  | list =>
      refine ((list_ends c w).mono (fun _ _ hsame => hsame)
        fun _ _ hsame => .inr (h.sameDisk hsame)).bind fun _ after hsame => ?_
      exact Job.ends_pure ⟨.refl c, h.sameDisk hsame⟩
  | copy name => exact (h.copy_keeps hfair).bind fun _ _ hafter => Job.ends_pure hafter
  | save theme => exact (h.save_keeps hfair).bind fun _ _ hafter => Job.ends_pure hafter
  | forget => exact Job.ends_pure ⟨⟨rfl, rfl⟩, h.forget⟩

/-- **Coherence is kept by every call**, whether it fails or not. -/
theorem Coherent.after (h : c.Coherent w) {call : Call} (hfair : call.IsFair)
    (hfree : call.isHindered c w = false) :
    c.SamePlaces (call.after c w).1 ∧ (call.after c w).1.Coherent (call.after c w).2 := by
  have hends := h.job_ends hfair
  unfold Call.after
  unfold Call.isHindered at hfree
  cases hrun : call.job c w with
  | ok next after => exact hends.of_ok hrun
  | error failure after =>
      rw [hrun] at hfree
      change failure.isObstacle = false at hfree
      rcases hends.of_error hrun with hobstacle | hafter
      · rw [hobstacle] at hfree
        cases hfree
      · exact ⟨.refl c, hafter⟩

/-- **Coherence is kept by all calls.** -/
theorem Coherent.run (h : c.Coherent w) {calls : List Call} (hfair : ∀ call ∈ calls, call.IsFair)
    (hfree : c.isFree w calls = true) :
    c.SamePlaces (c.run w calls).1 ∧ (c.run w calls).1.Coherent (c.run w calls).2 := by
  induction calls generalizing c w with
  | nil => exact ⟨.refl c, h⟩
  | cons call rest ih =>
      rw [isFree, Bool.and_eq_true, Bool.not_eq_true'] at hfree
      obtain ⟨hplaces, hafter⟩ := h.after (hfair call List.mem_cons_self) hfree.1
      obtain ⟨hrest, hlast⟩ :=
        ih hafter (fun call hcall => hfair call (List.mem_cons_of_mem _ hcall)) hfree.2
      exact ⟨hplaces.trans hrest, hlast⟩

/-! ### Answers -/

/-- What is found, or why nothing can be found. -/
def Answer.outcome : Answer → Except Failure (Option Theme)
  | .ok (found, _) _ => .ok found
  | .error failure _ => .error failure

theorem SameAnswer.of_outcome_eq {a b : Answer} (h : a.outcome = b.outcome) : SameAnswer a b := by
  rcases a with ⟨⟨found, c⟩, w⟩ | ⟨failure, w⟩ <;>
    rcases b with ⟨⟨found', d⟩, after⟩ | ⟨failure', after⟩ <;> cases h
  · cases found with
    | none => exact .none
    | some theme => exact .found (.refl theme)
  · exact .failed

theorem SameAnswer.of_outcome {a : Answer} {theme other : Theme} (h : a.outcome = .ok (some theme))
    (hdata : theme.SameData other) (c : Collection) (w : Workspace) :
    SameAnswer a (.ok (some other, c) w) := by
  rcases a with ⟨⟨found, d⟩, after⟩ | ⟨failure, after⟩ <;> cases h
  exact .found hdata

/-- What is found under a name that was not looked up before stands on the disk. -/
theorem outcome_find (hseen : c.seen.find? name = none) (w : Workspace) :
    Answer.outcome (c.find name w) = w.firstOf (c.candidates name) := by
  have hends := find_ends hseen w
  cases hrun : c.find name w with
  | ok result after => exact (hends.of_ok hrun).2.1.symm
  | error failure after => exact (hends.of_error hrun).2.symm

/-- A coherent collection answers like one of the same folders that has seen nothing. -/
theorem Coherent.sameAnswer (h : c.Coherent w) {fresh : Collection} (hplaces : fresh.SamePlaces c)
    (hfresh : fresh.seen = .empty) (name : String) :
    SameAnswer (fresh.find name w) (c.find name w) := by
  have hunseen : fresh.seen.find? name = none := by rw [hfresh]; rfl
  have hanew : Answer.outcome (fresh.find name w) = w.firstOf (c.candidates name) := by
    rw [outcome_find hunseen, hplaces.candidates_eq]
  cases hseen : c.seen.find? name with
  | some theme =>
      -- A theme that is kept is the answer, and the disk is not looked at.
      obtain ⟨-, again, hagain, hdata⟩ := h.kept name theme hseen
      have hkept : c.find name w = .ok (some theme, c) w := by
        unfold find
        rw [hseen]
        rfl
      rw [hkept]
      exact .of_outcome (hanew.trans hagain) hdata c w
  | none => exact .of_outcome_eq (hanew.trans (outcome_find hseen w).symm)

/-- A collection that starts anew is coherent. -/
theorem make_coherent {library project : Option Path} (hw : w.IsSound)
    (hsight : ∀ folder, project = some folder → w.IsInSight folder) :
    (make library project).Coherent w :=
  ⟨hw, hsight, fun _ _ hkept => by cases hkept⟩

/-- **A look-up answers like that of a collection that starts anew**, after any calls in any order.
The project folder may be missing in the beginning, but it may not be hidden. -/
theorem answersAnew (library project : Option Path) {w : Workspace} (hw : w.IsSound)
    (hsight : ∀ folder, project = some folder → w.IsInSight folder) {calls : List Call}
    (hfair : ∀ call ∈ calls, call.IsFair) (hfree : (make library project).isFree w calls = true)
    (name : String) : (make library project).AnswersAnew w calls name := by
  obtain ⟨hplaces, hafter⟩ := (make_coherent hw hsight).run hfair hfree
  exact hafter.sameAnswer hplaces rfl name

/-! ### Two disks -/

/-- A library of two themes. -/
def twoThemes : List (Location × Entry) :=
  [(["lib"], .folder), (["lib", "a.yaml"], .file (Text.encodeUtf8 "name: a\n")),
    (["lib", "b.yaml"], .file (Text.encodeUtf8 "name: b\n"))]

/-- A disk with a library alone. -/
def libraryAlone : Workspace := ⟨⟨.ofList twoThemes⟩, [], []⟩

/-- A disk with a library and a theme of a project. -/
def libraryAndProject : Workspace :=
  ⟨⟨.ofList (twoThemes ++ [(["themes"], .folder),
    (["themes", "a.yaml"], .file (Text.encodeUtf8 "name: z\n"))])⟩, [], []⟩

/-- A theme of one color. -/
def blue : Theme :=
  ⟨supportedSchema, "a", "", ⟨.ofList [("primary", "#0070f3")], .empty, .empty, .empty, .empty,
    .empty, []⟩, ⟨.empty⟩, ⟨.empty⟩⟩

theorem blue_isSavable : blue.IsSavable where
  name := by decide
  schema := rfl
  read := ⟨[], blue.toDatum, rfl⟩
  document := by
    intro text htext
    have hread : (blue.documentText?.map fun text =>
        Yaml.read (.ofText (Text.unifyReturns text.toList))) = some (.ok (blue.toDatum, [])) := by
      decide +kernel
    rw [htext] at hread
    exact ⟨blue.toDatum, [], Option.some.inj hread, .refl _ _⟩

theorem answersAnew_blue :
    (make (some ⟨.relative, ["lib"]⟩) (some ⟨.relative, ["themes"]⟩)).AnswersAnew libraryAlone
      [.find "a", .copy "b", .find "b", .save blue] "a" :=
  answersAnew _ _ (by decide +kernel)
    (fun folder h => by cases h; decide +kernel)
    (by simp [Call.IsFair, blue_isSavable]) (by decide +kernel) "a"

/-- The name of the theme that is the answer. -/
def Answer.themeName? : Answer → Option String
  | .ok (some theme, _) _ => some theme.name
  | _ => none

theorem SameAnswer.themeName?_eq {a b : Answer} (h : SameAnswer a b) :
    a.themeName? = b.themeName? := by
  cases h with
  | found hdata => exact congrArg some hdata.name_eq
  | none => rfl
  | failed => rfl

/-- **A hidden project folder comes into sight when it is made.** A theme that was found in the
library before is still the answer, although the project has one of its name. -/
theorem not_forall_answersAnew :
    ¬ ∀ (library project : Option Path) (w : Workspace), w.IsSound → ∀ calls : List Call,
      (∀ call ∈ calls, call.IsFair) → (make library project).isFree w calls = true →
      ∀ name : String, '/' ∉ name.toList → (make library project).AnswersAnew w calls name := by
  intro h
  have hsame := (h (some ⟨.relative, ["lib"]⟩) (some ⟨.relative, ["x", "..", "themes"]⟩)
    libraryAndProject (by decide +kernel) [.find "a", .copy "b"] (by simp [Call.IsFair])
    (by decide +kernel) "a" (by decide)).themeName?_eq
  revert hsame
  decide +kernel

end Collection

end DesignTokens
