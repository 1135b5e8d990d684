import DesignTokens.Proofs.Disk.Walk
import DesignTokens.Workspace

/-!
# Outcomes of jobs

A job ends with a result or with a failure, and in either case with a workspace. What is known about
a job says something of both outcomes, and what is known about a sequence of jobs follows from what
is known about its parts.

## Main Definitions

* `Job.Ends` — what holds when a job ends
* `Job.passes` — a test of the end of a job, which can be run

## Main Statements

* `Job.Ends.bind` — a job that is followed by another one
* `Job.ends_forIn` — a loop whose steps keep something
* `Job.look_ends`, `Job.change_ends`, `Job.writeFile_ends` — what looking and writing do
-/

namespace DesignTokens.Job

variable {α β : Type}

/-- A job ends with a result and a workspace for which something holds, or else with a failure and a
workspace for which something else does. -/
def Ends (job : Job α) (w : Workspace) (ok : α → Workspace → Prop)
    (bad : Failure → Workspace → Prop) : Prop :=
  match job w with
  | .ok a after => ok a after
  | .error failure after => bad failure after

variable {job : Job α} {w : Workspace} {ok : α → Workspace → Prop}
  {bad : Failure → Workspace → Prop}

theorem Ends.of_ok (h : job.Ends w ok bad) {a : α} {after : Workspace}
    (hrun : job w = .ok a after) : ok a after := by
  unfold Ends at h
  rw [hrun] at h
  exact h

theorem Ends.of_error (h : job.Ends w ok bad) {failure : Failure} {after : Workspace}
    (hrun : job w = .error failure after) : bad failure after := by
  unfold Ends at h
  rw [hrun] at h
  exact h

theorem Ends.mono {ok' : α → Workspace → Prop} {bad' : Failure → Workspace → Prop}
    (h : job.Ends w ok bad) (hok : ∀ a after, ok a after → ok' a after)
    (hbad : ∀ failure after, bad failure after → bad' failure after) : job.Ends w ok' bad' := by
  unfold Ends at h ⊢
  cases hrun : job w with
  | ok a after => rw [hrun] at h; exact hok a after h
  | error failure after => rw [hrun] at h; exact hbad failure after h

/-- What is known about a failure may be weakened alone. -/
theorem Ends.mono_bad {bad' : Failure → Workspace → Prop} (h : job.Ends w ok bad)
    (hbad : ∀ failure after, bad failure after → bad' failure after) : job.Ends w ok bad' :=
  h.mono (fun _ _ hok => hok) hbad

/-- Two things that are known about the ends of a job. -/
theorem Ends.and {ok' : α → Workspace → Prop} {bad' : Failure → Workspace → Prop}
    (h : job.Ends w ok bad) (h' : job.Ends w ok' bad') :
    job.Ends w (fun a after => ok a after ∧ ok' a after)
      fun failure after => bad failure after ∧ bad' failure after := by
  unfold Ends at h h' ⊢
  split
  · next hrun => rw [hrun] at h h'; exact ⟨h, h'⟩
  · next hrun => rw [hrun] at h h'; exact ⟨h, h'⟩

/-- The end of a job itself. -/
theorem ends_self (job : Job α) (w : Workspace) :
    job.Ends w (fun a after => job w = .ok a after) fun failure after =>
      job w = .error failure after := by
  unfold Ends
  split
  · next hrun => exact hrun
  · next hrun => exact hrun

/-- What is known about the ends of a job, together with the end itself. -/
theorem Ends.with_end (h : job.Ends w ok bad) :
    job.Ends w (fun a after => job w = .ok a after ∧ ok a after)
      fun failure after => job w = .error failure after ∧ bad failure after :=
  (ends_self job w).and h

/-- Whether a job does not fail and its end passes a test. -/
def passes (job : Job α) (w : Workspace) (test : α → Workspace → Bool) : Bool :=
  match job w with
  | .ok a after => test a after
  | .error _ _ => false

theorem exists_of_passes {test : α → Workspace → Bool} (h : job.passes w test = true) :
    ∃ a after, job w = .ok a after ∧ test a after = true := by
  unfold passes at h
  split at h
  · next a after hrun => exact ⟨a, after, hrun, h⟩
  · cases h

theorem ends_pure {a : α} (h : ok a w) : Ends (pure a) w ok bad := h

theorem ends_throw {failure : Failure} (h : bad failure w) :
    Ends (throw failure : Job α) w ok bad := h

/-- **A job that is followed by another one** ends as the second one does after the first one. -/
theorem Ends.bind {next : α → Job β} {between : α → Workspace → Prop}
    {ok : β → Workspace → Prop} (h : job.Ends w between bad)
    (hnext : ∀ a after, between a after → (next a).Ends after ok bad) :
    (job >>= next).Ends w ok bad := by
  unfold Ends at h ⊢
  show match EStateM.bind job next w with
    | .ok b after => ok b after
    | .error failure after => bad failure after
  unfold EStateM.bind
  cases hrun : job w with
  | ok a after =>
      rw [hrun] at h
      exact hnext a after h
  | error failure after =>
      rw [hrun] at h
      exact h

/-- An attempt never fails; its answer tells how the job ended. -/
theorem attempt_ends {failed : Failure → Workspace → Prop} (h : job.Ends w ok bad) :
    job.attempt.Ends w
      (fun result after =>
        (∀ a, result = .ok a → ok a after) ∧ ∀ failure, result = .error failure → bad failure after)
      failed := by
  cases hrun : job w with
  | ok a after =>
      have hattempt : job.attempt w = .ok (.ok a) after := by unfold attempt; rw [hrun]
      unfold Ends
      rw [hattempt]
      refine ⟨fun b heq => ?_, fun _ heq => nomatch heq⟩
      cases heq
      exact h.of_ok hrun
  | error failure after =>
      have hattempt : job.attempt w = .ok (.error failure) after := by unfold attempt; rw [hrun]
      unfold Ends
      rw [hattempt]
      refine ⟨fun _ heq => (nomatch heq), fun other heq => ?_⟩
      cases heq
      exact h.of_error hrun

/-- A job may look at the workspace as it is. -/
theorem ends_get_bind {next : Workspace → Job β} {ok : β → Workspace → Prop}
    (h : (next w).Ends w ok bad) : (get >>= next).Ends w ok bad := h

/-- A record is added to the log, and nothing else is done before the job that follows. -/
theorem ends_record_bind {level : Level} {message : String} {next : PUnit → Job β}
    {ok : β → Workspace → Prop}
    (h : (next ⟨⟩).Ends { w with log := w.log ++ [⟨level, message⟩] } ok bad) :
    (record level message >>= next).Ends w ok bad := h

theorem ends_set {next : Workspace} {ok : PUnit → Workspace → Prop} (h : ok ⟨⟩ next) :
    Ends (set next) w ok bad := h

theorem ends_ofExcept {r : Except Failure α} (hok : ∀ a, r = .ok a → ok a w)
    (hbad : ∀ failure, r = .error failure → bad failure w) : (ofExcept r).Ends w ok bad := by
  cases r with
  | ok a => exact hok a rfl
  | error failure => exact hbad failure rfl

theorem ends_ofOption {r : Option α} {failure : Failure} (hok : ∀ a, r = some a → ok a w)
    (hbad : r = none → bad failure w) : (ofOption r failure).Ends w ok bad := by
  cases r with
  | some a => exact hok a rfl
  | none => exact hbad rfl

attribute [irreducible] Ends

/-- What every step of a loop keeps holds after the loop, if no step ends it. -/
theorem ends_forIn (inv : Workspace → Prop) {body : α → PUnit → Job (ForInStep PUnit)}
    {bad : Failure → Workspace → Prop} {l : List α}
    (hstep : ∀ a w, inv w →
      (body a ⟨⟩).Ends w (fun step after => step = .yield ⟨⟩ ∧ inv after) bad) (hw : inv w) :
    (forIn l PUnit.unit body).Ends w (fun _ after => inv after) bad := by
  induction l generalizing w with
  | nil => exact ends_pure hw
  | cons a rest ih =>
      rw [List.forIn_cons]
      refine (hstep a w hw).bind fun step between hbetween => ?_
      obtain ⟨rfl, hinv⟩ := hbetween
      exact ih hinv

/-- Looking changes nothing. -/
theorem look_ends (path : Path) (w : Workspace) :
    (look path).Ends w
      (fun found after => after = w ∧ w.tree.look w.folder path = .ok found)
      (fun failure after => after = w ∧
        ∃ cause, w.tree.look w.folder path = .error cause ∧ failure = .disk ⟨cause, path⟩) := by
  refine ends_get_bind ?_
  cases h : w.tree.look w.folder path with
  | ok found => exact ends_pure ⟨rfl, rfl⟩
  | error cause => exact ends_throw ⟨rfl, cause, rfl, rfl⟩

/-- A change of the disk is made whole, or nothing is changed. -/
theorem change_ends (path : Path)
    (access : FileTree → Location → Path → Except DiskCause FileTree) (w : Workspace) :
    (change path access).Ends w
      (fun _ after => ∃ tree, access w.tree w.folder path = .ok tree ∧
        after = { w with tree := tree })
      (fun failure after => after = w ∧
        ∃ cause, access w.tree w.folder path = .error cause ∧ failure = .disk ⟨cause, path⟩) := by
  unfold change
  refine ends_get_bind ?_
  cases h : access w.tree w.folder path with
  | ok tree => exact ends_set ⟨tree, rfl, rfl⟩
  | error cause => exact ends_throw ⟨rfl, cause, rfl, rfl⟩

/-- **Writing puts a file where no folder stands**, or changes nothing. -/
theorem writeFile_ends (path : Path) (text : String) (w : Workspace) :
    (writeFile path text).Ends w
      (fun _ after => ∃ location, w.tree.locate w.folder path = .ok location ∧
        w.tree.entry? location ≠ some .folder ∧
        after = { w with tree := w.tree.put location (.file (Text.encodeUtf8 text)) })
      (fun failure after => after = w ∧ ∃ cause, failure = .disk ⟨cause, path⟩) := by
  refine (change_ends path _ w).mono ?_ ?_
  · rintro _ after ⟨tree, hwrite, rfl⟩
    obtain ⟨location, hlocate, hentry, rfl⟩ := FileTree.write_eq_ok_iff.mp hwrite
    exact ⟨location, hlocate, hentry, rfl⟩
  · rintro failure after ⟨rfl, cause, -, rfl⟩
    exact ⟨rfl, cause, rfl⟩

end DesignTokens.Job
