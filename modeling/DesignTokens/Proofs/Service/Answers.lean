import DesignTokens.Proofs.Collection.Runs
import DesignTokens.Service

/-!
# Answers

A service answers every request: a failure is an answer as well. What is known about the job that a
request stands for becomes what is known about the answer.

## Main Definitions

* `Service.SameFolders` — two services that differ in nothing but the themes that they have seen

## Main Statements

* `Collection.find_keeps` — looking up a name changes nothing on the disk
* `Service.answerFailure_ends`, `Service.answering_ends` — a job whose failures are answers
* `Service.answerFor_ends` — a request about the theme of a name
* `Service.answerFor_ends_of_find`, `Service.answerFor_ends_of_not_find` — one about the theme of a
  name that is found, or that is not
* `Service.successAnswer_ne_errorAnswer` — the two kinds of answers are told apart
-/

namespace DesignTokens

open Workspace

/-- Looking up a name changes nothing on the disk, also if it was looked up before, and the
collection has the same folders afterwards. -/
theorem Collection.find_keeps (c : Collection) (name : String) (w : Workspace) :
    (c.find name).Ends w (fun result after => w.SameDisk after ∧ c.SamePlaces result.2)
      fun _ after => w.SameDisk after := by
  cases hseen : c.seen.find? name with
  | some theme =>
      unfold find
      rw [hseen]
      exact Job.ends_pure ⟨.refl w, .refl c⟩
  | none =>
      refine (find_ends hseen w).mono ?_ fun _ _ h => h.1
      rintro result after ⟨hsame, -, hnext⟩
      rw [hnext]
      exact ⟨hsame, rfl, rfl⟩

namespace Service

/-- Two services differ in nothing but the themes that they have seen. -/
structure SameFolders (s other : Service) : Prop where
  /-- The themes stand in the same folders. -/
  themes : s.themes.SamePlaces other.themes
  /-- The folders for generated files are the same. -/
  output : other.output = s.output

theorem SameFolders.refl (s : Service) : s.SameFolders s := ⟨.refl _, rfl⟩

variable {s : Service} {w : Workspace} {attempted : String} {expected : Failure → Bool}

/-- The two kinds of answers are told apart by the status. -/
theorem successAnswer_ne_errorAnswer (members : List (String × Json)) (message : String) :
    successAnswer members ≠ errorAnswer message := by
  simp [successAnswer, errorAnswer]

/-- A failure is answered, and the log may tell of it. -/
theorem answerFailure_ends (failure : Failure) (w : Workspace) :
    (answerFailure attempted expected failure).Ends w
      (fun answer after => answer = errorAnswer failure.message ∧ w.SameDisk after)
      fun _ _ => False := by
  unfold answerFailure
  split
  · exact Job.ends_pure ⟨rfl, .refl w⟩
  · exact Job.ends_record_bind (Job.ends_pure ⟨rfl, rfl, rfl⟩)

/-- **The failures of a job are answers.** -/
theorem answering_ends {job : Job Json} {ok : Json → Workspace → Prop}
    {bad : Failure → Workspace → Prop} (h : job.Ends w ok bad) :
    (answering attempted expected job).Ends w
      (fun answer after => ok answer after ∨ ∃ failure between, bad failure between ∧
        answer = errorAnswer failure.message ∧ between.SameDisk after)
      fun _ _ => False := by
  unfold answering
  refine (Job.attempt_ends h).bind ?_
  rintro result between ⟨hok, hbad⟩
  cases result with
  | ok answer => exact Job.ends_pure (.inl (hok answer rfl))
  | error failure =>
      refine (answerFailure_ends failure between).mono ?_ fun _ _ h => h
      exact fun answer after h => .inr ⟨failure, between, hbad failure rfl, h⟩

/-- **A request about the theme of a name** is answered from the theme, or with what went wrong
before that or with it. -/
theorem answerFor_ends {name : String} {make : Theme → Job Json}
    {ok : Theme → Json → Workspace → Prop} {bad : Failure → Workspace → Prop}
    (hmake : ∀ theme kept found, s.themes.find name w = .ok (some theme, kept) found →
      w.SameDisk found → (make theme).Ends found (ok theme) bad) :
    (s.answerFor name attempted expected make).Ends w
      (fun result after => s.SameFolders result.2 ∧
        ((∃ theme kept found, s.themes.find name w = .ok (some theme, kept) found ∧
          ok theme result.1 after) ∨
        (∃ message, result.1 = errorAnswer message) ∧
          (w.SameDisk after ∨ ∃ failure between, bad failure between ∧ between.SameDisk after)))
      fun _ _ => False := by
  unfold answerFor
  refine (Job.attempt_ends (s.themes.find_keeps name w).with_end).bind ?_
  rintro result between ⟨hok, hbad⟩
  match result with
  | .error failure =>
      refine (answerFailure_ends failure between).bind fun answer after ⟨hanswer, hafter⟩ => ?_
      exact Job.ends_pure
        ⟨.refl s, .inr ⟨⟨_, hanswer⟩, .inl ((hbad failure rfl).2.trans hafter)⟩⟩
  | .ok (none, themes) =>
      obtain ⟨-, hsame, hplaces⟩ := hok _ rfl
      exact Job.ends_pure ⟨⟨hplaces, rfl⟩, .inr ⟨⟨_, rfl⟩, .inl hsame⟩⟩
  | .ok (some theme, themes) =>
      obtain ⟨hfind, hfound, hplaces⟩ := hok _ rfl
      have hmade := hmake theme themes between hfind hfound
      refine (answering_ends hmade).bind fun answer after h => ?_
      refine Job.ends_pure ⟨⟨hplaces, rfl⟩, ?_⟩
      rcases h with h | ⟨failure, last, hlast, hanswer, hafter⟩
      · exact .inl ⟨theme, themes, between, hfind, h⟩
      · exact .inr ⟨⟨_, hanswer⟩, .inr ⟨failure, last, hlast, hafter⟩⟩

/-- A request about the theme of a name that is not found is answered with an error, and leaves the
disk as it was. -/
theorem answerFor_ends_of_not_find {name : String} {make : Theme → Job Json}
    (hnone : ¬ ∃ theme kept found, s.themes.find name w = .ok (some theme, kept) found) :
    (s.answerFor name attempted expected make).Ends w
      (fun result after => (∃ message, result.1 = errorAnswer message) ∧ w.SameDisk after)
      fun _ _ => False := by
  have hmade : ∀ theme kept found, s.themes.find name w = .ok (some theme, kept) found →
      w.SameDisk found → (make theme).Ends found (fun _ _ => False) fun _ _ => False :=
    fun theme kept found hfind _ => absurd ⟨theme, kept, found, hfind⟩ hnone
  refine (answerFor_ends hmade).mono ?_ fun _ _ h => h
  rintro result after ⟨-, ⟨_, _, _, -, hfalse⟩ | ⟨herror, hsame | ⟨_, _, hfalse, -⟩⟩⟩
  · exact hfalse.elim
  · exact ⟨herror, hsame⟩
  · exact hfalse.elim

/-- A request about the theme of a name that is found is answered as the theme is. -/
theorem answerFor_ends_of_find {name : String} {make : Theme → Job Json} {theme : Theme}
    {kept : Collection} {found : Workspace} {ok : Json → Workspace → Prop}
    {bad : Failure → Workspace → Prop}
    (hfind : s.themes.find name w = .ok (some theme, kept) found)
    (h : (answering attempted expected (make theme)).Ends found ok bad) :
    (s.answerFor name attempted expected make).Ends w (fun result after => ok result.1 after)
      bad := by
  unfold answerFor
  refine (Job.attempt_ends (s.themes.find_keeps name w).with_end).bind ?_
  rintro result between ⟨hok, hbad⟩
  match result with
  | .error failure => cases hfind.symm.trans (hbad failure rfl).1
  | .ok (none, themes) => cases hfind.symm.trans (hok _ rfl).1
  | .ok (some other, themes) =>
      cases hfind.symm.trans (hok _ rfl).1
      exact h.bind fun _ _ hanswer => Job.ends_pure hanswer

end Service

end DesignTokens
