import DesignTokens.Proofs.Json.Compact
import DesignTokens.Proofs.Json.Forms
import DesignTokens.Proofs.Service.Remains

/-!
# Reading answers

Answers are written as JSON texts on one line. This module tells which of these texts can be read by
the JSON standard, and that what is read is an answer again: it has a status, and a message if it
tells of an error.

## Main Definitions

* `Service.IsAnswer` — an object with a status, and with a message if it tells of an error
* `Service.Shows` — a request for the theme of a name is answered with its data
* `Service.ShowsUnreadable` — an extra of the theme that is shown cannot be read

## Main Statements

* `Service.IsAnswer.of_reread?` — what is read of an answer is an answer
* `Service.answer_isPlain` — all requests but those for the data of a theme are answered with
  nothing but what the standard knows
* `Service.answer_describe_ends` — the answers to those for the data of a theme
* `Service.answers_decode` — **every request has an answer, and its text is read as one, unless it
  shows an extra that cannot be read**
* `Service.not_forall_decodes` — an answer that cannot be read

## Design Notes

The data of a theme are the only part of an answer that holds doubles. A number without a finite
value has a spelling in theme files, and the writer of JSON has one for it as well, which the
standard lacks; nothing between the two looks for it.
-/

namespace DesignTokens.Service

open Workspace

/-- An answer: an object that tells its status, with no name twice, and with nothing but a message
if it tells of an error. -/
def IsAnswer (answer : Json) : Prop :=
  (∃ members, ("status" :: members.map Prod.fst).Nodup ∧ answer = successAnswer members) ∨
    ∃ message, answer = errorAnswer message

/-- **What is read of an answer is an answer.** -/
theorem IsAnswer.of_reread? {answer value : Json} (h : IsAnswer answer)
    (hread : answer.reread? = some value) : IsAnswer value := by
  rcases h with ⟨members, hnodup, rfl⟩ | ⟨message, rfl⟩
  · have hnames : ((("status", Json.string "success") :: members).map Prod.fst).Nodup := hnodup
    rw [successAnswer, Json.reread?_object hnames, Json.rereadMembers?] at hread
    obtain ⟨all, hall, rfl⟩ := Option.map_eq_some_iff.mp hread
    obtain ⟨found, hfound, rfl⟩ := Option.map_eq_some_iff.mp hall
    exact .inl ⟨found, Json.map_fst_rereadMembers? hfound ▸ hnodup, rfl⟩
  · cases hread
    exact .inr ⟨message, rfl⟩

/-- An answer with nothing in it but what the standard knows. -/
def IsPlain (answer : Json) : Prop := IsAnswer answer ∧ answer.isStandard = true

theorem isPlain_errorAnswer (message : String) : IsPlain (errorAnswer message) :=
  ⟨.inr ⟨message, rfl⟩, rfl⟩

theorem isPlain_successAnswer {members : List (String × Json)}
    (hnodup : ("status" :: members.map Prod.fst).Nodup)
    (hstandard : Json.membersAreStandard members = true) : IsPlain (successAnswer members) :=
  ⟨.inl ⟨members, hnodup, rfl⟩, hstandard⟩

/-- A job that ends with such an answer, unless it fails. -/
def EndsPlain (job : Job Json) : Prop :=
  ∀ w, job.Ends w (fun answer _ => IsPlain answer) fun _ _ => True

theorem endsPlain_pure {answer : Json} (h : IsPlain answer) : EndsPlain (pure answer) := fun _ =>
  Job.ends_pure h

/-- What is done first has no part in the form of the answer. -/
theorem endsPlain_bind {α : Type} {first : Job α} {next : α → Job Json}
    (h : ∀ a, EndsPlain (next a)) : EndsPlain (first >>= next) := fun w =>
  ((Job.ends_self first w).mono_bad fun _ _ _ => trivial).bind fun a after _ => h a after

variable {s : Service} {name attempted : String} {expected : Failure → Bool} {w : Workspace}

/-! ### Answers without the data of a theme -/

/-- A job that is answered plainly if it does not fail is answered plainly. -/
theorem answering_isPlain {job : Job Json} (h : EndsPlain job) (w : Workspace) :
    (answering attempted expected job).Ends w (fun answer _ => IsPlain answer)
      fun _ _ => False := by
  refine (answering_ends (h w)).mono ?_ fun _ _ h => h
  rintro answer after (hplain | ⟨failure, _, -, rfl, -⟩)
  · exact hplain
  · exact isPlain_errorAnswer failure.message

/-- A request about a theme is answered plainly if every theme is. -/
theorem answerFor_isPlain {make : Theme → Job Json} (hmake : ∀ theme, EndsPlain (make theme)) :
    (s.answerFor name attempted expected make).Ends w (fun result _ => IsPlain result.1)
      fun _ _ => False := by
  refine (answerFor_ends fun theme _ found _ _ => hmake theme found).mono ?_ fun _ _ h => h
  rintro ⟨answer, next⟩ after ⟨-, ⟨_, _, _, -, hplain⟩ | ⟨⟨message, rfl⟩, -⟩⟩
  · exact hplain
  · exact isPlain_errorAnswer message

theorem parseValue_isPlain (value : String) : IsPlain (parseValue value) := by
  unfold parseValue
  split
  · exact isPlain_successAnswer (by simp) rfl
  · exact isPlain_errorAnswer _

theorem isStandard_metadata (m : Metadata) : m.toJson.isStandard = true := by
  have hcolors := Json.areStandard_map (f := Json.string) (fun _ => rfl) m.semanticColors
  simp [Metadata.toJson, Json.isStandard, Json.membersAreStandard, hcolors]

theorem isStandard_issue (issue : Issue) : issue.toJson.isStandard = true := by
  cases hlocation : issue.location <;>
    simp [Issue.toJson, Json.isStandard, Json.membersAreStandard, hlocation]

theorem listThemes_isPlain (s : Service) : EndsPlain s.listThemes := by
  refine endsPlain_bind fun found => endsPlain_pure (isPlain_successAnswer (by simp) ?_)
  have hthemes := Json.areStandard_map isStandard_metadata found
  simp [Json.isStandard, Json.membersAreStandard, hthemes]

theorem validate_isPlain (theme : Theme) : IsPlain (validate theme) := by
  refine isPlain_successAnswer (by simp) ?_
  have hissues := Json.areStandard_map isStandard_issue theme.report.issues
  simp [Json.isStandard, Json.membersAreStandard, hissues]

theorem stylesheet_isPlain (theme : Theme) : EndsPlain (stylesheet theme) :=
  endsPlain_bind fun _ => endsPlain_pure (isPlain_successAnswer (by simp) rfl)

theorem tailwind_isPlain (theme : Theme) : EndsPlain (tailwind theme) := by
  refine endsPlain_bind fun config => endsPlain_pure (isPlain_successAnswer (by simp) ?_)
  simp [TailwindConfig.toJson, TailwindConfig.buckets, Json.isStandard, Json.membersAreStandard,
    Json.isStandard_ofStrings]

theorem generate_isPlain (s : Service) (name : String) (css ts : Option String) (theme : Theme) :
    EndsPlain (s.generate name css ts theme) :=
  endsPlain_bind fun _ => endsPlain_bind fun _ =>
    endsPlain_pure (isPlain_successAnswer (by simp) rfl)

theorem answerCopy_isPlain (s : Service) (name : String) (w : Workspace) :
    (s.answerCopy name).Ends w (fun result _ => IsPlain result.1) fun _ _ => False := by
  unfold answerCopy
  refine (Job.attempt_ends (Job.ends_self _ w)).bind fun result between _ => ?_
  match result with
  | .error failure =>
      refine (answerFailure_ends failure between).bind fun answer after hanswer => ?_
      exact Job.ends_pure (hanswer.1 ▸ isPlain_errorAnswer failure.message)
  | .ok (none, _) => exact Job.ends_pure (isPlain_errorAnswer _)
  | .ok (some _, _) => exact Job.ends_pure (isPlain_successAnswer (by simp) rfl)

/-- **All requests but those for the data of a theme** are answered with nothing but what the
standard knows. -/
theorem answer_isPlain (s : Service) {request : Request} (h : ∀ name, request ≠ .describe name)
    (w : Workspace) :
    (s.answer request).Ends w (fun result _ => IsPlain result.1) fun _ _ => False := by
  cases request with
  | list => exact (answering_isPlain s.listThemes_isPlain w).bind fun _ _ h => Job.ends_pure h
  | describe name => exact absurd rfl (h name)
  | copy name => exact s.answerCopy_isPlain name w
  | parse value => exact Job.ends_pure (parseValue_isPlain value)
  | validate name =>
      exact answerFor_isPlain fun theme => endsPlain_pure (validate_isPlain theme)
  | stylesheet name => exact answerFor_isPlain stylesheet_isPlain
  | tailwind name => exact answerFor_isPlain tailwind_isPlain
  | generate name css ts => exact answerFor_isPlain (s.generate_isPlain name css ts)

/-! ### The data of a theme -/

/-- The data that a request for the theme of a name is answered with: the JSON form of the theme
that is found. -/
def Shows (s : Service) (w : Workspace) (name : String) (theme : Theme) (json : Json) : Prop :=
  (∃ kept found, s.themes.find name w = .ok (some theme, kept) found) ∧
    Json.ofDatum? theme.base.sharing theme.toDatum = .ok json

/-- There is one theme to be shown at most. -/
theorem Shows.unique {theme other : Theme} {json json' : Json} (h : s.Shows w name theme json)
    (h' : s.Shows w name other json') : theme = other ∧ json = json' := by
  obtain ⟨⟨kept, found, hfind⟩, hform⟩ := h
  obtain ⟨⟨kept', found', hfind'⟩, hform'⟩ := h'
  cases hfind.symm.trans hfind'
  cases hform.symm.trans hform'
  exact ⟨rfl, rfl⟩

theorem describe_ends (theme : Theme) (w : Workspace) :
    (describe theme).Ends w
      (fun answer _ => ∃ json, Json.ofDatum? theme.base.sharing theme.toDatum = .ok json ∧
        answer = successAnswer [("theme", json)])
      fun _ _ => ∀ json, Json.ofDatum? theme.base.sharing theme.toDatum ≠ .ok json := by
  unfold describe
  cases hform : Json.ofDatum? theme.base.sharing theme.toDatum with
  | ok json => exact Job.ends_pure ⟨json, rfl, rfl⟩
  | error refusal => exact Job.ends_throw fun _ h => nomatch h

/-- **A request for the data of a theme** is answered with them, or with an error if there are
none. -/
theorem answer_describe_ends (s : Service) (name : String) (w : Workspace) :
    (s.answer (.describe name)).Ends w
      (fun result _ =>
        (∃ theme json, s.Shows w name theme json ∧ result.1 = successAnswer [("theme", json)]) ∨
        (∃ message, result.1 = errorAnswer message) ∧ ∀ theme json, ¬ s.Shows w name theme json)
      fun _ _ => False := by
  by_cases hfound : ∃ theme kept found, s.themes.find name w = .ok (some theme, kept) found
  · obtain ⟨theme, kept, found, hfind⟩ := hfound
    have hanswer : (answering "describe theme" nothingExpected (describe theme)).Ends found _ _ :=
      answering_ends (describe_ends theme found)
    refine (answerFor_ends_of_find hfind hanswer).mono ?_ fun _ _ h => h
    rintro ⟨answer, next⟩ after (⟨json, hform, rfl⟩ | ⟨failure, _, hnone, rfl, -⟩)
    · exact .inl ⟨theme, json, ⟨⟨kept, found, hfind⟩, hform⟩, rfl⟩
    · refine .inr ⟨⟨_, rfl⟩, ?_⟩
      rintro other json ⟨⟨kept', found', hfind'⟩, hform⟩
      cases hfind.symm.trans hfind'
      exact hnone json hform
  · refine (answerFor_ends_of_not_find hfound).mono ?_ fun _ _ h => h
    rintro result after ⟨herror, -⟩
    refine .inr ⟨herror, ?_⟩
    rintro theme json ⟨⟨kept, found, hfind⟩, -⟩
    exact hfound ⟨theme, kept, found, hfind⟩

/-- A request is answered with the data of a theme, and an extra of it has a JSON form that the
standard does not know. -/
def ShowsUnreadable (s : Service) (w : Workspace) (request : Request) : Prop :=
  ∃ name theme json, request = .describe name ∧ s.Shows w name theme json ∧
    ∃ extra ∈ theme.base.mappingExtras, ∃ form,
      Json.ofDatum? theme.base.sharing (.mapping extra.2) = .ok form ∧ form.isStandard = false

theorem Shows.isStandard_eq_false_iff {theme : Theme} {json : Json}
    (h : s.Shows w name theme json) :
    json.isStandard = false ↔ s.ShowsUnreadable w (.describe name) := by
  have hstandard := Theme.isStandard_form_iff h.2
  rw [← Bool.not_eq_true, hstandard]
  constructor
  · intro hnot
    push Not at hnot
    obtain ⟨extra, hextra, form, hform, hfalse⟩ := hnot
    exact ⟨name, theme, json, rfl, h, extra, hextra, form, hform, Bool.not_eq_true _ ▸ hfalse⟩
  · rintro ⟨_, other, json', hname, hshows, extra, hextra, form, hform, hfalse⟩ hall
    cases hname
    obtain ⟨rfl, rfl⟩ := h.unique hshows
    cases hfalse.symm.trans (hall extra hextra form hform)

/-- **What a request is answered with.** -/
theorem answer_isAnswer (s : Service) (request : Request) (w : Workspace) :
    (s.answer request).Ends w
      (fun result _ => IsAnswer result.1 ∧
        (result.1.isStandard = false ↔ s.ShowsUnreadable w request))
      fun _ _ => False := by
  by_cases hdescribe : ∃ name, request = .describe name
  · obtain ⟨name, rfl⟩ := hdescribe
    refine (s.answer_describe_ends name w).mono ?_ fun _ _ h => h
    rintro ⟨answer, next⟩ after (⟨theme, json, hshows, rfl⟩ | ⟨⟨message, rfl⟩, hnone⟩)
    · have hstandard : (successAnswer [("theme", json)]).isStandard = json.isStandard := by
        simp [successAnswer, Json.isStandard, Json.membersAreStandard]
      refine ⟨.inl ⟨_, by simp, rfl⟩, ?_⟩
      rw [hstandard, hshows.isStandard_eq_false_iff]
    · refine ⟨.inr ⟨message, rfl⟩, fun hfalse => ?_, ?_⟩
      · cases hfalse
      · rintro ⟨_, theme, json, hname, hshows, -⟩
        cases hname
        exact absurd hshows (hnone theme json)
  · have hplain : ∀ name, request ≠ .describe name := fun name h => hdescribe ⟨name, h⟩
    refine (s.answer_isPlain hplain w).mono ?_ fun _ _ h => h
    rintro result after ⟨hanswer, hstandard⟩
    refine ⟨hanswer, fun h => ?_, ?_⟩
    · cases hstandard.symm.trans h
    · rintro ⟨name, _, _, rfl, -⟩
      exact absurd rfl (hplain name)

/-- **The text of an answer is read as an answer, or not at all.**  Every request is answered,
whatever is on the disk and whatever the service has seen. What is read of the text is an answer
again, and nothing is read exactly if the text shows an extra of a theme with a number in it that is
infinite or no number. -/
theorem answers_decode (s : Service) (request : Request) (w : Workspace) :
    ∃ answer next after, s.answer request w = .ok (answer, next) after ∧
      (∀ value, Json.read? answer.compact = some value → IsAnswer value) ∧
      (Json.read? answer.compact = none ↔ s.ShowsUnreadable w request) := by
  have hends := s.answer_isAnswer request w
  cases hrun : s.answer request w with
  | error failure after => exact (hends.of_error hrun).elim
  | ok result after =>
      obtain ⟨answer, next⟩ := result
      obtain ⟨hanswer, hstandard⟩ := hends.of_ok hrun
      refine ⟨answer, next, after, rfl, fun value hvalue => ?_, ?_⟩
      · exact hanswer.of_reread? (Json.read?_compact answer ▸ hvalue)
      · rw [← hstandard, ← Json.isSome_reread?, Json.read?_compact, Option.isSome_eq_false_iff,
          Option.isNone_iff_eq_none]

/-- A library of one theme, with an extra that has a number in it that is no number. -/
def unnumbered : Workspace :=
  ⟨⟨.ofList [(["lib"], .folder), (["lib", "odd.yaml"],
    .file (Text.encodeUtf8 "name: odd\nbase:\n  layers:\n    depth: .nan\n"))]⟩, [], []⟩

/-- **An answer may be one that cannot be read.** -/
theorem not_forall_decodes :
    ¬ ∀ (s : Service) (request : Request) (w : Workspace), w.IsSound →
      ∃ answer next after value, s.answer request w = .ok (answer, next) after ∧
        Json.read? answer.compact = some value ∧ IsAnswer value := by
  intro h
  obtain ⟨answer, next, after, value, hanswer, hread, -⟩ :=
    h openService (.describe "odd") unnumbered (by decide +kernel)
  have hrun : (openService.answer (.describe "odd")).passes unnumbered
      (fun result _ => !result.1.isStandard) = true := by decide +kernel
  obtain ⟨⟨answer', next'⟩, after', hanswer', hodd⟩ := Job.exists_of_passes hrun
  cases hanswer.symm.trans hanswer'
  rw [← Json.isSome_reread?, ← Json.read?_compact, hread] at hodd
  cases hodd

end DesignTokens.Service
