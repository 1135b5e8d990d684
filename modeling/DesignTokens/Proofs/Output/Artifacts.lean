import DesignTokens.Proofs.Collection.Stability
import DesignTokens.Proofs.Generator.Undoing
import DesignTokens.Proofs.Service.Answers
import DesignTokens.Proofs.Text.Utf8

/-!
# Runs that succeed

A theme is compiled into two files. This module tells what stands in the two files when a run of the
generator or a request to the service ends with success: the module is in its place, and so is the
stylesheet, unless the module was written to the same place.

## Main Definitions

* `Theme.IsWritten` — what stands in the files of a theme after both were written

## Main Statements

* `Workspace.Puts.then_puts` — two files that are put one after the other
* `Theme.IsWritten.of_puts` — what the two steps leave in the files of a theme
* `Generator.exists_isWritten_of_run`, `Service.exists_isWritten_of_answer` — the same for a run and
  for a request
* `runs_and_answers_write` — both at once
* `Generator.not_forall_css_written` — a run may succeed without its stylesheet

## Design Notes

The two paths are chosen by the caller and completed independently of each other. Nothing compares
the places that they name.
-/

namespace DesignTokens

namespace Workspace

variable {w between after : Workspace} {file other : Path} {content more : List UInt8}

/-- What is read from a file is what stands where its path leads to. -/
theorem readBytes_of_locate {location : Location}
    (hlocate : w.tree.locate w.folder file = .ok location)
    (hentry : w.tree.entry? location = some (.file content)) : w.readBytes file = .ok content :=
  readBytes_of_find (find_eq_ok_iff.mpr ⟨location, hlocate, hentry⟩)

/-- **Two files that are put one after the other.** The second one stands in its place, and so does
the first one unless the places are the same. -/
theorem Puts.then_puts (h : w.Puts file content between) (h' : between.Puts other more after) :
    after.readBytes other = .ok more ∧
      after.readBytes file = .ok
        (if file.resolve w.folder = other.resolve w.folder then more else content) := by
  obtain ⟨hlocate, hentry⟩ := h'.found (.refl after)
  rw [h.sameFolder] at hlocate hentry
  refine ⟨readBytes_of_locate hlocate hentry, ?_⟩
  -- The way to the first file is the same when the second one is put in its place.
  obtain ⟨⟨grown, hgains, -, hplace, htree⟩, hfolder⟩ := h'
  rw [h.sameFolder] at hplace htree
  obtain ⟨hlocateFile, hentryFile⟩ := h.found hgains
  have hsame : after.folder = grown.folder := hfolder.trans hgains.sameFolder.symm
  have hlocateAfter : after.tree.locate after.folder file = .ok (file.resolve w.folder) := by
    rw [htree, hsame]
    exact (locate_written_eq_ok_iff hplace).mpr hlocateFile
  refine readBytes_of_locate hlocateAfter ?_
  rw [htree, FileTree.entry?_put, if_neg h.place_ne_root]
  split
  · rfl
  · exact hentryFile

end Workspace

/-! ### The files of a theme -/

/-- What stands in the files of a theme after both were written. -/
structure Theme.IsWritten (theme : Theme) (css ts : Path) (w after : Workspace) : Prop where
  /-- The module is in its place. -/
  module : ∃ text, theme.tailwindModule? = some text ∧
    after.readBytes (w.fileAt ts) = .ok (Text.encodeUtf8 text)
  /-- The stylesheet is in its place exactly if that is not the place of the module. -/
  stylesheet : ∃ text, theme.css = .ok text ∧
    (after.readBytes (w.fileAt css) = .ok (Text.encodeUtf8 text) ↔ w.placeAt css ≠ w.placeAt ts)

namespace Theme

open Workspace

variable {theme : Theme} {css ts : Path} {w between after : Workspace}

/-- A stylesheet begins with a selector, a module with a comment. -/
theorem css_ne_module {text module : String} (hcss : theme.css = .ok text)
    (hmodule : theme.tailwindModule? = some module) : text ≠ module := by
  obtain ⟨sheet, -, rfl⟩ : ∃ sheet, Stylesheet.ofTheme theme = .ok sheet ∧ sheet.render = text := by
    unfold css at hcss
    cases h : Stylesheet.ofTheme theme with
    | ok sheet => rw [h] at hcss; exact ⟨sheet, rfl, Except.ok.inj hcss⟩
    | error fault => rw [h] at hcss; cases hcss
  obtain ⟨config, -, rfl⟩ := Option.map_eq_some_iff.mp hmodule
  intro heq
  have hhead := congrArg (fun text => text.toList.head?) heq
  simp [Stylesheet.render, Stylesheet.renderBlock, TailwindConfig.moduleText,
    TailwindConfig.moduleHeader] at hhead

theorem IsWritten.of_sameDisk (hsame : w.SameDisk between)
    (h : theme.IsWritten css ts between after) : theme.IsWritten css ts w after := by
  obtain ⟨hmodule, hstylesheet⟩ := h
  simp only [placeAt, fileAt_congr hsame.folder, hsame.folder] at hmodule hstylesheet
  exact ⟨hmodule, hstylesheet⟩

/-- **Both texts were put in their places**, the stylesheet first. -/
theorem IsWritten.of_puts {text module : String} (hcss : theme.css = .ok text)
    (hmodule : theme.tailwindModule? = some module)
    (h : w.Puts (w.fileAt css) (Text.encodeUtf8 text) between)
    (h' : between.Puts (between.fileAt ts) (Text.encodeUtf8 module) after) :
    theme.IsWritten css ts w after := by
  rw [fileAt_congr h.sameFolder] at h'
  obtain ⟨hreadModule, hreadText⟩ := h.then_puts h'
  refine ⟨⟨module, hmodule, hreadModule⟩, text, hcss, ?_⟩
  rw [hreadText]
  show _ ↔ ¬ (w.fileAt css).resolve w.folder = (w.fileAt ts).resolve w.folder
  split
  · next hsame =>
      refine iff_of_false (fun heq => ?_) (fun hne => hne hsame)
      have hdecoded := congrArg Text.decodeUtf8? (Except.ok.inj heq)
      rw [Text.decodeUtf8?_encodeUtf8, Text.decodeUtf8?_encodeUtf8] at hdecoded
      exact css_ne_module hcss hmodule (Option.some.inj hdecoded).symm
  · next hne => exact iff_of_true rfl hne

end Theme

/-! ### Runs and requests -/

namespace Generator

open Workspace

/-- **A run that succeeds** has loaded a theme and written both of its files. -/
theorem exists_isWritten_of_run {settings : GeneratorSettings} {w after : Workspace}
    (hcheck : settings.check = false) (hrun : run settings w = .ok 0 after) :
    ∃ theme loaded, loadTheme settings.theme settings.themesFolder w = .ok theme loaded ∧
      theme.IsWritten (.ofText settings.css) (.ofText settings.ts) w after := by
  have hperform : (perform settings).Ends w
      (fun _ after => ∃ theme loaded,
        loadTheme settings.theme settings.themesFolder w = .ok theme loaded ∧
          theme.IsWritten (.ofText settings.css) (.ofText settings.ts) w after)
      fun _ _ => True := by
    rw [perform_eq hcheck]
    refine ((writeFirst_ends settings w).mono_bad fun _ _ _ => trivial).bind ?_
    rintro ⟨theme, file⟩ between ⟨⟨loaded, hload⟩, rfl, text, hcss, hputs⟩
    refine ((writeSecond_ends hputs).mono_bad fun _ _ _ => trivial).bind ?_
    rintro _ last ⟨module, hmodule, hputsModule⟩
    refine Job.ends_record_bind (Job.ends_pure ⟨theme, loaded, hload, ?_⟩)
    have hwritten : theme.IsWritten (.ofText settings.css) (.ofText settings.ts) w last :=
      .of_puts hcss hmodule hputs hputsModule
    exact ⟨hwritten.module, hwritten.stylesheet⟩
  have hends : (run settings).Ends w
      (fun status after => status = 0 → ∃ theme loaded,
        loadTheme settings.theme settings.themesFolder w = .ok theme loaded ∧
          theme.IsWritten (.ofText settings.css) (.ofText settings.ts) w after)
      fun _ _ => True := by
    unfold run
    refine (Job.attempt_ends hperform).bind ?_
    rintro result last ⟨hok, -⟩
    cases result with
    | ok status => exact Job.ends_pure fun _ => hok status rfl
    | error failure =>
        dsimp only
        split
        · exact Job.ends_record_bind (Job.ends_pure fun hzero => nomatch hzero)
        · exact Job.ends_throw trivial
  exact hends.of_ok hrun rfl

end Generator

namespace Service

open Workspace

/-- The path of the stylesheet that a request asks for. -/
def cssPath (s : Service) (name : String) (css : Option String) : Path :=
  s.output.join (.ofText (given css (name ++ ".css")))

/-- The path of the module that a request asks for. -/
def tsPath (s : Service) (name : String) (ts : Option String) : Path :=
  s.output.join (.ofText (given ts (name ++ "-tailwind.ts")))

/-- The files of a theme are written to the output folder, and their paths are answered. -/
theorem generate_ends (s : Service) (name : String) (css ts : Option String) (theme : Theme)
    (w : Workspace) :
    (s.generate name css ts theme).Ends w
      (fun answer after => theme.IsWritten (s.cssPath name css) (s.tsPath name ts) w after ∧
        answer = successAnswer [("css_path", .string (w.fileAt (s.cssPath name css)).text),
          ("ts_path", .string (w.fileAt (s.tsPath name ts)).text)])
      fun _ _ => True := by
  unfold generate
  refine ((Generator.writeStylesheet_ends theme (s.cssPath name css) w).mono_bad
    fun _ _ _ => trivial).bind ?_
  rintro _ between ⟨rfl, text, hcss, hputs⟩
  refine ((Generator.writeModule_ends theme (s.tsPath name ts) between).mono_bad
    fun _ _ _ => trivial).bind ?_
  rintro _ after ⟨rfl, module, hmodule, hputsModule⟩
  refine Job.ends_pure ⟨.of_puts hcss hmodule hputs hputsModule, ?_⟩
  rw [fileAt_congr hputs.sameFolder (s.tsPath name ts)]

/-- **A request that is answered with success** has found a theme and written both of its files. -/
theorem exists_isWritten_of_answer {s next : Service} {name : String} {css ts : Option String}
    {w after : Workspace} {members : List (String × Json)}
    (hanswer : s.answer (.generate name css ts) w = .ok (successAnswer members, next) after) :
    ∃ theme kept found, s.themes.find name w = .ok (some theme, kept) found ∧
      theme.IsWritten (s.cssPath name css) (s.tsPath name ts) w after ∧
      members = [("css_path", .string (w.fileAt (s.cssPath name css)).text),
        ("ts_path", .string (w.fileAt (s.tsPath name ts)).text)] := by
  -- The paths are the same after the look-up, as it changes the log at most.
  have hmade : ∀ theme kept found, s.themes.find name w = .ok (some theme, kept) found →
      w.SameDisk found → (s.generate name css ts theme).Ends found
        (fun answer after => theme.IsWritten (s.cssPath name css) (s.tsPath name ts) w after ∧
          answer = successAnswer [("css_path", .string (w.fileAt (s.cssPath name css)).text),
            ("ts_path", .string (w.fileAt (s.tsPath name ts)).text)])
        fun _ _ => True := by
    intro theme kept found _ hsame
    refine (generate_ends s name css ts theme found).mono ?_ fun _ _ h => h
    rintro answer after ⟨hwritten, hanswer⟩
    rw [fileAt_congr hsame.folder, fileAt_congr hsame.folder] at hanswer
    exact ⟨hwritten.of_sameDisk hsame, hanswer⟩
  rcases ((answerFor_ends hmade).of_ok hanswer).2 with
    ⟨theme, kept, found, hfind, hwritten, hmembers⟩ | ⟨⟨message, herror⟩, -⟩
  · exact ⟨theme, kept, found, hfind, hwritten, by simpa [successAnswer] using hmembers⟩
  · exact absurd herror (successAnswer_ne_errorAnswer members message)

end Service

/-- **Success means that both files were written.**  After a run of the generator that writes files
and ends with the status 0, and after a request for the generated files that is answered with
success, the module of the theme that was found is in its place, to the byte; and so is its
stylesheet, exactly if the two paths do not name the same place. The paths are those of the
settings, or those that the request gives or leaves to the name of the theme, read from the output
folder. -/
theorem runs_and_answers_write (w after : Workspace) :
    (∀ settings : GeneratorSettings, settings.check = false →
      Generator.run settings w = .ok 0 after →
        ∃ theme loaded, Generator.loadTheme settings.theme settings.themesFolder w =
            .ok theme loaded ∧
          theme.IsWritten (.ofText settings.css) (.ofText settings.ts) w after) ∧
    ∀ (s next : Service) (name : String) (css ts : Option String)
      (members : List (String × Json)),
      s.answer (.generate name css ts) w = .ok (successAnswer members, next) after →
        ∃ theme kept found, s.themes.find name w = .ok (some theme, kept) found ∧
          theme.IsWritten (s.cssPath name css) (s.tsPath name ts) w after ∧
          members = [("css_path", .string (w.fileAt (s.cssPath name css)).text),
            ("ts_path", .string (w.fileAt (s.tsPath name ts)).text)] :=
  ⟨fun _ => Generator.exists_isWritten_of_run, fun _ _ _ _ _ _ =>
    Service.exists_isWritten_of_answer⟩

/-- A workspace with a theme file alone. -/
def plainFile : Workspace :=
  ⟨⟨.ofList [(["plain.yaml"], .file (Text.encodeUtf8 "name: plain\n"))]⟩, [], []⟩

/-- A service whose library is the working folder. -/
def plainService : Service :=
  ⟨.make (some ⟨.relative, []⟩) none, ⟨.relative, ["out"]⟩⟩

/-- Whether an answer tells of success. -/
def isSuccess : Json → Bool
  | .object (("status", .string "success") :: _) => true
  | _ => false

theorem exists_of_isSuccess {answer : Json} (h : isSuccess answer = true) :
    ∃ members, answer = successAnswer members := by
  unfold isSuccess at h
  split at h
  · next members => exact ⟨members, rfl⟩
  · cases h

theorem runs_and_answers_write_plainFile :
    (∃ (theme : Theme) (after : Workspace),
      Generator.run Generator.plainSettings plainFile = .ok 0 after ∧
      theme.IsWritten (.ofText "./styles/theme.css") (.ofText "./lib/generated/tailwind-theme.ts")
        plainFile after) ∧
    ∃ (theme : Theme) (answer : Json) (next : Service) (after : Workspace),
      plainService.answer (.generate "plain" none none) plainFile = .ok (answer, next) after ∧
        theme.IsWritten ⟨.relative, ["out", "plain.css"]⟩ ⟨.relative, ["out", "plain-tailwind.ts"]⟩
          plainFile after := by
  have hrun : (Generator.run Generator.plainSettings).passes plainFile fun status _ =>
      decide (status = 0) := by decide +kernel
  have hanswer : (plainService.answer (.generate "plain" none none)).passes plainFile
      fun result _ => isSuccess result.1 := by decide +kernel
  constructor
  · obtain ⟨status, after, hstatus, hzero⟩ := Job.exists_of_passes hrun
    obtain rfl := of_decide_eq_true hzero
    obtain ⟨theme, -, -, hwritten⟩ := (runs_and_answers_write _ _).1 _ rfl hstatus
    exact ⟨theme, after, hstatus, hwritten⟩
  · obtain ⟨⟨answer, next⟩, after, hgenerate, hsuccess⟩ := Job.exists_of_passes hanswer
    obtain ⟨members, rfl⟩ := exists_of_isSuccess hsuccess
    obtain ⟨theme, -, -, -, hwritten, -⟩ :=
      (runs_and_answers_write _ _).2 _ _ _ _ _ _ hgenerate
    exact ⟨theme, _, next, after, hgenerate, hwritten⟩

/-- **A run may succeed without its stylesheet**: the module is written over it if both are to have
the same path. -/
theorem Generator.not_forall_css_written :
    ¬ ∀ (words : List String) (settings : GeneratorSettings) (w after : Workspace),
      GeneratorSettings.parse words = .ok settings → settings.check = false → w.IsSound →
        Generator.run settings w = .ok 0 after →
          ∃ theme loaded text, Generator.loadTheme settings.theme settings.themesFolder w =
              .ok theme loaded ∧ theme.css = .ok text ∧
            after.readBytes (w.fileAt (.ofText settings.css)) = .ok (Text.encodeUtf8 text) := by
  intro h
  have hwords : GeneratorSettings.parse ["--theme", "plain.yaml", "--css", "out", "--ts", "out"] =
      .ok { Generator.plainSettings with css := "out", ts := "out" } := by decide +kernel
  have hrun : (Generator.run { Generator.plainSettings with css := "out", ts := "out" }).passes
      plainFile fun status _ => decide (status = 0) := by decide +kernel
  obtain ⟨status, after, hstatus, hzero⟩ := Job.exists_of_passes hrun
  obtain rfl := of_decide_eq_true hzero
  obtain ⟨theme, loaded, text, hload, hcss, hread⟩ :=
    h _ _ plainFile after hwords rfl (by decide +kernel) hstatus
  obtain ⟨other, loaded', hload', hwritten⟩ := Generator.exists_isWritten_of_run rfl hstatus
  cases hload.symm.trans hload'
  obtain ⟨text', hcss', hplaces⟩ := hwritten.stylesheet
  cases hcss.symm.trans hcss'
  exact hplaces.mp hread rfl

end DesignTokens
