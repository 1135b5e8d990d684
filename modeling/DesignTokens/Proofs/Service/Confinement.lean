import DesignTokens.Proofs.Disk.Descent
import DesignTokens.Proofs.Output.Artifacts
import DesignTokens.Proofs.Workspace.Changes

/-!
# Where a service writes

A service writes generated files to its output folder and copies of library themes to its project
folder. The names of these files are given by those who ask. This module tells which places on the
disk a run of requests may change, for any names, and that the names of a certain form keep the
changes inside the two folders.

## Main Definitions

* `Service.answerAll` — the answers to requests, one after the other
* `Service.WritesAt`, `Service.OpensAt` — where a request may put a file, and where it may make a
  folder
* `Request.isInner` — the names in a request lead to files inside the folders
* `Service.Holds`, `Service.LeadsToFolders` — inside the two folders, and on the way to them

## Main Statements

* `Service.answer_ends` — the step: what one request may change
* `Service.answerAll_ends` — the run: what requests may change one after the other
* `Service.writesAt_of_isInner`, `Service.opensAt_of_isInner` — where inner names lead
* `Request.isInner_of_notMem` — names of files are inner
* `Service.changes_confined` — requests never fail, change the disk where their names lead, and stay
  inside the two folders if their names do
* `Service.not_forall_confined` — the names in a request may lead outside

## Design Notes

Names are joined to a folder and followed upwards where they say so; nothing checks where they end.
-/

namespace DesignTokens

open Workspace

namespace Collection

variable {c : Collection} {w : Workspace} {name : String}

/-- **A copy** makes the project folder and the folders around it, and puts a file where the name
leads, at most. -/
theorem copyToProject_changes (c : Collection) (name : String) (w : Workspace)
    {folders files : Location → Prop}
    (hfolders : ∀ folder, c.project = some folder → ∀ location,
      folder.LeadsThrough w.folder location → folders location)
    (hfiles : ∀ folder, c.project = some folder → files ((fileIn folder name).resolve w.folder)) :
    (c.copyToProject name).Ends w
      (fun result after => w.Changes folders files after ∧ c.SamePlaces result.2)
      fun _ after => w.Changes folders files after := by
  unfold copyToProject
  refine ((projectFolder_ends c w).mono_bad fun _ _ h => h ▸ .refl _).bind ?_
  rintro folder _ ⟨rfl, hproject⟩
  refine (Job.look_changes _ _).bind_ends fun found start hstart => ?_
  split
  · refine Job.ChangesOnly.bind_ends ((Job.makeFolders_changes folder start).mono ?_ fun _ h => h)
      fun _ made hmade => ?_
    · exact hstart ▸ hfolders folder hproject
    refine (Job.look_changes _ made).bind_ends fun copy looked hlooked => ?_
    split
    · exact Job.ends_throw (.refl looked)
    · refine Job.ends_get_bind ?_
      refine (Job.ofExcept_changes _ looked).bind_ends fun text read hread => ?_
      have hplace : files ((fileIn folder name).resolve read.folder) := by
        rw [hread, hlooked, hmade, hstart]
        exact hfiles folder hproject
      refine (Job.writeFile_changes _ text read hplace).bind_ends fun _ written _ => ?_
      exact Job.ends_pure ⟨.refl written, rfl, rfl⟩
  · exact Job.ends_pure ⟨.refl start, .refl c⟩

end Collection

/-! ### Files of a theme -/

namespace Theme

variable {folders files : Location → Prop}

theorem writeStylesheet_changes (theme : Theme) (path : Path) (w : Workspace) :
    (theme.writeStylesheet none path).ChangesOnly
      ((w.fileAt path).parent.LeadsThrough w.folder) (· = w.placeAt path) w := by
  exact Job.writeMade_changes (Job.ofExcept_changes _ w) path
    fun file => "Generated CSS variables at " ++ file.text

theorem writeModule_changes (theme : Theme) (path : Path) (w : Workspace) :
    (theme.writeModule none path).ChangesOnly
      ((w.fileAt path).parent.LeadsThrough w.folder) (· = w.placeAt path) w := by
  exact Job.writeMade_changes (Job.ofOption_changes _ _ w) path
    fun file => "Generated Tailwind config at " ++ file.text

end Theme

/-! ### One request -/

namespace Service

/-- The answers to requests, one after the other, and the service with what it has seen. -/
def answerAll (s : Service) : List Request → Job (List Json × Service)
  | [] => pure ([], s)
  | request :: rest => do
    let (answer, next) ← s.answer request
    let (answers, last) ← next.answerAll rest
    pure (answer :: answers, last)

/-- Where a request may put a file. -/
def WritesAt (s : Service) (w : Workspace) (request : Request) (location : Location) : Prop :=
  match request with
  | .generate name css ts =>
    location = w.placeAt (s.cssPath name css) ∨ location = w.placeAt (s.tsPath name ts)
  | .copy name =>
    ∃ folder, s.themes.project = some folder ∧
      location = (Collection.fileIn folder name).resolve w.folder
  | _ => False

/-- Where a request may make a folder. -/
def OpensAt (s : Service) (w : Workspace) (request : Request) (location : Location) : Prop :=
  match request with
  | .generate name css ts =>
    (w.fileAt (s.cssPath name css)).parent.LeadsThrough w.folder location ∨
      (w.fileAt (s.tsPath name ts)).parent.LeadsThrough w.folder location
  | .copy _ => ∃ folder, s.themes.project = some folder ∧ folder.LeadsThrough w.folder location
  | _ => False

variable {s next : Service} {w between : Workspace} {request : Request} {location : Location}
  {folders files : Location → Prop}

/-- Where a request may write depends on the folders of the service and on the working folder. -/
theorem SameFolders.writesAt_eq (h : s.SameFolders next) (hfolder : between.folder = w.folder) :
    next.WritesAt between request location = s.WritesAt w request location := by
  unfold WritesAt cssPath tsPath placeAt fileAt
  rw [h.output, h.themes.project, hfolder]

theorem SameFolders.opensAt_eq (h : s.SameFolders next) (hfolder : between.folder = w.folder) :
    next.OpensAt between request location = s.OpensAt w request location := by
  unfold OpensAt cssPath tsPath fileAt
  rw [h.output, h.themes.project, hfolder]

/-- A job whose failures are answers changes the disk as the job does. -/
theorem answering_changes {attempted : String} {expected : Failure → Bool} {job : Job Json}
    (h : job.ChangesOnly folders files w) :
    (answering attempted expected job).Ends w (fun _ after => w.Changes folders files after)
      fun _ _ => False := by
  refine (answering_ends h).mono ?_ fun _ _ h => h
  rintro answer after (hafter | ⟨failure, last, hlast, -, hsame⟩)
  · exact hafter
  · exact hlast.trans (.of_sameDisk hsame)

/-- A request about the theme of a name changes the disk as what is made of the theme does. -/
theorem answerFor_changes {name attempted : String} {expected : Failure → Bool}
    {make : Theme → Job Json}
    (hmake : ∀ theme found, found.folder = w.folder →
      (make theme).ChangesOnly folders files found) :
    (s.answerFor name attempted expected make).Ends w
      (fun result after => w.Changes folders files after ∧ s.SameFolders result.2)
      fun _ _ => False := by
  have hmade : ∀ theme kept found, s.themes.find name w = .ok (some theme, kept) found →
      w.SameDisk found → (make theme).Ends found (fun _ after => w.Changes folders files after)
        fun _ after => w.Changes folders files after := by
    intro theme kept found _ hsame
    have hstart : w.Changes folders files found := .of_sameDisk hsame
    exact Job.Ends.mono (hmake theme found hsame.folder) (fun _ _ h => hstart.trans h)
      fun _ _ h => hstart.trans h
  refine (answerFor_ends hmade).mono ?_ fun _ _ h => h
  rintro result after ⟨hfolders, h⟩
  refine ⟨?_, hfolders⟩
  rcases h with ⟨_, _, _, -, hafter⟩ | ⟨-, hsame | ⟨failure, last, hlast, hsame⟩⟩
  · exact hafter
  · exact .of_sameDisk hsame
  · exact hlast.trans (.of_sameDisk hsame)

/-- What is made of a theme without the disk. -/
theorem answerFor_sameDisk {name attempted : String} {expected : Failure → Bool}
    {make : Theme → Job Json}
    (hmake : ∀ theme found, (make theme).ChangesOnly folders files found) :
    (s.answerFor name attempted expected make).Ends w
      (fun result after => w.Changes folders files after ∧ s.SameFolders result.2)
      fun _ _ => False :=
  answerFor_changes fun theme found _ => hmake theme found

theorem answerCopy_ends (s : Service) (name : String) (w : Workspace) :
    (s.answerCopy name).Ends w
      (fun result after => w.Changes (s.OpensAt w (.copy name)) (s.WritesAt w (.copy name)) after ∧
        s.SameFolders result.2)
      fun _ _ => False := by
  have hcopy : (s.themes.copyToProject name).Ends w
      (fun result after => w.Changes (s.OpensAt w (.copy name)) (s.WritesAt w (.copy name)) after ∧
        s.themes.SamePlaces result.2)
      fun _ after => w.Changes (s.OpensAt w (.copy name)) (s.WritesAt w (.copy name)) after :=
    s.themes.copyToProject_changes name w
      (fun folder hproject location hleads => ⟨folder, hproject, hleads⟩)
      fun folder hproject => ⟨folder, hproject, rfl⟩
  unfold answerCopy
  refine (Job.attempt_ends hcopy).bind ?_
  rintro result between ⟨hok, hbad⟩
  match result with
  | .error failure =>
      refine (answerFailure_ends failure between).bind fun answer after ⟨_, hafter⟩ => ?_
      exact Job.ends_pure ⟨(hbad failure rfl).trans (.of_sameDisk hafter), .refl s⟩
  | .ok (none, themes) =>
      obtain ⟨hchanges, hplaces⟩ := hok _ rfl
      exact Job.ends_pure ⟨hchanges, hplaces, rfl⟩
  | .ok (some path, themes) =>
      obtain ⟨hchanges, hplaces⟩ := hok _ rfl
      exact Job.ends_pure ⟨hchanges, hplaces, rfl⟩

theorem generate_changes (s : Service) (name : String) (css ts : Option String) (theme : Theme)
    (hfolder : between.folder = w.folder) :
    (s.generate name css ts theme).ChangesOnly (s.OpensAt w (.generate name css ts))
      (s.WritesAt w (.generate name css ts)) between := by
  unfold generate
  refine Job.ChangesOnly.bind ((theme.writeStylesheet_changes (s.cssPath name css) between).mono
    ?_ ?_) fun _ start hstart => ?_
  · rw [fileAt, hfolder]
    exact fun _ => .inl
  · rw [placeAt, fileAt, hfolder]
    exact fun _ => .inl
  refine Job.ChangesOnly.bind ((theme.writeModule_changes (s.tsPath name ts) start).mono ?_ ?_)
    fun _ last _ => .pure _
  · rw [fileAt, hstart, hfolder]
    exact fun _ => .inr
  · rw [placeAt, fileAt, hstart, hfolder]
    exact fun _ => .inr

/-- **The step.**  A request is answered, whatever happens, and changes the disk at its places at
most. -/
theorem answer_ends (s : Service) (request : Request) (w : Workspace) :
    (s.answer request).Ends w
      (fun result after => w.Changes (s.OpensAt w request) (s.WritesAt w request) after ∧
        s.SameFolders result.2)
      fun _ _ => False := by
  cases request with
  | list =>
      have hlist : s.listThemes.ChangesOnly (s.OpensAt w .list) (s.WritesAt w .list) w :=
        (Job.ChangesOnly.of_sameDisk (s.themes.list_ends w)).bind fun _ _ _ => .pure _
      exact (answering_changes hlist).bind fun _ after h => Job.ends_pure ⟨h, .refl s⟩
  | describe name =>
      exact answerFor_sameDisk fun _ found =>
        (Job.ofExcept_changes _ found).bind fun _ _ _ => .pure _
  | copy name => exact s.answerCopy_ends name w
  | parse value => exact Job.ends_pure ⟨.refl w, .refl s⟩
  | validate name => exact answerFor_sameDisk fun _ _ => .pure _
  | stylesheet name =>
      exact answerFor_sameDisk fun _ found =>
        (Job.ofExcept_changes _ found).bind fun _ _ _ => .pure _
  | tailwind name =>
      exact answerFor_sameDisk fun _ found =>
        (Job.ofOption_changes _ _ found).bind fun _ _ _ => .pure _
  | generate name css ts =>
      exact answerFor_changes fun theme _ hfolder => s.generate_changes name css ts theme hfolder

/-! ### A run of requests -/

/-- **The run.**  All requests are answered, and the disk is changed at their places at most. -/
theorem answerAll_ends (s : Service) (requests : List Request) (w : Workspace) :
    (s.answerAll requests).Ends w
      (fun result after => result.1.length = requests.length ∧
        w.Changes (fun location => ∃ request ∈ requests, s.OpensAt w request location)
          (fun location => ∃ request ∈ requests, s.WritesAt w request location) after)
      fun _ _ => False := by
  -- The places are those of the service and the workspace at the start, as the folders stay.
  induction requests generalizing s w with
  | nil => exact Job.ends_pure ⟨rfl, .refl w⟩
  | cons request rest ih =>
      unfold answerAll
      refine (s.answer_ends request w).bind fun result between ⟨hfirst, hplaces⟩ => ?_
      refine (ih result.2 between).bind fun more after ⟨hlength, hrest⟩ => ?_
      refine Job.ends_pure ⟨by simp [hlength], ?_⟩
      simp only [hplaces.opensAt_eq hfirst.sameFolder, hplaces.writesAt_eq hfirst.sameFolder]
        at hrest
      refine (hfirst.mono ?_ ?_).trans (hrest.mono ?_ ?_)
      · exact fun _ h => ⟨request, List.mem_cons_self, h⟩
      · exact fun _ h => ⟨request, List.mem_cons_self, h⟩
      · exact fun _ ⟨other, hother, h⟩ => ⟨other, List.mem_cons_of_mem _ hother, h⟩
      · exact fun _ ⟨other, hother, h⟩ => ⟨other, List.mem_cons_of_mem _ hother, h⟩

end Service

/-! ### Inner names -/

/-- The names in a request lead to files inside the folders that they are read from. -/
def Request.isInner : Request → Bool
  | .generate name css ts =>
    (Path.ofText (Service.given css (name ++ ".css"))).isInner &&
      (Path.ofText (Service.given ts (name ++ "-tailwind.ts"))).isInner
  | .copy name => (Path.ofText (name ++ Collection.ending)).isInner
  | _ => true

/-- A single name that does not name a folder by dots is inner. -/
theorem Path.isInner_ofText {text : String} (hslash : '/' ∉ text.toList) (hempty : text ≠ "")
    (hdot : text ≠ ".") (hup : text ≠ upward) : (Path.ofText text).isInner = true := by
  rw [Collection.ofText_of_notMem hslash hempty hdot]
  simp [isInner, descend, hup]

/-- A name with an ending is inner, unless it parts folders. -/
theorem Path.isInner_ofText_append {name ending : String} (hname : '/' ∉ name.toList)
    (hending : '/' ∉ ending.toList) (hlong : 2 < ending.toList.length) :
    (Path.ofText (name ++ ending)).isInner = true := by
  have hlength : ∀ text : String, text.toList.length ≤ 2 → name ++ ending ≠ text := by
    rintro text htext rfl
    rw [String.toList_append, List.length_append] at htext
    omega
  refine isInner_ofText ?_ (hlength "" (by decide)) (hlength "." (by decide))
    (hlength upward (by decide))
  rw [String.toList_append, List.mem_append, not_or]
  exact ⟨hname, hending⟩

/-- **Names of files are inner**: those that part no folders and do not name a folder by dots. -/
theorem Request.isInner_of_notMem {name : String} (hname : '/' ∉ name.toList) :
    (copy name).isInner = true ∧ ∀ css ts : Option String,
      (∀ text, css = some text ∨ ts = some text →
        '/' ∉ text.toList ∧ text ≠ "." ∧ text ≠ upward) →
      (generate name css ts).isInner = true := by
  have hgiven : ∀ (given : Option String) (ending : String), '/' ∉ ending.toList →
      2 < ending.toList.length →
      (∀ text, given = some text → '/' ∉ text.toList ∧ text ≠ "." ∧ text ≠ upward) →
      (Path.ofText (Service.given given (name ++ ending))).isInner = true := by
    intro given ending hending hlong htext
    unfold Service.given
    split
    · exact Path.isInner_ofText_append hname hending hlong
    · exact Path.isInner_ofText_append hname hending hlong
    · next text hne =>
        obtain ⟨hslash, hdot, hup⟩ := htext text rfl
        exact Path.isInner_ofText hslash (fun hempty => hne (hempty ▸ rfl)) hdot hup
  refine ⟨Path.isInner_ofText_append hname (by decide) (by decide), fun css ts htexts => ?_⟩
  refine Bool.and_eq_true_iff.mpr ⟨?_, ?_⟩
  · exact hgiven css ".css" (by decide) (by decide) fun text h => htexts text (.inl h)
  · exact hgiven ts "-tailwind.ts" (by decide) (by decide) fun text h => htexts text (.inr h)

namespace Service

variable {s : Service} {w : Workspace} {request : Request} {location : Location}

/-- Inside the output folder or the project folder. -/
def Holds (s : Service) (w : Workspace) (location : Location) : Prop :=
  ∃ inner : Location, inner ≠ [] ∧ (location = w.placeAt s.output ++ inner ∨
    ∃ folder, s.themes.project = some folder ∧ location = folder.resolve w.folder ++ inner)

/-- On the way to the output folder or the project folder. -/
def LeadsToFolders (s : Service) (w : Workspace) (location : Location) : Prop :=
  (w.fileAt s.output).LeadsThrough w.folder location ∨
    ∃ folder, s.themes.project = some folder ∧ folder.LeadsThrough w.folder location

/-- A place inside the output folder, by the names that lead there from the folder. -/
theorem resolve_fileAt_append (w : Workspace) (output : Path) {inner : Location}
    (h : upward ∉ inner) :
    Path.resolve w.folder (.ofLocation (output.resolve w.folder ++ inner)) =
      w.placeAt output ++ inner := by
  show List.foldl Path.stepTo [] (output.resolve w.folder ++ inner) = _
  rw [List.foldl_append, Path.foldl_stepTo_of_notMem h]
  rfl

/-- A file of an inner path stands inside the output folder. -/
theorem exists_placeAt_eq {path : Path} (h : path.isInner = true) (w : Workspace)
    (output : Path) :
    ∃ inner : Location, inner ≠ [] ∧ w.placeAt (output.join path) = w.placeAt output ++ inner := by
  obtain ⟨inner, hne, hdown, hplace⟩ := Path.exists_of_isInner h
  refine ⟨inner, hne, ?_⟩
  rw [placeAt, fileAt, hplace, resolve_fileAt_append w output hdown]

/-- The way to a file of an inner path leads to the output folder, and then goes on inside. -/
theorem leadsThrough_or_of_isInner {path output : Path} (h : path.isInner = true)
    (hleads : (w.fileAt (output.join path)).parent.LeadsThrough w.folder location) :
    (w.fileAt output).LeadsThrough w.folder location ∨
      ∃ inner : Location, inner ≠ [] ∧ location = w.placeAt output ++ inner := by
  obtain ⟨inner, hne, hdown, hplace⟩ := Path.exists_of_isInner h
  obtain ⟨count, rfl⟩ := hleads
  have hnames : (w.fileAt (output.join path)).parent.names =
      output.resolve w.folder ++ inner.dropLast := by
    rw [fileAt, hplace]
    exact List.dropLast_append_of_ne_nil hne
  rw [hnames, List.take_append]
  by_cases hrest : inner.dropLast.take (count - (output.resolve w.folder).length) = []
  · rw [hrest, List.append_nil]
    exact .inl ⟨count, rfl⟩
  · have hlong : (output.resolve w.folder).length ≤ count := by
      by_contra hshort
      rw [Nat.sub_eq_zero_of_le (Nat.le_of_not_le hshort), List.take_zero] at hrest
      exact hrest rfl
    refine .inr ⟨_, hrest, ?_⟩
    rw [List.take_of_length_le hlong]
    refine resolve_fileAt_append w output fun hmem => hdown ?_
    exact List.mem_of_mem_dropLast (List.mem_of_mem_take hmem)

/-- **Inner names lead to files inside the two folders.** -/
theorem writesAt_of_isInner (h : request.isInner = true) (hwrites : s.WritesAt w request location) :
    s.Holds w location := by
  cases request with
  | generate name css ts =>
      obtain ⟨hcss, hts⟩ := Bool.and_eq_true_iff.mp h
      rcases hwrites with rfl | rfl
      · obtain ⟨inner, hne, hplace⟩ := exists_placeAt_eq hcss w s.output
        exact ⟨inner, hne, .inl hplace⟩
      · obtain ⟨inner, hne, hplace⟩ := exists_placeAt_eq hts w s.output
        exact ⟨inner, hne, .inl hplace⟩
  | copy name =>
      obtain ⟨folder, hproject, rfl⟩ := hwrites
      obtain ⟨inner, hne, -, hplace⟩ := Path.exists_of_isInner h
      exact ⟨inner, hne, .inr ⟨folder, hproject, hplace folder w.folder⟩⟩
  | _ => exact hwrites.elim

/-- **Inner names need no folders but those inside the two folders** and on the way to them. -/
theorem opensAt_of_isInner (h : request.isInner = true) (hopens : s.OpensAt w request location) :
    s.Holds w location ∨ s.LeadsToFolders w location := by
  cases request with
  | generate name css ts =>
      obtain ⟨hcss, hts⟩ := Bool.and_eq_true_iff.mp h
      have hinside : ∀ {path : Path}, path.isInner = true →
          (w.fileAt (s.output.join path)).parent.LeadsThrough w.folder location →
            s.Holds w location ∨ s.LeadsToFolders w location := by
        intro path hpath hleads
        rcases leadsThrough_or_of_isInner hpath hleads with hway | ⟨inner, hne, hplace⟩
        · exact .inr (.inl hway)
        · exact .inl ⟨inner, hne, .inl hplace⟩
      exact hopens.elim (hinside hcss) (hinside hts)
  | copy name => exact .inr (.inr hopens)
  | _ => exact hopens.elim

/-- **Where requests change the disk.**  All requests are answered. A place that is not as it was is
where the names in one of them lead, with a file there and no folder before, or it is on the way
there, with a folder there and nothing before. If the names in all requests are inner, the place is
inside the output folder or the project folder, or is a new folder on the way to them. -/
theorem changes_confined (s : Service) (requests : List Request) (w : Workspace) :
    ∃ answers last after, s.answerAll requests w = .ok (answers, last) after ∧
      answers.length = requests.length ∧
      (∀ location, after.tree.entry? location ≠ w.tree.entry? location →
        ((∃ request ∈ requests, s.WritesAt w request location) ∧
          w.tree.entry? location ≠ some .folder ∧
          ∃ content, after.tree.entry? location = some (.file content)) ∨
        ((∃ request ∈ requests, s.OpensAt w request location) ∧
          w.tree.entry? location = none ∧ after.tree.entry? location = some .folder)) ∧
      ((∀ request ∈ requests, request.isInner = true) →
        ∀ location, after.tree.entry? location ≠ w.tree.entry? location →
          s.Holds w location ∨ (s.LeadsToFolders w location ∧
            w.tree.entry? location = none ∧ after.tree.entry? location = some .folder)) := by
  have hends := s.answerAll_ends requests w
  cases hrun : s.answerAll requests w with
  | error failure after => exact (hends.of_error hrun).elim
  | ok result after =>
      obtain ⟨answers, last⟩ := result
      obtain ⟨hlength, hchanges⟩ := hends.of_ok hrun
      refine ⟨answers, last, after, rfl, hlength, fun location hne => ?_,
        fun hinner location hne => ?_⟩
      · rcases hchanges.changed location with hsame | hfolder | hfile
        · exact absurd hsame hne
        · exact .inr hfolder
        · exact .inl hfile
      · rcases hchanges.changed location with hsame | ⟨⟨request, hmem, hopens⟩, hfolder⟩ |
          ⟨⟨request, hmem, hwrites⟩, -⟩
        · exact absurd hsame hne
        · exact (opensAt_of_isInner (hinner request hmem) hopens).imp_right fun h => ⟨h, hfolder⟩
        · exact .inl (writesAt_of_isInner (hinner request hmem) hwrites)

/-- Whether a file stands in a place. -/
def hasFileAt (location : Location) (w : Workspace) : Bool :=
  match w.tree.entry? location with
  | some (.file _) => true
  | _ => false

theorem hasFileAt_eq_true_iff :
    hasFileAt location w = true ↔ ∃ content, w.tree.entry? location = some (.file content) := by
  unfold hasFileAt
  split
  · next content h => simp [h]
  · next h => simpa using h

theorem changes_confined_plainFile : ∃ answers last after,
    plainService.answerAll [.generate "plain" none none] plainFile = .ok (answers, last) after ∧
      (∀ request ∈ [Request.generate "plain" none none], request.isInner = true) ∧
      after.tree.entry? ["out", "plain.css"] ≠ plainFile.tree.entry? ["out", "plain.css"] ∧
      plainService.Holds plainFile ["out", "plain.css"] := by
  have hwritten : (plainService.answerAll [.generate "plain" none none]).passes plainFile
      fun _ after => hasFileAt ["out", "plain.css"] after := by decide +kernel
  obtain ⟨⟨answers, last⟩, after, hrun, hfile⟩ := Job.exists_of_passes hwritten
  obtain ⟨content, hcontent⟩ := hasFileAt_eq_true_iff.mp hfile
  obtain ⟨_, _, _, hanswers, -, -, hconfined⟩ :=
    changes_confined plainService [.generate "plain" none none] plainFile
  cases hrun.symm.trans hanswers
  have hinner : ∀ request ∈ [Request.generate "plain" none none], request.isInner = true := by
    decide +kernel
  have hnone : plainFile.tree.entry? ["out", "plain.css"] = none := by decide +kernel
  have hne : after.tree.entry? ["out", "plain.css"] ≠
      plainFile.tree.entry? ["out", "plain.css"] := by
    rw [hcontent, hnone]
    simp
  refine ⟨answers, last, after, hrun, hinner, hne, ?_⟩
  rcases hconfined hinner _ hne with hholds | ⟨-, -, hfolder⟩
  · exact hholds
  · rw [hcontent] at hfolder
    cases hfolder

/-- **The names in a request may lead outside**: a stylesheet is written beside the output folder if
its name says so. -/
theorem not_forall_confined :
    ¬ ∀ (s last : Service) (requests : List Request) (w after : Workspace) (answers : List Json),
      w.IsSound → s.answerAll requests w = .ok (answers, last) after →
        ∀ location, after.tree.entry? location ≠ w.tree.entry? location →
          s.Holds w location ∨ (s.LeadsToFolders w location ∧
            w.tree.entry? location = none ∧ after.tree.entry? location = some .folder) := by
  intro h
  have hwritten : (plainService.answerAll [.generate "plain" (some "../plain.css") none]).passes
      plainFile fun _ after => hasFileAt ["plain.css"] after := by decide +kernel
  obtain ⟨⟨answers, last⟩, after, hrun, hfile⟩ := Job.exists_of_passes hwritten
  obtain ⟨content, hcontent⟩ := hasFileAt_eq_true_iff.mp hfile
  have hnone : plainFile.tree.entry? ["plain.css"] = none := by decide +kernel
  have hoverwritten : after.tree.entry? ["plain.css"] ≠ plainFile.tree.entry? ["plain.css"] := by
    rw [hcontent, hnone]
    simp
  rcases h _ last _ _ after answers (by decide +kernel) hrun _ hoverwritten with
    ⟨inner, -, hplace | ⟨folder, hproject, -⟩⟩ | ⟨-, -, hfolder⟩
  · have houtput : plainFile.placeAt plainService.output = ["out"] := by decide +kernel
    rw [houtput] at hplace
    simp at hplace
  · cases hproject
  · rw [hcontent] at hfolder
    cases hfolder

end Service

end DesignTokens
