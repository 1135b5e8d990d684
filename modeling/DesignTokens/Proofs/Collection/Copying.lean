import DesignTokens.Proofs.Collection.Provenance

/-!
# Copies of library themes

A theme of the library is copied into the project, where it takes precedence from then on. This
module proves that nobody who asks for a theme can tell: the copy is read as the file that it was
made from, and files of other names are found where they were found before, as long as no folder of
the project comes into sight.

## Main Definitions

* `Collection.Gives` — what a collection answers when it is asked for a theme
* `Collection.Copies` — the steps of a copy that succeeds
* `Collection.IsFaithful` — a copy that changes nothing but the disk, and there one file

## Main Statements

* `Collection.copyToProject_copies` — a copy that succeeds has taken these steps
* `Collection.Copies.gives_iff` — all names mean the same after them
* `Collection.copy_isFaithful` — a copy is faithful after any calls
* `Collection.not_forall_copy_isFaithful` — but not if the project folder is hidden

## Design Notes

A theme that was looked up before is forgotten when its file is copied. By then it is the one of the
library: otherwise the project would have a file of its name, and the copy would be refused.
-/

namespace DesignTokens

/-- Bytes that encode a text and the same text with its line ends unified are the same source. -/
theorem Yaml.Source.ofBytes_unifyLineEnds {bytes : List UInt8} {text : String}
    (h : Text.decodeUtf8? bytes = some text) :
    Source.ofBytes (Text.encodeUtf8 (Text.unifyLineEnds text)) = Source.ofBytes bytes := by
  obtain ⟨chars, hchars, rfl⟩ := Option.map_eq_some_iff.mp h
  rw [Source.ofBytes_encodeUtf8, Text.unifyLineEnds, String.toList_ofList, String.toList_ofList,
    Text.unifyReturns_unifyReturns, Source.ofBytes, hchars]

/-- Two files with the same source give the same theme, or the same failure unless it is passed
over. -/
theorem Entry.skipped_theme_congr {bytes other : List UInt8}
    (h : Yaml.Source.ofBytes bytes = Yaml.Source.ofBytes other) (file file' : Path) :
    skipped ((Entry.file bytes).theme file) = skipped ((Entry.file other).theme file') := by
  simp only [Entry.theme, h]
  cases Yaml.read (.ofBytes other) with
  | error fault => cases fault <;> rfl
  | ok result =>
      obtain ⟨datum, sharing⟩ := result
      dsimp only
      cases datum.opened sharing <;> rfl

namespace Workspace

open Collection (fileIn ending)

variable {w after : Workspace} {folder file : Path} {name : String}

/-! ### Names -/

/-- The file of a name in a folder can stand on a disk if the names of both can. -/
theorem isNameable_fileIn (folder : Path) (hname : '/' ∉ name.toList) :
    (fileIn folder name).isNameable =
      (folder.isNameable && (Path.mk .relative [name ++ ending]).isNameable) := by
  rw [Collection.fileIn_eq folder hname]
  simp [Path.isNameable]

/-- A name that is short enough to be looked up, or that is not looked up at all. -/
def IsHarmless (name : String) : Prop :=
  (name ++ ending).utf8ByteSize ≤ FileTree.nameLimit ∨
    (Path.mk .relative [name ++ ending]).isNameable = false

/-- Nothing is found at a file whose name cannot stand on a disk. -/
theorem themeAt?_of_not_isNameable (h : file.isNameable = false) : w.themeAt? file = .ok none := by
  have hlocate : w.tree.locate w.folder file = .error .unnameable :=
    FileTree.locate_eq_unnameable_iff.mpr h
  have hfind : w.tree.find w.folder file = .error .unnameable := by
    unfold FileTree.find
    rw [hlocate]
    rfl
  unfold themeAt?
  rw [hfind]

/-- A path that is too long to be followed is so when there are more folders. -/
theorem find_eq_tooLong_of_grows (hgrows : w.tree.Grows after.tree)
    (hfolder : after.folder = w.folder) (h : w.tree.find w.folder file = .error .tooLong) :
    after.tree.find after.folder file = .error .tooLong := by
  obtain ⟨hnameable, hlong⟩ := FileTree.locate_eq_tooLong_iff.mp (find_eq_tooLong_iff.mp h)
  refine find_eq_tooLong_iff.mpr (FileTree.locate_eq_tooLong_iff.mpr ⟨hnameable, ?_⟩)
  rw [hfolder]
  exact hlong.imp_right (hgrows.walk_error (by simp))

/-- What prevents that anything is found is there when there are more folders. -/
theorem themeAt?_eq_error_of_grows (hgrows : w.tree.Grows after.tree)
    (hfolder : after.folder = w.folder) {failure : Failure}
    (h : w.themeAt? file = .error failure) : after.themeAt? file = .error failure := by
  cases hfind : w.tree.find w.folder file with
  | ok entry =>
      rw [themeAt?_eq_of_find hfind (find_of_grows hgrows hfolder hfind), h]
  | error cause =>
      have hcause : cause = .tooLong := by
        unfold themeAt? at h
        rw [hfind] at h
        cases cause <;> first | rfl | cases h
      subst hcause
      have hafter := find_eq_tooLong_of_grows hgrows hfolder hfind
      unfold themeAt? at h ⊢
      rw [hfind] at h
      rw [hafter, h]

/-- **A harmless name is looked up in a folder with the same result when the folder is made.** -/
theorem themeAt?_eq_of_makes (hw : w.IsSound) (h : Makes folder w after)
    (hsight : w.IsInSight folder) (hname : '/' ∉ name.toList) (hharmless : IsHarmless name) :
    after.themeAt? (fileIn folder name) = w.themeAt? (fileIn folder name) := by
  rcases hharmless with hshort | hunnameable
  · cases hfound : w.themeAt? (fileIn folder name) with
    | ok found => exact themeAt?_of_makes hw h hsight hname hshort hfound
    | error failure => exact themeAt?_eq_error_of_grows h.grows h.sameFolder hfound
  · have hfile : (fileIn folder name).isNameable = false := by
      rw [isNameable_fileIn folder hname, hunnameable, Bool.and_false]
    rw [themeAt?_of_not_isNameable hfile, themeAt?_of_not_isNameable hfile]

/-- Where nothing is seen nothing stands, if the path leads there. -/
theorem entry?_of_look_none {location : Location} (h : w.tree.look w.folder file = .ok none)
    (hlocate : w.tree.locate w.folder file = .ok location) : w.tree.entry? location = none := by
  by_contra hsome
  obtain ⟨entry, hentry⟩ := Option.ne_none_iff_exists'.mp hsome
  unfold FileTree.look at h
  rw [find_eq_ok_iff.mpr ⟨location, hlocate, hentry⟩] at h
  cases h

/-- The text of a file is what its bytes encode, with the line ends unified. -/
theorem exists_of_readText {text : String} (h : w.readText file = .ok text) :
    ∃ bytes decoded, w.tree.find w.folder file = .ok (.file bytes) ∧
      Text.decodeUtf8? bytes = some decoded ∧ text = Text.unifyLineEnds decoded := by
  unfold readText readBytes FileTree.read at h
  cases hfind : w.tree.find w.folder file with
  | error cause => simp [hfind, bind, Except.bind, Except.mapError] at h
  | ok entry =>
      cases entry with
      | folder => simp [hfind, bind, Except.bind, Except.mapError] at h
      | file bytes =>
          simp only [hfind, bind, Except.bind, Except.mapError, decodeText] at h
          cases hdecoded : Text.decodeUtf8? bytes with
          | none => simp [hdecoded] at h
          | some decoded =>
              simp only [hdecoded, Except.ok.injEq] at h
              exact ⟨bytes, decoded, rfl, hdecoded, h.symm⟩

/-- A folder that a path leads to. -/
structure Reaches (w : Workspace) (folder : Path) : Prop where
  /-- The names of the path can stand on a disk. -/
  nameable : folder.isNameable = true
  /-- The path leads to a folder. -/
  reached : ∃ location, w.tree.walk w.folder folder = .ok location ∧
    w.tree.entry? location = some .folder

/-- The folder of a file that is found is reached. -/
theorem reaches_of_find (hname : '/' ∉ name.toList) {entry : Entry}
    (h : w.tree.find w.folder (fileIn folder name) = .ok entry) : w.Reaches folder := by
  obtain ⟨location, hlocate, -⟩ := find_eq_ok_iff.mp h
  obtain ⟨hnameable, -, hwalk⟩ := FileTree.locate_eq_ok_iff.mp hlocate
  obtain ⟨around, haround, hfolder, -, -⟩ := (walk_fileIn_eq_ok_iff hname).mp hwalk
  rw [isNameable_fileIn folder hname, Bool.and_eq_true] at hnameable
  exact ⟨hnameable.1, around, haround, hfolder⟩

theorem Reaches.isInSight (h : w.Reaches folder) : w.IsInSight folder := by
  obtain ⟨location, hwalk, -⟩ := h.reached
  intro _ hmissing
  cases hwalk.symm.trans hmissing

/-- A folder that is reached is made by anything that makes a folder. -/
theorem Reaches.makes {other : Path} (h : w.Reaches folder) (hmakes : Makes other w after) :
    Makes folder w after := by
  obtain ⟨location, hwalk, hfolder⟩ := h.reached
  refine ⟨hmakes.grows, hmakes.sameFolder, hmakes.closed, location, ?_,
    hmakes.grows.kept _ _ hfolder⟩
  rw [hmakes.sameFolder]
  exact hmakes.grows.walk_ok hwalk

/-- Only a harmless name can be looked up in a folder that is reached. -/
theorem Reaches.isHarmless (h : w.Reaches folder) (hname : '/' ∉ name.toList)
    {found : Option Theme} (hfound : w.themeAt? (fileIn folder name) = .ok found) :
    IsHarmless name := by
  by_contra hnot
  obtain ⟨hlong, hnameable⟩ := not_or.mp hnot
  obtain ⟨around, hwalk, hfolder⟩ := h.reached
  have hwalkFile : w.tree.walk w.folder (fileIn folder name) = .error .tooLong := by
    rw [Collection.fileIn_eq folder hname]
    show w.tree.walkFrom (folder.start w.folder) (folder.names ++ [name ++ ending]) = _
    rw [FileTree.walkFrom_concat]
    show (w.tree.walk w.folder folder).bind _ = _
    rw [hwalk]
    exact FileTree.enter_eq_tooLong_iff.mpr ⟨hfolder, Nat.lt_of_not_le hlong⟩
  have hfile : (fileIn folder name).isNameable = true := by
    rw [isNameable_fileIn folder hname, h.nameable, Bool.true_and]
    simpa using hnameable
  have hfind := find_eq_tooLong_iff.mpr
    (FileTree.locate_eq_tooLong_iff.mpr ⟨hfile, .inr hwalkFile⟩)
  unfold themeAt? at hfound
  rw [hfind] at hfound
  cases hfound

end Workspace

namespace Collection

open Workspace

variable {c next : Collection} {w between after : Workspace} {folder path : Path} {name m : String}

/-! ### Answers -/

/-- What a collection answers when it is asked for a theme: a theme, or that there is none. -/
def Gives (c : Collection) (w : Workspace) (name : String) (found : Option Theme) : Prop :=
  ∃ kept after, c.find name w = .ok (found, kept) after

theorem gives_iff_outcome {found : Option Theme} :
    c.Gives w name found ↔ Answer.outcome (c.find name w) = .ok found := by
  unfold Gives
  cases c.find name w with
  | ok result after =>
      obtain ⟨theme, kept⟩ := result
      simp [Answer.outcome]
  | error failure after => simp [Answer.outcome]

/-- A theme that is kept is the answer. -/
theorem gives_iff_of_seen {theme : Theme} (hseen : c.seen.find? name = some theme)
    {found : Option Theme} : c.Gives w name found ↔ found = some theme := by
  have hfind : c.find name w = .ok (some theme, c) w := by
    unfold find
    rw [hseen]
    rfl
  rw [gives_iff_outcome, hfind]
  simp [Answer.outcome, eq_comm]

/-- What stands on the disk is the answer if nothing is kept. -/
theorem gives_iff_of_unseen (hseen : c.seen.find? name = none) {found : Option Theme} :
    c.Gives w name found ↔ w.firstOf (c.candidates name) = .ok found := by
  rw [gives_iff_outcome, outcome_find hseen]

/-- The last file that is tried decides what is found if the others give nothing. -/
theorem firstOf_candidates_of_none (hproject : c.project = some folder)
    (h : w.themeAt? (fileIn folder name) = .ok none) :
    w.firstOf (c.candidates name) = w.themeAt? (fileIn c.library name) := by
  rw [candidates_of_project hproject]
  simp only [firstOf, h]
  cases w.themeAt? (fileIn c.library name) with
  | error failure => rfl
  | ok found => cases found <;> rfl

/-- What is found for a name depends on what is found at its two files. -/
theorem firstOf_candidates_congr (hproject : c.project = some folder)
    (hfolder : after.themeAt? (fileIn folder name) = w.themeAt? (fileIn folder name))
    (hlibrary : after.themeAt? (fileIn c.library name) = w.themeAt? (fileIn c.library name)) :
    after.firstOf (c.candidates name) = w.firstOf (c.candidates name) := by
  rw [candidates_of_project hproject]
  simp only [firstOf, hfolder, hlibrary]

/-! ### The steps of a copy -/

/-- The steps of a copy that succeeds: the file of the library is there, the project folder is made,
nothing stands in the place of the copy, and the text of the file is written there. -/
inductive Copies (c : Collection) (name : String) (w : Workspace) : Path → Collection →
    Workspace → Prop
  | intro {folder : Path} {between : Workspace} {location : Location} {bytes : List UInt8}
    {text : String} (hproject : c.project = some folder)
    (hsource : w.tree.find w.folder (fileIn c.library name) = .ok (.file bytes))
    (htext : Text.decodeUtf8? bytes = some text) (hmakes : Makes folder w between)
    (hlocate : between.tree.locate between.folder (fileIn folder name) = .ok location)
    (hnone : between.tree.entry? location = none) :
    Copies c name w (fileIn folder name) { c with seen := c.seen.erase name }
      (between.written location (Text.encodeUtf8 (Text.unifyLineEnds text)))

/-- **A copy that succeeds has taken these steps.** -/
theorem copyToProject_copies (hw : w.IsSound)
    (h : c.copyToProject name w = .ok (some path, next) after) : c.Copies name w path next after := by
  have hends : (c.copyToProject name).Ends w
      (fun result after => ∀ path, result.1 = some path → c.Copies name w path result.2 after)
      fun _ _ => True := by
    unfold copyToProject
    refine ((projectFolder_ends c w).mono_bad fun _ _ _ => trivial).bind ?_
    rintro folder _ ⟨rfl, hproject⟩
    refine ((Job.look_ends _ _).mono_bad fun _ _ _ => trivial).bind ?_
    rintro found w ⟨rfl, hlook⟩
    split
    · next hsome =>
        obtain ⟨entry, rfl⟩ := Option.isSome_iff_exists.mp hsome
        refine ((Job.makeFolders_ends hw folder).mono_bad fun _ _ _ => trivial).bind ?_
        intro _ between hmakes
        refine ((Job.look_ends _ _).mono_bad fun _ _ _ => trivial).bind ?_
        rintro there between ⟨rfl, hthere⟩
        split
        · exact Job.ends_throw trivial
        · next hnone =>
            rw [Option.not_isSome_iff_eq_none.mp hnone] at hthere
            refine Job.ends_get_bind ?_
            have hread : (Job.ofExcept (between.readText (fileIn c.library name))).Ends between
                (fun text after => after = between ∧
                  between.readText (fileIn c.library name) = .ok text) fun _ _ => True :=
              Job.ends_ofExcept (fun _ htext => ⟨rfl, htext⟩) fun _ _ => trivial
            refine hread.bind ?_
            rintro text between ⟨rfl, hread⟩
            obtain ⟨bytes, decoded, hfind, hdecoded, rfl⟩ := exists_of_readText hread
            refine ((Job.writeFile_ends _ _ _).mono_bad fun _ _ _ => trivial).bind ?_
            rintro _ after ⟨location, hlocate, -, rfl⟩
            refine Job.ends_pure fun path hpath => ?_
            cases hpath
            have hsource := find_of_look_some hlook
            cases (find_of_makes hmakes hsource).symm.trans hfind
            exact .intro hproject hsource hdecoded hmakes hlocate
              (entry?_of_look_none hthere hlocate)
    · exact Job.ends_pure fun path hpath => by cases hpath
  exact hends.of_ok h path rfl

/-! ### What names mean -/

/-- Only a harmless name can be looked up while the library is there. -/
theorem isHarmless_of_firstOf (hproject : c.project = some folder) (hlibrary : w.Reaches c.library)
    (hm : '/' ∉ m.toList) {found : Option Theme} (h : w.firstOf (c.candidates m) = .ok found) :
    IsHarmless m := by
  cases hfolder : w.themeAt? (fileIn folder m) with
  | error failure =>
      rw [candidates_of_project hproject] at h
      simp only [firstOf, hfolder] at h
      cases h
  | ok first =>
      cases first with
      | none =>
          rw [firstOf_candidates_of_none hproject hfolder] at h
          exact hlibrary.isHarmless hm h
      | some theme =>
          obtain ⟨entry, hfind⟩ := exists_find_of_themeAt? hfolder
          obtain ⟨location, hlocate, -⟩ := find_eq_ok_iff.mp hfind
          obtain ⟨around, -, -, hshort, -⟩ :=
            (walk_fileIn_eq_ok_iff hm).mp (FileTree.locate_eq_ok_iff.mp hlocate).2.2
          exact .inl hshort

/-- **A name is looked up with the same result when the project folder is made.** -/
theorem firstOf_makes_iff (hw : w.IsSound) (hproject : c.project = some folder)
    (hsight : w.IsInSight folder) (hlibrary : w.Reaches c.library)
    (hmakes : Makes folder w between) (hm : '/' ∉ m.toList) (found : Option Theme) :
    w.firstOf (c.candidates m) = .ok found ↔ between.firstOf (c.candidates m) = .ok found := by
  have hstays : IsHarmless m →
      between.firstOf (c.candidates m) = w.firstOf (c.candidates m) := fun hharmless =>
    firstOf_candidates_congr hproject (themeAt?_eq_of_makes hw hmakes hsight hm hharmless)
      (themeAt?_eq_of_makes hw (hlibrary.makes hmakes) hlibrary.isInSight hm hharmless)
  have hthere : between.Reaches c.library :=
    ⟨hlibrary.nameable, (hlibrary.makes hmakes).reached⟩
  constructor
  · intro h
    rw [hstays (isHarmless_of_firstOf hproject hlibrary hm h), h]
  · intro h
    rw [← hstays (isHarmless_of_firstOf hproject hthere hm h), h]

/-- The project has no file under a name where a copy is put. -/
theorem not_hasInProject (hproject : c.project = some folder) (hmakes : Makes folder w between)
    {location : Location}
    (hlocate : between.tree.locate between.folder (fileIn folder name) = .ok location)
    (hnone : between.tree.entry? location = none) : ¬ c.HasInProject w name := by
  rintro ⟨folder', entry, hproject', hfind⟩
  cases hproject.symm.trans hproject'
  obtain ⟨place, hplace, hentry⟩ := find_eq_ok_iff.mp (find_of_makes hmakes hfind)
  cases hlocate.symm.trans hplace
  cases hnone.symm.trans hentry

/-- Nothing is found at the file of the project before a copy is put there. -/
theorem themeAt?_of_not_hasInProject (hproject : c.project = some folder)
    (hmakes : Makes folder w between) {location : Location}
    (hlocate : between.tree.locate between.folder (fileIn folder name) = .ok location)
    (hnone : between.tree.entry? location = none) :
    w.themeAt? (fileIn folder name) = .ok none := by
  refine themeAt?_eq_none (fun entry hfind => ?_) fun hlong => ?_
  · exact absurd ⟨folder, entry, hproject, hfind⟩ (not_hasInProject hproject hmakes hlocate hnone)
  · have hbetween := find_eq_tooLong_of_grows hmakes.grows hmakes.sameFolder hlong
    cases hlocate.symm.trans (find_eq_tooLong_iff.mp hbetween)

/-- **A copied name means the theme of the library**: the copy is read as what it was made from. -/
theorem Copies.firstOf_eq (h : c.Copies name w path next after) :
    after.firstOf (c.candidates name) = w.themeAt? (fileIn c.library name) := by
  cases h with
  | @intro folder between location bytes text hproject hsource htext hmakes hlocate hnone =>
      have hplace : between.tree.entry? location ≠ some .folder := by simp [hnone]
      have hthere := find_of_makes hmakes hsource
      have hcopy : (between.written location
          (Text.encodeUtf8 (Text.unifyLineEnds text))).themeAt? (fileIn folder name) =
          w.themeAt? (fileIn c.library name) := by
        have hbefore : w.themeAt? (fileIn c.library name) =
            skipped ((Entry.file bytes).theme (fileIn c.library name)) := by
          unfold themeAt?
          rw [hsource]
        rw [themeAt?_written hlocate hplace, hbefore]
        exact Entry.skipped_theme_congr (Yaml.Source.ofBytes_unifyLineEnds htext) _ _
      have hlibrary : (between.written location
          (Text.encodeUtf8 (Text.unifyLineEnds text))).themeAt? (fileIn c.library name) =
          w.themeAt? (fileIn c.library name) := by
        rw [themeAt?_written_of_ne hplace, themeAt?_eq_of_find hsource hthere]
        rintro _ hlocate' rfl
        obtain ⟨place, hlocateSource, hentry⟩ := find_eq_ok_iff.mp hthere
        cases hlocate'.symm.trans hlocateSource
        cases hnone.symm.trans hentry
      rw [candidates_of_project hproject]
      simp only [firstOf, hcopy, hlibrary]
      cases w.themeAt? (fileIn c.library name) with
      | error failure => rfl
      | ok found => cases found <;> rfl

/-- The name of a copy means what it meant before. -/
theorem Copies.gives_iff_self (h : c.Copies name w path next after) (hfounded : c.Founded w)
    (found : Option Theme) : c.Gives w name found ↔ next.Gives after name found := by
  have hcopied := h.firstOf_eq
  cases h with
  | @intro folder between location bytes text hproject hsource htext hmakes hlocate hnone =>
      have hunseen : (c.seen.erase name).find? name = none := by simp [OrderedMap.find?_erase]
      refine Iff.trans ?_ (gives_iff_of_unseen
        (c := { c with seen := c.seen.erase name }) hunseen).symm
      show _ ↔ Workspace.firstOf _ (c.candidates name) = _
      rw [hcopied]
      cases hseen : c.seen.find? name with
      | none =>
          have hproject' := themeAt?_of_not_hasInProject hproject hmakes hlocate hnone
          rw [gives_iff_of_unseen hseen, firstOf_candidates_of_none hproject hproject']
      | some theme =>
          -- What is kept is not the theme of a file in the project, as there is none.
          have hlibrary := ((hfounded.kept name theme hseen).2).resolve_left
            (not_hasInProject hproject hmakes hlocate hnone)
          rw [gives_iff_of_seen hseen, hlibrary]
          simp [eq_comm]

/-- All other names mean what they meant before, unless the project folder is hidden. -/
theorem Copies.gives_iff_of_ne (h : c.Copies name w path next after) (hw : w.IsSound)
    (hsight : ∀ folder, c.project = some folder → w.IsInSight folder) (hname : '/' ∉ name.toList)
    (hm : '/' ∉ m.toList) (hne : m ≠ name) (found : Option Theme) :
    c.Gives w m found ↔ next.Gives after m found := by
  cases h with
  | @intro folder between location bytes text hproject hsource htext hmakes hlocate hnone =>
      have hkept : (c.seen.erase name).find? m = c.seen.find? m := by
        rw [OrderedMap.find?_erase, if_neg hne]
      cases hseen : c.seen.find? m with
      | some theme =>
          rw [gives_iff_of_seen hseen, gives_iff_of_seen
            (c := { c with seen := c.seen.erase name }) (hkept.trans hseen)]
      | none =>
          have hplace : between.tree.entry? location ≠ some .folder := by simp [hnone]
          have hstays : ∀ other : Path, (between.written location
              (Text.encodeUtf8 (Text.unifyLineEnds text))).themeAt? (fileIn other m) =
              between.themeAt? (fileIn other m) := fun other =>
            themeAt?_written_of_ne hplace fun _ hfile =>
              locate_fileIn_ne hm hname hne hfile hlocate
          rw [gives_iff_of_unseen hseen, gives_iff_of_unseen
            (c := { c with seen := c.seen.erase name }) (hkept.trans hseen)]
          show _ ↔ Workspace.firstOf _ (c.candidates m) = _
          rw [firstOf_candidates_congr hproject (hstays folder) (hstays c.library)]
          exact firstOf_makes_iff hw hproject (hsight folder hproject)
            (reaches_of_find hname hsource) hmakes hm found

/-- **All names mean the same after a copy.** -/
theorem Copies.gives_iff (h : c.Copies name w path next after) (hfounded : c.Founded w)
    (hsight : ∀ folder, c.project = some folder → w.IsInSight folder) (hname : '/' ∉ name.toList)
    (hm : '/' ∉ m.toList) (found : Option Theme) :
    c.Gives w m found ↔ next.Gives after m found := by
  by_cases hsame : m = name
  · subst hsame
    exact h.gives_iff_self hfounded found
  · exact h.gives_iff_of_ne hfounded.sound hsight hname hm hsame found

/-- A copy that changes what no name means, and one file on the disk. -/
structure IsFaithful (c : Collection) (name : String) (w : Workspace) (path : Path)
    (next : Collection) (after : Workspace) : Prop where
  /-- Every name has the same answer as before. -/
  meaning : ∀ m : String, '/' ∉ m.toList → ∀ found, c.Gives w m found ↔ next.Gives after m found
  /-- The copy holds the text of the file in the library, with the line ends unified. -/
  content : ∃ bytes text, w.readBytes (fileIn c.library name) = .ok bytes ∧
    Text.decodeUtf8? bytes = some text ∧
    after.readBytes path = .ok (Text.encodeUtf8 (Text.unifyLineEnds text))
  /-- Nothing stood in the place of the copy, and all other files are as they were. -/
  others : ∃ place, after.tree.locate after.folder path = .ok place ∧
    w.tree.entry? place = none ∧ ∀ location bytes, location ≠ place →
      (after.tree.entry? location = some (.file bytes) ↔
        w.tree.entry? location = some (.file bytes))

theorem Copies.isFaithful (h : c.Copies name w path next after) (hfounded : c.Founded w)
    (hsight : ∀ folder, c.project = some folder → w.IsInSight folder)
    (hname : '/' ∉ name.toList) : c.IsFaithful name w path next after := by
  refine ⟨fun m hm found => h.gives_iff hfounded hsight hname hm found, ?_, ?_⟩
  · cases h with
    | @intro folder between location bytes text hproject hsource htext hmakes hlocate hnone =>
        have hplace : between.tree.entry? location ≠ some .folder := by simp [hnone]
        exact ⟨bytes, text, readBytes_of_find hsource, htext,
          readBytes_of_find (find_written hlocate hplace)⟩
  · cases h with
    | @intro folder between location bytes text hproject hsource htext hmakes hlocate hnone =>
        have hplace : between.tree.entry? location ≠ some .folder := by simp [hnone]
        refine ⟨location, (locate_written_eq_ok_iff hplace).mpr hlocate, ?_, fun other more hne => ?_⟩
        · by_contra hsome
          obtain ⟨entry, hentry⟩ := Option.ne_none_iff_exists'.mp hsome
          cases hnone.symm.trans (hmakes.grows.kept _ _ hentry)
        · rw [hmakes.grows.sameFiles other more]
          show FileTree.entry? (between.tree.put location _) other = _ ↔ _
          rw [FileTree.entry?_put, if_neg hne]
          split
          · next hroot => rw [hroot, FileTree.entry?_root]
          · rfl

/-- **A copy of a library theme changes what no name means**, after any calls in any order, whether
they fail or not, unless the project folder is hidden. -/
theorem copy_isFaithful (library project : Option Path) {start : Workspace} (hstart : start.IsSound)
    {calls : List Call} (hnames : ∀ call ∈ calls, call.NamesFiles)
    (hrun : (make library project).run start calls = (c, w))
    (hsight : ∀ folder, project = some folder → w.IsInSight folder) (hname : '/' ∉ name.toList)
    (hcopy : c.copyToProject name w = .ok (some path, next) after) :
    c.IsFaithful name w path next after := by
  have hmade : (make library project).Founded start := make_founded hstart
  obtain ⟨hplaces, hfounded⟩ := hmade.run hnames
  rw [hrun] at hplaces hfounded
  exact (copyToProject_copies hfounded.sound hcopy).isFaithful hfounded
    (fun folder hfolder => hsight folder (hplaces.project.symm.trans hfolder)) hname

/-! ### Two disks -/

/-- A collection of a library and a project folder. -/
def libraryAndThemes : Collection :=
  make (some ⟨.relative, ["lib"]⟩) (some ⟨.relative, ["themes"]⟩)

theorem copy_isFaithful_libraryAlone : ∃ c w path next after,
    libraryAndThemes.run libraryAlone [.find "a"] = (c, w) ∧
      c.copyToProject "a" w = .ok (some path, next) after ∧
      c.IsFaithful "a" w path next after := by
  have hrun : ((libraryAndThemes.run libraryAlone [.find "a"]).1.copyToProject "a").passes
      (libraryAndThemes.run libraryAlone [.find "a"]).2 (fun result _ => result.1.isSome) = true := by
    decide +kernel
  have hsight : (libraryAndThemes.run libraryAlone [.find "a"]).2.IsInSight
      ⟨.relative, ["themes"]⟩ := by decide +kernel
  obtain ⟨c, w, hstate⟩ : ∃ c w, libraryAndThemes.run libraryAlone [.find "a"] = (c, w) :=
    ⟨_, _, rfl⟩
  rw [hstate] at hrun hsight
  obtain ⟨⟨copied, next⟩, after, hcopy, hsome⟩ := Job.exists_of_passes hrun
  obtain ⟨path, rfl⟩ := Option.isSome_iff_exists.mp hsome
  refine ⟨c, w, path, next, after, hstate, hcopy, ?_⟩
  exact copy_isFaithful (some ⟨.relative, ["lib"]⟩) (some ⟨.relative, ["themes"]⟩)
    (by decide +kernel) (by simp [Call.NamesFiles]) hstate
    (fun folder hfolder => by cases hfolder; exact hsight) (by decide) hcopy

/-- The same with a project folder that is hidden behind a folder which is not there. -/
def libraryAndHidden : Collection :=
  make (some ⟨.relative, ["lib"]⟩) (some ⟨.relative, ["x", "..", "themes"]⟩)

theorem themeName?_of_gives {theme : Theme} (h : c.Gives w name (some theme)) :
    Answer.themeName? (c.find name w) = some theme.name := by
  obtain ⟨kept, after, hfind⟩ := h
  rw [hfind]
  rfl

theorem exists_gives_of_themeName? {text : String}
    (h : Answer.themeName? (c.find name w) = some text) :
    ∃ theme, c.Gives w name (some theme) ∧ theme.name = text := by
  cases hfind : c.find name w with
  | ok result after =>
      obtain ⟨found, kept⟩ := result
      rw [hfind] at h
      cases found with
      | none => cases h
      | some theme => exact ⟨theme, ⟨kept, after, hfind⟩, Option.some.inj h⟩
  | error failure after =>
      rw [hfind] at h
      cases h

/-- **A hidden project folder comes into sight when it is made for a copy.** Another name means a
theme of the project then, and not that of the library. -/
theorem not_forall_copy_isFaithful :
    ¬ ∀ (library project : Option Path) (start w after : Workspace) (calls : List Call)
      (c next : Collection) (name : String) (path : Path), start.IsSound →
      (∀ call ∈ calls, call.NamesFiles) → (make library project).run start calls = (c, w) →
      '/' ∉ name.toList → c.copyToProject name w = .ok (some path, next) after →
      c.IsFaithful name w path next after := by
  intro h
  have hrun : ((libraryAndHidden.run libraryAndProject [.find "a", .forget]).1.copyToProject
      "b").passes (libraryAndHidden.run libraryAndProject [.find "a", .forget]).2
      (fun result after => result.1.isSome &&
        decide (Answer.themeName? (result.2.find "a" after) = some "z")) = true := by
    decide +kernel
  have hbefore : Answer.themeName?
      ((libraryAndHidden.run libraryAndProject [.find "a", .forget]).1.find "a"
        (libraryAndHidden.run libraryAndProject [.find "a", .forget]).2) = some "a" := by
    decide +kernel
  obtain ⟨c, w, hstate⟩ :
      ∃ c w, libraryAndHidden.run libraryAndProject [.find "a", .forget] = (c, w) :=
    ⟨_, _, rfl⟩
  rw [hstate] at hrun hbefore
  obtain ⟨⟨copied, next⟩, after, hcopy, htest⟩ := Job.exists_of_passes hrun
  obtain ⟨hsome, hafter⟩ := Bool.and_eq_true_iff.mp htest
  obtain ⟨path, rfl⟩ := Option.isSome_iff_exists.mp hsome
  obtain ⟨theme, hgives, hname⟩ := exists_gives_of_themeName? (of_decide_eq_true hafter)
  have hfaithful := h (some ⟨.relative, ["lib"]⟩) (some ⟨.relative, ["x", "..", "themes"]⟩)
    libraryAndProject w after [.find "a", .forget] c next "b" path (by decide +kernel)
    (by simp [Call.NamesFiles]) hstate (by decide) hcopy
  have hsame := themeName?_of_gives ((hfaithful.meaning "a" (by decide) _).mpr hgives)
  rw [hbefore, hname] at hsame
  exact absurd hsame (by decide)

end Collection

end DesignTokens
