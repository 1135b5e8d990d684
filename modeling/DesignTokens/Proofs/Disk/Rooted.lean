import DesignTokens.Proofs.Disk.Descent
import DesignTokens.Proofs.Disk.Walk

/-!
# Paths from the root

A path from the root names the folders around a place one after the other. On a disk where
everything stands in a folder it can be followed unless something is missing or a file is in the
way.

## Main Definitions

* `Path.IsUsable` — a path that is not too long for the system, nor any of its names
* `FileTree.Follows` — how a path from the root can be followed

## Main Statements

* `FileTree.IsClosed.folder_of_isPrefix` — the places on the way to something are folders
* `FileTree.Follows.enter` — the step: how one more name is followed
* `FileTree.locate_ofLocation_follows` — the run: how the names up to a place are
-/

namespace DesignTokens

/-- A path that is not too long for the system, nor any of its names, and that can stand on a
disk. -/
structure Path.IsUsable (path : Path) : Prop where
  /-- The names can stand on a disk. -/
  nameable : path.isNameable = true
  /-- No name is too long. -/
  names : ∀ name ∈ path.names, name.utf8ByteSize ≤ FileTree.nameLimit
  /-- The path as a whole is not too long. -/
  length : path.text.utf8ByteSize ≤ FileTree.pathLimit

instance (path : Path) : Decidable path.IsUsable :=
  decidable_of_iff (path.isNameable = true ∧
      (∀ name ∈ path.names, name.utf8ByteSize ≤ FileTree.nameLimit) ∧
      path.text.utf8ByteSize ≤ FileTree.pathLimit)
    ⟨fun h => ⟨h.1, h.2.1, h.2.2⟩, fun h => ⟨h.nameable, h.names, h.length⟩⟩

namespace Path

variable {location : Location} {names : List String}

theorem text_ofLocation (location : Location) :
    (ofLocation location).text = "/" ++ "/".intercalate location := by
  have hne : ("/" ++ "/".intercalate location).toList ≠ "".toList := by
    simp [String.toList_append]
  have htext : "/" ++ "/".intercalate location ≠ "" := fun h => hne (congrArg String.toList h)
  unfold text ofLocation Anchor.text
  rw [if_neg htext]

/-- The text of a path is not longer without the last name. -/
theorem utf8ByteSize_text_dropLast (location : Location) :
    (ofLocation location.dropLast).text.utf8ByteSize ≤
      (ofLocation location).text.utf8ByteSize := by
  rw [text_ofLocation, text_ofLocation]
  rcases List.eq_nil_or_concat location with rfl | ⟨front, name, rfl⟩
  · exact Nat.le_refl _
  · rw [List.concat_eq_append, List.dropLast_concat]
    by_cases hfront : front = []
    · rw [hfront]
      simp [String.utf8ByteSize_append]
    · rw [String.intercalate_append_of_ne_nil hfront (List.cons_ne_nil _ _)]
      simp only [String.utf8ByteSize_append]
      omega

/-- The names of a path can stand on a disk if they are among those of another path that can. -/
theorem isNameable_of_subset {path other : Path} (h : other.isNameable = true)
    (hnames : path.names ⊆ other.names) : path.isNameable = true := by
  unfold isNameable at h ⊢
  rw [List.all_eq_true] at h ⊢
  exact fun name hname => h name (hnames hname)

/-- The path of the folder around is usable. -/
theorem IsUsable.dropLast (h : (ofLocation location).IsUsable) :
    (ofLocation location.dropLast).IsUsable where
  nameable := isNameable_of_subset h.nameable fun _ => List.mem_of_mem_dropLast
  names := fun name hname => h.names name (List.mem_of_mem_dropLast hname)
  length := Nat.le_trans (utf8ByteSize_text_dropLast location) h.length

/-- Where names lead to from a place without steps upwards, there are none. -/
theorem upward_notMem_foldl_stepTo (h : upward ∉ location) :
    upward ∉ names.foldl stepTo location := by
  induction names generalizing location with
  | nil => exact h
  | cons name rest ih =>
      rw [List.foldl_cons]
      refine ih ?_
      unfold stepTo
      split
      · exact fun hmem => h (List.mem_of_mem_dropLast hmem)
      · next hdown => simpa [h] using fun heq => hdown heq.symm

theorem upward_notMem_resolve {workingFolder : Location} (h : upward ∉ workingFolder)
    (path : Path) : upward ∉ path.resolve workingFolder := by
  refine upward_notMem_foldl_stepTo ?_
  unfold start
  split
  · exact h
  · simp

/-- The names on the way to a place come from the working folder and from the path. -/
theorem mem_resolve {workingFolder : Location} {path : Path} {name : String}
    (h : name ∈ path.resolve workingFolder) : name ∈ workingFolder ∨ name ∈ path.names := by
  have hnames : ∀ (names : List String) (start : Location), name ∈ names.foldl stepTo start →
      name ∈ start ∨ name ∈ names := by
    intro names
    induction names with
    | nil => exact fun start h => .inl h
    | cons first rest ih =>
        intro start h
        rcases ih _ h with hstep | hrest
        · unfold stepTo at hstep
          split at hstep
          · exact .inl (List.mem_of_mem_dropLast hstep)
          · rcases List.mem_append.mp hstep with hstart | hfirst
            · exact .inl hstart
            · exact .inr (List.mem_cons.mpr (.inl (List.mem_singleton.mp hfirst)))
        · exact .inr (List.mem_cons_of_mem _ hrest)
  rcases hnames path.names _ h with hstart | hname
  · unfold start at hstart
    split at hstart
    · exact .inl hstart
    · cases hstart
  · exact .inr hname

/-- The folder around a place is not in the place. -/
theorem not_prefix_dropLast (h : location ≠ []) : ¬ location <+: location.dropLast := by
  intro hway
  have hlength := hway.length_le
  rw [List.length_dropLast] at hlength
  have := List.length_pos_iff.mpr h
  omega

/-- What is on the way to a place is the place itself or on the way to the folder around. -/
theorem prefix_dropLast_of_ne {place : Location} (h : location <+: place) (hne : location ≠ place) :
    location <+: place.dropLast := by
  rcases List.eq_nil_or_concat place with rfl | ⟨front, name, rfl⟩
  · exact h
  · rw [List.concat_eq_append] at h hne ⊢
    rw [List.dropLast_concat]
    exact (List.prefix_concat_iff.mp h).resolve_left hne

/-- A path from the root leads to its place. -/
theorem resolve_ofLocation (h : upward ∉ location) (workingFolder : Location) :
    (ofLocation location).resolve workingFolder = location := by
  show location.foldl stepTo [] = location
  rw [foldl_stepTo_of_notMem h, List.nil_append]

end Path

namespace FileTree

variable {tree : FileTree} {location place : Location}

/-- **The places on the way to something are folders.** -/
theorem IsClosed.folder_of_isPrefix (h : tree.IsClosed) (hentry : tree.entry? place ≠ none)
    (hway : location <+: place) (hne : location ≠ place) :
    tree.entry? location = some .folder := by
  induction place using List.reverseRecOn with
  | nil => exact absurd (List.prefix_nil.mp hway) hne
  | append_singleton front name ih =>
      have hfront := h _ hentry
      have haround := Path.prefix_dropLast_of_ne hway hne
      rw [List.dropLast_concat] at hfront haround
      by_cases hsame : location = front
      · rw [hsame, hfront]
      · exact ih (by simp [hfront]) haround hsame

/-- How a path from the root to a place can be followed: to the place, or up to where something is
missing, or up to a file, unless it is not usable. -/
inductive Follows (tree : FileTree) (place : Location) : Except DiskCause Location → Prop
  /-- The folder around the place is there. -/
  | there (haround : tree.entry? place.dropLast = some .folder) : Follows tree place (.ok place)
  /-- The folder around the place is missing. -/
  | missing (hnone : tree.entry? place.dropLast = none) : Follows tree place (.error .missing)
  /-- A file is on the way. -/
  | blocked {location : Location} {content : List UInt8} (hway : location <+: place.dropLast)
    (hfile : tree.entry? location = some (.file content)) : Follows tree place (.error .notFolder)
  /-- The path is too long, or a name in it is. -/
  | tooLong (hlong : ¬ (Path.ofLocation place).IsUsable) : Follows tree place (.error .tooLong)

/-- One more name is followed from where the names in front of it lead. -/
theorem Follows.enter {front : Location} {name : String} {result : Except DiskCause Location}
    (hfollows : tree.Follows front result) (h : tree.IsClosed) (hname : name ≠ upward) :
    tree.Follows (front ++ [name]) (result.bind (tree.enter · name)) := by
  have haround : (front ++ [name]).dropLast = front := List.dropLast_concat
  cases hfollows with
  | there =>
      -- The step is decided by what stands at the folder around.
      show tree.Follows _ (tree.enter front name)
      unfold FileTree.enter
      cases hentry : tree.entry? front with
      | none => exact .missing (by rw [haround, hentry])
      | some entry =>
          cases entry with
          | folder =>
              dsimp only
              split
              · next hsize =>
                  exact .tooLong fun husable =>
                    absurd (husable.names name (by simp [Path.ofLocation])) (Nat.not_le.mpr hsize)
              · rw [Path.stepTo, if_neg hname]
                exact .there (by rw [haround, hentry])
          | file content => exact .blocked (by rw [haround]) hentry
  | missing hnone =>
      refine .missing ?_
      rw [haround]
      by_contra hsome
      rw [h front hsome] at hnone
      cases hnone
  | blocked hway hfile =>
      refine .blocked ?_ hfile
      rw [haround]
      exact hway.trans <| List.dropLast_prefix front
  | tooLong hlong =>
      refine .tooLong fun husable => hlong ?_
      rw [← haround]
      exact husable.dropLast

/-- Where something is missing, it is the folder around the place. -/
theorem Follows.entry?_eq_none (h : tree.Follows place (.error .missing)) :
    tree.entry? place.dropLast = none := by
  cases h with
  | missing hnone => exact hnone

theorem walk_ofLocation_follows (h : tree.IsClosed) (hupward : upward ∉ place)
    (workingFolder : Location) : tree.Follows place (tree.walk workingFolder (.ofLocation place)) := by
  induction place using List.reverseRecOn with
  | nil => exact .there rfl
  | append_singleton front name ih =>
      have hfront : upward ∉ front := fun hmem => hupward (List.mem_append_left _ hmem)
      have hname : name ≠ upward := fun heq => hupward (by simp [heq])
      have hlast : tree.walk workingFolder (.ofLocation (front ++ [name])) =
          (tree.walk workingFolder (.ofLocation front)).bind fun around =>
            tree.enter around name := tree.walkFrom_concat [] front name
      rw [hlast]
      exact (ih hfront).enter h hname

/-- A path that leads to a place is usable. -/
theorem isUsable_of_locate {workingFolder : Location} {path : Path}
    (h : tree.locate workingFolder path = .ok place) : path.IsUsable := by
  obtain ⟨hnameable, hlength, hwalk⟩ := locate_eq_ok_iff.mp h
  refine ⟨hnameable, ?_, hlength⟩
  have hnames : ∀ (names : List String) (start : Location), tree.walkFrom start names = .ok place →
      ∀ name ∈ names, name.utf8ByteSize ≤ nameLimit := by
    intro names
    induction names with
    | nil => simp
    | cons first rest ih =>
        intro start hstart name hname
        obtain ⟨next, hstep, hrest⟩ := walkFrom_cons_eq_ok_iff.mp hstart
        rcases List.mem_cons.mp hname with rfl | hname
        · exact (enter_eq_ok_iff.mp hstep).2.1
        · exact ih next hrest name hname
  exact hnames path.names _ hwalk

/-- **How a path from the root can be followed**, if its names can stand on a disk. -/
theorem locate_ofLocation_follows (h : tree.IsClosed) (hupward : upward ∉ place)
    (hnameable : (Path.ofLocation place).isNameable = true) (workingFolder : Location) :
    tree.Follows place (tree.locate workingFolder (.ofLocation place)) := by
  unfold locate
  rw [hnameable, if_neg (by simp)]
  split
  · next hlength =>
      exact .tooLong fun husable => absurd husable.length (Nat.not_le.mpr hlength)
  · exact walk_ofLocation_follows h hupward workingFolder

/-- A usable path from the root leads to its place if a folder is around it. -/
theorem locate_ofLocation (h : tree.IsClosed) (hupward : upward ∉ place)
    (husable : (Path.ofLocation place).IsUsable)
    (haround : tree.entry? place.dropLast = some .folder) (workingFolder : Location) :
    tree.locate workingFolder (.ofLocation place) = .ok place := by
  have hfollows := locate_ofLocation_follows h hupward husable.nameable workingFolder
  generalize tree.locate workingFolder (.ofLocation place) = result at hfollows ⊢
  cases hfollows with
  | there => rfl
  | missing hnone => cases haround.symm.trans hnone
  | @blocked location content hway hfile =>
      by_cases hsame : location = place.dropLast
      · cases haround.symm.trans (hsame ▸ hfile)
      · rw [h.folder_of_isPrefix (by simp [haround]) hway hsame] at hfile
        cases hfile
  | tooLong hlong => exact absurd husable hlong

/-- Writing a file is refused where its path cannot be followed, or by a folder that stands there. -/
theorem write_eq_error {workingFolder : Location} {path : Path} {content : List UInt8}
    {cause : DiskCause} (h : tree.write workingFolder path content = .error cause) :
    tree.locate workingFolder path = .error cause ∨
      ∃ location, tree.locate workingFolder path = .ok location ∧ cause = .isFolder ∧
        tree.entry? location = some .folder := by
  unfold write at h
  cases hlocate : tree.locate workingFolder path with
  | error found =>
      simp only [hlocate, bind, Except.bind, Except.error.injEq] at h
      exact .inl (by rw [h])
  | ok location =>
      cases hentry : tree.entry? location with
      | none => simp [hlocate, hentry, bind, Except.bind] at h
      | some entry =>
          cases entry with
          | file bytes => simp [hlocate, hentry, bind, Except.bind] at h
          | folder =>
              simp only [hlocate, hentry, bind, Except.bind, Except.error.injEq] at h
              exact .inr ⟨location, rfl, h.symm, hentry⟩

end FileTree

end DesignTokens
