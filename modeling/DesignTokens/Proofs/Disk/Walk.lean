import DesignTokens.Disk.Tree
import Mathlib.Data.List.Basic

/-!
# Walks through a tree

A path is followed name by name through folders. This module says what of a walk stays the same when
folders are added to a tree, and when a file is put into it.

## Main Definitions

* `FileTree.walk` — the walk along the names of a path
* `FileTree.IsClosed` — everything stands in a folder
* `FileTree.Grows` — a tree has gained folders and nothing else

## Main Statements

* `FileTree.walk_eq_resolve` — a walk that succeeds ends where the names alone lead to
* `FileTree.Grows.walk_ok`, `FileTree.Grows.walk_error` — walks in a tree with more folders
* `FileTree.walk_ok_congr`, `FileTree.walk_tooLong_congr` — walks in trees with the same folders
* `FileTree.IsClosed.put` — a tree stays closed when something is put into a folder
-/

namespace DesignTokens

namespace FileTree

/-- The walk along names from a place. -/
def walkFrom (tree : FileTree) (start : Location) (names : List String) :
    Except DiskCause Location :=
  names.foldlM tree.enter start

/-- The walk along the names of a path. -/
def walk (tree : FileTree) (workingFolder : Location) (path : Path) : Except DiskCause Location :=
  tree.walkFrom (path.start workingFolder) path.names

/-- Everything stands in a folder. -/
def IsClosed (tree : FileTree) : Prop :=
  ∀ location, tree.entry? location ≠ none → tree.entry? location.dropLast = some .folder

/-- A tree has gained folders and nothing else. -/
structure Grows (tree grown : FileTree) : Prop where
  /-- What stood somewhere stands there. -/
  kept : ∀ location entry, tree.entry? location = some entry → grown.entry? location = some entry
  /-- Only folders were added. -/
  added : ∀ location, tree.entry? location = none →
    grown.entry? location = none ∨ grown.entry? location = some .folder

/-- Two trees have the same folders. -/
def SameFolders (tree other : FileTree) : Prop :=
  ∀ location, tree.entry? location = some .folder ↔ other.entry? location = some .folder

variable {tree other grown : FileTree}

/-! ### One step -/

theorem enter_eq_ok_iff {location next : Location} {name : String} :
    tree.enter location name = .ok next ↔
      tree.entry? location = some .folder ∧ name.utf8ByteSize ≤ nameLimit ∧
        next = Path.stepTo location name := by
  unfold enter
  split
  · next h =>
      split
      · next hlong => simp [Nat.not_le.mpr hlong]
      · next hshort => simp [h, Nat.not_lt.mp hshort, eq_comm]
  · next h => simp [h]
  · next h => simp [h]

theorem enter_eq_tooLong_iff {location : Location} {name : String} :
    tree.enter location name = .error .tooLong ↔
      tree.entry? location = some .folder ∧ nameLimit < name.utf8ByteSize := by
  unfold enter
  split
  · next h =>
      split
      · next hlong => simp [h, hlong]
      · next hshort => simp [hshort]
  · next h => simp [h]
  · next h => simp [h]

theorem enter_eq_missing_iff {location : Location} {name : String} :
    tree.enter location name = .error .missing ↔ tree.entry? location = none := by
  unfold enter
  split
  · next h =>
      split <;> simp [h]
  · next h => simp [h]
  · next h => simp [h]

/-! ### Walks -/

@[simp] theorem walkFrom_nil (tree : FileTree) (start : Location) :
    tree.walkFrom start [] = .ok start := rfl

theorem walkFrom_cons (tree : FileTree) (start : Location) (name : String) (names : List String) :
    tree.walkFrom start (name :: names) =
      (tree.enter start name).bind fun next => tree.walkFrom next names := by
  rw [walkFrom, List.foldlM_cons]
  rfl

/-- The last step of a walk. -/
theorem walkFrom_concat (tree : FileTree) (start : Location) (names : List String) (name : String) :
    tree.walkFrom start (names ++ [name]) =
      (tree.walkFrom start names).bind fun next => tree.enter next name := by
  rw [walkFrom, List.foldlM_append]
  refine congrArg (Except.bind (tree.walkFrom start names)) (funext fun next => ?_)
  rw [List.foldlM_cons]
  cases tree.enter next name <;> rfl

theorem walkFrom_cons_eq_ok_iff {start last : Location} {name : String} {names : List String} :
    tree.walkFrom start (name :: names) = .ok last ↔
      ∃ next, tree.enter start name = .ok next ∧ tree.walkFrom next names = .ok last := by
  rw [walkFrom_cons]
  cases tree.enter start name <;> simp [Except.bind]

/-- **A walk that succeeds ends where the names alone lead to.** -/
theorem walk_eq_resolve {workingFolder last : Location} {path : Path}
    (h : tree.walk workingFolder path = .ok last) : last = path.resolve workingFolder := by
  have hnames : ∀ (names : List String) (start : Location),
      tree.walkFrom start names = .ok last → last = names.foldl Path.stepTo start := by
    intro names
    induction names with
    | nil => intro start h; cases h; rfl
    | cons name rest ih =>
        intro start h
        obtain ⟨next, hstep, hrest⟩ := walkFrom_cons_eq_ok_iff.mp h
        rw [ih next hrest, (enter_eq_ok_iff.mp hstep).2.2, List.foldl_cons]
  exact hnames path.names _ h

/-! ### Access -/

/-- A path leads to a place if its names can be looked up and the walk along them succeeds. -/
theorem locate_eq_ok_iff {workingFolder location : Location} {path : Path} :
    tree.locate workingFolder path = .ok location ↔
      path.isNameable = true ∧ path.text.utf8ByteSize ≤ pathLimit ∧
        tree.walk workingFolder path = .ok location := by
  unfold locate
  split
  · next h => simp_all
  · next h =>
      split
      · next hlong => simp [Nat.not_le.mpr hlong]
      · next hshort => simp_all [walk, walkFrom]

/-- A path is too long as a whole, or a name on the way along it is. -/
theorem locate_eq_tooLong_iff {workingFolder : Location} {path : Path} :
    tree.locate workingFolder path = .error .tooLong ↔
      path.isNameable = true ∧ (pathLimit < path.text.utf8ByteSize ∨
        tree.walk workingFolder path = .error .tooLong) := by
  unfold locate
  split
  · next h => simp_all
  · next h =>
      split
      · next hlong => simp_all
      · next hshort =>
          have hnameable : path.isNameable = true := by simpa using h
          simp only [hnameable, hshort, true_and, false_or]
          rfl

/-- Writing puts a file where no folder stands. -/
theorem write_eq_ok_iff {workingFolder : Location} {path : Path} {content : List UInt8}
    {after : FileTree} :
    tree.write workingFolder path content = .ok after ↔
      ∃ location, tree.locate workingFolder path = .ok location ∧
        tree.entry? location ≠ some .folder ∧ after = tree.put location (.file content) := by
  unfold write
  cases hlocate : tree.locate workingFolder path with
  | error cause => simp [bind, Except.bind]
  | ok location =>
      cases hentry : tree.entry? location with
      | none => simp [bind, Except.bind, hentry, eq_comm]
      | some entry => cases entry <;> simp [bind, Except.bind, hentry, eq_comm]

/-! ### More folders -/

theorem Grows.refl (tree : FileTree) : tree.Grows tree :=
  ⟨fun _ _ h => h, fun _ h => .inl h⟩

theorem Grows.trans {more : FileTree} (h : tree.Grows grown) (h' : grown.Grows more) :
    tree.Grows more := by
  refine ⟨fun l e hl => h'.kept l e (h.kept l e hl), fun l hl => ?_⟩
  rcases h.added l hl with hnone | hfolder
  · exact h'.added l hnone
  · exact .inr (h'.kept l _ hfolder)

/-- A walk that succeeds does so with more folders, and ends at the same place. -/
theorem Grows.walk_ok (h : tree.Grows grown) {workingFolder last : Location} {path : Path}
    (hwalk : tree.walk workingFolder path = .ok last) : grown.walk workingFolder path = .ok last := by
  have hnames : ∀ (names : List String) (start : Location),
      tree.walkFrom start names = .ok last → grown.walkFrom start names = .ok last := by
    intro names
    induction names with
    | nil => intro start h; exact h
    | cons name rest ih =>
        intro start hstart
        obtain ⟨next, hstep, hrest⟩ := walkFrom_cons_eq_ok_iff.mp hstart
        obtain ⟨hfolder, hsize, hnext⟩ := enter_eq_ok_iff.mp hstep
        exact walkFrom_cons_eq_ok_iff.mpr ⟨next,
          enter_eq_ok_iff.mpr ⟨h.kept _ _ hfolder, hsize, hnext⟩, ih next hrest⟩
  exact hnames path.names _ hwalk

/-- A walk that fails at something that is there fails in the same way with more folders. -/
theorem Grows.walk_error (h : tree.Grows grown) {workingFolder : Location} {path : Path}
    {cause : DiskCause} (hcause : cause ≠ .missing)
    (hwalk : tree.walk workingFolder path = .error cause) :
    grown.walk workingFolder path = .error cause := by
  have hstep : ∀ (start : Location) (name : String),
      tree.enter start name ≠ .error .missing → grown.enter start name = tree.enter start name := by
    intro start name hname
    -- Only from a place where nothing stands does a step go further in the larger tree.
    cases hentry : tree.entry? start with
    | none => exact absurd (enter_eq_missing_iff.mpr hentry) hname
    | some entry =>
        unfold enter
        rw [hentry, h.kept _ _ hentry]
  have hnames : ∀ (names : List String) (start : Location),
      tree.walkFrom start names = .error cause → grown.walkFrom start names = .error cause := by
    intro names
    induction names with
    | nil => intro start h; cases h
    | cons name rest ih =>
        intro start hstart
        rw [walkFrom_cons] at hstart ⊢
        rw [hstep start name fun hmissing => by
          rw [hmissing] at hstart
          cases hstart
          exact hcause rfl]
        cases hfirst : tree.enter start name with
        | error first => rw [hfirst] at hstart; exact hstart
        | ok next =>
            rw [hfirst] at hstart
            exact ih next hstart
  exact hnames path.names _ hwalk

/-! ### The same folders -/

/-- Walks succeed alike in trees with the same folders. -/
theorem walk_ok_congr (h : tree.SameFolders other) {workingFolder last : Location} {path : Path} :
    tree.walk workingFolder path = .ok last ↔ other.walk workingFolder path = .ok last := by
  have hnames : ∀ (names : List String) (start : Location),
      tree.walkFrom start names = .ok last ↔ other.walkFrom start names = .ok last := by
    intro names
    induction names with
    | nil => intro start; rfl
    | cons name rest ih =>
        intro start
        simp only [walkFrom_cons_eq_ok_iff, enter_eq_ok_iff, h start, ih]
  exact hnames path.names _

/-- Walks meet names that are too long alike in trees with the same folders. -/
theorem walk_tooLong_congr (h : tree.SameFolders other) {workingFolder : Location} {path : Path} :
    tree.walk workingFolder path = .error .tooLong ↔
      other.walk workingFolder path = .error .tooLong := by
  have hcons : ∀ (t : FileTree) (start : Location) (name : String) (names : List String),
      t.walkFrom start (name :: names) = .error .tooLong ↔
        t.enter start name = .error .tooLong ∨
          ∃ next, t.enter start name = .ok next ∧ t.walkFrom next names = .error .tooLong := by
    intro t start name names
    rw [walkFrom_cons]
    cases t.enter start name <;> simp [Except.bind]
  have hnames : ∀ (names : List String) (start : Location),
      tree.walkFrom start names = .error .tooLong ↔
        other.walkFrom start names = .error .tooLong := by
    intro names
    induction names with
    | nil => intro start; rfl
    | cons name rest ih =>
        intro start
        simp only [hcons, enter_eq_ok_iff, enter_eq_tooLong_iff, h start, ih]
  exact hnames path.names _

/-! ### Something new -/

theorem entry?_put (tree : FileTree) (location place : Location) (entry : Entry) :
    entry? (tree.put location entry) place =
      if place = [] then some .folder
      else if place = location then some entry else tree.entry? place := by
  unfold entry? put
  by_cases hroot : place = []
  · simp [hroot]
  · simp [hroot, OrderedMap.find?_insert]

theorem entry?_root (tree : FileTree) : tree.entry? [] = some .folder := rfl

/-- A place where no folder stands is not the root. -/
theorem ne_root_of_entry? {location : Location} (h : tree.entry? location ≠ some .folder) :
    location ≠ [] := by
  rintro rfl
  exact h rfl

/-- A folder where nothing stood is the only thing that is added. -/
theorem grows_put {location : Location} (h : tree.entry? location = none) :
    tree.Grows (tree.put location .folder) := by
  constructor
  · intro place entry hplace
    rw [entry?_put]
    split
    · next hroot => rw [← hplace, hroot]; rfl
    · split
      · next hsame => rw [hsame, h] at hplace; cases hplace
      · exact hplace
  · intro place hplace
    rw [entry?_put]
    split
    · exact .inr rfl
    · split
      · exact .inr rfl
      · exact .inl hplace

/-- A file where no folder stands leaves the folders as they are. -/
theorem sameFolders_put {location : Location} (h : tree.entry? location ≠ some .folder)
    (content : List UInt8) : tree.SameFolders (tree.put location (.file content)) := by
  intro place
  rw [entry?_put]
  split
  · next hroot => rw [hroot]; simp [entry?_root]
  · split
    · next hsame => rw [hsame]; simp [h]
    · exact Iff.rfl

/-- **A tree stays closed when something is put into one of its folders**, unless a folder is
replaced by a file. -/
theorem IsClosed.put (h : tree.IsClosed) {location : Location} {entry : Entry}
    (hfolder : tree.entry? location.dropLast = some .folder)
    (hkept : entry = .folder ∨ tree.entry? location ≠ some .folder) :
    (tree.put location entry).IsClosed := by
  have hstays : ∀ place, tree.entry? place = some .folder →
      entry? (tree.put location entry) place = some .folder := by
    intro place hplace
    rw [entry?_put]
    split
    · rfl
    · split
      · next hsame =>
          rcases hkept with rfl | hno
          · rfl
          · exact absurd (hsame ▸ hplace) hno
      · exact hplace
  intro place hplace
  rw [entry?_put] at hplace
  split at hplace
  · next hroot => rw [hroot]; rfl
  · split at hplace
    · next hsame => rw [hsame]; exact hstays _ hfolder
    · exact hstays _ (h place hplace)

/-- A tree is closed if a folder is around each of its entries. -/
theorem isClosed_iff :
    tree.IsClosed ↔ ∀ location ∈ tree.entries.keys, tree.entry? location.dropLast = some .folder := by
  constructor
  · intro h location hmem
    by_cases hroot : location = []
    · rw [hroot]
      rfl
    · refine h location ?_
      unfold entry?
      rw [if_neg hroot]
      exact mt OrderedMap.find?_eq_none_iff.mp (not_not.mpr hmem)
  · intro h location hentry
    by_cases hroot : location = []
    · rw [hroot]
      rfl
    · unfold entry? at hentry
      rw [if_neg hroot] at hentry
      exact h location (not_not.mp (mt OrderedMap.find?_eq_none_iff.mpr hentry))

instance : Decidable tree.IsClosed := decidable_of_iff _ isClosed_iff.symm

/-- In a closed tree nothing stands where there is no folder around. -/
theorem IsClosed.entry?_eq_none (h : tree.IsClosed) {location : Location} {name : String}
    (hfolder : tree.entry? location ≠ some .folder) : tree.entry? (location ++ [name]) = none := by
  by_contra hsome
  have := h _ hsome
  rw [List.dropLast_concat] at this
  exact hfolder this

end FileTree

end DesignTokens
