import DesignTokens.Disk.Path
import Mathlib.Data.List.Infix

/-!
# Names that stay inside a folder

The names of a relative path may climb out of the folder that it is read from, also if they come
back later. Those that never do so lead to a place inside, whatever the folder is.

## Main Definitions

* `Path.descend` — where names lead to inside a folder, unless they climb out
* `Path.isInner` — a relative path whose names lead to a place strictly inside

## Main Statements

* `Path.foldl_stepTo_of_descend` — names that descend lead inside every folder
* `Path.exists_descend_iff` — these are the only names that do
* `Path.exists_of_isInner` — where an inner path leads to
-/

namespace DesignTokens.Path

/-- Where names lead to inside a folder, from an inner place on; nothing if they climb out. -/
def descend : Location → List String → Option Location
  | inner, [] => some inner
  | inner, name :: rest =>
    if name = upward then
      if inner = [] then none else descend inner.dropLast rest
    else descend (inner ++ [name]) rest

/-- A relative path whose names lead to a place strictly inside the folder that it is read from. -/
def isInner (path : Path) : Bool :=
  decide (path.anchor = .relative) && (descend [] path.names).any fun inner => !inner.isEmpty

variable {inner last : Location} {names : List String}

/-- **Names that descend lead inside every folder.** -/
theorem foldl_stepTo_of_descend (h : descend inner names = some last) (base : Location) :
    names.foldl stepTo (base ++ inner) = base ++ last := by
  induction names generalizing inner with
  | nil =>
      cases h
      rfl
  | cons name rest ih =>
      rw [descend] at h
      rw [List.foldl_cons, stepTo]
      split at h
      · next hup =>
          split at h
          · cases h
          · next hinner => rw [if_pos hup, List.dropLast_append_of_ne_nil hinner, ih h]
      · next hdown => rw [if_neg hdown, List.append_assoc, ih h]

theorem upward_notMem_of_descend (h : descend inner names = some last) (hinner : upward ∉ inner) :
    upward ∉ last := by
  induction names generalizing inner with
  | nil =>
      cases h
      exact hinner
  | cons name rest ih =>
      rw [descend] at h
      split at h
      · split at h
        · cases h
        · exact ih h fun hmem => hinner (List.mem_of_mem_dropLast hmem)
      · next hdown => exact ih h (by simpa [hinner] using fun heq => hdown heq.symm)

/-- Names that lead nowhere upwards are appended. -/
theorem foldl_stepTo_of_notMem (h : upward ∉ names) (base : Location) :
    names.foldl stepTo base = base ++ names := by
  induction names generalizing base with
  | nil => simp
  | cons name rest ih =>
      obtain ⟨hname, hrest⟩ := List.ne_and_not_mem_of_not_mem_cons h
      rw [List.foldl_cons, stepTo, if_neg hname.symm, ih hrest]
      simp

/-- What is passed along names are parts of the start and names. -/
theorem mem_foldl_stepTo {part : String} {start : Location}
    (h : part ∈ names.foldl stepTo start) : part ∈ start ∨ part ∈ names := by
  induction names generalizing start with
  | nil => exact .inl h
  | cons name rest ih =>
      rw [List.foldl_cons] at h
      rcases ih h with h | h
      · unfold stepTo at h
        split at h
        · exact .inl (List.mem_of_mem_dropLast h)
        · rcases List.mem_append.mp h with h | h
          · exact .inl h
          · exact .inr (by simp [List.mem_singleton.mp h])
      · exact .inr (List.mem_cons_of_mem _ h)

/-- Names that climb out of a folder do not come back to it if they do not name it. -/
theorem not_isPrefix_of_descend {base : String} (hbase : base ∉ names)
    (h : descend inner names = none) : ¬ [base] <+: names.foldl stepTo (base :: inner) := by
  induction names generalizing inner with
  | nil => cases h
  | cons name rest ih =>
      obtain ⟨hname, hrest⟩ := List.ne_and_not_mem_of_not_mem_cons hbase
      rw [descend] at h
      rw [List.foldl_cons, stepTo]
      split at h
      · next hup =>
          split at h
          · next hinner =>
              rw [if_pos hup, hinner]
              rintro ⟨tail, htail⟩
              have hmem : base ∈ rest.foldl stepTo [] := by
                rw [show rest.foldl stepTo [] = _ from htail.symm]
                simp
              rcases mem_foldl_stepTo hmem with hnil | hmem
              · cases hnil
              · exact hrest hmem
          · next hinner =>
              rw [if_pos hup, List.dropLast_cons_of_ne_nil hinner]
              exact ih hrest h
      · next hdown =>
          rw [if_neg hdown]
          exact ih hrest h

/-- There is a name that is longer than all of some names. -/
theorem exists_notMem (names : List String) : ∃ name, name ∉ names := by
  have hlong : ∃ length, ∀ name ∈ names, name.length < length := by
    induction names with
    | nil => exact ⟨0, by simp⟩
    | cons name rest ih =>
        obtain ⟨length, hrest⟩ := ih
        refine ⟨length + name.length + 1, List.forall_mem_cons.mpr ⟨by omega, ?_⟩⟩
        intro other hother
        have hshort := hrest other hother
        omega
  obtain ⟨length, hlong⟩ := hlong
  refine ⟨String.ofList (List.replicate length 'a'), fun hmem => ?_⟩
  simpa using hlong _ hmem

/-- **The names that lead inside every folder** are those that descend. -/
theorem exists_descend_iff :
    (∃ last, descend [] names = some last) ↔
      ∀ base : Location, base <+: names.foldl stepTo base := by
  constructor
  · rintro ⟨last, hlast⟩ base
    have hfold := foldl_stepTo_of_descend hlast base
    rw [List.append_nil] at hfold
    exact ⟨last, hfold.symm⟩
  · intro h
    cases hdescend : descend [] names with
    | some last => exact ⟨last, rfl⟩
    | none =>
        obtain ⟨base, hbase⟩ := exists_notMem names
        exact absurd (h [base]) (not_isPrefix_of_descend hbase hdescend)

/-- **An inner path leads inside the folder that it is read from.** -/
theorem exists_of_isInner {path : Path} (h : path.isInner = true) :
    ∃ inner, inner ≠ [] ∧ upward ∉ inner ∧ ∀ (folder : Path) (workingFolder : Location),
      (folder.join path).resolve workingFolder = folder.resolve workingFolder ++ inner := by
  unfold isInner at h
  rw [Bool.and_eq_true, decide_eq_true_eq, Option.any_eq_true] at h
  obtain ⟨hanchor, inner, hdescend, hne⟩ := h
  refine ⟨inner, by simpa using hne, upward_notMem_of_descend hdescend (by simp), ?_⟩
  intro folder workingFolder
  have hfold := foldl_stepTo_of_descend hdescend (folder.resolve workingFolder)
  rw [List.append_nil] at hfold
  rw [← hfold]
  unfold join
  rw [hanchor]
  show List.foldl stepTo _ (folder.names ++ path.names) = _
  rw [List.foldl_append]
  rfl

end DesignTokens.Path
