import Mathlib.Data.List.Basic

/-!
# Separators

A text that is put together with a separator can be taken apart again, as long as what stands in
front of the separator is free of it. This is what tells the family of a name from its key, the name
of a declaration from its value, and the lines of a text from each other.

## Main Statements

* `Text.append_cons_inj` — a list is parted at the first occurrence of a separator
* `Text.append_separator_inj` — the same for texts
* `Text.intercalate_inj` — lines that are joined by line breaks can be told apart
-/

namespace DesignTokens.Text

universe u

variable {α : Type u} {mark : α}

/-- **A list is parted at the first occurrence of a separator.** -/
theorem append_cons_inj {front front' rest rest' : List α} (hfront : mark ∉ front)
    (hfront' : mark ∉ front') (h : front ++ mark :: rest = front' ++ mark :: rest') :
    front = front' ∧ rest = rest' := by
  induction front generalizing front' with
  | nil =>
      cases front' with
      | nil => exact ⟨rfl, (List.cons.inj h).2⟩
      | cons a tail =>
          have ha : mark = a := (List.cons.inj h).1
          rw [ha] at hfront'
          exact absurd List.mem_cons_self hfront'
  | cons a tail ih =>
      cases front' with
      | nil =>
          have ha : a = mark := (List.cons.inj h).1
          rw [ha] at hfront
          exact absurd List.mem_cons_self hfront
      | cons b tail' =>
          obtain ⟨hab, hrest⟩ := List.cons.inj h
          obtain ⟨htail, hrest⟩ := ih (fun hm => hfront (List.mem_cons_of_mem a hm))
            (fun hm => hfront' (List.mem_cons_of_mem b hm)) hrest
          rw [hab, htail]
          exact ⟨rfl, hrest⟩

/-- The same for texts. Only the first character of the separator matters. -/
theorem append_separator_inj {mark : Char} {tail : List Char} {separator : String}
    (hseparator : separator.toList = mark :: tail) {front front' rest rest' : String}
    (hfront : mark ∉ front.toList) (hfront' : mark ∉ front'.toList)
    (h : front ++ separator ++ rest = front' ++ separator ++ rest') :
    front = front' ∧ rest = rest' := by
  have hlists : front.toList ++ mark :: (tail ++ rest.toList) =
      front'.toList ++ mark :: (tail ++ rest'.toList) := by
    have := congrArg String.toList h
    simpa [String.toList_append, hseparator] using this
  obtain ⟨hfront, hrest⟩ := append_cons_inj hfront hfront' hlists
  rw [List.append_cancel_left_eq] at hrest
  exact ⟨String.toList_injective hfront, String.toList_injective hrest⟩

/-- An empty line between two groups of lines doubles the line break between them. -/
theorem intercalate_append_empty {lines rest : List String} (hne : lines ≠ []) (hrest : rest ≠ []) :
    "\n".intercalate (lines ++ "" :: rest) =
      "\n".intercalate lines ++ "\n\n" ++ "\n".intercalate rest := by
  rw [String.intercalate_append_of_ne_nil hne (List.cons_ne_nil _ _),
    String.intercalate_cons_of_ne_nil hrest]
  simp only [String.append_assoc]
  rfl

/-- Splitting at line breaks takes joined lines apart. -/
theorem splitOn_intercalate {lines : List String} (hne : lines ≠ [])
    (hlines : ∀ line ∈ lines, '\n' ∉ line.toList) :
    List.splitOn '\n' ("\n".intercalate lines).toList = lines.map String.toList := by
  rw [String.toList_intercalate]
  refine List.splitOn_intercalate '\n' ?_ (by simpa using hne)
  intro l hl
  obtain ⟨line, hline, rfl⟩ := List.mem_map.mp hl
  exact hlines line hline

/-- **Lines that are joined by line breaks can be told apart.** -/
theorem intercalate_inj {lines lines' : List String} (hne : lines ≠ []) (hne' : lines' ≠ [])
    (hlines : ∀ line ∈ lines, '\n' ∉ line.toList) (hlines' : ∀ line ∈ lines', '\n' ∉ line.toList)
    (h : "\n".intercalate lines = "\n".intercalate lines') : lines = lines' := by
  have hmaps : lines.map String.toList = lines'.map String.toList := by
    rw [← splitOn_intercalate hne hlines, ← splitOn_intercalate hne' hlines', h]
  exact List.map_injective_iff.mpr (fun _ _ => String.toList_injective) hmaps

end DesignTokens.Text
