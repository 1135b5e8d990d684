import DesignTokens.Proofs.Json.Collections

/-!
# Indented JSON is read back

A value that is written with one member or item a line is read back as the same value, if its
doubles come back from their texts and no object has a name twice: blanks between the parts count
for nothing.

## Main Definitions

* `Json.IsLegible` — a value whose numbers come back, and whose objects have no name twice
* `Json.Layout.lines` — one part a line

## Main Statements

* `Json.reads_indentedAt` — a legible value inside of a text is read to its end
* `Json.read?_indented` — a legible value is read back

## Design Notes

What is proved of a value says nothing of what is around it, so it holds for all frames, and for
every rest of the text that may follow a value.
-/

namespace DesignTokens.Json

open Number Text

mutual

/-- A value whose doubles come back from their texts, and whose objects have no name twice. -/
def IsLegible : Json → Prop
  | float x => IsScalarText (floatText x).toList (float x)
  | array items => AreLegible items
  | object members => (members.map Prod.fst).Nodup ∧ MembersAreLegible members
  | _ => True

/-- Items that are legible. -/
def AreLegible : List Json → Prop
  | [] => True
  | item :: rest => IsLegible item ∧ AreLegible rest

/-- Members whose values are legible. -/
def MembersAreLegible : List (String × Json) → Prop
  | [] => True
  | (_, value) :: rest => IsLegible value ∧ MembersAreLegible rest

end

/-! ### Parts on their own lines -/

theorem isSpace_of_mem_lineBreak {level : Nat} :
    ∀ c ∈ (lineBreak level).toList, isSpace c = true := by
  intro c hc
  rw [lineBreak, String.toList_ofList] at hc
  rcases List.mem_cons.mp hc with rfl | hc
  · rfl
  · rw [List.eq_of_mem_replicate hc]
    rfl

/-- One part a line, with the brackets at a level of indentation. -/
def Layout.lines (level : Nat) : Layout where
  opening := lineBreak (level + 1)
  between := lineBreak (level + 1)
  closing := lineBreak level
  opening_blank := isSpace_of_mem_lineBreak
  between_blank := isSpace_of_mem_lineBreak
  closing_blank := isSpace_of_mem_lineBreak

theorem bracketed_eq_join (opening closing : String) (level : Nat) {parts : List String}
    (h : parts ≠ []) :
    bracketed opening closing level parts =
      opening ++ (Layout.lines level).join parts ++ closing := by
  have hparts : parts.isEmpty = false := List.isEmpty_eq_false_iff.mpr h
  rw [bracketed, hparts, if_neg Bool.false_ne_true]
  simp only [Layout.join, Layout.lines, String.append_assoc]

theorem indentedItems_eq_map (level : Nat) (items : List Json) :
    indentedItems level items = items.map (indentedAt level) := by
  induction items with
  | nil => rfl
  | cons item rest ih => rw [indentedItems, ih, List.map_cons]

theorem indentedMembers_eq_map (level : Nat) (members : List (String × Json)) :
    indentedMembers level members = members.map (memberText escapeControl (indentedAt level)) := by
  induction members with
  | nil => rfl
  | cons member rest ih =>
      obtain ⟨name, value⟩ := member
      rw [indentedMembers, ih, List.map_cons]
      rfl

/-- Items that are read are read as themselves, all of them. -/
theorem mapM_some (items : List Json) : items.mapM some = some items := by
  induction items with
  | nil => rfl
  | cons item rest ih => simp [ih]

theorem mapM_memberResult_some (members : List (String × Json)) :
    members.mapM (memberResult some) = some members := by
  induction members with
  | nil => rfl
  | cons member rest ih => simp [memberResult, ih]

mutual

/-- **A legible value inside of a text is read to its end.** -/
theorem reads_indentedAt : ∀ json : Json, IsLegible json → ∀ level,
    Reads (indentedAt level json) (some json)
  | null, _, _ => isScalarText_null.reads_text
  | bool b, _, _ => (isScalarText_bool b).reads_text
  | int n, _, _ => (isScalarText_intText n).reads_text
  | float _, h, _ => IsScalarText.reads_text h
  | string s, _, _ => reads_quote escapes_escapeControl s
  | array [], _, _ => reads_array_nil
  | array (item :: items), h, level => by
      have hne : item :: items ≠ [] := List.cons_ne_nil _ _
      have hread := reads_array (Layout.lines level) hne
        fun json hjson => reads_indentedItems (item :: items) h (level + 1) json hjson
      rw [mapM_some, Option.map_some] at hread
      rwa [indentedAt, indentedItems_eq_map,
        bracketed_eq_join _ _ _ (mt List.map_eq_nil_iff.mp hne)]
  | object [], _, _ => reads_object_nil
  | object (member :: members), h, level => by
      have hne : member :: members ≠ [] := List.cons_ne_nil _ _
      have hread := reads_object (Layout.lines level) escapes_escapeControl hne
        fun other hother => reads_indentedMembers (member :: members) h.2 (level + 1) other hother
      rw [mapM_memberResult_some, Option.map_some, ofMembers_of_nodup h.1] at hread
      rwa [indentedAt, indentedMembers_eq_map,
        bracketed_eq_join _ _ _ (mt List.map_eq_nil_iff.mp hne)]

/-- Legible items are read to their ends. -/
theorem reads_indentedItems : ∀ items : List Json, AreLegible items → ∀ level, ∀ item ∈ items,
    Reads (indentedAt level item) (some item)
  | [], _, _ => List.forall_mem_nil _
  | item :: rest, h, level =>
      List.forall_mem_cons.mpr ⟨reads_indentedAt item h.1 level, reads_indentedItems rest h.2 level⟩

/-- The values of legible members are read to their ends. -/
theorem reads_indentedMembers : ∀ members : List (String × Json), MembersAreLegible members →
    ∀ level, ∀ member ∈ members, Reads (indentedAt level member.2) (some member.2)
  | [], _, _ => List.forall_mem_nil _
  | (_, value) :: rest, h, level =>
      List.forall_mem_cons.mpr
        ⟨reads_indentedAt value h.1 level, reads_indentedMembers rest h.2 level⟩

end

/-- **A legible value is read back from its indented text.** -/
theorem read?_indented {json : Json} (h : IsLegible json) : read? json.indented = some json :=
  read?_of_reads (reads_indentedAt json h 0)

/-- An object of strings is legible if no name comes twice. -/
theorem isLegible_ofStrings {members : List (String × String)}
    (h : (members.map Prod.fst).Nodup) : IsLegible (ofStrings members) := by
  have hnames : (members.map fun e => (e.1, string e.2)).map Prod.fst = members.map Prod.fst := by
    rw [List.map_map]
    rfl
  have hvalues : ∀ members : List (String × String),
      MembersAreLegible (members.map fun e => (e.1, string e.2)) := by
    intro members
    induction members with
    | nil => exact trivial
    | cons e rest ih => exact ⟨trivial, ih⟩
  exact ⟨hnames ▸ h, hvalues members⟩

end DesignTokens.Json
