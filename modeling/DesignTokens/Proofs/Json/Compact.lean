import DesignTokens.Proofs.Json.Collections

/-!
# JSON on one line is read back

A value on one line of ASCII is read back, unless there is an infinite double in it or one that is
no number: the words for these belong to no JSON text. What is read back is the value itself, but
for objects that have a name twice, of which only the last member of the name is read.

## Main Definitions

* `Json.reread?` — what a value on one line is read as, if it is

## Main Statements

* `Json.read?_compact` — **what is read of a value on one line**
* `Json.isSome_reread?` — standard values are read, and no others
* `Json.reread?_object` — an object whose names are all different is read member by member
-/

namespace DesignTokens.Json

open Number

mutual

/-- What a value on one line is read as. -/
def reread? : Json → Option Json
  | float x => if x.isFinite then some (float x) else none
  | array items => (rereadItems? items).map array
  | object members => (rereadMembers? members).map ofMembers
  | other => some other

/-- What the items of an array are read as. -/
def rereadItems? : List Json → Option (List Json)
  | [] => some []
  | item :: rest => (reread? item).bind fun found => (rereadItems? rest).map (found :: ·)

/-- What the members of an object are read as. -/
def rereadMembers? : List (String × Json) → Option (List (String × Json))
  | [] => some []
  | (name, value) :: rest =>
    (reread? value).bind fun found => (rereadMembers? rest).map ((name, found) :: ·)

end

theorem rereadItems?_eq_mapM (items : List Json) : rereadItems? items = items.mapM reread? := by
  induction items with
  | nil => rfl
  | cons item rest ih =>
      rw [rereadItems?, ih, List.mapM_cons]
      cases reread? item <;> cases rest.mapM reread? <;> rfl

theorem rereadMembers?_eq_mapM (members : List (String × Json)) :
    rereadMembers? members = members.mapM (memberResult reread?) := by
  induction members with
  | nil => rfl
  | cons member rest ih =>
      obtain ⟨name, value⟩ := member
      rw [rereadMembers?, ih, List.mapM_cons, memberResult]
      cases reread? value <;> cases rest.mapM (memberResult reread?) <;> rfl

/-! ### Parts on one line -/

/-- All parts on one line, with a blank behind each comma. -/
def Layout.line : Layout where
  opening := ""
  between := " "
  closing := ""
  opening_blank := by simp
  between_blank := by simp [isSpace]
  closing_blank := by simp

theorem intercalate_eq_join (parts : List String) :
    ", ".intercalate parts = Layout.line.join parts := by
  show _ = "" ++ (", ".intercalate parts ++ "")
  rw [String.append_empty, String.empty_append]

theorem compactItems_eq_map (items : List Json) : compactItems items = items.map compact := by
  induction items with
  | nil => rfl
  | cons item rest ih => rw [compactItems, ih, List.map_cons]

theorem compactMembers_eq_map (members : List (String × Json)) :
    compactMembers members = members.map (memberText escapeAscii compact) := by
  induction members with
  | nil => rfl
  | cons member rest ih =>
      obtain ⟨name, value⟩ := member
      rw [compactMembers, ih, List.map_cons]
      rfl

mutual

/-- **A value on one line inside of a text is read to its end**, or refused. -/
theorem reads_compact : ∀ json : Json, Reads json.compact json.reread?
  | null => isScalarText_null.reads_text
  | bool b => (isScalarText_bool b).reads_text
  | int n => (isScalarText_intText n).reads_text
  | float x => reads_floatText x
  | string s => reads_quote escapes_escapeAscii s
  | array [] => reads_array_nil
  | array (item :: items) => by
      have hread := reads_array Layout.line (List.cons_ne_nil item items)
        fun json hjson => reads_compactItems (item :: items) json hjson
      rwa [compact, reread?, compactItems_eq_map, intercalate_eq_join, rereadItems?_eq_mapM]
  | object [] => reads_object_nil
  | object (member :: members) => by
      have hread := reads_object Layout.line escapes_escapeAscii (List.cons_ne_nil member members)
        fun other hother => reads_compactMembers (member :: members) other hother
      rwa [compact, reread?, compactMembers_eq_map, intercalate_eq_join, rereadMembers?_eq_mapM]

/-- Items on one line are read to their ends. -/
theorem reads_compactItems : ∀ items : List Json, ∀ item ∈ items, Reads item.compact item.reread?
  | [] => List.forall_mem_nil _
  | item :: rest => List.forall_mem_cons.mpr ⟨reads_compact item, reads_compactItems rest⟩

/-- The values of members on one line are read to their ends. -/
theorem reads_compactMembers : ∀ members : List (String × Json), ∀ member ∈ members,
    Reads member.2.compact member.2.reread?
  | [] => List.forall_mem_nil _
  | (_, value) :: rest => List.forall_mem_cons.mpr ⟨reads_compact value, reads_compactMembers rest⟩

end

/-- **What is read of a value on one line.** -/
theorem read?_compact (json : Json) : read? json.compact = json.reread? :=
  read?_of_reads (reads_compact json)

mutual

/-- **Standard values are read, and no others.** -/
theorem isSome_reread? : ∀ json : Json, json.reread?.isSome = json.isStandard
  | null | bool _ | int _ | string _ => rfl
  | float x => by
      rw [reread?, isStandard]
      cases x.isFinite <;> rfl
  | array items => by rw [reread?, isStandard, Option.isSome_map, isSome_rereadItems? items]
  | object members => by
      rw [reread?, isStandard, Option.isSome_map, isSome_rereadMembers? members]

/-- Items are read if all of them are standard. -/
theorem isSome_rereadItems? : ∀ items : List Json, (rereadItems? items).isSome = areStandard items
  | [] => rfl
  | item :: rest => by
      rw [rereadItems?, areStandard, ← isSome_reread? item, ← isSome_rereadItems? rest]
      cases item.reread? <;> simp

/-- Members are read if the values of all of them are standard. -/
theorem isSome_rereadMembers? : ∀ members : List (String × Json),
    (rereadMembers? members).isSome = membersAreStandard members
  | [] => rfl
  | (_, value) :: rest => by
      rw [rereadMembers?, membersAreStandard, ← isSome_reread? value, ← isSome_rereadMembers? rest]
      cases value.reread? <;> simp

end

/-- Members keep their names. -/
theorem map_fst_rereadMembers? {members found : List (String × Json)}
    (h : rereadMembers? members = some found) : found.map Prod.fst = members.map Prod.fst := by
  induction members generalizing found with
  | nil =>
      rw [rereadMembers?] at h
      cases h
      rfl
  | cons member rest ih =>
      obtain ⟨name, value⟩ := member
      rw [rereadMembers?] at h
      obtain ⟨first, -, hrest⟩ := Option.bind_eq_some_iff.mp h
      obtain ⟨more, hmore, rfl⟩ := Option.map_eq_some_iff.mp hrest
      rw [List.map_cons, List.map_cons, ih hmore]

/-- **An object whose names are all different is read member by member.** -/
theorem reread?_object {members : List (String × Json)} (h : (members.map Prod.fst).Nodup) :
    (object members).reread? = (rereadMembers? members).map object := by
  rw [reread?]
  cases hfound : rereadMembers? members with
  | none => rfl
  | some found =>
      rw [← map_fst_rereadMembers? hfound] at h
      rw [Option.map_some, Option.map_some, ofMembers_of_nodup h]

/-! ### Standard values -/

theorem areStandard_map {α : Type} {f : α → Json} (h : ∀ a, (f a).isStandard = true)
    (l : List α) : areStandard (l.map f) = true := by
  induction l with
  | nil => rfl
  | cons a rest ih => rw [List.map_cons, areStandard, h a, ih, Bool.and_self]

theorem isStandard_ofStrings (members : List (String × String)) :
    (ofStrings members).isStandard = true := by
  rw [ofStrings, isStandard]
  induction members with
  | nil => rfl
  | cons member rest ih =>
      rw [List.map_cons, membersAreStandard, ih]
      rfl

end DesignTokens.Json
