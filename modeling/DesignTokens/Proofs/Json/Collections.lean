import DesignTokens.Proofs.Json.Scalars

/-!
# Arrays and objects are read part by part

An array or an object is read to its end if its items, or the values of its members, are. What is
read of it is made of what is read of the parts, and if one of these is refused so is the whole.
This depends neither on how the parts are written nor on the blanks between them, so it holds of
objects on one line and of objects that are indented.

## Main Definitions

* `Json.Layout` — the blanks between the parts of an array or an object
* `Json.memberText` — a member of an object
* `Json.Reader.Collector` — how parts are read one after the other

## Main Statements

* `Json.Reader.run_parts` — **parts are read up to the closing bracket**, be they items or members
* `Json.reads_array`, `Json.reads_object` — arrays and objects are read part by part
* `Json.read?_of_reads` — a text that is read as a value is the text of the value
-/

namespace DesignTokens.Json

open Number Text

/-- The blanks around the parts of an array or an object, and what separates two parts. -/
structure Layout where
  /-- What stands behind the opening bracket. -/
  opening : String
  /-- What follows the comma between two parts. -/
  between : String
  /-- What stands in front of the closing bracket. -/
  closing : String
  /-- There are only blanks behind the opening bracket. -/
  opening_blank : ∀ c ∈ opening.toList, isSpace c = true
  /-- There are only blanks behind a comma. -/
  between_blank : ∀ c ∈ between.toList, isSpace c = true
  /-- There are only blanks in front of the closing bracket. -/
  closing_blank : ∀ c ∈ closing.toList, isSpace c = true

namespace Layout

/-- Parts in a layout. -/
def join (layout : Layout) (parts : List String) : String :=
  layout.opening ++ ((("," ++ layout.between).intercalate parts) ++ layout.closing)

theorem toList_join (layout : Layout) (parts : List String) :
    (layout.join parts).toList = layout.opening.toList ++
      ((("," ++ layout.between).intercalate parts).toList ++ layout.closing.toList) := by
  rw [join, String.toList_append, String.toList_append]

end Layout

/-- A member of an object. -/
def memberText (escape : Char → List Char) (text : Json → String) (member : String × Json) :
    String :=
  quote escape member.1 ++ ": " ++ text member.2

/-- What is read of a member, given what is read of its value. -/
def memberResult (result : Json → Option Json) (member : String × Json) :
    Option (String × Json) :=
  (result member.2).map (member.1, ·)

theorem endsScalar_comma (rest : List Char) : EndsScalar (",".toList ++ rest) := by
  intro c hc
  cases hc
  rfl

/-- Blanks end a word or a number, and so does a bracket behind them. -/
theorem endsScalar_closing {blanks : List Char} (h : ∀ c ∈ blanks, isSpace c = true)
    {bracket : Char} (hbracket : endsScalar bracket = true) (rest : List Char) :
    EndsScalar (blanks ++ bracket :: rest) := by
  intro c hc
  cases blanks with
  | nil =>
      cases hc
      exact hbracket
  | cons d more =>
      cases hc
      rw [endsScalar, h c List.mem_cons_self]
      rfl

namespace Reader

variable {frames : List Frame}

/-- Blanks that a place does not care for are passed. -/
theorem run_blanks {blanks : List Char} (h : ∀ c ∈ blanks, isSpace c = true) (rest : List Char)
    {reader : Reader} (hstep : ∀ c, isSpace c = true → reader.step c = some reader) :
    run (blanks ++ rest) reader = run rest reader := by
  induction blanks with
  | nil => rfl
  | cons c more ih =>
      obtain ⟨hc, hmore⟩ := List.forall_mem_cons.mp h
      rw [List.cons_append, run_cons, hstep c hc, Option.bind_some, ih hmore]

/-- How the parts of an array or an object are read, one after the other. The parts in front are
kept with the last one first. -/
structure Collector (β : Type) where
  /-- A part is expected, or the end of what has no parts. -/
  waiting : List β → Bool → Reader
  /-- A part has been read. -/
  behind : List β → β → Reader
  /-- All parts have been read. -/
  closed : List β → Reader
  /-- The closing bracket. -/
  bracket : Char
  waiting_blank : ∀ before mayClose c, isSpace c = true →
    (waiting before mayClose).step c = some (waiting before mayClose)
  behind_blank : ∀ before part c, isSpace c = true →
    (behind before part).step c = some (behind before part)
  behind_comma : ∀ before part,
    (behind before part).step ',' = some (waiting (part :: before) false)
  behind_bracket : ∀ before part,
    (behind before part).step bracket = some (closed (part :: before))
  bracket_ends : endsScalar bracket = true

/-- The items of an array. -/
def itemCollector (frames : List Frame) : Collector Json where
  waiting before mayClose := ⟨.array before :: frames, .value mayClose⟩
  behind before item := ⟨.array before :: frames, .done item⟩
  closed items := ⟨frames, .done (.array items.reverse)⟩
  bracket := ']'
  waiting_blank _ _ _ hc := if_pos hc
  behind_blank _ _ _ hc := if_pos hc
  behind_comma _ _ := rfl
  behind_bracket _ _ := rfl
  bracket_ends := rfl

/-- The members of an object. -/
def memberCollector (frames : List Frame) : Collector (String × Json) where
  waiting before mayClose := ⟨frames, .name before mayClose⟩
  behind before member := ⟨.object before member.1 :: frames, .done member.2⟩
  closed members := ⟨frames, .done (ofMembers members.reverse)⟩
  bracket := '}'
  waiting_blank _ _ _ hc := if_pos hc
  behind_blank _ _ _ hc := if_pos hc
  behind_comma _ _ := rfl
  behind_bracket _ _ := rfl
  bracket_ends := rfl

section Parts

variable {α β : Type} {partText : α → String} {partResult : α → Option β}

/-- A part is read to its end, or refused, wherever one is expected. -/
def Collector.ReadsPart (collector : Collector β) (text : String) (result : Option β) : Prop :=
  ∀ (before : List β) (mayClose : Bool) (rest : List Char), EndsScalar rest →
    run (text.toList ++ rest) (collector.waiting before mayClose) =
      result.bind fun part => run rest (collector.behind before part)

/-- **Parts, of which there is at least one, are read up to the closing bracket.** -/
theorem run_parts (layout : Layout) (collector : Collector β) {first : α} {parts : List α}
    (h : ∀ part ∈ first :: parts, collector.ReadsPart (partText part) (partResult part))
    (before : List β) (mayClose : Bool) (rest : List Char) :
    run ((("," ++ layout.between).intercalate ((first :: parts).map partText)).toList ++
        (layout.closing.toList ++ collector.bracket :: rest)) (collector.waiting before mayClose) =
      ((first :: parts).mapM partResult).bind fun found =>
        run rest (collector.closed (found.reverse ++ before)) := by
  -- The part in front is read first, so the induction is on those behind it, with any in front.
  induction parts generalizing first before mayClose with
  | nil =>
      have hfirst := (List.forall_mem_cons.mp h).1
      rw [List.map_singleton, String.intercalate_singleton,
        hfirst _ _ _ (endsScalar_closing layout.closing_blank collector.bracket_ends rest)]
      cases hresult : partResult first with
      | none => simp [hresult]
      | some found =>
          rw [Option.bind_some,
            run_blanks layout.closing_blank _ (collector.behind_blank before found), run_cons,
            collector.behind_bracket]
          simp [hresult]
  | cons next parts ih =>
      obtain ⟨hfirst, hparts⟩ := List.forall_mem_cons.mp h
      rw [List.map_cons, List.map_cons, String.intercalate_cons_cons, ← List.map_cons]
      simp only [String.toList_append, List.append_assoc]
      rw [hfirst _ _ _ (endsScalar_comma _), List.mapM_cons]
      cases hresult : partResult first with
      | none => rfl
      | some found =>
          rw [Option.bind_some]
          show run (',' :: (layout.between.toList ++ _)) (collector.behind before found) = _
          rw [run_cons, collector.behind_comma, Option.bind_some,
            run_blanks layout.between_blank _ (collector.waiting_blank (found :: before) false),
            ih hparts (found :: before) false]
          simp [Option.bind_assoc]

/-- The same with the blanks around the parts. -/
theorem run_join (layout : Layout) (collector : Collector β) {parts : List α} (hne : parts ≠ [])
    (h : ∀ part ∈ parts, collector.ReadsPart (partText part) (partResult part))
    (rest : List Char) :
    run ((layout.join (parts.map partText)).toList ++ collector.bracket :: rest)
        (collector.waiting [] true) =
      (parts.mapM partResult).bind fun found => run rest (collector.closed found.reverse) := by
  obtain ⟨first, more, rfl⟩ := List.exists_cons_of_ne_nil hne
  rw [Layout.toList_join]
  simp only [List.append_assoc]
  rw [run_blanks layout.opening_blank _ (collector.waiting_blank [] true)]
  simpa only [List.append_nil] using run_parts layout collector h [] true rest

end Parts

variable {escape : Char → List Char} {text : Json → String} {result : Json → Option Json}

/-- An item is a value. -/
theorem readsPart_item {text : String} {result : Option Json} (h : Reads text result) :
    (itemCollector frames).ReadsPart text result := fun _ mayClose rest hrest =>
  h _ mayClose rest hrest

/-- A member is read from its name to the end of its value. -/
theorem readsPart_member (hescape : ∀ c, Escapes c (escape c)) {member : String × Json}
    (h : Reads (text member.2) (result member.2)) :
    (memberCollector frames).ReadsPart (memberText escape text member)
      (memberResult result member) := by
  intro before mayClose rest hrest
  simp only [memberText, String.toList_append, List.append_assoc]
  show run _ ⟨frames, .name before mayClose⟩ = _
  rw [run_quote_name hescape, memberResult, Option.bind_map]
  show run ((text member.2).toList ++ rest) ⟨.object before member.1 :: frames, .value false⟩ = _
  exact h _ _ _ hrest

end Reader

/-! ### Values -/

section Values

variable {escape : Char → List Char} {text : Json → String} {result : Json → Option Json}

theorem reads_quote (hescape : ∀ c, Escapes c (escape c)) (s : String) :
    Reads (quote escape s) (some (string s)) := fun _ mayClose rest _ =>
  Reader.run_quote_value hescape s mayClose rest

theorem reads_array_nil : Reads "[]" (some (array [])) := fun _ _ _ _ => rfl

theorem reads_object_nil : Reads "\x7b\x7d" (some (object [])) := fun _ _ _ _ => rfl

/-- **An array is read item by item.** -/
theorem reads_array (layout : Layout) {items : List Json} (hne : items ≠ [])
    (h : ∀ item ∈ items, Reads (text item) (result item)) :
    Reads ("[" ++ layout.join (items.map text) ++ "]") ((items.mapM result).map array) := by
  intro frames mayClose rest _
  have hitems := Reader.run_join layout (Reader.itemCollector frames) hne
    (fun item hitem => Reader.readsPart_item (h item hitem)) rest
  rw [String.toList_append, String.toList_append, List.append_assoc, List.append_assoc]
  refine hitems.trans ?_
  simp [Reader.itemCollector, Option.bind_map]

/-- **An object is read member by member.** -/
theorem reads_object (layout : Layout) (hescape : ∀ c, Escapes c (escape c))
    {members : List (String × Json)} (hne : members ≠ [])
    (h : ∀ member ∈ members, Reads (text member.2) (result member.2)) :
    Reads ("\x7b" ++ layout.join (members.map (memberText escape text)) ++ "\x7d")
      ((members.mapM (memberResult result)).map ofMembers) := by
  intro frames mayClose rest _
  have hmembers := Reader.run_join layout (Reader.memberCollector frames) hne
    (fun member hmember => Reader.readsPart_member hescape (h member hmember)) rest
  rw [String.toList_append, String.toList_append, List.append_assoc, List.append_assoc]
  refine hmembers.trans ?_
  simp [Reader.memberCollector, Option.bind_map]

end Values

/-- Members that all have different names are those of their object. -/
theorem ofMembers_of_nodup {members : List (String × Json)} (h : (members.map Prod.fst).Nodup) :
    ofMembers members = object members := by
  rw [ofMembers, OrderedMap.entries_ofList h]

/-- **A text that is read as a value is the text of the value.** -/
theorem read?_of_reads {text : String} {result : Option Json} (h : Reads text result) :
    read? text = result := by
  have hend : EndsScalar [] := fun _ hc => by cases hc
  have hvalue := h [] false [] hend
  rw [List.append_nil] at hvalue
  refine hvalue.trans ?_
  cases result <;> rfl

end DesignTokens.Json
