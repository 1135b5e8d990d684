import DesignTokens.Proofs.Stylesheet.Cascade

/-!
# Reading a stylesheet back

The text of a stylesheet determines what is declared in it. Its lines can be told apart because no
key and no value breaks a line, a block ends at the first line with a closing brace, a line is parted
at its first colon, and a name at its first hyphen. From the declarations the tokens of the theme
follow: a family belongs to one scale, and of the colors the last ones are the aliases, as many as
the light mode has backgrounds.

## Main Definitions

* `Declaration.written` — what a declaration puts into its line
* `Stylesheet.lines` — the lines of a stylesheet
* `Theme.HasPlainTokens` — keys and values that keep to their line
* `Theme.resolvedTokens` — the tokens of a scale with the literals that they stand for

## Main Statements

* `Declaration.written_eq_of_line_eq` — a line determines its declaration
* `Stylesheet.written_eq_of_render_eq` — the text determines the declarations of each block
* `Theme.tokens_eq_of_css_eq` — the text determines the tokens of the theme
-/

namespace DesignTokens

/-! ### Lines -/

/-- What a declaration puts into its line: the property and the text of its value. -/
def Declaration.written (d : Declaration) : Property × String := (d.property, d.value.text)

/-- A key that neither breaks its line nor has a colon. -/
def IsPlainKey (key : String) : Prop := ':' ∉ key.toList ∧ '\n' ∉ key.toList

instance (key : String) : Decidable (IsPlainKey key) := inferInstanceAs (Decidable (_ ∧ _))

/-- A declaration that keeps to its line and whose value starts after the first colon. -/
structure Declaration.IsPlain (d : Declaration) : Prop where
  /-- The key is plain. -/
  key : IsPlainKey d.property.key
  /-- The value does not break the line. -/
  value : '\n' ∉ d.value.text.toList

/-- A character that no stem has and that is no hyphen stands in a name only if it is in the key. -/
theorem Property.notMem_name {p : Property} {c : Char} (hstem : ∀ f : Family, c ∉ f.stem.toList)
    (hhyphen : c ≠ '-') (hkey : c ∉ p.key.toList) : c ∉ p.name.toList := by
  simp [Property.name, String.toList_append, hstem, hhyphen, hkey]

theorem Declaration.IsPlain.colon_notMem_name {d : Declaration} (h : d.IsPlain) :
    ':' ∉ d.property.name.toList :=
  Property.notMem_name (fun f => by cases f <;> decide) (by decide) h.key.1

theorem Declaration.IsPlain.newline_notMem_line {d : Declaration} (h : d.IsPlain) :
    '\n' ∉ d.line.toList := by
  have hname : '\n' ∉ d.property.name.toList :=
    Property.notMem_name (fun f => by cases f <;> decide) (by decide) h.key.2
  simp [Declaration.line, String.toList_append, hname, h.value]

/-- **A line determines its declaration**, but for the kind of its value. -/
theorem Declaration.written_eq_of_line_eq {d e : Declaration} (hd : d.IsPlain) (he : e.IsPlain)
    (h : d.line = e.line) : d.written = e.written := by
  have hfront : ∀ {x : Declaration}, x.IsPlain → ':' ∉ ("  --" ++ x.property.name).toList := by
    intro x hx
    simp [String.toList_append, hx.colon_notMem_name]
  have hparts : "  --" ++ d.property.name ++ ": " ++ (d.value.text ++ ";") =
      "  --" ++ e.property.name ++ ": " ++ (e.value.text ++ ";") := by
    simpa only [Declaration.line, String.append_assoc] using h
  have hcolon : ": ".toList = ':' :: [' '] := rfl
  obtain ⟨hname, hvalue⟩ := Text.append_separator_inj hcolon (hfront hd) (hfront he) hparts
  have hproperty : d.property = e.property :=
    Property.name_injective ((String.append_right_inj _).mp hname)
  exact Prod.ext hproperty ((String.append_left_inj _).mp hvalue)

namespace Stylesheet

/-- The lines between the braces of a block. An empty block has one empty line. -/
def bodyLines (block : List Declaration) : List String :=
  if block.isEmpty then [""] else block.map Declaration.line

/-- The lines of a block. -/
def blockLines (selector : String) (block : List Declaration) : List String :=
  (selector ++ " \x7b") :: (bodyLines block ++ ["\x7d"])

/-- The lines of a stylesheet. -/
def lines (sheet : Stylesheet) : List String :=
  blockLines ":root" sheet.light ++ "" :: (blockLines ".dark" sheet.dark ++
    "" :: blockLines "@theme" sheet.base)

theorem bodyLines_ne_nil (block : List Declaration) : bodyLines block ≠ [] := by
  unfold bodyLines
  cases block <;> simp

theorem intercalate_bodyLines (block : List Declaration) :
    "\n".intercalate (bodyLines block) = "\n".intercalate (block.map Declaration.line) := by
  unfold bodyLines
  cases block <;> rfl

/-- The text of a block is that of its lines. -/
theorem renderBlock_eq (selector : String) (block : List Declaration) :
    renderBlock selector block = "\n".intercalate (blockLines selector block) := by
  have hbody := bodyLines_ne_nil block
  rw [blockLines, String.intercalate_cons_of_ne_nil (by simp),
    String.intercalate_append_of_ne_nil hbody (by simp), intercalate_bodyLines,
    String.intercalate_singleton, renderBlock]
  simp only [String.append_assoc]
  rfl

/-- The text of a stylesheet is that of its lines. -/
theorem render_eq (sheet : Stylesheet) : sheet.render = "\n".intercalate sheet.lines := by
  have hblock : ∀ selector block, blockLines selector block ≠ [] :=
    fun selector block => List.cons_ne_nil _ _
  rw [lines, Text.intercalate_append_empty (hblock _ _) (by simp [blockLines]),
    Text.intercalate_append_empty (hblock _ _) (hblock _ _), ← renderBlock_eq, ← renderBlock_eq,
    ← renderBlock_eq, render]
  simp only [String.intercalate_cons_cons, String.intercalate_singleton, String.append_assoc]

/-! ### From lines to declarations -/

/-- A stylesheet whose declarations keep to their lines. -/
structure IsPlain (sheet : Stylesheet) : Prop where
  /-- Those of the light mode do. -/
  light : ∀ d ∈ sheet.light, d.IsPlain
  /-- Those of the dark mode do. -/
  dark : ∀ d ∈ sheet.dark, d.IsPlain
  /-- Those of either mode do. -/
  base : ∀ d ∈ sheet.base, d.IsPlain

theorem newline_notMem_blockLines {selector : String} (hselector : '\n' ∉ selector.toList)
    {block : List Declaration} (h : ∀ d ∈ block, d.IsPlain) :
    ∀ line ∈ blockLines selector block, '\n' ∉ line.toList := by
  have hbody : ∀ line ∈ bodyLines block, '\n' ∉ line.toList := by
    intro line hline
    unfold bodyLines at hline
    split at hline
    · rw [List.mem_singleton.mp hline]
      decide
    · obtain ⟨d, hd, rfl⟩ := List.mem_map.mp hline
      exact (h d hd).newline_notMem_line
  intro line hline
  rcases List.mem_cons.mp hline with rfl | hline
  · simp [String.toList_append, hselector]
  rcases List.mem_append.mp hline with hline | hline
  · exact hbody line hline
  · rw [List.mem_singleton.mp hline]
    decide

theorem IsPlain.newline_notMem_lines {sheet : Stylesheet} (h : sheet.IsPlain) :
    ∀ line ∈ sheet.lines, '\n' ∉ line.toList := by
  intro line hline
  simp only [lines, List.mem_append, List.mem_cons] at hline
  rcases hline with hline | rfl | hline | rfl | hline
  · exact newline_notMem_blockLines (by decide) h.light line hline
  · decide
  · exact newline_notMem_blockLines (by decide) h.dark line hline
  · decide
  · exact newline_notMem_blockLines (by decide) h.base line hline

/-- The line of a declaration starts with a blank, so it is neither empty nor a closing brace. -/
theorem line_ne {d : Declaration} {line : String} (h : line.toList.head? ≠ some ' ') :
    d.line ≠ line := by
  rintro rfl
  simp [Declaration.line, String.toList_append] at h

theorem brace_notMem_bodyLines (block : List Declaration) : "\x7d" ∉ bodyLines block := by
  intro h
  unfold bodyLines at h
  split at h
  · simp at h
  · obtain ⟨d, -, hd⟩ := List.mem_map.mp h
    exact line_ne (by decide) hd

/-- **A block ends at the first closing brace**, whatever follows. -/
theorem blockLines_append_inj {selector : String} {block other : List Declaration}
    {rest rest' : List String}
    (h : blockLines selector block ++ rest = blockLines selector other ++ rest') :
    bodyLines block = bodyLines other ∧ rest = rest' := by
  simp only [blockLines, List.cons_append, List.append_assoc, List.cons.injEq,
    true_and] at h
  exact Text.append_cons_inj (brace_notMem_bodyLines block) (brace_notMem_bodyLines other) h

/-- The lines of declarations determine what is declared. -/
theorem written_eq_of_map_line_eq {block other : List Declaration} (h : ∀ d ∈ block, d.IsPlain)
    (h' : ∀ d ∈ other, d.IsPlain)
    (heq : block.map Declaration.line = other.map Declaration.line) :
    block.map Declaration.written = other.map Declaration.written := by
  induction block generalizing other with
  | nil =>
      rw [List.map_nil, eq_comm, List.map_eq_nil_iff] at heq
      rw [heq]
  | cons d rest ih =>
      cases other with
      | nil => simp at heq
      | cons e rest' =>
          obtain ⟨hline, hrest⟩ := List.cons.inj heq
          have hwritten := Declaration.written_eq_of_line_eq (h d List.mem_cons_self)
            (h' e List.mem_cons_self) hline
          have htail := ih (fun x hx => h x (List.mem_cons_of_mem d hx))
            (fun x hx => h' x (List.mem_cons_of_mem e hx)) hrest
          rw [List.map_cons, List.map_cons, hwritten, htail]

/-- So do the lines between braces. The one line of an empty block is not that of a declaration. -/
theorem written_eq_of_bodyLines_eq {block other : List Declaration} (h : ∀ d ∈ block, d.IsPlain)
    (h' : ∀ d ∈ other, d.IsPlain) (heq : bodyLines block = bodyLines other) :
    block.map Declaration.written = other.map Declaration.written := by
  have hempty : ∀ (d : Declaration) (rest : List Declaration), bodyLines (d :: rest) ≠ [""] :=
    fun d rest hd => line_ne (by decide) (List.cons.inj hd).1
  cases block with
  | nil =>
      cases other with
      | nil => rfl
      | cons e rest => exact absurd heq.symm (hempty e rest)
  | cons d rest =>
      cases other with
      | nil => exact absurd heq (hempty d rest)
      | cons e rest' => exact written_eq_of_map_line_eq h h' heq

/-- **The text of a stylesheet determines what each block declares.** -/
theorem written_eq_of_render_eq {sheet other : Stylesheet} (h : sheet.IsPlain) (h' : other.IsPlain)
    (heq : sheet.render = other.render) :
    sheet.light.map Declaration.written = other.light.map Declaration.written ∧
      sheet.dark.map Declaration.written = other.dark.map Declaration.written ∧
      sheet.base.map Declaration.written = other.base.map Declaration.written := by
  rw [render_eq, render_eq] at heq
  have hlines : sheet.lines = other.lines :=
    Text.intercalate_inj (by simp [lines]) (by simp [lines]) h.newline_notMem_lines
      h'.newline_notMem_lines heq
  obtain ⟨hlight, hrest⟩ := blockLines_append_inj hlines
  obtain ⟨hdark, hrest⟩ := blockLines_append_inj (List.cons.inj hrest).2
  have hbase : bodyLines sheet.base = bodyLines other.base := by
    have hlast := (List.cons.inj hrest).2
    rw [← List.append_nil (blockLines _ sheet.base),
      ← List.append_nil (blockLines _ other.base)] at hlast
    exact (blockLines_append_inj hlast).1
  exact ⟨written_eq_of_bodyLines_eq h.light h'.light hlight,
    written_eq_of_bodyLines_eq h.dark h'.dark hdark,
    written_eq_of_bodyLines_eq h.base h'.base hbase⟩

end Stylesheet

/-! ### From declarations to tokens -/

namespace Theme

/-- Keys and values that keep to their lines. Of a background only the first word is written, which
cannot break a line. -/
structure HasPlainTokens (theme : Theme) : Prop where
  /-- The keys of the light mode are plain. -/
  light_keys : ∀ key ∈ theme.light.bg.keys, IsPlainKey key
  /-- The keys of the dark mode are plain. -/
  dark_keys : ∀ key ∈ theme.dark.bg.keys, IsPlainKey key
  /-- The keys of the base tokens are plain. -/
  base_keys : ∀ c, ∀ key ∈ (theme.base.tokens c).keys, IsPlainKey key
  /-- The values of the base tokens do not break their lines. -/
  base_values : ∀ c, ∀ value ∈ (theme.base.tokens c).values, '\n' ∉ value.toList

/-- A reference keeps to its line if the key that it refers to does. -/
theorem newline_notMem_reference {p : Property} (h : '\n' ∉ p.key.toList) :
    '\n' ∉ (DeclaredValue.reference p).text.toList := by
  have hname : '\n' ∉ p.name.toList :=
    Property.notMem_name (fun f => by cases f <;> decide) (by decide) h
  simp [DeclaredValue.text, String.toList_append, hname]

theorem isPlain_modeDeclarations {mode : ModeTokens} (h : ∀ key ∈ mode.bg.keys, IsPlainKey key) :
    ∀ d ∈ mode.declarations, d.IsPlain := by
  intro d hd
  obtain ⟨e, he, rfl⟩ := List.mem_map.mp hd
  have hword : '\n' ∉ (referenceKey e.2).toList := by
    intro hmem
    have hblank := Text.isBlank_of_mem_firstWord hmem
    revert hblank
    decide
  exact ⟨h e.1 (List.mem_map_of_mem he), newline_notMem_reference hword⟩

variable {theme : Theme}

/-- The literal of a value is the value or a color of the palette. -/
theorem HasPlainTokens.newline_notMem_literal (h : theme.HasPlainTokens) {c : Category}
    {value : String} (hvalue : value ∈ (theme.base.tokens c).values) :
    '\n' ∉ (theme.literal value).toList := by
  unfold literal
  split
  · cases hcolor : theme.base.palette.find? (referenceKey value) with
    | none => exact h.base_values c value hvalue
    | some color =>
        have hmem := OrderedMap.find?_eq_some_iff.mp hcolor
        exact h.base_values .palette color (List.mem_map.mpr ⟨_, hmem, rfl⟩)
  · exact h.base_values c value hvalue

/-- A theme with plain tokens has a plain stylesheet. -/
theorem HasPlainTokens.compiled (h : theme.HasPlainTokens) : theme.compiled.IsPlain where
  light := isPlain_modeDeclarations h.light_keys
  dark := isPlain_modeDeclarations h.dark_keys
  base := by
    intro d hd
    rcases List.mem_append.mp hd with hd | hd
    · rcases List.mem_append.mp hd with hd | hd
      · obtain ⟨e, he, rfl⟩ := List.mem_map.mp hd
        exact ⟨h.base_keys .palette e.1 (List.mem_map_of_mem he),
          h.base_values .palette e.2 (List.mem_map_of_mem he)⟩
      · obtain ⟨key, hkey, rfl⟩ := List.mem_map.mp hd
        exact ⟨h.light_keys key hkey, newline_notMem_reference (h.light_keys key hkey).2⟩
    · obtain ⟨c, -, hd⟩ := List.mem_flatMap.mp hd
      obtain ⟨e, he, rfl⟩ := List.mem_map.mp hd
      exact ⟨h.base_keys c e.1 (List.mem_map_of_mem he),
        h.newline_notMem_literal (List.mem_map_of_mem he)⟩

/-- Declarations that are written alike are so within each family. -/
theorem written_filter_eq {block other : List Declaration} (f : Family)
    (h : block.map Declaration.written = other.map Declaration.written) :
    (block.filter fun d => d.property.family = f).map Declaration.written =
      (other.filter fun d => d.property.family = f).map Declaration.written := by
  have hfilter := congrArg (List.filter fun w => decide (w.1.family = f)) h
  rw [List.filter_map, List.filter_map] at hfilter
  exact hfilter

/-- Of declarations of one family either all or none are of a given family. -/
theorem filter_of_family {block : List Declaration} {f : Family}
    (h : ∀ d ∈ block, d.property.family = f) (g : Family) :
    (block.filter fun d => d.property.family = g) = if f = g then block else [] := by
  split
  · next hfg =>
      rw [List.filter_eq_self]
      intro d hd
      simpa [hfg] using h d hd
  · next hfg =>
      rw [List.filter_eq_nil_iff]
      intro d hd
      simpa [h d hd] using hfg

theorem filter_paletteDeclarations (theme : Theme) (g : Family) :
    (theme.paletteDeclarations.filter fun d => d.property.family = g) =
      if .color = g then theme.paletteDeclarations else [] :=
  filter_of_family (fun d hd => by obtain ⟨e, -, rfl⟩ := List.mem_map.mp hd; rfl) g

theorem filter_aliasDeclarations (theme : Theme) (g : Family) :
    (theme.aliasDeclarations.filter fun d => d.property.family = g) =
      if .color = g then theme.aliasDeclarations else [] :=
  filter_of_family (fun d hd => by obtain ⟨key, -, rfl⟩ := List.mem_map.mp hd; rfl) g

theorem filter_scaleLiterals (theme : Theme) (c : Category) (g : Family) :
    ((theme.scaleLiterals c).filter fun d => d.property.family = g) =
      if c.family = g then theme.scaleLiterals c else [] :=
  filter_of_family (fun d hd => by obtain ⟨e, -, rfl⟩ := List.mem_map.mp hd; rfl) g

/-- The colors of a stylesheet are those of the palette and the aliases. -/
theorem filter_base_color (theme : Theme) :
    (theme.compiled.base.filter fun d => d.property.family = .color) =
      theme.paletteDeclarations ++ theme.aliasDeclarations := by
  simp only [Theme.compiled, List.filter_append, scales, List.flatMap_cons, List.flatMap_nil,
    filter_paletteDeclarations, filter_aliasDeclarations, filter_scaleLiterals]
  simp [Category.family]

/-- Each other family belongs to one scale. -/
theorem filter_base_scale (theme : Theme) {c : Category} (hc : c ∈ scales) :
    (theme.compiled.base.filter fun d => d.property.family = c.family) = theme.scaleLiterals c := by
  simp only [Theme.compiled, List.filter_append, scales, List.flatMap_cons, List.flatMap_nil,
    filter_paletteDeclarations, filter_aliasDeclarations, filter_scaleLiterals]
  simp only [scales, List.mem_cons, List.not_mem_nil, or_false] at hc
  rcases hc with rfl | rfl | rfl | rfl <;> simp [Category.family]

/-- The backgrounds of a mode, each with the first word of its value. -/
theorem firstWords_eq_of_written_eq {mode other : ModeTokens}
    (h : mode.declarations.map Declaration.written = other.declarations.map Declaration.written) :
    (mode.bg.entries.map fun e => (e.1, Text.firstWord e.2)) =
      other.bg.entries.map fun e => (e.1, Text.firstWord e.2) := by
  have hinj : Function.Injective fun w : String × String =>
      Declaration.written ⟨⟨.mode, w.1⟩, .reference ⟨.color, w.2⟩⟩ := by
    rintro ⟨key, word⟩ ⟨key', word'⟩ heq
    have hkey : key = key' := congrArg (fun w => w.1.key) heq
    have hname := text_reference_eq_iff.mp (congrArg Prod.snd heq)
    have hword : word = word' := congrArg Property.key (Property.name_injective hname)
    rw [hkey, hword]
  have hmaps : ∀ m : ModeTokens, m.declarations.map Declaration.written =
      (m.bg.entries.map fun e => (e.1, Text.firstWord e.2)).map fun w =>
        Declaration.written ⟨⟨.mode, w.1⟩, .reference ⟨.color, w.2⟩⟩ := by
    intro m
    rw [ModeTokens.declarations, List.map_map, List.map_map]
    rfl
  rw [hmaps, hmaps] at h
  exact List.map_injective_iff.mpr hinj h

/-- Literals of one family are determined with their keys. -/
theorem eq_of_written_literal_eq {f : Family} {tokens other : List (String × String)}
    (h : (tokens.map fun e => Declaration.written ⟨⟨f, e.1⟩, .literal e.2⟩) =
      other.map fun e => Declaration.written ⟨⟨f, e.1⟩, .literal e.2⟩) : tokens = other := by
  refine List.map_injective_iff.mpr ?_ h
  rintro ⟨key, text⟩ ⟨key', text'⟩ heq
  have hkey : key = key' := congrArg (fun w => w.1.key) heq
  have htext : text = text' := congrArg Prod.snd heq
  rw [hkey, htext]

/-- The palette is what comes before the aliases, which are as many as the light backgrounds. -/
theorem palette_eq_of_written_eq {other : Theme}
    (hlight : theme.light.declarations.map Declaration.written =
      other.light.declarations.map Declaration.written)
    (hbase : theme.compiled.base.map Declaration.written =
      other.compiled.base.map Declaration.written) :
    theme.base.palette.entries = other.base.palette.entries := by
  have hcolors := written_filter_eq .color hbase
  rw [filter_base_color, filter_base_color, List.map_append, List.map_append] at hcolors
  have hlength : (theme.aliasDeclarations.map Declaration.written).length =
      (other.aliasDeclarations.map Declaration.written).length := by
    have := congrArg List.length hlight
    simpa [ModeTokens.declarations, aliasDeclarations, OrderedMap.keys] using this
  have hpalette := (List.append_inj' hcolors hlength).1
  rw [paletteDeclarations, paletteDeclarations, List.map_map, List.map_map] at hpalette
  exact eq_of_written_literal_eq hpalette

/-- A scale is what is declared in its family. -/
theorem literals_eq_of_written_eq {other : Theme}
    (hbase : theme.compiled.base.map Declaration.written =
      other.compiled.base.map Declaration.written) {c : Category} (hc : c ∈ scales) :
    ((theme.base.tokens c).entries.map fun e => (e.1, theme.literal e.2)) =
      (other.base.tokens c).entries.map fun e => (e.1, other.literal e.2) := by
  have hscale := written_filter_eq c.family hbase
  rw [filter_base_scale theme hc, filter_base_scale other hc] at hscale
  have hmaps : ∀ t : Theme, (t.scaleLiterals c).map Declaration.written =
      ((t.base.tokens c).entries.map fun e => (e.1, t.literal e.2)).map fun e =>
        Declaration.written ⟨⟨c.family, e.1⟩, .literal e.2⟩ := by
    intro t
    rw [scaleLiterals, List.map_map, List.map_map]
    rfl
  rw [hmaps, hmaps] at hscale
  exact eq_of_written_literal_eq hscale

/-- The tokens of a scale with the literals that they are resolved to. -/
def resolvedTokens (theme : Theme) (c : Category) :
    Except ReferenceFault (List (String × String)) :=
  (theme.base.tokens c).entries.mapM fun e => (theme.resolve e.2).map fun text => (e.1, text)

theorem resolvedTokens_eq_ok (hsound : theme.IsSound) {c : Category} (hc : c ∈ scales) :
    theme.resolvedTokens c =
      .ok ((theme.base.tokens c).entries.map fun e => (e.1, theme.literal e.2)) := by
  refine mapM_eq_ok_map fun e he => ?_
  rw [resolve_eq_ok (not_isBroken_of_isSound hsound hc he)]
  rfl

/-- **The text of a stylesheet determines the tokens that it was made from**: the keys of the
backgrounds with the first words of their values, the palette, and the tokens of each scale with the
literals that they are resolved to, all of them in order. -/
theorem tokens_eq_of_css_eq (theme other : Theme) (text otherText : String)
    (hcss : theme.css = .ok text) (hcss' : other.css = .ok otherText)
    (hplain : theme.HasPlainTokens) (hplain' : other.HasPlainTokens) (heq : text = otherText) :
    (theme.light.bg.entries.map fun e => (e.1, Text.firstWord e.2)) =
        (other.light.bg.entries.map fun e => (e.1, Text.firstWord e.2)) ∧
      (theme.dark.bg.entries.map fun e => (e.1, Text.firstWord e.2)) =
        (other.dark.bg.entries.map fun e => (e.1, Text.firstWord e.2)) ∧
      theme.base.palette.entries = other.base.palette.entries ∧
      ∀ c ∈ scales, ∃ tokens, theme.resolvedTokens c = .ok tokens ∧
        other.resolvedTokens c = .ok tokens := by
  obtain ⟨hsound, rfl⟩ := css_eq_ok_iff.mp hcss
  obtain ⟨hsound', rfl⟩ := css_eq_ok_iff.mp hcss'
  obtain ⟨hlight, hdark, hbase⟩ :=
    Stylesheet.written_eq_of_render_eq hplain.compiled hplain'.compiled heq
  refine ⟨firstWords_eq_of_written_eq hlight, firstWords_eq_of_written_eq hdark,
    palette_eq_of_written_eq hlight hbase, fun c hc => ?_⟩
  refine ⟨_, resolvedTokens_eq_ok hsound hc, ?_⟩
  rw [resolvedTokens_eq_ok hsound' hc, literals_eq_of_written_eq hbase hc]

/-- A theme whose spacing refers to a color. -/
def tintedSpacing : Theme where
  schema := supportedSchema
  name := "tinted"
  description := ""
  base := { BaseTokens.empty with
    palette := .ofList [("ink", "#111"), ("foam", "#eff")]
    spacing := .ofList [("tint", "ink palette"), ("sm", "0.5rem")]
    zIndex := .ofList [("modal", "10")] }
  light := ⟨.ofList [("text", "ink palette")]⟩
  dark := ⟨.ofList [("text", "foam palette")]⟩

/-- The same with the color written out, and with more words in a background. -/
def spelledOutSpacing : Theme :=
  { tintedSpacing with
    base := { tintedSpacing.base with
      spacing := .ofList [("tint", "#111"), ("sm", "0.5rem")] }
    light := ⟨.ofList [("text", " ink of the palette")]⟩ }

/-- Two themes with different tokens may have the same text, which shows what both resolve to. -/
theorem tokens_eq_of_css_eq_tintedSpacing :
    ∃ text, tintedSpacing.css = .ok text ∧ spelledOutSpacing.css = .ok text ∧
      tintedSpacing.HasPlainTokens ∧ spelledOutSpacing.HasPlainTokens ∧
      ∃ tokens, tintedSpacing.resolvedTokens .spacing = .ok tokens ∧
        spelledOutSpacing.resolvedTokens .spacing = .ok tokens := by
  have hplain : tintedSpacing.HasPlainTokens :=
    ⟨by decide, by decide, fun c => by cases c <;> decide, fun c => by cases c <;> decide⟩
  have hplain' : spelledOutSpacing.HasPlainTokens :=
    ⟨by decide, by decide, fun c => by cases c <;> decide, fun c => by cases c <;> decide⟩
  refine ⟨_, rfl, rfl, hplain, hplain', ?_⟩
  obtain ⟨-, -, -, hscales⟩ := tokens_eq_of_css_eq tintedSpacing spelledOutSpacing _ _ rfl rfl hplain
    hplain' rfl
  exact hscales .spacing (by decide)

end Theme

end DesignTokens
