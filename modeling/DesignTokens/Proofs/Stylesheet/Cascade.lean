import DesignTokens.Proofs.Stylesheet.Compilation
import DesignTokens.Proofs.Text.Separator
import Mathlib.Logic.Relation

/-!
# The cascade

What the declarations of a stylesheet mean. In a block the last declaration of a name wins, the
block of the dark mode goes before that of the light mode, and a reference is followed from name to
name until a literal is reached. Names are compared as texts, so that nothing is taken for granted
about keys: that two families never share a name is proved and not assumed.

## Main Definitions

* `Declares`, `winner?` — the names of a block, and the value of a name in it
* `Mode`, `Stylesheet.valueIn` — the value of a name in a mode
* `Stylesheet.RefersTo` — one step along a reference
* `Stylesheet.Resolves` — the literal at the end of all steps

## Main Statements

* `Property.name_injective` — properties of different families or keys have different names
* `Stylesheet.Resolves.unique` — a name has at most one literal
* `Theme.valueIn_mode`, `Theme.valueIn_color` — the values in the stylesheet of a theme
* `Theme.refersTo_iff` — all references in the stylesheet of a theme
-/

namespace DesignTokens

/-! ### Names -/

/-- The first hyphen of a name stands behind the stem. -/
theorem Family.hyphen_notMem_stem (f : Family) : '-' ∉ f.stem.toList := by
  cases f <;> decide

theorem Family.stem_injective : Function.Injective Family.stem := by
  intro f g h
  cases f <;> cases g <;> first | rfl | exact absurd h (by decide)

/-- **Properties of different families or keys have different names**, whatever the keys are. -/
theorem Property.name_injective : Function.Injective Property.name := by
  rintro ⟨f, k⟩ ⟨g, l⟩ h
  have hhyphen : "-".toList = ['-'] := rfl
  obtain ⟨hstem, hkey : k = l⟩ := Text.append_separator_inj hhyphen f.hyphen_notMem_stem
    g.hyphen_notMem_stem h
  rw [Family.stem_injective hstem, hkey]

theorem Property.name_inj {p q : Property} : p.name = q.name ↔ p = q :=
  Property.name_injective.eq_iff

/-- The text of a variable tells its name. -/
theorem variable_text_inj {name other : String} :
    "var(--" ++ name ++ ")" = "var(--" ++ other ++ ")" ↔ name = other := by
  rw [String.append_left_inj, String.append_right_inj]

/-- The text of a reference tells the name that it refers to. -/
theorem text_reference_eq_iff {p : Property} {name : String} :
    (DeclaredValue.reference p).text = "var(--" ++ name ++ ")" ↔ p.name = name :=
  variable_text_inj

/-! ### Blocks -/

/-- A block declares a name. -/
def Declares (block : List Declaration) (name : String) : Prop :=
  ∃ d ∈ block, d.property.name = name

/-- The value that a declaration gives to a name. -/
def Declaration.valueOf? (d : Declaration) (name : String) : Option DeclaredValue :=
  if d.property.name = name then some d.value else none

theorem Declaration.valueOf?_eq_some_iff {d : Declaration} {name : String} {v : DeclaredValue} :
    d.valueOf? name = some v ↔ d.property.name = name ∧ d.value = v := by
  unfold valueOf?
  split <;> simp_all

/-- The value of a name in a block: that of the last declaration of the name. -/
def winner? (block : List Declaration) (name : String) : Option DeclaredValue :=
  block.reverse.findSome? fun d => d.valueOf? name

/-- What follows in a block goes before what precedes. -/
theorem winner?_append (block later : List Declaration) (name : String) :
    winner? (block ++ later) name = (winner? later name).or (winner? block name) := by
  simp [winner?, List.reverse_append, List.findSome?_append]

/-- A value in a block stems from one of its declarations. -/
theorem exists_mem_of_winner? {block : List Declaration} {name : String} {v : DeclaredValue}
    (h : winner? block name = some v) :
    ∃ d ∈ block, d.property.name = name ∧ d.value = v := by
  obtain ⟨d, hd, hv⟩ := List.exists_of_findSome?_eq_some h
  exact ⟨d, List.mem_reverse.mp hd, Declaration.valueOf?_eq_some_iff.mp hv⟩

theorem winner?_eq_none_iff {block : List Declaration} {name : String} :
    winner? block name = none ↔ ∀ d ∈ block, d.property.name ≠ name := by
  simp [winner?, Declaration.valueOf?]

/-- A block of one family says nothing about the names of another one. -/
theorem winner?_eq_none_of_family {block : List Declaration} {p : Property}
    (h : ∀ d ∈ block, d.property.family ≠ p.family) : winner? block p.name = none := by
  rw [winner?_eq_none_iff]
  intro d hd heq
  exact h d hd (congrArg Property.family (Property.name_injective heq))

/-- In a block with one declaration for each entry of a map, the name of a key has the value that is
made of the key's entry. -/
theorem winner?_map_entries (tokens : TokenMap) (f : Family)
    (value : String → String → DeclaredValue) (key : String) :
    winner? (tokens.entries.map fun e => ⟨⟨f, e.1⟩, value e.1 e.2⟩) (Property.name ⟨f, key⟩) =
      (tokens.find? key).map (value key) := by
  cases hw : winner? (tokens.entries.map fun e => ⟨⟨f, e.1⟩, value e.1 e.2⟩)
      (Property.name ⟨f, key⟩) with
  | none =>
      rw [winner?_eq_none_iff] at hw
      have hfind : tokens.find? key = none := by
        rw [OrderedMap.find?_eq_none_iff]
        intro hkey
        obtain ⟨e, he, rfl⟩ := List.mem_map.mp hkey
        exact hw _ (List.mem_map.mpr ⟨e, he, rfl⟩) rfl
      rw [hfind]
      rfl
  | some v =>
      obtain ⟨d, hd, hname, rfl⟩ := exists_mem_of_winner? hw
      obtain ⟨e, he, rfl⟩ := List.mem_map.mp hd
      have hkey : e.1 = key := congrArg Property.key (Property.name_injective hname)
      subst hkey
      rw [OrderedMap.find?_eq_some_iff.mpr he]
      rfl

/-! ### Modes -/

/-- A mode in which a stylesheet is looked at. -/
inductive Mode
  | light
  | dark
  deriving DecidableEq

namespace Stylesheet

/-- The value of a name in a mode. In the dark mode its own block goes first. -/
def valueIn (sheet : Stylesheet) : Mode → String → Option DeclaredValue
  | .light, name => (winner? sheet.light name).or (winner? sheet.base name)
  | .dark, name =>
    (winner? sheet.dark name).or ((winner? sheet.light name).or (winner? sheet.base name))

/-- One name refers to another one in a mode. -/
def RefersTo (sheet : Stylesheet) (mode : Mode) (name other : String) : Prop :=
  ∃ p : Property, sheet.valueIn mode name = some (.reference p) ∧ p.name = other

/-- Following the references from a name ends at a literal. -/
def Resolves (sheet : Stylesheet) (mode : Mode) (name text : String) : Prop :=
  ∃ last, Relation.ReflTransGen (sheet.RefersTo mode) name last ∧
    sheet.valueIn mode last = some (.literal text)

variable {sheet : Stylesheet} {mode : Mode} {name other text : String}

theorem RefersTo.eq {third : String} (h : sheet.RefersTo mode name other)
    (h' : sheet.RefersTo mode name third) : other = third := by
  obtain ⟨p, hp, rfl⟩ := h
  obtain ⟨q, hq, rfl⟩ := h'
  rw [hp] at hq
  cases hq
  rfl

theorem resolves_of_literal (h : sheet.valueIn mode name = some (.literal text)) :
    sheet.Resolves mode name text :=
  ⟨name, .refl, h⟩

theorem Resolves.of_refersTo (h : sheet.RefersTo mode name other)
    (h' : sheet.Resolves mode other text) : sheet.Resolves mode name text := by
  obtain ⟨last, hsteps, hlast⟩ := h'
  exact ⟨last, .head h hsteps, hlast⟩

/-- **A name has at most one literal.**  There is never more than one step to take, and none from a
literal. -/
theorem Resolves.unique {other : String} (h : sheet.Resolves mode name text)
    (h' : sheet.Resolves mode name other) : text = other := by
  obtain ⟨last, hsteps, hlast⟩ := h
  obtain ⟨last', hsteps', hlast'⟩ := h'
  induction hsteps using Relation.ReflTransGen.head_induction_on with
  | refl =>
      rcases hsteps'.cases_head with rfl | ⟨next, ⟨p, hp, -⟩, -⟩
      · rw [hlast] at hlast'
        cases hlast'
        rfl
      · rw [hlast] at hp
        cases hp
  | head hstep _ ih =>
      rcases hsteps'.cases_head with rfl | ⟨next, hstep', hsteps'⟩
      · obtain ⟨p, hp, -⟩ := hstep
        rw [hlast'] at hp
        cases hp
      · rw [hstep.eq hstep'] at ih
        exact ih hsteps'

/-- A value stems from a declaration of one of the blocks. -/
theorem exists_mem_of_valueIn {v : DeclaredValue} (h : sheet.valueIn mode name = some v) :
    ∃ d ∈ sheet.dark ++ sheet.light ++ sheet.base, d.property.name = name ∧ d.value = v := by
  cases mode <;> simp only [valueIn, Option.or_eq_some_iff] at h
  · rcases h with h | ⟨-, h⟩ <;> obtain ⟨d, hd, hv⟩ := exists_mem_of_winner? h
    · exact ⟨d, by simp [hd], hv⟩
    · exact ⟨d, by simp [hd], hv⟩
  · rcases h with h | ⟨-, h | ⟨-, h⟩⟩ <;> obtain ⟨d, hd, hv⟩ := exists_mem_of_winner? h
    · exact ⟨d, by simp [hd], hv⟩
    · exact ⟨d, by simp [hd], hv⟩
    · exact ⟨d, by simp [hd], hv⟩

end Stylesheet

/-! ### The stylesheet of a theme -/

namespace Theme

/-- The background that is in force under a name in a mode. -/
def background? (theme : Theme) : Mode → String → Option String
  | .light, key => theme.light.bg.find? key
  | .dark, key => (theme.dark.bg.find? key).or (theme.light.bg.find? key)

theorem winner?_declarations (mode : ModeTokens) (key : String) :
    winner? mode.declarations (Property.name ⟨.mode, key⟩) =
      (mode.bg.find? key).map fun value => .reference ⟨.color, referenceKey value⟩ :=
  winner?_map_entries mode.bg .mode (fun _ value => .reference ⟨.color, referenceKey value⟩) key

theorem winner?_paletteDeclarations (theme : Theme) (key : String) :
    winner? theme.paletteDeclarations (Property.name ⟨.color, key⟩) =
      (theme.base.palette.find? key).map .literal :=
  winner?_map_entries theme.base.palette .color (fun _ value => .literal value) key

theorem winner?_aliasDeclarations (theme : Theme) (key : String) :
    winner? theme.aliasDeclarations (Property.name ⟨.color, key⟩) =
      (theme.light.bg.find? key).map fun _ => .reference ⟨.mode, key⟩ := by
  have hentries : theme.aliasDeclarations =
      theme.light.bg.entries.map fun e => ⟨⟨.color, e.1⟩, .reference ⟨.mode, e.1⟩⟩ :=
    List.map_map
  rw [hentries]
  exact winner?_map_entries theme.light.bg .color (fun key _ => .reference ⟨.mode, key⟩) key

/-- Scales declare literals, and neither colors nor backgrounds. -/
theorem of_mem_scaleLiterals {theme : Theme} {d : Declaration}
    (h : d ∈ scales.flatMap theme.scaleLiterals) :
    d.property.family ≠ .color ∧ d.property.family ≠ .mode ∧ ∃ text, d.value = .literal text := by
  obtain ⟨c, hc, hd⟩ := List.mem_flatMap.mp h
  obtain ⟨e, -, rfl⟩ := List.mem_map.mp hd
  simp only [scales, List.mem_cons, List.not_mem_nil, or_false] at hc
  rcases hc with rfl | rfl | rfl | rfl <;>
    exact ⟨by simp [Category.family], by simp [Category.family], _, rfl⟩

/-- A background's property refers to the color that its value starts with. -/
theorem valueIn_mode (theme : Theme) (mode : Mode) (key : String) :
    theme.compiled.valueIn mode (Property.name ⟨.mode, key⟩) =
      (theme.background? mode key).map fun value => .reference ⟨.color, referenceKey value⟩ := by
  have hbase : winner? theme.compiled.base (Property.name ⟨.mode, key⟩) = none := by
    refine winner?_eq_none_of_family fun d hd => ?_
    simp only [compiled, List.mem_append] at hd
    rcases hd with (hd | hd) | hd
    · obtain ⟨e, -, rfl⟩ := List.mem_map.mp hd
      simp
    · obtain ⟨key', -, rfl⟩ := List.mem_map.mp hd
      simp
    · exact (of_mem_scaleLiterals hd).2.1
  cases mode with
  | light =>
      rw [Stylesheet.valueIn, hbase, Option.or_none]
      exact winner?_declarations theme.light key
  | dark =>
      rw [Stylesheet.valueIn, hbase, Option.or_none]
      simp only [compiled, winner?_declarations, background?]
      cases theme.dark.bg.find? key <;> rfl

/-- An alias goes before the palette's color of the same name. -/
theorem valueIn_color (theme : Theme) (mode : Mode) (key : String) :
    theme.compiled.valueIn mode (Property.name ⟨.color, key⟩) =
      ((theme.light.bg.find? key).map fun _ => .reference ⟨.mode, key⟩).or
        ((theme.base.palette.find? key).map .literal) := by
  have hmode : ∀ tokens : ModeTokens,
      winner? tokens.declarations (Property.name ⟨.color, key⟩) = none := by
    intro tokens
    refine winner?_eq_none_of_family fun d hd => ?_
    obtain ⟨e, -, rfl⟩ := List.mem_map.mp hd
    simp
  have hscales : winner? (scales.flatMap theme.scaleLiterals) (Property.name ⟨.color, key⟩) =
      none := winner?_eq_none_of_family fun d hd => (of_mem_scaleLiterals hd).1
  have hbase : winner? theme.compiled.base (Property.name ⟨.color, key⟩) =
      ((theme.light.bg.find? key).map fun _ => .reference ⟨.mode, key⟩).or
        ((theme.base.palette.find? key).map .literal) := by
    simp only [compiled, winner?_append, hscales, Option.none_or, winner?_aliasDeclarations,
      winner?_paletteDeclarations]
  cases mode <;> simp only [Stylesheet.valueIn, compiled, hmode, Option.none_or] <;> exact hbase

/-- Only backgrounds and aliases are declared to be references. -/
theorem of_valueIn_reference {theme : Theme} {mode : Mode} {name : String} {p : Property}
    (h : theme.compiled.valueIn mode name = some (.reference p)) :
    (∃ key, name = Property.name ⟨.mode, key⟩) ∨ ∃ key, name = Property.name ⟨.color, key⟩ := by
  obtain ⟨d, hd, rfl, hv⟩ := Stylesheet.exists_mem_of_valueIn h
  simp only [compiled, List.mem_append] at hd
  rcases hd with (hd | hd) | (hd | hd) | hd
  · obtain ⟨e, -, rfl⟩ := List.mem_map.mp hd
    exact .inl ⟨e.1, rfl⟩
  · obtain ⟨e, -, rfl⟩ := List.mem_map.mp hd
    exact .inl ⟨e.1, rfl⟩
  · obtain ⟨e, -, rfl⟩ := List.mem_map.mp hd
    exact .inr ⟨e.1, rfl⟩
  · obtain ⟨key, -, rfl⟩ := List.mem_map.mp hd
    exact .inr ⟨key, rfl⟩
  · obtain ⟨text, ht⟩ := (of_mem_scaleLiterals hd).2.2
    rw [ht] at hv
    cases hv

/-- **All references in the stylesheet of a theme.**  A background refers to the color that its
value in the mode starts with, and the alias of a light background to the background. -/
theorem refersTo_iff {theme : Theme} {mode : Mode} {name other : String} :
    theme.compiled.RefersTo mode name other ↔
      (∃ key value, theme.background? mode key = some value ∧
        name = Property.name ⟨.mode, key⟩ ∧
        other = Property.name ⟨.color, referenceKey value⟩) ∨
      (∃ key ∈ theme.light.bg.keys, name = Property.name ⟨.color, key⟩ ∧
        other = Property.name ⟨.mode, key⟩) := by
  constructor
  · rintro ⟨p, hp, rfl⟩
    rcases of_valueIn_reference hp with ⟨key, rfl⟩ | ⟨key, rfl⟩
    · rw [valueIn_mode, Option.map_eq_some_iff] at hp
      obtain ⟨value, hvalue, hv⟩ := hp
      cases hv
      exact .inl ⟨key, value, hvalue, rfl, rfl⟩
    · rw [valueIn_color, Option.or_eq_some_iff, Option.map_eq_some_iff,
        Option.map_eq_some_iff] at hp
      rcases hp with ⟨value, hvalue, hv⟩ | ⟨-, color, -, hv⟩
      · cases hv
        exact .inr ⟨key, OrderedMap.exists_find?_iff.mp ⟨value, hvalue⟩, rfl, rfl⟩
      · cases hv
  · rintro (⟨key, value, hvalue, rfl, rfl⟩ | ⟨key, hkey, rfl, rfl⟩)
    · exact ⟨_, by rw [valueIn_mode, hvalue]; rfl, rfl⟩
    · obtain ⟨value, hvalue⟩ := OrderedMap.exists_find?_iff.mpr hkey
      exact ⟨_, by rw [valueIn_color, hvalue]; rfl, rfl⟩

end Theme

end DesignTokens
