import DesignTokens.Proofs.Stylesheet.Compilation
import DesignTokens.Proofs.Text.Words
import Mathlib.Data.List.TakeWhile

/-!
# Two readings of references

Palette references are read in two ways. The grammar parts a value string into words and asks what
the second one is; the looser reading, which resolves and checks raw strings, asks whether the
keyword occurs anywhere. This module proves that the two agree on every string that the grammar
accepts: neither a number nor a unit has room for the keyword.

## Main Definitions

* `Number.IsNoFigure` — a character that no number in figures is written with
* `Theme.Yields`, `Theme.Misses` — a value is taken for a literal throughout, or for a reference to
  a color that there is not

## Main Statements

* `notMem_of_readNumber?` — what numbers are written with
* `TokenValue.exists_reference_iff` — the grammar reads a reference exactly where the keyword occurs
* `TokenValue.parse_agrees` — key, text and literal of a value are the same in both readings

## Design Notes

Words for numbers, such as the one for infinity, have other letters; they are no obstacle because
only finite numbers are values.
-/

namespace DesignTokens

open Text

/-! ### Characters of numbers -/

namespace Number

/-- No number in figures is written with a character: it is no digit, no sign, no point, no mark of
an exponent, and no blank that may stand around a number. -/
structure IsNoFigure (c : Char) : Prop where
  /-- It is no digit. -/
  digit : digitValue? c = none
  /-- It is none of the marks in a number. -/
  mark : c ∉ ['+', '-', '.', 'e', 'E']
  /-- It is not dropped where a number starts or ends. -/
  blank : isNumberBlank c = false

instance (c : Char) : Decidable (IsNoFigure c) :=
  decidable_of_iff (digitValue? c = none ∧ c ∉ ['+', '-', '.', 'e', 'E'] ∧ isNumberBlank c = false)
    ⟨fun h => ⟨h.1, h.2.1, h.2.2⟩, fun h => ⟨h.digit, h.mark, h.blank⟩⟩

variable {c : Char} {cs : List Char}

/-- A sign is all that is taken off the front. -/
theorem IsNoFigure.mem_splitSign (h : IsNoFigure c) (hc : c ∈ cs) : c ∈ (splitSign cs).2 := by
  have hmark := h.mark
  unfold splitSign
  split
  · exact (List.mem_cons.mp hc).resolve_left fun hplus => hmark (by simp [hplus])
  · exact (List.mem_cons.mp hc).resolve_left fun hminus => hmark (by simp [hminus])
  · exact hc

/-- Digits are all that is taken off the front. -/
theorem IsNoFigure.mem_splitDigits (h : IsNoFigure c) (hc : c ∈ cs) : c ∈ (splitDigits cs).2 := by
  induction cs with
  | nil => exact hc
  | cons d rest ih =>
      unfold splitDigits
      split
      · next value hvalue =>
          refine ih ((List.mem_cons.mp hc).resolve_left ?_)
          rintro rfl
          rw [h.digit] at hvalue
          cases hvalue
      · exact hc

/-- Blanks are all that is dropped at the start of a number. -/
theorem IsNoFigure.mem_trimNumberStart (h : IsNoFigure c) (hc : c ∈ cs) :
    c ∈ trimNumberStart cs := by
  rw [← List.takeWhile_append_dropWhile (p := isNumberBlank) (l := cs)] at hc
  refine (List.mem_append.mp hc).resolve_left fun hfront => ?_
  have hblank := List.mem_takeWhile_imp hfront
  rw [h.blank] at hblank
  cases hblank

theorem IsNoFigure.mem_trimNumber (h : IsNoFigure c) (hc : c ∈ cs) : c ∈ trimNumber cs :=
  List.mem_reverse.mpr
    (h.mem_trimNumberStart (List.mem_reverse.mpr (h.mem_trimNumberStart hc)))

theorem IsNoFigure.notMem_of_readExponent? (h : IsNoFigure c) {power : Int}
    (hread : readExponent? cs = some power) : c ∉ cs := by
  intro hc
  unfold readExponent? at hread
  split at hread
  · cases hc
  · next mark rest =>
      split at hread
      · next hmark =>
          have hrest : c ∈ rest := by
            refine (List.mem_cons.mp hc).resolve_left fun heq => h.mark ?_
            have : mark = 'e' ∨ mark = 'E' := by simpa using hmark
            rcases this with rfl | rfl <;> simp [heq]
          have hleft := h.mem_splitDigits (h.mem_splitSign hrest)
          -- After the digits of an exponent nothing may be left.
          dsimp only at hread
          split at hread
          · cases hread
          · next hdigits =>
              rw [hdigits] at hleft
              cases hleft
          · cases hread
      · cases hread

theorem IsNoFigure.notMem_of_readFigures? (h : IsNoFigure c) {negative : Bool} {number : Double}
    (hread : readFigures? negative cs = some number) : c ∉ cs := by
  intro hc
  have hrest := h.mem_splitDigits hc
  have hnone : ∀ left : List Char, c ∈ left → readExponent? left = none := by
    intro left hmem
    by_contra hsome
    obtain ⟨power, hpower⟩ := Option.ne_none_iff_exists'.mp hsome
    exact h.notMem_of_readExponent? hpower hmem
  unfold readFigures? at hread
  dsimp only at hread
  split at hread
  · next after hpoint =>
      rw [hpoint] at hrest
      have hafter : c ∈ after :=
        (List.mem_cons.mp hrest).resolve_left fun heq => h.mark (by simp [heq])
      simp [hnone _ (h.mem_splitDigits hafter)] at hread
  · simp [hnone _ hrest] at hread

/-- The words for numbers stand for none that is finite. -/
theorem isFinite_of_readWord? {negative : Bool} {number : Double}
    (hread : readWord? negative cs = some number) : number.isFinite = false := by
  unfold readWord? at hread
  split at hread
  · cases hread
    cases negative <;> decide
  · split at hread
    · cases hread
      cases negative <;> decide
    · cases hread

end Number

open Number

/-- **What numbers are written with.** A finite number is written with nothing but digits, signs, a
point, the mark of an exponent and blanks around it. -/
theorem notMem_of_readNumber? {c : Char} (h : IsNoFigure c) {word : String} {number : Double}
    (hread : readNumber? word = some number) : c ∉ word.toList := by
  intro hc
  obtain ⟨htext, hfinite⟩ := Option.filter_eq_some_iff.mp hread
  have htrimmed := h.mem_splitSign (h.mem_trimNumber hc)
  unfold Double.ofText? at htext
  dsimp only at htext
  rcases Option.or_eq_some_iff.mp htext with hfigures | ⟨-, hword⟩
  · exact h.notMem_of_readFigures? hfigures htrimmed
  · rw [isFinite_of_readWord? hword] at hfinite
    cases hfinite

/-! ### Values that follow the grammar -/

/-- The units are found under the names that are listed for them. -/
theorem MeasureUnit.ofAlias?_eq_some_iff {name : String} {unit : MeasureUnit} :
    ofAlias? name = some unit ↔ (name, unit) ∈ aliases :=
  OrderedMap.lookup_eq_some_iff (by decide)

/-- No name of a unit has room for the keyword. -/
theorem MeasureUnit.keyword_not_infix_alias {name : String} {unit : MeasureUnit}
    (h : ofAlias? name = some unit) : ¬ paletteKeyword.toList <:+: name.toList := by
  have hmem := ofAlias?_eq_some_iff.mp h
  have haliases : ∀ entry ∈ aliases, contains paletteKeyword entry.1 = false := by decide
  rw [← occursIn_eq_true_iff, Bool.not_eq_true]
  exact haliases (name, unit) hmem

/-- No word for a number has room for the keyword. -/
theorem keyword_not_infix_of_readNumber? {word : String} {number : Double}
    (h : readNumber? word = some number) : ¬ paletteKeyword.toList <:+: word.toList := by
  have hfigure : IsNoFigure 'p' := by decide
  intro hwithin
  exact notMem_of_readNumber? hfigure h (hwithin.subset (by decide))

/-- A string with the keyword has a word with the keyword. -/
theorem isReference_iff_exists_word (v : String) :
    isReference v = true ↔ ∃ word ∈ words v, paletteKeyword.toList <:+: word.toList := by
  have hletters : paletteKeyword.toList.all (fun c => !isBlank c) = true := by decide
  refine contains_iff_exists_word (fun c hc => ?_) (by decide) v
  simpa using List.all_eq_true.mp hletters c hc

namespace TokenValue

variable {v : String} {value : TokenValue}

/-- **The values that follow the grammar**: a key in front of the keyword, or a number in front of
the name of a unit. -/
theorem parse_eq_ok_iff : parse v = .ok value ↔
    (∃ key rest, words v = key :: paletteKeyword :: rest ∧ value = .reference key) ∨
    ∃ first rest number unit, words v = first :: rest ∧ rest.head? ≠ some paletteKeyword ∧
      readNumber? first = some number ∧
      MeasureUnit.ofAlias? (" ".intercalate rest) = some unit ∧ value = .measure unit number := by
  unfold parse
  cases hwords : words v with
  | nil => simp [ofWords]
  | cons first rest =>
      by_cases hsecond : rest.head? = some paletteKeyword
      · obtain ⟨more, rfl⟩ : ∃ more, rest = paletteKeyword :: more :=
          List.head?_eq_some_iff.mp hsecond
        simp [ofWords, eq_comm]
      · have hno : ∀ more, rest ≠ paletteKeyword :: more := by
          rintro more rfl
          exact hsecond rfl
        cases hnumber : readNumber? first with
        | none => simp [ofWords, hsecond, hnumber, hno]
        | some number =>
            cases hunit : MeasureUnit.ofAlias? (" ".intercalate rest) with
            | none => simp [ofWords, hsecond, hnumber, hunit, hno]
            | some unit => simp [ofWords, hsecond, hnumber, hunit, hno, eq_comm]

/-- A measure has no room for the keyword. -/
theorem isReference_eq_false {unit : MeasureUnit} {number : Double}
    (h : parse v = .ok (.measure unit number)) : isReference v = false := by
  rcases parse_eq_ok_iff.mp h with ⟨key, rest, -, hvalue⟩ | ⟨first, rest, number, unit, hwords, -,
    hnumber, hunit, -⟩
  · cases hvalue
  · rw [← Bool.not_eq_true, isReference_iff_exists_word, hwords]
    rintro ⟨word, hword, hwithin⟩
    rcases List.mem_cons.mp hword with rfl | hrest
    · exact keyword_not_infix_of_readNumber? hnumber hwithin
    · exact MeasureUnit.keyword_not_infix_alias hunit (hwithin.trans (infix_intercalate hrest))

/-- A reference holds the keyword, and its first word is its key. -/
theorem reads_reference {key : String} (h : parse v = .ok (.reference key)) :
    isReference v = true ∧ referenceKey v = key := by
  rcases parse_eq_ok_iff.mp h with ⟨first, rest, hwords, hvalue⟩ | ⟨_, _, _, _, -, -, -, -, hvalue⟩
  · cases hvalue
    refine ⟨(isReference_iff_exists_word v).mpr ⟨paletteKeyword, ?_, List.infix_rfl⟩, ?_⟩
    · rw [hwords]
      exact List.mem_cons_of_mem _ List.mem_cons_self
    · rw [referenceKey, firstWord, hwords]
      rfl
  · cases hvalue

/-- **The grammar reads a reference exactly where the keyword occurs**, on strings that follow
it. -/
theorem exists_reference_iff (h : parse v = .ok value) :
    (∃ key, value = .reference key) ↔ isReference v = true := by
  cases value with
  | reference key => simp [(reads_reference h).1]
  | measure unit number => simp [isReference_eq_false h]

end TokenValue

/-! ### What a theme makes of a value -/

namespace Theme

variable {theme : Theme} {v : String}

/-- A value stands for a text throughout. -/
structure Yields (theme : Theme) (v text : String) : Prop where
  /-- It is resolved to the text. -/
  resolved : theme.resolve v = .ok text
  /-- The check passes it, wherever it stands. -/
  checked : ∀ place, theme.checkReference v place = .ok ()
  /-- A scale that holds it declares the text, if the scale is declared at all. -/
  declared : ∀ c name declarations, (name, v) ∈ (theme.base.tokens c).entries →
    theme.scaleDeclarations c = .ok declarations →
      ⟨⟨c.family, name⟩, .literal text⟩ ∈ declarations

/-- A value is refused throughout, as a reference to a color that the palette lacks. -/
structure Misses (theme : Theme) (v key : String) : Prop where
  /-- It cannot be resolved. -/
  resolved : ∃ fault, theme.resolve v = .error fault ∧ fault.key = key ∧
    fault.available = theme.base.palette.keys
  /-- The check reports it with its place. -/
  checked : ∀ place, ∃ fault, theme.checkReference v place = .error fault ∧ fault.key = key ∧
    fault.available = theme.base.palette.keys ∧ fault.place = place
  /-- A scale that holds it cannot be declared. -/
  declared : ∀ c name declarations, (name, v) ∈ (theme.base.tokens c).entries →
    theme.scaleDeclarations c ≠ .ok declarations

/-- A scale that is declared holds no broken reference. -/
theorem not_isBroken_of_scaleDeclarations {c : Category} {declarations : List Declaration}
    (h : theme.scaleDeclarations c = .ok declarations) :
    ∀ e ∈ (theme.base.tokens c).entries, ¬ theme.IsBroken e.2 := by
  have hnone := fault?_scaleDeclarations theme c
  rw [h, fault?_ok, eq_comm, TokenMap.sites, List.findSome?_map,
    List.findSome?_eq_none_iff] at hnone
  exact fun e he => siteFault?_eq_none_iff.mp (hnone e he)

theorem yields_literal (h : ¬ theme.IsBroken v) : theme.Yields v (theme.literal v) := by
  refine ⟨resolve_eq_ok h, fun place => ?_, fun c name declarations hmem hscale => ?_⟩
  · unfold checkReference
    rw [if_neg]
    simpa [IsBroken, OrderedMap.contains_eq_true_iff] using h
  · rw [scaleDeclarations_eq_ok (not_isBroken_of_scaleDeclarations hscale)] at hscale
    rw [← Except.ok.inj hscale]
    exact List.mem_map.mpr ⟨(name, v), hmem, rfl⟩

theorem misses_referenceKey (h : theme.IsBroken v) : theme.Misses v (referenceKey v) := by
  obtain ⟨href, hkey⟩ := h
  refine ⟨⟨.unresolved (referenceKey v) theme.name theme.base.palette.keys, ?_, rfl, rfl⟩,
    fun place => ⟨.invalid (referenceKey v) place theme.base.palette.keys, ?_, rfl, rfl, rfl⟩,
    fun c name declarations hmem hscale => ?_⟩
  · unfold resolve
    rw [if_pos href]
    dsimp only
    rw [OrderedMap.find?_eq_none_iff.mpr hkey]
  · unfold checkReference
    rw [if_pos]
    simp [href, OrderedMap.contains, hkey]
  · exact not_isBroken_of_scaleDeclarations hscale (name, v) hmem ⟨href, hkey⟩

end Theme

/-- **Two readings of references agree wherever the grammar accepts a string.**  The grammar reads a
reference exactly if the keyword occurs. The key is then the first word, the value has the text that
the modes declare for the string, and either the palette has the color and the string stands for it
throughout, or the string is refused throughout with the same key and the same colors. A measure
stands for itself. -/
theorem TokenValue.parse_agrees (theme : Theme) {v : String} {value : TokenValue}
    (h : parse v = .ok value) :
    ((∃ key, value = .reference key) ↔ isReference v = true) ∧
    (∀ key, value = .reference key → referenceKey v = key ∧
      (∀ mode : ModeTokens, ∀ name, (name, v) ∈ mode.bg.entries →
        ∃ d ∈ mode.declarations, d.property = ⟨.mode, name⟩ ∧ d.value.text = value.css) ∧
      ((∃ color, theme.base.palette.find? key = some color ∧ theme.Yields v color) ∨
        key ∉ theme.base.palette.keys ∧ theme.Misses v key)) ∧
    ∀ unit number, value = .measure unit number → theme.Yields v v := by
  refine ⟨exists_reference_iff h, ?_, ?_⟩
  · rintro key rfl
    obtain ⟨href, hkey⟩ := reads_reference h
    refine ⟨hkey, fun mode name hmem => ?_, ?_⟩
    · refine ⟨_, List.mem_map.mpr ⟨(name, v), hmem, rfl⟩, rfl, ?_⟩
      show "var(--" ++ ("color" ++ "-" ++ referenceKey v) ++ ")" = "var(--color-" ++ key ++ ")"
      rw [hkey, ← String.append_assoc]
      rfl
    · cases hfind : theme.base.palette.find? key with
      | some color =>
          left
          have hsound : ¬ theme.IsBroken v := fun hbroken =>
            hbroken.2 (hkey ▸ OrderedMap.exists_find?_iff.mp ⟨color, hfind⟩)
          have hliteral : theme.literal v = color := by
            rw [Theme.literal, if_pos href, hkey, hfind]
            rfl
          exact ⟨color, rfl, hliteral ▸ Theme.yields_literal hsound⟩
      | none =>
          right
          have hnone := OrderedMap.find?_eq_none_iff.mp hfind
          exact ⟨hnone, hkey ▸ Theme.misses_referenceKey ⟨href, hkey ▸ hnone⟩⟩
  · rintro unit number rfl
    have hplain := isReference_eq_false h
    have hliteral : theme.literal v = v := by
      rw [Theme.literal, if_neg (by simp [hplain])]
    have hsound : ¬ theme.IsBroken v := by
      rintro ⟨href, -⟩
      rw [hplain] at href
      cases href
    have hyields := Theme.yields_literal hsound
    rwa [hliteral] at hyields

/-- A theme with a reference whose words stand among unusual blanks. -/
def spacedReference : Theme where
  schema := supportedSchema
  name := "spaced"
  description := ""
  base := { BaseTokens.empty with
    palette := .ofList [("ink", "#111")]
    spacing := .ofList [("gap", "\u2003ink\tpalette dark")] }
  light := ⟨.ofList [("text", "\u2003ink\tpalette dark")]⟩
  dark := ⟨.empty⟩

theorem TokenValue.parse_agrees_spacedReference :
    parse "\u2003ink\tpalette dark" = .ok (.reference "ink") ∧
      referenceKey "\u2003ink\tpalette dark" = "ink" ∧
      spacedReference.Yields "\u2003ink\tpalette dark" "#111" := by
  have hparse : parse "\u2003ink\tpalette dark" = .ok (.reference "ink") := rfl
  obtain ⟨-, hreference, -⟩ := parse_agrees spacedReference hparse
  obtain ⟨hkey, -, ⟨color, hcolor, hyields⟩ | ⟨hmissing, -⟩⟩ := hreference "ink" rfl
  · obtain rfl : "#111" = color := Option.some.inj hcolor
    exact ⟨hparse, hkey, hyields⟩
  · exact absurd (by decide) hmissing

end DesignTokens
