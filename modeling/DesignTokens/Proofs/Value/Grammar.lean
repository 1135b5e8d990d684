import DesignTokens.Proofs.Value.References

/-!
# The grammar of value strings

A value string has two forms by its grammar: a key and the keyword, or a number and the name of a
unit. This module states the grammar on the words of a string and proves what the reader makes of
it: every string that follows the grammar is read as it says, and of all others only those are read
that have further words behind a key and the keyword.

## Main Definitions

* `Number.Double.ofSeparatedText?` — numbers with single underscores between their digits
* `TokenValue.Follows` — the grammar
* `TokenValue.HasSurplus` — a reference with further words behind it

## Main Statements

* `readNumber?_eq_some_iff` — the numbers that the grammar admits
* `TokenValue.Follows.not_hasSurplus` — a reference with further words does not follow the grammar
* `TokenValue.parse_eq_ok_iff_follows` — **what is read**, and what is refused

## Design Notes

The number of a value is one that a program would read, but without underscores in it. The reader
knows no underscores at all; that the two agree is a statement here.
-/

namespace DesignTokens

open Text

/-! ### Numbers with separators -/

namespace Number

/-- The characters without the underscores between two digits. There must be no other ones. -/
def dropSeparators? : List Char → Option (List Char)
  | [] => some []
  | c :: '_' :: d :: rest =>
    if (digitValue? c).isSome && (digitValue? d).isSome then
      (dropSeparators? (d :: rest)).map (c :: ·)
    else none
  | c :: rest => if c = '_' then none else (dropSeparators? rest).map (c :: ·)

/-- The double that a text spells, single underscores between digits being dropped. -/
def Double.ofSeparatedText? (s : String) : Option Double :=
  (dropSeparators? s.toList).bind fun cs => ofText? (String.ofList cs)

theorem dropSeparators?_eq_self {cs : List Char} (h : '_' ∉ cs) : dropSeparators? cs = some cs := by
  fun_induction dropSeparators? cs with
  | case1 => rfl
  | case2 c d rest hdigits ih => simp at h
  | case3 c d rest hdigits => simp at h
  | case4 rest => simp at h
  | case5 c rest hinner hc ih =>
      rw [ih fun hmem => h (List.mem_cons_of_mem c hmem)]
      rfl

/-- Without underscores the separators make no difference. -/
theorem Double.ofSeparatedText?_eq {s : String} (h : '_' ∉ s.toList) :
    ofSeparatedText? s = ofText? s := by
  rw [ofSeparatedText?, dropSeparators?_eq_self h, Option.bind_some, String.ofList_toList]

end Number

open Number

/-- **The numbers of the grammar** are the finite ones without underscores. -/
theorem readNumber?_eq_some_iff {word : String} {number : Double} :
    readNumber? word = some number ↔
      '_' ∉ word.toList ∧ Double.ofSeparatedText? word = some number ∧ number.isFinite = true := by
  have hseparator : IsNoFigure '_' := by decide
  constructor
  · intro hread
    have hnone := notMem_of_readNumber? hseparator hread
    rw [Double.ofSeparatedText?_eq hnone]
    exact ⟨hnone, Option.filter_eq_some_iff.mp hread⟩
  · rintro ⟨hnone, htext, hfinite⟩
    rw [Double.ofSeparatedText?_eq hnone] at htext
    exact Option.filter_eq_some_iff.mpr ⟨htext, hfinite⟩

namespace TokenValue

/-- **The grammar of value strings**: the words are a key and the keyword, or a number and words
that joined by single spaces are the name of a unit. -/
inductive Follows (v : String) : TokenValue → Prop
  | reference {key : String} (hwords : words v = [key, paletteKeyword]) :
    Follows v (.reference key)
  | measure {word : String} {more : List String} {number : Double} {unit : MeasureUnit}
    (hwords : words v = word :: more) (hseparator : '_' ∉ word.toList)
    (hnumber : Double.ofSeparatedText? word = some number) (hfinite : number.isFinite = true)
    (hunit : (" ".intercalate more, unit) ∈ MeasureUnit.aliases) :
    Follows v (.measure unit number)

/-- The words are a key and the keyword with further words behind them. -/
def HasSurplus (v key : String) : Prop :=
  ∃ word more, words v = key :: paletteKeyword :: word :: more

variable {v : String} {value : TokenValue}

/-- The words of a unit do not start with the keyword. -/
theorem head?_ne_keyword {more : List String} {unit : MeasureUnit}
    (h : (" ".intercalate more, unit) ∈ MeasureUnit.aliases) :
    more.head? ≠ some paletteKeyword := by
  intro hhead
  obtain ⟨rest, rfl⟩ := List.head?_eq_some_iff.mp hhead
  exact MeasureUnit.keyword_not_infix_alias (MeasureUnit.ofAlias?_eq_some_iff.mpr h)
    (infix_intercalate List.mem_cons_self)

/-- A reference with further words behind it does not follow the grammar. -/
theorem Follows.not_hasSurplus (h : Follows v value) (key : String) : ¬ HasSurplus v key := by
  rintro ⟨word, more, hsurplus⟩
  cases h with
  | reference hwords =>
      rw [hwords] at hsurplus
      cases hsurplus
  | measure hwords _ _ _ hunit =>
      rw [hwords] at hsurplus
      cases hsurplus
      exact head?_ne_keyword hunit rfl

/-- Both forms of the grammar are read, and further words behind a reference are passed over. -/
theorem parse_eq_ok_iff_follows :
    parse v = .ok value ↔ Follows v value ∨ ∃ key, HasSurplus v key ∧ value = .reference key := by
  rw [parse_eq_ok_iff]
  constructor
  · rintro (⟨key, rest, hwords, rfl⟩ | ⟨word, more, number, unit, hwords, -, hread, hunit, rfl⟩)
    · cases rest with
      | nil => exact .inl (.reference hwords)
      | cons word more => exact .inr ⟨key, ⟨word, more, hwords⟩, rfl⟩
    · obtain ⟨hseparator, hnumber, hfinite⟩ := readNumber?_eq_some_iff.mp hread
      exact .inl (.measure hwords hseparator hnumber hfinite
        (MeasureUnit.ofAlias?_eq_some_iff.mp hunit))
  · rintro (hfollows | ⟨key, ⟨word, more, hwords⟩, rfl⟩)
    · cases hfollows with
      | reference hwords => exact .inl ⟨_, [], hwords, rfl⟩
      | measure hwords hseparator hnumber hfinite hunit =>
          exact .inr ⟨_, _, _, _, hwords, head?_ne_keyword hunit,
            readNumber?_eq_some_iff.mpr ⟨hseparator, hnumber, hfinite⟩,
            MeasureUnit.ofAlias?_eq_some_iff.mpr hunit, rfl⟩
    · exact .inl ⟨key, word :: more, hwords, rfl⟩

/-- What is refused is reported with the string. -/
theorem value_of_parse_eq_error {fault : ValueFault} (h : parse v = .error fault) :
    fault.value = v := by
  unfold parse ofWords at h
  split at h
  · cases h
    rfl
  · split at h
    · cases h
    · split at h
      · cases h
        rfl
      · dsimp only at h
        split at h <;> cases h
        rfl

/-- **What is read, and what is refused.**  A string is read as a value if it follows the grammar
and stands for the value by it. Apart from that only references with further words behind them are
read, as if these were missing; no such string follows the grammar. All other strings are refused
with an error that holds the string. -/
theorem parses_iff_follows (v : String) :
    (∀ value, parse v = .ok value ↔
      Follows v value ∨ ∃ key, HasSurplus v key ∧ value = .reference key) ∧
    (∀ key, HasSurplus v key → ∀ value, ¬ Follows v value) ∧
    ((∃ fault, parse v = .error fault ∧ fault.value = v) ↔
      (∀ value, ¬ Follows v value) ∧ ∀ key, ¬ HasSurplus v key) := by
  refine ⟨fun value => parse_eq_ok_iff_follows,
    fun key hsurplus value hfollows => hfollows.not_hasSurplus key hsurplus, ?_⟩
  cases hparse : parse v with
  | error fault =>
      refine iff_of_true ⟨fault, rfl, value_of_parse_eq_error hparse⟩
        ⟨fun value hfollows => ?_, fun key hsurplus => ?_⟩
      · rw [parse_eq_ok_iff_follows.mpr (.inl hfollows)] at hparse
        cases hparse
      · rw [parse_eq_ok_iff_follows.mpr (.inr ⟨key, hsurplus, rfl⟩)] at hparse
        cases hparse
  | ok value =>
      refine iff_of_false (by rintro ⟨fault, hfault, -⟩; cases hfault) ?_
      rintro ⟨hnone, hexact⟩
      rcases parse_eq_ok_iff_follows.mp hparse with hfollows | ⟨key, hsurplus, -⟩
      · exact hnone value hfollows
      · exact hexact key hsurplus

/-- The grammar alone does not tell what is read. -/
theorem not_forall_parse_iff_follows :
    ¬ ∀ v value, parse v = .ok value ↔ Follows v value := by
  intro h
  have hwords : words "ink palette dark" = ["ink", paletteKeyword, "dark"] := by decide
  have hread : parse "ink palette dark" = .ok (.reference "ink") :=
    parse_eq_ok_iff.mpr (.inl ⟨"ink", ["dark"], hwords, rfl⟩)
  exact ((h _ _).mp hread).not_hasSurplus "ink" ⟨"dark", [], hwords⟩

end TokenValue

end DesignTokens
