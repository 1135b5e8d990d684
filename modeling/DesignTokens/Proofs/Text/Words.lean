import DesignTokens.Text.Blank
import DesignTokens.Text.Search
import Mathlib.Data.List.Infix

/-!
# Search in words

A text is parted into words at its blanks. What holds no blank cannot straddle two words, so a
search in the text finds it exactly if a search in one of the words does.

## Main Statements

* `Text.occursIn_eq_true_iff` — a search finds consecutive characters
* `Text.wordsOf_cons_of_isBlank`, `Text.wordsOf_cons` — the first word of a text
* `Text.words_append` — a text without blanks is a word in front of a space
* `Text.contains_iff_exists_word` — a search in a text is a search in its words
* `Text.infix_intercalate` — strings are found where they are joined
-/

namespace DesignTokens.Text

variable {pattern cs : List Char} {c : Char}

/-- **A search finds what consecutive characters spell.** -/
theorem occursIn_eq_true_iff : occursIn pattern cs = true ↔ pattern <:+: cs := by
  induction cs with
  | nil => simp [occursIn]
  | cons c rest ih =>
      rw [occursIn, Bool.or_eq_true, ih, List.infix_cons_iff, startsWith,
        List.isPrefixOf_iff_prefix]

/-! ### The first word -/

/-- The characters up to the first blank. -/
def unbroken (cs : List Char) : List Char := cs.takeWhile fun c => !isBlank c

/-- What follows the characters up to the first blank. -/
def broken (cs : List Char) : List Char := cs.dropWhile fun c => !isBlank c

/-- A blank at the start is not part of any word. -/
theorem wordsOf_cons_of_isBlank (h : isBlank c = true) (rest : List Char) :
    wordsOf (c :: rest) = wordsOf rest := by
  cases rest with
  | nil => simp [wordsOf, h]
  | cons d rest => simp [wordsOf, h]

/-- **A word goes on up to the first blank.** -/
theorem wordsOf_cons (h : isBlank c = false) (rest : List Char) :
    wordsOf (c :: rest) = (c :: unbroken rest) :: wordsOf (broken rest) := by
  induction rest generalizing c with
  | nil => simp [wordsOf, h, unbroken, broken]
  | cons d rest ih =>
      cases hd : isBlank d with
      | true => simp [wordsOf, h, hd, unbroken, broken]
      | false =>
          have hrest := ih hd
          simp only [wordsOf, h, hd, hrest, unbroken, broken, List.takeWhile_cons,
            List.dropWhile_cons, Bool.not_false, if_true, Bool.false_eq_true, if_false]

/-- A text without blanks is a word of its own in front of a blank. -/
theorem wordsOf_append_cons {word : List Char} (hne : word ≠ [])
    (hword : ∀ c ∈ word, isBlank c = false) (h : isBlank c = true) (rest : List Char) :
    wordsOf (word ++ c :: rest) = word :: wordsOf rest := by
  obtain ⟨first, more, rfl⟩ := List.exists_cons_of_ne_nil hne
  obtain ⟨hfirst, hmore⟩ := List.forall_mem_cons.mp hword
  have hunbroken : unbroken (more ++ c :: rest) = more := by
    rw [unbroken, List.takeWhile_append_of_pos (by simpa using hmore)]
    simp [h]
  have hbroken : broken (more ++ c :: rest) = c :: rest := by
    rw [broken, List.dropWhile_append_of_pos (by simpa using hmore)]
    simp [h]
  rw [List.cons_append, wordsOf_cons hfirst, hunbroken, hbroken, wordsOf_cons_of_isBlank h]

/-- The same of strings, with a space. -/
theorem words_append {word : String} (hne : word ≠ "")
    (hword : ∀ c ∈ word.toList, isBlank c = false) (rest : String) :
    words (word ++ " " ++ rest) = word :: words rest := by
  have hchars : word.toList ≠ [] := fun h => hne (String.toList_eq_nil_iff.mp h)
  have hspace : (" " : String).toList = [' '] := rfl
  rw [words, String.toList_append, String.toList_append, hspace, List.append_assoc,
    List.singleton_append, wordsOf_append_cons hchars hword (by decide), List.map_cons,
    String.ofList_toList]
  rfl

/-! ### Search -/

/-- Characters that are no blanks stand at the start of a text if they stand before its first
blank. -/
theorem prefix_unbroken_iff (hpattern : ∀ c ∈ pattern, isBlank c = false) :
    pattern <+: unbroken cs ↔ pattern <+: cs := by
  constructor
  · exact fun h => h.trans (List.takeWhile_prefix _)
  · rintro ⟨rest, rfl⟩
    refine ⟨unbroken rest, ?_⟩
    exact (List.takeWhile_append_of_pos fun c hc => by simp [hpattern c hc]).symm

/-- What is found in the words of a text is found before its first blank or in the words after
it. -/
theorem exists_word_iff (hne : pattern ≠ []) :
    (∃ word ∈ wordsOf cs, pattern <:+: word) ↔
      pattern <:+: unbroken cs ∨ ∃ word ∈ wordsOf (broken cs), pattern <:+: word := by
  cases cs with
  | nil => simp [unbroken, broken, hne]
  | cons c rest =>
      cases hc : isBlank c with
      | true => simp [unbroken, broken, hc, hne]
      | false =>
          rw [wordsOf_cons hc]
          simp [unbroken, broken, hc]

/-- **What holds no blank is found in a text exactly if it is found in one of its words.** -/
theorem infix_iff_exists_word (hpattern : ∀ c ∈ pattern, isBlank c = false) (hne : pattern ≠ []) :
    pattern <:+: cs ↔ ∃ word ∈ wordsOf cs, pattern <:+: word := by
  induction cs with
  | nil => simp [wordsOf, hne]
  | cons c rest ih =>
      rw [List.infix_cons_iff, ih]
      cases hc : isBlank c with
      | true =>
          rw [wordsOf_cons_of_isBlank hc]
          refine or_iff_right fun hprefix => ?_
          -- The first character of what is found would be the blank.
          obtain ⟨d, front, rfl⟩ := List.exists_cons_of_ne_nil hne
          obtain ⟨rfl, -⟩ := List.cons_prefix_cons.mp hprefix
          rw [hpattern d List.mem_cons_self] at hc
          cases hc
      | false =>
          have hfirst : c :: unbroken rest = unbroken (c :: rest) := by simp [unbroken, hc]
          rw [wordsOf_cons hc, exists_word_iff hne, List.exists_mem_cons_iff, List.infix_cons_iff,
            hfirst, prefix_unbroken_iff hpattern, or_assoc]

/-- The same of strings. -/
theorem contains_iff_exists_word {keyword : String} (hkeyword : ∀ c ∈ keyword.toList,
    isBlank c = false) (hne : keyword ≠ "") (s : String) :
    contains keyword s = true ↔ ∃ word ∈ words s, keyword.toList <:+: word.toList := by
  have hchars : keyword.toList ≠ [] := fun h => hne (String.toList_eq_nil_iff.mp h)
  rw [contains, occursIn_eq_true_iff, infix_iff_exists_word hkeyword hchars, words]
  simp [String.toList_ofList]

/-- Each of several strings is found where they are joined. -/
theorem infix_intercalate {separator part : String} {parts : List String} (h : part ∈ parts) :
    part.toList <:+: (separator.intercalate parts).toList := by
  induction parts with
  | nil => cases h
  | cons first rest ih =>
      cases rest with
      | nil =>
          rw [List.mem_singleton.mp h]
          simp
      | cons second more =>
          rw [String.intercalate_cons_of_ne_nil (List.cons_ne_nil second more),
            String.toList_append, String.toList_append]
          rcases List.mem_cons.mp h with rfl | hrest
          · exact (List.prefix_append _ _).isInfix.trans (List.prefix_append _ _).isInfix
          · exact (ih hrest).trans (List.suffix_append _ _).isInfix

end DesignTokens.Text
