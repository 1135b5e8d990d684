/-!
# Blank characters and words

A value string is read word by word. A word is a maximal run of characters that are not blank,
and blank means white space in the sense of Unicode (with the four information separators), so
an ideographic space parts words as well as a space does.

## Main Definitions

* `isBlank` — the class of separating characters
* `words` — the words of a string, in order
* `firstWord` — the first of them, empty for a blank string
* `trimNumber` — a text without the blanks that may stand around a number

## Main Statements

* `isBlank_of_mem_firstWord` — a first word has no blanks
-/

namespace DesignTokens.Text

/-- The code points that part words. -/
def blankCodes : List Nat :=
  [0x9, 0xa, 0xb, 0xc, 0xd, 0x1c, 0x1d, 0x1e, 0x1f, 0x20, 0x85, 0xa0, 0x1680,
   0x2000, 0x2001, 0x2002, 0x2003, 0x2004, 0x2005, 0x2006, 0x2007, 0x2008, 0x2009, 0x200a,
   0x2028, 0x2029, 0x202f, 0x205f, 0x3000]

/-- A blank character parts words and belongs to none. -/
def isBlank (c : Char) : Bool := blankCodes.contains c.toNat

/-- The words of a list of characters: a character opens a word of its own when a blank or
nothing follows it, and else joins the word that starts right after it. -/
def wordsOf : List Char → List (List Char)
  | [] => []
  | [c] => if isBlank c then [] else [[c]]
  | c :: d :: rest =>
    if isBlank c then wordsOf (d :: rest)
    else if isBlank d then [c] :: wordsOf (d :: rest)
    else
      match wordsOf (d :: rest) with
      | [] => [[c]]
      | word :: more => (c :: word) :: more

/-- The words of a string, in order. -/
def words (s : String) : List String := (wordsOf s.toList).map String.ofList

/-- The first word of a string, or the empty string when it is blank throughout. -/
def firstWord (s : String) : String := (words s).headD ""

/-- The blanks that may stand around a number: all but the information separators. -/
def isNumberBlank (c : Char) : Bool :=
  isBlank c && !(decide (0x1c ≤ c.toNat) && decide (c.toNat ≤ 0x1f))

/-- The characters without the blanks of a number at their start. -/
def trimNumberStart (cs : List Char) : List Char := cs.dropWhile isNumberBlank

/-- The characters without the blanks of a number at either end. -/
def trimNumber (cs : List Char) : List Char :=
  (trimNumberStart (trimNumberStart cs).reverse).reverse

/-- No character of a word is blank. -/
theorem isBlank_of_mem_wordsOf {cs word : List Char} (hword : word ∈ wordsOf cs) {c : Char}
    (hc : c ∈ word) : isBlank c = false := by
  fun_induction wordsOf cs generalizing word with
  | case1 => simp at hword
  | case2 d h => simp at hword
  | case3 d h =>
      rw [List.mem_singleton.mp hword, List.mem_singleton] at hc
      simpa [hc] using h
  | case4 d e rest h ih => exact ih hword hc
  | case5 d e rest hd he ih =>
      rcases List.mem_cons.mp hword with rfl | hword
      · rw [List.mem_singleton.mp hc]
        simpa using hd
      · exact ih hword hc
  | case6 d e rest hd he hnone ih =>
      rw [List.mem_singleton.mp hword, List.mem_singleton] at hc
      simpa [hc] using hd
  | case7 d e rest hd he first more hsome ih =>
      rcases List.mem_cons.mp hword with rfl | hword
      · rcases List.mem_cons.mp hc with rfl | hc
        · simpa using hd
        · exact ih (hsome ▸ List.mem_cons_self) hc
      · exact ih (hsome ▸ List.mem_cons_of_mem _ hword) hc

/-- No character of a first word is blank. -/
theorem isBlank_of_mem_firstWord {s : String} {c : Char} (hc : c ∈ (firstWord s).toList) :
    isBlank c = false := by
  unfold firstWord words at hc
  cases hwords : wordsOf s.toList with
  | nil => simp [hwords] at hc
  | cons word more =>
      have hword : c ∈ word := by simpa [hwords] using hc
      exact isBlank_of_mem_wordsOf (hwords ▸ List.mem_cons_self) hword

end DesignTokens.Text
