import DesignTokens.Proofs.Number.Digits
import DesignTokens.Proofs.Number.Rounding

/-!
# Numbers in figures

A number in figures is digits, a point with digits behind it, and an exponent; the latter two may be
missing. This module gives such a number its parts, and proves that its text is read as the double
that is nearest to what the parts stand for.

## Main Definitions

* `Figures` — the parts of a number in figures
* `Figures.text`, `signed` — its text, and a text with a sign in front
* `Figures.significand`, `Figures.place`, `Figures.value` — what the parts stand for
* `Figures.IsReadable` — the parts are digits
* `Figures.IsCanonical` — no part has a zero that could be left out

## Main Statements

* `Figures.IsReadable.of_mem_text` — the characters of numbers in figures
* `Figures.IsReadable.ofText?_text` — **a number in figures is read as the nearest double**
-/

namespace DesignTokens.Number

open Text

/-- A text with a sign in front if it is that of a negative number. -/
def signed (negative : Bool) (cs : List Char) : List Char := if negative then '-' :: cs else cs

theorem mem_signed_iff {negative : Bool} {cs : List Char} {c : Char} (hc : c ≠ '-') :
    c ∈ signed negative cs ↔ c ∈ cs := by
  cases negative <;> simp [signed, hc]

/-- A number in figures, without its sign. -/
structure Figures where
  /-- The digits before the point. -/
  whole : List Char
  /-- The digits behind the point. -/
  fraction : List Char
  /-- Whether the exponent is negative, and its digits. -/
  exponent : Option (Bool × List Char)

namespace Figures

/-- The point is written only if there are digits behind it. -/
def fractionText (fraction : List Char) : List Char :=
  if fraction.isEmpty then [] else '.' :: fraction

/-- An exponent is written with its sign. -/
def exponentText : Option (Bool × List Char) → List Char
  | none => []
  | some (negative, ds) => 'e' :: (if negative then '-' else '+') :: ds

/-- The text of a number in figures. -/
def text (f : Figures) : List Char :=
  f.whole ++ (fractionText f.fraction ++ exponentText f.exponent)

/-- All digits but those of the exponent, read as a natural number. -/
def significand (f : Figures) : Nat := Nat.ofDigitChars 10 (f.whole ++ f.fraction) 0

/-- The power of ten that an exponent stands for. -/
def powerOf : Option (Bool × List Char) → Int
  | none => 0
  | some (negative, ds) =>
    if negative then -(Nat.ofDigitChars 10 ds 0 : Int) else Nat.ofDigitChars 10 ds 0

/-- The power of ten that the significand counts. -/
def place (f : Figures) : Int := powerOf f.exponent - f.fraction.length

/-- The number that the parts stand for. -/
def value (f : Figures) : ℚ := f.significand * 10 ^ f.place

/-- The parts of a number in figures are digits, at least where there must be some. -/
structure IsReadable (f : Figures) : Prop where
  /-- There are digits before the point. -/
  whole_digit : ∀ c ∈ f.whole, c.isDigit = true
  /-- One of them at least. -/
  whole_ne_nil : f.whole ≠ []
  /-- There are only digits behind the point. -/
  fraction_digit : ∀ c ∈ f.fraction, c.isDigit = true
  /-- There are only digits in the exponent. -/
  exponent_digit : ∀ e ∈ f.exponent, ∀ c ∈ e.2, c.isDigit = true
  /-- If there is an exponent it has digits. -/
  exponent_ne_nil : ∀ e ∈ f.exponent, e.2 ≠ []

/-- No part of a number in figures has a zero that could be left out. -/
structure IsCanonical (f : Figures) : Prop extends f.IsReadable where
  /-- Zero is the only number before the point that begins with a zero. -/
  whole_head : f.whole.head? = some '0' → f.whole = ['0']
  /-- The digits behind the point do not end in a zero. -/
  fraction_last : f.fraction.getLast? ≠ some '0'
  /-- An exponent does not begin with a zero. -/
  exponent_head : ∀ e ∈ f.exponent, e.2.head? ≠ some '0'

/-- A natural number in figures. -/
def ofNat (n : Nat) : Figures := ⟨natDigits n, [], none⟩

theorem isCanonical_ofNat (n : Nat) : (ofNat n).IsCanonical where
  whole_digit := isDigit_of_mem_natDigits
  whole_ne_nil := Nat.toDigits_ne_nil
  fraction_digit := by simp [ofNat]
  exponent_digit := by simp [ofNat]
  exponent_ne_nil := by simp [ofNat]
  whole_head := by
    intro hhead
    rcases Nat.eq_zero_or_pos n with rfl | hpos
    · rfl
    · exact absurd hhead (head?_natDigits_ne hpos)
  fraction_last := by simp [ofNat]
  exponent_head := by simp [ofNat]

theorem ofNat_value (n : Nat) : (ofNat n).value = n := by
  simp [value, significand, place, powerOf, ofNat, natDigits, Nat.ofDigitChars_ten_toDigits]

variable {f : Figures}

/-- **Numbers in figures are written with digits, a point, an `e` and signs.** -/
theorem IsReadable.of_mem_text (h : f.IsReadable) {c : Char} (hc : c ∈ f.text) :
    c.isDigit = true ∨ c ∈ ['.', 'e', '+', '-'] := by
  simp only [text, List.mem_append] at hc
  rcases hc with hwhole | hfraction | hexponent
  · exact .inl (h.whole_digit c hwhole)
  · unfold fractionText at hfraction
    split at hfraction
    · cases hfraction
    · rcases List.mem_cons.mp hfraction with rfl | hfraction
      · exact .inr (by decide)
      · exact .inl (h.fraction_digit c hfraction)
  · cases he : f.exponent with
    | none =>
        rw [he] at hexponent
        cases hexponent
    | some e =>
        obtain ⟨negative, ds⟩ := e
        rw [he, exponentText, List.mem_cons, List.mem_cons] at hexponent
        rcases hexponent with rfl | rfl | hds
        · exact .inr (by decide)
        · exact .inr (by cases negative <;> decide)
        · exact .inl (h.exponent_digit _ he c hds)

theorem isBlank_eq_false {c : Char} (h : c.isDigit = true ∨ c ∈ ['.', 'e', '+', '-']) :
    isBlank c = false := by
  rcases h with hdigit | hmark
  · have hrange := toNat_of_isDigit hdigit
    have hcodes : ∀ code ∈ blankCodes, code < 0x30 ∨ 0x39 < code := by decide
    rw [isBlank, ← Bool.not_eq_true, List.contains_iff_mem]
    intro hmem
    have := hcodes _ hmem
    omega
  · simp only [List.mem_cons, List.not_mem_nil, or_false] at hmark
    rcases hmark with rfl | rfl | rfl | rfl <;> rfl

/-- The text of a number in figures begins with a digit. -/
theorem IsReadable.exists_text_eq (h : f.IsReadable) :
    ∃ c rest, f.text = c :: rest ∧ c.isDigit = true := by
  obtain ⟨c, rest, hwhole⟩ := List.exists_cons_of_ne_nil h.whole_ne_nil
  refine ⟨c, rest ++ (fractionText f.fraction ++ exponentText f.exponent), ?_, ?_⟩
  · rw [text, hwhole, List.cons_append]
  · exact h.whole_digit c (hwhole ▸ List.mem_cons_self)

/-- There are no blanks in a number. -/
theorem IsReadable.isBlank_of_mem (h : f.IsReadable) {negative : Bool} {c : Char}
    (hc : c ∈ signed negative f.text) : isBlank c = false := by
  cases negative with
  | false => exact isBlank_eq_false (h.of_mem_text hc)
  | true =>
      rcases List.mem_cons.mp hc with rfl | hc
      · decide
      · exact isBlank_eq_false (h.of_mem_text hc)

/-! ### The shape of the text -/

/-- **A number has an exponent exactly if there is an `e` in it.** -/
theorem IsReadable.mark_mem_text_iff (h : f.IsReadable) :
    'e' ∈ f.text ↔ f.exponent.isSome = true := by
  have hnodigit : ∀ ds : List Char, (∀ c ∈ ds, c.isDigit = true) → 'e' ∉ ds := by
    intro ds hds hmem
    exact absurd (hds _ hmem) (by decide)
  have hwhole := hnodigit _ h.whole_digit
  have hfraction : 'e' ∉ fractionText f.fraction := by
    unfold fractionText
    split
    · exact List.not_mem_nil
    · rw [List.mem_cons, not_or]
      exact ⟨by decide, hnodigit _ h.fraction_digit⟩
  cases he : f.exponent with
  | none => simp [text, he, exponentText, hwhole, hfraction]
  | some e => simp [text, he, exponentText]

/-- **No number ends in a point and a zero** if nothing in it could be left out. -/
theorem IsCanonical.not_pointZero_suffix (h : f.IsCanonical) (negative : Bool) :
    ¬ ['.', '0'] <:+ signed negative f.text := by
  intro hsuffix
  have htext : ['.', '0'] <:+ f.text := by
    cases negative with
    | false => exact hsuffix
    | true => exact (List.suffix_cons_iff.mp hsuffix).resolve_left (by simp)
  obtain ⟨front, hfront⟩ := htext
  cases he : f.exponent with
  | none =>
      rw [text, he, exponentText, List.append_nil] at hfront
      cases hfraction : f.fraction with
      | nil =>
          rw [hfraction, fractionText, List.isEmpty_nil, if_pos rfl, List.append_nil] at hfront
          have hpoint : '.' ∈ f.whole := by
            rw [← hfront]
            simp
          exact absurd (h.whole_digit _ hpoint) (by decide)
      | cons d more =>
          refine h.fraction_last ?_
          have hlast := congrArg List.getLast? hfront
          simpa [fractionText, hfraction] using hlast.symm
  | some e =>
      obtain ⟨sign, ds⟩ := e
      have hne : ds ≠ [] := h.exponent_ne_nil _ he
      have htext : f.text = f.whole ++ (fractionText f.fraction ++ ['e']) ++
          ((if sign then '-' else '+') :: ds) := by
        simp [text, he, exponentText]
      -- Without its last digit the text ends in the sign or in a digit of the exponent.
      have hinit : (front ++ ['.']).getLast? =
          ((if sign then '-' else '+') :: ds.dropLast).getLast? := by
        have hdrop := congrArg List.dropLast (hfront.trans htext)
        rw [List.dropLast_append_of_ne_nil (List.cons_ne_nil _ _),
          List.dropLast_append_of_ne_nil (List.cons_ne_nil _ _), List.dropLast_cons_of_ne_nil hne]
          at hdrop
        have hlast := congrArg List.getLast? hdrop
        rwa [List.getLast?_append_of_ne_nil _ (List.cons_ne_nil _ _)] at hlast
      rw [List.getLast?_append_of_ne_nil _ (List.cons_ne_nil _ _)] at hinit
      rcases List.mem_cons.mp (List.mem_of_getLast? hinit.symm) with hsign | hdigit
      · cases sign <;> cases hsign
      · exact absurd (h.exponent_digit _ he _ (List.mem_of_mem_dropLast hdigit)) (by decide)

/-! ### Reading -/

theorem trimNumber_eq_self {cs : List Char} (h : ∀ c ∈ cs, isBlank c = false) :
    trimNumber cs = cs := by
  have hstart : ∀ ds : List Char, (∀ c ∈ ds, isBlank c = false) → trimNumberStart ds = ds := by
    intro ds hds
    unfold trimNumberStart
    cases ds with
    | nil => rfl
    | cons d rest => rw [List.dropWhile_cons_of_neg (by simp [isNumberBlank, hds d])]
  unfold trimNumber
  rw [hstart cs h, hstart cs.reverse (by simpa using h), List.reverse_reverse]

/-- The sign that is written is read. -/
theorem IsReadable.splitSign_signed (h : f.IsReadable) (negative : Bool) :
    splitSign (signed negative f.text) = (negative, f.text) := by
  obtain ⟨c, rest, htext, hdigit⟩ := h.exists_text_eq
  cases negative with
  | true => rfl
  | false =>
      rw [htext]
      show splitSign (c :: rest) = (false, c :: rest)
      unfold splitSign
      split
      · next heq =>
          cases heq
          cases hdigit
      · next heq =>
          cases heq
          cases hdigit
      · rfl

/-- An exponent is read as the power of ten that it stands for. -/
theorem IsReadable.readExponent?_exponentText (h : f.IsReadable) :
    readExponent? (exponentText f.exponent) = some (powerOf f.exponent) := by
  cases he : f.exponent with
  | none => rfl
  | some e =>
      obtain ⟨negative, ds⟩ := e
      obtain ⟨d, more, rfl⟩ := List.exists_cons_of_ne_nil (h.exponent_ne_nil _ he)
      have hsplit : splitDigits (d :: more ++ []) =
          ((d :: more).map digitOf, []) :=
        splitDigits_append (h.exponent_digit _ he) (by simp)
      rw [List.append_nil] at hsplit
      have hvalue := ofDigits_map_digitOf (d :: more)
      cases negative <;>
        simp_all [exponentText, readExponent?, splitSign, powerOf]

/-- What follows the digits before the point does not go on with a digit. -/
theorem digitValue?_of_exponentText {e : Option (Bool × List Char)} :
    ∀ c ∈ (exponentText e).head?, digitValue? c = none := by
  have hletter : digitValue? 'e' = none := by decide
  cases e <;> simp [exponentText, hletter]

/-- Digits, a point and an exponent are read as the nearest double. -/
theorem IsReadable.readFigures?_text (h : f.IsReadable) (negative : Bool) :
    readFigures? negative f.text =
      some (Double.ofCode negative (roundDecimal f.significand f.place)) := by
  have hexponent := h.readExponent?_exponentText
  have hdigits := ofDigits_map_digitOf (f.whole ++ f.fraction)
  have hne := h.whole_ne_nil
  rw [List.map_append] at hdigits
  cases hfraction : f.fraction with
  | nil =>
      have hsplit : splitDigits f.text =
          (f.whole.map digitOf, exponentText f.exponent) := by
        rw [text, hfraction]
        exact splitDigits_append h.whole_digit digitValue?_of_exponentText
      -- What is left after the digits is no point, so nothing is read behind one.
      have hpoint : ∀ after, exponentText f.exponent ≠ '.' :: after := by
        cases f.exponent <;> simp [exponentText]
      rw [hfraction, List.map_nil, List.append_nil, List.append_nil] at hdigits
      unfold readFigures?
      rw [hsplit]
      simp [hexponent, hne, hdigits, Double.ofDecimal_eq, significand, place, hfraction]
  | cons d more =>
      have hsplit : splitDigits f.text = (f.whole.map digitOf,
          '.' :: (f.fraction ++ exponentText f.exponent)) := by
        have hpoint : digitValue? '.' = none := by decide
        have htext : f.text = f.whole ++ '.' :: (f.fraction ++ exponentText f.exponent) := by
          simp [text, fractionText, hfraction]
        rw [htext]
        exact splitDigits_append h.whole_digit (by simp [hpoint])
      have hafter := splitDigits_append h.fraction_digit
        (digitValue?_of_exponentText (e := f.exponent))
      unfold readFigures?
      rw [hsplit]
      simp [hafter, hexponent, hne, hdigits, Double.ofDecimal_eq, significand, place]

/-- **A number in figures is read as the nearest double.** -/
theorem IsReadable.ofText?_text (h : f.IsReadable) (negative : Bool) :
    Double.ofText? (String.ofList (signed negative f.text)) =
      some (Double.ofCode negative (roundDecimal f.significand f.place)) := by
  have hblank : ∀ c ∈ signed negative f.text, isBlank c = false := fun _ => h.isBlank_of_mem
  have htrim := trimNumber_eq_self hblank
  unfold Double.ofText?
  rw [String.toList_ofList, htrim, h.splitSign_signed]
  dsimp only
  rw [h.readFigures?_text, Option.some_or]

end Figures

end DesignTokens.Number
