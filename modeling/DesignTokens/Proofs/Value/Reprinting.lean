import DesignTokens.Proofs.Number.CssText
import DesignTokens.Proofs.Value.References

/-!
# Reprinting numbers

A number is shown in a stylesheet and numbers are read in value strings. This module proves that
reading undoes showing: in front of any name of a unit a shown number is read as itself, so no two
numbers look alike, and a measure that is shown with its number can be read again from it.

## Main Definitions

* `MeasureUnit.suffix?` — what a shown number of a unit ends in
* `TokenValue.same` — equality of values, their numbers being compared numerically

## Main Statements

* `Number.Double.sameValue_iff` — numerical equality is equality of the values in units
* `Number.Double.cssText_eq_iff` — numbers that look alike are equal
* `readNumber?_cssText` — a shown number is read as the same number
* `TokenValue.parse_cssText` — the same in front of a unit
* `TokenValue.parse_undoes_cssText` — **reading undoes showing**
-/

namespace DesignTokens

open Text

/-! ### Numbers that look alike -/

namespace Number.Double

variable {x y : Double}

theorem signedUnits_dropZeroSign (x : Double) : x.dropZeroSign.signedUnits = x.signedUnits := by
  by_cases hzero : x.code.val = 0
  · have hunits := units_eq_zero_iff.mpr hzero
    have hdropped : x.dropZeroSign.units = 0 := hunits
    simp only [signedUnits, hunits, hdropped, Nat.cast_zero, neg_zero, ite_self]
  · have hsign : x.dropZeroSign = x := by
      rw [dropZeroSign, if_neg hzero]
    rw [hsign]

@[simp] theorem isFinite_dropZeroSign (x : Double) : x.dropZeroSign.isFinite = x.isFinite := rfl

/-- Without the sign of zero a number is told by its value. -/
theorem dropZeroSign_eq_iff : x.dropZeroSign = y.dropZeroSign ↔ x.signedUnits = y.signedUnits := by
  constructor
  · intro h
    rw [← signedUnits_dropZeroSign x, h, signedUnits_dropZeroSign]
  · intro h
    have hunits : x.units = y.units := by
      have habs := congrArg Int.natAbs h
      unfold signedUnits at habs
      split at habs <;> split at habs <;> simpa using habs
    have hcode : x.code = y.code := Fin.ext (codeUnits_strictMono.injective hunits)
    by_cases hzero : y.code.val = 0
    · simp only [dropZeroSign, hcode, if_pos hzero]
    · have hpos : 0 < y.units := Nat.pos_of_ne_zero fun h0 => hzero (units_eq_zero_iff.mp h0)
      have hsign : x.negative = y.negative := by
        unfold signedUnits at h
        rw [hunits] at h
        cases hx : x.negative <;> cases hy : y.negative <;> simp [hx, hy] at h ⊢ <;> omega
      simp only [dropZeroSign, hcode, hsign]

/-- Two numbers are the same without the sign of zero if they have one code and, unless it is that
of zero, one sign. -/
theorem dropZeroSign_eq_iff_code :
    x.dropZeroSign = y.dropZeroSign ↔
      x.code = y.code ∧ (x.negative = y.negative ∨ x.code.val = 0) := by
  rw [dropZeroSign, dropZeroSign, mk.injEq, and_comm]
  refine and_congr_right fun hcode => ?_
  rw [← hcode]
  by_cases hzero : x.code.val = 0
  · rw [if_pos hzero, if_pos hzero]
    exact iff_of_true rfl (.inr hzero)
  · rw [if_neg hzero, if_neg hzero, or_iff_left hzero]

/-- **Finite numbers are equal exactly if they stand for the same value.** -/
theorem sameValue_iff (hx : x.isFinite = true) (hy : y.isFinite = true) :
    x.sameValue y = true ↔ x.signedUnits = y.signedUnits := by
  have hzero : x.code = 0 ↔ x.code.val = 0 := Fin.ext_iff
  rw [← dropZeroSign_eq_iff, dropZeroSign_eq_iff_code, sameValue, isNaN_eq_false hx,
    isNaN_eq_false hy, Bool.not_false, Bool.true_and, Bool.true_and, Bool.and_eq_true,
    Bool.or_eq_true, beq_iff_eq, beq_iff_eq, beq_iff_eq, hzero]

/-- Without the sign of zero a number is the same number. -/
theorem sameValue_dropZeroSign (hx : x.isFinite = true) : x.dropZeroSign.sameValue x = true := by
  have hdropped : x.dropZeroSign.isFinite = true := (isFinite_dropZeroSign x).trans hx
  exact (sameValue_iff hdropped hx).mpr (signedUnits_dropZeroSign x)

/-- A zero is shown without a sign. -/
theorem cssText_dropZeroSign (hx : x.isFinite = true) : x.dropZeroSign.cssText = x.cssText := by
  have hsign : x.dropZeroSign.dropZeroSign = x.dropZeroSign :=
    dropZeroSign_eq_iff.mpr (signedUnits_dropZeroSign x)
  have hfigures : x.dropZeroSign.cssFigures = x.cssFigures := rfl
  rw [← String.toList_inj, toList_cssText hx, toList_cssText (x := x.dropZeroSign) hx, hsign,
    hfigures]

/-- **Numbers that look alike are equal**, and equal numbers look alike. -/
theorem cssText_eq_iff (hx : x.isFinite = true) (hy : y.isFinite = true) :
    x.cssText = y.cssText ↔ x.sameValue y = true := by
  rw [sameValue_iff hx hy, ← dropZeroSign_eq_iff]
  constructor
  · intro htext
    have hread := ofText?_cssText hx
    rw [htext, ofText?_cssText hy] at hread
    exact (Option.some.inj hread).symm
  · intro hsame
    rw [← cssText_dropZeroSign hx, hsame, cssText_dropZeroSign hy]

/-- A shown number is a word. -/
theorem isWord_cssText (hx : x.isFinite = true) :
    x.cssText ≠ "" ∧ ∀ c ∈ x.cssText.toList, isBlank c = false := by
  have hreadable := (isCanonical_cssFigures hx).toIsReadable
  constructor
  · obtain ⟨first, rest, htext, -⟩ := hreadable.exists_text_eq
    rw [← String.toList_inj.ne, toList_cssText hx, htext]
    cases x.dropZeroSign.negative <;> simp [signed]
  · intro c hc
    rw [toList_cssText hx] at hc
    exact hreadable.isBlank_of_mem hc

end Number.Double

open Number

/-- **A shown number is read as the same number**; only a zero loses its sign. -/
theorem readNumber?_cssText {x : Double} (hx : x.isFinite = true) :
    readNumber? x.cssText = some x.dropZeroSign := by
  rw [readNumber?, Double.ofText?_cssText hx]
  exact Option.filter_some_pos hx

/-! ### Shown numbers in front of units -/

namespace MeasureUnit

/-- What a shown number of a unit ends in, unless the unit is shown as a variable. -/
def suffix? : MeasureUnit → Option String
  | px => some "px"
  | rem => some "rem"
  | em => some "em"
  | absolute => some ""
  | base => none
  | innerGutter => none

/-- The names of units are listed with single spaces between their words, and none of the words
marks a reference. -/
theorem words_alias {name : String} {unit : MeasureUnit} (h : (name, unit) ∈ aliases) :
    " ".intercalate (words name) = name ∧ (words name).head? ≠ some paletteKeyword := by
  have haliases : ∀ entry ∈ aliases, " ".intercalate (words entry.1) = entry.1 ∧
      (words entry.1).head? ≠ some paletteKeyword := by decide
  exact haliases (name, unit) h

end MeasureUnit

namespace TokenValue

/-- Equality of values. Numbers are compared numerically, so that the zeros are equal. -/
def same : TokenValue → TokenValue → Bool
  | reference key, reference other => key == other
  | measure unit x, measure other y => unit == other && x.sameValue y
  | _, _ => false

/-- A number of a unit with a suffix is shown in front of the suffix. -/
theorem css_measure {unit : MeasureUnit} {suffix : String} (h : unit.suffix? = some suffix)
    (number : Double) : (measure unit number).css = number.cssText ++ suffix := by
  cases unit <;> cases h <;> simp [css]

/-- **A shown number in front of a unit is read as the same number of the unit.** -/
theorem parse_cssText {x : Double} (hx : x.isFinite = true) {name : String} {unit : MeasureUnit}
    (h : (name, unit) ∈ MeasureUnit.aliases) :
    parse (x.cssText ++ " " ++ name) = .ok (.measure unit x.dropZeroSign) := by
  obtain ⟨hne, hword⟩ := Double.isWord_cssText hx
  obtain ⟨hjoined, hkeyword⟩ := MeasureUnit.words_alias h
  refine parse_eq_ok_iff.mpr (.inr ⟨x.cssText, words name, x.dropZeroSign, unit,
    words_append hne hword name, hkeyword, readNumber?_cssText hx, ?_, rfl⟩)
  rw [hjoined]
  exact MeasureUnit.ofAlias?_eq_some_iff.mpr h

/-- The numbers that are read are finite. -/
theorem isFinite_of_parse {v : String} {unit : MeasureUnit} {number : Double}
    (h : parse v = .ok (.measure unit number)) : number.isFinite = true := by
  rcases parse_eq_ok_iff.mp h with ⟨_, _, -, hvalue⟩ | ⟨_, _, _, _, -, -, hread, -, hvalue⟩
  · cases hvalue
  · cases hvalue
    exact (Option.filter_eq_some_iff.mp hread).2

/-- **Reading undoes showing.**  A finite number that is shown in front of any name of a unit is
read as that number of the unit; only a zero loses its sign. So numbers that are shown alike are
equal. A value with a number of its own in the stylesheet is read again, with that number in front
of any name of its unit, as an equal value. -/
theorem parse_undoes_cssText :
    (∀ x : Double, x.isFinite = true → ∀ name unit, (name, unit) ∈ MeasureUnit.aliases →
      parse (x.cssText ++ " " ++ name) = .ok (.measure unit x.dropZeroSign) ∧
        x.dropZeroSign.sameValue x = true ∧ (x.units ≠ 0 → x.dropZeroSign = x)) ∧
    (∀ x y : Double, x.isFinite = true → y.isFinite = true → x.cssText = y.cssText →
      x.sameValue y = true) ∧
    ∀ v unit number suffix, parse v = .ok (.measure unit number) → unit.suffix? = some suffix →
      (measure unit number).css = number.cssText ++ suffix ∧
        ∀ name, (name, unit) ∈ MeasureUnit.aliases →
          ∃ again, parse (number.cssText ++ " " ++ name) = .ok again ∧
            again.same (.measure unit number) = true := by
  refine ⟨fun x hx name unit hunit =>
      ⟨parse_cssText hx hunit, Double.sameValue_dropZeroSign hx, fun hne => ?_⟩,
    fun x y hx hy => (Double.cssText_eq_iff hx hy).mp,
    fun v unit number suffix hparse hsuffix => ⟨css_measure hsuffix number, fun name hname => ?_⟩⟩
  · rw [Double.dropZeroSign, if_neg (mt Double.units_eq_zero_iff.mpr hne)]
  · have hfinite := isFinite_of_parse hparse
    refine ⟨_, parse_cssText hfinite hname, ?_⟩
    rw [same, Double.sameValue_dropZeroSign hfinite, beq_self_eq_true, Bool.and_true]

/-- A negative zero is shown as `0`, which is equal to it, and a small number with its exponent. -/
theorem parse_undoes_cssText_zero :
    (⟨true, 0⟩ : Double).isFinite = true ∧
      ("inner gutter", MeasureUnit.innerGutter) ∈ MeasureUnit.aliases ∧
      parse ((⟨true, 0⟩ : Double).cssText ++ " " ++ "inner gutter") =
        .ok (.measure .innerGutter .zero) ∧
      (⟨true, 0⟩ : Double).cssText = Double.zero.cssText ∧
      (⟨true, 0⟩ : Double).sameValue .zero = true ∧
      parse "1e-7 pixels" = .ok (.measure .px (.ofDecimal false 1 (-7))) ∧
      (measure .px (.ofDecimal false 1 (-7))).css = "1e-7px" ∧
      ∃ again, parse "1e-7 px" = .ok again ∧
        again.same (.measure .px (.ofDecimal false 1 (-7))) = true := by
  obtain ⟨hreads, hinjective, hagain⟩ := parse_undoes_cssText
  have hzero : (⟨true, 0⟩ : Double).isFinite = true := by decide
  have hplain : Double.zero.isFinite = true := by decide
  have hmem : ("inner gutter", MeasureUnit.innerGutter) ∈ MeasureUnit.aliases := by decide
  have htext : (⟨true, 0⟩ : Double).cssText = Double.zero.cssText :=
    (Double.cssText_dropZeroSign hzero).symm
  have hsmall : parse "1e-7 pixels" = .ok (.measure .px (.ofDecimal false 1 (-7))) ∧
      (Double.ofDecimal false 1 (-7)).cssText = "1e-7" := by
    decide +kernel
  obtain ⟨hparse, hshown⟩ := hsmall
  obtain ⟨hcss, hread⟩ := hagain "1e-7 pixels" .px (.ofDecimal false 1 (-7)) "px" hparse rfl
  refine ⟨hzero, hmem, (hreads _ hzero _ _ hmem).1, htext, hinjective _ _ hzero hplain htext,
    hparse, ?_, ?_⟩
  · rw [hcss, hshown]
    rfl
  · have hpx := hread "px" (by decide)
    rw [hshown] at hpx
    exact hpx

end TokenValue

end DesignTokens
