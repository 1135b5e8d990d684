import DesignTokens.Proofs.Number.Spelling

/-!
# Numbers in a stylesheet

A stylesheet shows a whole number below `1e21` with all its digits and any other number by its
shortest decimal. In both cases the text is one canonical number: nothing in it could be left out.
An exponent is written outside of a range that is given by the number, although the spelling looks
for the point of its decimal only, and the text is read as the number again.

## Main Definitions

* `Double.dropZeroSign` — a number without the sign of a negative zero
* `Double.cssFigures` — the parts of a number as stylesheets show it

## Main Statements

* `Double.ofText?_cssText` — a shown number is read as the same number
* `Double.isSome_exponent_cssFigures` — which numbers are shown with an exponent
* `Double.cssText_canonical` — **what is shown is one canonical number**

## Design Notes

The ends of the range are doubles, and magnitudes are compared in units. The lower end is the double
next to a millionth, which is a little less than a millionth; it is shown as `0.000001`.
-/

namespace DesignTokens.Number

namespace Double

variable {x : Double}

/-- The same number without the sign of a negative zero. -/
def dropZeroSign (x : Double) : Double :=
  { x with negative := if x.code.val = 0 then false else x.negative }

/-- Whether a number is shown with all its digits and nothing else. -/
def isPlain (x : Double) : Bool := x.isIntegral && decide (x.code.val < exponentCode)

/-- The parts of a number as stylesheets show it. -/
def cssFigures (x : Double) : Figures :=
  if x.isPlain then .ofNat x.wholePart else stylesheetSpelling.figures (shortest x.code)

theorem units_eq_zero_iff : x.units = 0 ↔ x.code.val = 0 := by
  rw [units, ← codeUnits_zero]
  exact codeUnits_strictMono.injective.eq_iff

/-- The digits of a plain number stand for all of it. -/
theorem wholePart_mul (h : x.isPlain = true) : x.wholePart * unitsInOne = x.units := by
  rw [isPlain, isIntegral, Bool.and_eq_true, Bool.and_eq_true, beq_iff_eq] at h
  exact Nat.div_mul_cancel (Nat.dvd_of_mod_eq_zero h.1.2)

theorem wholePart_eq_zero_iff (h : x.isPlain = true) : x.wholePart = 0 ↔ x.code.val = 0 := by
  have hone := unitsInOne_pos
  rw [← units_eq_zero_iff, ← wholePart_mul h, Nat.mul_eq_zero]
  omega

/-- Zero is plain. -/
theorem pos_of_not_isPlain (hfinite : x.isFinite = true) (h : ¬ x.isPlain = true) :
    0 < x.code.val := by
  refine Nat.pos_of_ne_zero fun hzero => h ?_
  simp [isPlain, isIntegral, hfinite, hzero, units_eq_zero_iff.mpr hzero, exponentCode]

theorem cssText_of_isPlain (h : x.isPlain = true) :
    x.cssText = intText (if x.negative then -(x.wholePart : Int) else x.wholePart) :=
  if_pos h

theorem cssText_of_not_isPlain (h : ¬ x.isPlain = true) :
    x.cssText = String.ofList (stylesheetSpelling.write x) :=
  if_neg h

/-- An integer is written as its magnitude behind its sign, and zero without a sign. -/
theorem toList_intText (negative : Bool) (n : Nat) :
    (intText (if negative then -(n : Int) else n)).toList =
      signed (if n = 0 then false else negative) (Figures.ofNat n).text := by
  have htext : (Figures.ofNat n).text = natDigits n := by
    simp [Figures.ofNat, Figures.text, Figures.fractionText, Figures.exponentText]
  rw [intText, String.toList_ofList, htext]
  rcases Nat.eq_zero_or_pos n with rfl | hpos
  · cases negative <;> rfl
  · cases negative <;> simp [signed, hpos, hpos.ne']

/-- A stylesheet shows the parts of a number behind its sign, and zero without a sign. -/
theorem toList_cssText (hfinite : x.isFinite = true) :
    x.cssText.toList = signed x.dropZeroSign.negative x.cssFigures.text := by
  by_cases hplain : x.isPlain = true
  · have hsign : x.dropZeroSign.negative = if x.wholePart = 0 then false else x.negative :=
      if_congr (wholePart_eq_zero_iff hplain).symm rfl rfl
    rw [cssText_of_isPlain hplain, toList_intText, cssFigures, if_pos hplain, hsign]
  · have hpos := pos_of_not_isPlain hfinite hplain
    have hsign : x.dropZeroSign.negative = x.negative := if_neg hpos.ne'
    rw [cssText_of_not_isPlain hplain, String.toList_ofList, cssFigures, if_neg hplain, hsign,
      stylesheetSpelling.write_eq hfinite, if_neg hpos.ne',
      stylesheetSpelling.spell_eq_text (isNormal_shortest hpos).ne_nil]

/-- The parts of a shown number stand for the number. -/
theorem roundDecimal_cssFigures (hfinite : x.isFinite = true) :
    roundDecimal x.cssFigures.significand x.cssFigures.place = x.code.val := by
  unfold cssFigures
  split
  · next hplain =>
      have hunits : ((x.wholePart * unitsInOne : Nat) : ℚ) = codeUnits x.code.val := by
        rw [wholePart_mul hplain, units]
      refine roundDecimal_eq_of_units ?_
      have hvalue := Figures.ofNat_value x.wholePart
      rw [Figures.value] at hvalue
      rw [hvalue, ← hunits, Nat.cast_mul]
  · next hplain =>
      have hnormal := isNormal_shortest (pos_of_not_isPlain hfinite hplain)
      rw [roundDecimal_congr (stylesheetSpelling.figures_value hnormal.ne_nil),
        roundDecimal_shortest]

/-- No part of a shown number has a zero that could be left out. -/
theorem isCanonical_cssFigures (hfinite : x.isFinite = true) : x.cssFigures.IsCanonical := by
  unfold cssFigures
  split
  · exact Figures.isCanonical_ofNat x.wholePart
  · next hplain =>
      have hnormal := isNormal_shortest (pos_of_not_isPlain hfinite hplain)
      unfold Spelling.figures
      split
      · exact isCanonical_positionalFigures rfl hnormal
      · next hfar =>
          refine isCanonical_scientificFigures (Nat.le_refl 1) ?_ hnormal
          intro hpoint
          rw [hpoint] at hfar
          exact hfar (by decide)

/-- **A number in a stylesheet is read as the same number**; only a zero loses its sign. -/
theorem ofText?_cssText (hfinite : x.isFinite = true) :
    ofText? x.cssText = some x.dropZeroSign := by
  have hread := (isCanonical_cssFigures hfinite).toIsReadable.ofText?_text x.dropZeroSign.negative
  rw [← toList_cssText hfinite, String.ofList_toList, roundDecimal_cssFigures hfinite] at hread
  rw [hread]
  exact congrArg some (ofCode_code (x := x.dropZeroSign) hfinite)

/-! ### Where an exponent is written -/

theorem isSome_exponent_figures (style : Spelling) (d : Decimal) :
    (style.figures d).exponent.isSome = true ↔
      ¬ (style.lowest ≤ d.point ∧ d.point ≤ style.highest) := by
  unfold Spelling.figures
  split
  · next hinside =>
      refine iff_of_false ?_ (not_not.mpr hinside)
      unfold positionalFigures
      split
      · exact Bool.false_ne_true
      · split <;> exact Bool.false_ne_true
  · next houtside => exact iff_of_true rfl houtside

/-- The decimal of a rounded power of ten has its point behind the power. It is said of the powers
where spellings change only. -/
theorem lt_shortest_point {power : Int} (h : power ∈ [-6, 16, 21]) :
    power < (shortest (roundDecimal 1 power)).point := by
  have hpowers : ∀ power ∈ [-6, 16, 21], power < (shortest (roundDecimal 1 power)).point := by
    decide +kernel
  exact hpowers power h

theorem roundDecimal_limit : roundDecimal 1 21 = exponentCode := by decide +kernel

/-- A power of ten that is not too large has the code that it is rounded to. -/
theorem code_ofDecimal_one {power : Int} (hpower : power ≤ 21) :
    (ofDecimal false 1 power).code.val = roundDecimal 1 power := by
  have hle : roundDecimal 1 power ≤ exponentCode := by
    rw [← roundDecimal_limit]
    refine roundDecimal_mono ?_
    rw [Nat.cast_one, one_mul, one_mul]
    exact zpow_le_zpow_right₀ (by norm_num) hpower
  have hfinite : roundDecimal 1 power < infinityCode := hle.trans_lt (by decide)
  rw [ofDecimal_eq, ofCode, dif_pos hfinite]

/-- A number is closer to zero than a power of ten if its code is below that of the power. -/
theorem units_lt_ofDecimal_one_iff {power : Int} (hpower : power ≤ 21) :
    x.units < (ofDecimal false 1 power).units ↔ x.code.val < roundDecimal 1 power := by
  rw [← code_ofDecimal_one hpower]
  exact codeUnits_strictMono.lt_iff_lt

/-- The point of a number's decimal lies before that of a millionth if the number is closer to
zero. -/
theorem point_le_lowest_iff (hpos : 0 < x.code.val) :
    (shortest x.code.val).point ≤ -6 ↔ x.units < (ofDecimal false 1 (-6)).units := by
  rw [units_lt_ofDecimal_one_iff (by decide)]
  exact shortest_point_le_iff rfl (lt_shortest_point (by decide)) hpos

theorem units_lt_limit_iff :
    x.units < (ofDecimal false 1 21).units ↔ x.code.val < exponentCode := by
  rw [units_lt_ofDecimal_one_iff (by decide), roundDecimal_limit]

theorem point_le_highest_iff (hpos : 0 < x.code.val) :
    (shortest x.code.val).point ≤ 21 ↔ x.units < (ofDecimal false 1 21).units := by
  rw [units_lt_ofDecimal_one_iff (by decide)]
  exact shortest_point_le_iff rfl (lt_shortest_point (by decide)) hpos

/-- A plain number is not among the small ones. -/
theorem millionth_le_of_isPlain (h : x.isPlain = true) (hpos : 0 < x.code.val) :
    (ofDecimal false 1 (-6)).units ≤ x.units := by
  have hwhole : x.wholePart ≠ 0 := fun hzero => hpos.ne' ((wholePart_eq_zero_iff h).mp hzero)
  have hone : unitsInOne ≤ x.units := by
    rw [← wholePart_mul h]
    exact Nat.le_mul_of_pos_left _ (Nat.pos_of_ne_zero hwhole)
  have hround : roundDecimal 1 0 ≤ x.code.val := by
    rw [roundDecimal_eq, ← roundUnits_codeUnits x.code.val Nat.one_pos]
    refine roundUnits_mono (Nat.pow_pos (by decide)) Nat.one_pos ?_
    simpa [units] using hone
  rw [← Nat.not_lt, units_lt_ofDecimal_one_iff (by decide), Nat.not_lt]
  exact (roundDecimal_mono (by norm_num)).trans hround

/-- **An exponent is written only outside of the range from `1e-6` to `1e21`**, the upper end
being outside. -/
theorem isSome_exponent_cssFigures (hfinite : x.isFinite = true) :
    x.cssFigures.exponent.isSome = true ↔
      0 < x.units ∧ x.units < (ofDecimal false 1 (-6)).units ∨
        (ofDecimal false 1 21).units ≤ x.units := by
  have hpositive : 0 < x.units ↔ 0 < x.code.val := codeUnits_strictMono.lt_iff_lt (a := 0)
  unfold cssFigures
  split
  · next hplain =>
      refine iff_of_false Bool.false_ne_true ?_
      rintro (⟨hpos, hsmall⟩ | hlarge)
      · exact absurd hsmall (Nat.not_lt.mpr (millionth_le_of_isPlain hplain (hpositive.mp hpos)))
      · rw [isPlain, Bool.and_eq_true, decide_eq_true_eq] at hplain
        exact absurd (units_lt_limit_iff.mpr hplain.2) (Nat.not_lt.mpr hlarge)
  · next hplain =>
      have hpos := pos_of_not_isPlain hfinite hplain
      rw [isSome_exponent_figures, hpositive, ← point_le_lowest_iff hpos, ← Nat.not_lt,
        ← point_le_highest_iff hpos]
      show ¬ (-5 ≤ (shortest x.code.val).point ∧ (shortest x.code.val).point ≤ 21) ↔ _
      omega

/-- Zero has no sign. -/
theorem cssText_ne_negativeZero (hfinite : x.isFinite = true) : x.cssText ≠ "-0" := by
  intro htext
  have hread := ofText?_cssText hfinite
  rw [htext] at hread
  have hzero : ofText? "-0" = some ⟨true, 0⟩ := by decide
  have heq : x.dropZeroSign = ⟨true, 0⟩ := Option.some.inj (hread.symm.trans hzero)
  have hcode : x.code.val = 0 := congrArg (fun y : Double => y.code.val) heq
  have hsign : x.dropZeroSign.negative = false := if_pos hcode
  rw [heq] at hsign
  cases hsign

/-- **What is shown is one canonical number**: a sign, a whole number without a zero in front,
digits behind a point that do not end in a zero, and an exponent with its sign and without a zero in
front. Zero has no sign and no number ends in `.0`. An exponent, which is where an `e` stands, is
written exactly for numbers other than zero that are closer to zero than `1e-6` and for those that
are not closer to it than `1e21`. -/
theorem cssText_canonical (x : Double) (hfinite : x.isFinite = true) :
    ∃ negative, ∃ f : Figures, x.cssText.toList = signed negative f.text ∧ f.IsCanonical ∧
      (f.exponent.isSome = true ↔ 'e' ∈ x.cssText.toList) ∧
      ('e' ∈ x.cssText.toList ↔ 0 < x.units ∧ x.units < (ofDecimal false 1 (-6)).units ∨
        (ofDecimal false 1 21).units ≤ x.units) ∧
      x.cssText ≠ "-0" ∧ ¬ ['.', '0'] <:+ x.cssText.toList := by
  have htext := toList_cssText hfinite
  have hcanonical := isCanonical_cssFigures hfinite
  have hmark : 'e' ∈ x.cssText.toList ↔ x.cssFigures.exponent.isSome = true := by
    rw [htext, mem_signed_iff (by decide)]
    exact hcanonical.mark_mem_text_iff
  refine ⟨x.dropZeroSign.negative, x.cssFigures, htext, hcanonical, hmark.symm, ?_,
    cssText_ne_negativeZero hfinite, ?_⟩
  · rw [hmark, isSome_exponent_cssFigures hfinite]
  · rw [htext]
    exact hcanonical.not_pointZero_suffix _

/-- The double next to a millionth is shown without an exponent, and the one below it with one. -/
theorem cssText_canonical_millionth :
    (ofDecimal false 1 (-6)).isFinite = true ∧
      'e' ∉ (ofDecimal false 1 (-6)).cssText.toList ∧
      (ofCode true ((ofDecimal false 1 (-6)).code.val - 1)).isFinite = true ∧
      'e' ∈ (ofCode true ((ofDecimal false 1 (-6)).code.val - 1)).cssText.toList := by
  -- The numbers that decide are evaluated at once, and the texts not at all.
  have hnumbers : (ofDecimal false 1 (-6)).isFinite = true ∧
      (ofCode true ((ofDecimal false 1 (-6)).code.val - 1)).isFinite = true ∧
      (ofDecimal false 1 (-6)).units < (ofDecimal false 1 21).units ∧
      0 < (ofCode true ((ofDecimal false 1 (-6)).code.val - 1)).units ∧
      (ofCode true ((ofDecimal false 1 (-6)).code.val - 1)).units <
        (ofDecimal false 1 (-6)).units := by
    decide +kernel
  obtain ⟨hfirst, hbelow, hlimit, hpositive, hless⟩ := hnumbers
  obtain ⟨-, -, -, -, -, hplain, -⟩ := cssText_canonical _ hfirst
  obtain ⟨-, -, -, -, -, hsmall, -⟩ := cssText_canonical _ hbelow
  refine ⟨hfirst, ?_, hbelow, hsmall.mpr (.inl ⟨hpositive, hless⟩)⟩
  rw [hplain]
  rintro (⟨-, hself⟩ | hlarge)
  · exact Nat.lt_irrefl _ hself
  · exact Nat.not_lt.mpr hlarge hlimit

end Double

end DesignTokens.Number
