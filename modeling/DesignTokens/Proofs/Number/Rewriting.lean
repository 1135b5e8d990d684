import DesignTokens.Proofs.Number.CssText

/-!
# Stylesheet numbers as rewritten document numbers

A number in a stylesheet can also be got from its text in a document, by a few cases on the number
and on the text: a whole number that is not too large is shown with all its digits, a text without
an exponent stays as it is, and an exponent is either worked into the digits or written anew. This
module proves that the cases are exhaustive and that all of them come to the same text as the two
spellings do. What makes the cases meet is that no number with a fraction is large enough for an
exponent.

## Main Definitions

* `expanded` — a text with its exponent worked into the digits
* `Double.rewrittenText` — the rewriting of a document's number

## Main Statements

* `unitsInOne_dvd_codeUnits` — large numbers are whole
* `unitsInOne_dvd_roundUnits` — whole decimals are rounded to whole numbers
* `Figures.IsReadable.expanded_text`, `Figures.IsReadable.renewed_text` — what becomes of a number
  in figures
* `Double.cssText_eq_rewrittenText` — **a stylesheet shows the rewritten text**
-/

namespace DesignTokens.Number

open Text

variable {code num den scale significand : Nat}

/-! ### Whole numbers -/

/-- The magnitude of a code that is put together from a scale and a significand, also where the
significand carries into the next scale. -/
theorem codeUnits_add (hlow : 0 < scale → fractionCount ≤ significand)
    (hhigh : significand ≤ 2 * fractionCount) :
    codeUnits (scale * fractionCount + significand) = significand * 2 ^ scale := by
  rw [codeUnits_eq]
  rcases Nat.lt_or_ge significand (2 * fractionCount) with hless | hcarry
  · have hscale : codeScale (scale * fractionCount + significand) = scale := by
      unfold codeScale fractionCount at *
      omega
    have hsignificand : codeSignificand (scale * fractionCount + significand) = significand := by
      unfold codeSignificand
      rw [hscale]
      omega
    rw [hscale, hsignificand]
  · have hscale : codeScale (scale * fractionCount + significand) = scale + 1 := by
      unfold codeScale fractionCount at *
      omega
    have hsignificand :
        2 * codeSignificand (scale * fractionCount + significand) = significand := by
      unfold codeSignificand
      rw [hscale]
      unfold fractionCount at *
      omega
    rw [hscale, Nat.pow_succ]
    conv_rhs => rw [← hsignificand]
    ring

/-- The magnitude of a rounded quotient is a whole number of steps. -/
theorem codeUnits_roundUnits (num : Nat) (hden : 0 < den) : codeUnits (roundUnits num den) =
    nearest num (den * 2 ^ unitScale num den) * 2 ^ unitScale num den := by
  rw [roundUnits_eq]
  exact codeUnits_add (le_nearest_of_unitScale hden) (nearest_le_of_unitScale num hden)

/-- **Large numbers are whole**, since their significands are shifted at least to the ones. -/
theorem unitsInOne_dvd_codeUnits (h : 1075 * fractionCount ≤ code) :
    unitsInOne ∣ codeUnits code := by
  have hscale : unitExponent ≤ codeScale code := by
    unfold unitExponent codeScale fractionCount at *
    omega
  rw [codeUnits_eq, unitsInOne_eq]
  exact Dvd.dvd.mul_left (Nat.pow_dvd_pow 2 hscale) _

/-- **Whole decimals are rounded to whole numbers**: small ones are not changed at all. -/
theorem unitsInOne_dvd_roundUnits (n : Nat) :
    unitsInOne ∣ codeUnits (roundUnits (n * unitsInOne) 1) := by
  rw [codeUnits_roundUnits _ Nat.one_pos, Nat.one_mul]
  generalize unitScale (n * unitsInOne) 1 = shift
  rcases Nat.le_total shift unitExponent with hsmall | hlarge
  · have hdvd : 2 ^ shift ∣ n * unitsInOne := by
      rw [unitsInOne_eq]
      exact Dvd.dvd.mul_left (Nat.pow_dvd_pow 2 hsmall) n
    have hexact : nearest (n * unitsInOne) (2 ^ shift) = n * unitsInOne / 2 ^ shift := by
      have hpos : 0 < 2 ^ shift := Nat.two_pow_pos shift
      rw [nearest, Nat.mod_eq_zero_of_dvd hdvd, if_neg (by omega)]
    rw [hexact, Nat.div_mul_cancel hdvd]
    exact Nat.dvd_mul_left unitsInOne n
  · rw [unitsInOne_eq]
    exact Dvd.dvd.mul_left (Nat.pow_dvd_pow 2 hlarge) _

/-! ### Parts of a text -/

/-- What stands before a mark, and what stands behind it. -/
def partAt (mark : Char) (cs : List Char) : List Char × List Char :=
  (cs.takeWhile (· != mark), (cs.dropWhile (· != mark)).drop 1)

/-- Digits that count a power of ten, written without an exponent. -/
def fixedPoint (ds : List Char) (place : Int) : List Char :=
  if 0 ≤ place then ds ++ List.replicate place.toNat '0'
  else
    let after := (-place).toNat
    if ds.length ≤ after then '0' :: '.' :: (List.replicate (after - ds.length) '0' ++ ds)
    else ds.take (ds.length - after) ++ '.' :: ds.drop (ds.length - after)

/-- A text with its exponent worked into the digits. -/
def expanded (cs : List Char) : List Char :=
  let (negative, unsigned) := splitSign cs
  let (mantissa, exponent) := partAt 'e' unsigned
  let (whole, fraction) := partAt '.' mantissa
  let power := (readInt? 10 exponent).getD 0
  signed negative (fixedPoint (whole ++ fraction) (power - fraction.length))

/-- A text with its exponent written anew: its sign in any case, and no zero in front. -/
def renewed (cs : List Char) : List Char :=
  let (mantissa, exponent) := partAt 'e' cs
  let power := (readInt? 10 exponent).getD 0
  mantissa ++ 'e' :: (if 0 < power then '+' else '-') :: natDigits power.natAbs

theorem partAt_append {mark : Char} {front : List Char} (h : mark ∉ front) (back : List Char) :
    partAt mark (front ++ mark :: back) = (front, back) := by
  have hfront : ∀ c ∈ front, (c != mark) = true := fun c hc =>
    bne_iff_ne.mpr fun heq => h (heq ▸ hc)
  rw [partAt, List.takeWhile_append_of_pos hfront, List.dropWhile_append_of_pos hfront]
  simp

theorem partAt_of_notMem {mark : Char} {cs : List Char} (h : mark ∉ cs) :
    partAt mark cs = (cs, []) := by
  have hall : ∀ c ∈ cs, (c != mark) = true := fun c hc => bne_iff_ne.mpr fun heq => h (heq ▸ hc)
  rw [partAt, List.takeWhile_eq_self_iff.mpr hall, List.dropWhile_eq_nil_iff.mpr hall]
  rfl

namespace Figures

variable {f : Figures}

/-- Nothing marks the base of a decimal integer. -/
theorem dropBaseMark_ten (cs : List Char) : dropBaseMark 10 cs = cs := by
  have hmark : (if 10 = 2 then some 'b' else if 10 = 8 then some 'o' else
      if 10 = 16 then some 'x' else none) = (none : Option Char) := rfl
  unfold dropBaseMark
  rw [hmark]
  dsimp only
  split
  · exact if_neg (by simp)
  · rfl

/-- An exponent is read as the power that it stands for. -/
theorem IsReadable.readInt?_exponent (h : f.IsReadable) {negative : Bool} {ds : List Char}
    (he : f.exponent = some (negative, ds)) :
    readInt? 10 ((if negative then '-' else '+') :: ds) = some (powerOf f.exponent) := by
  have hdigit : ∀ c ∈ ds, c.isDigit = true := h.exponent_digit _ he
  have hne : ds.map digitOf ≠ [] := fun hnil => h.exponent_ne_nil _ he (List.map_eq_nil_iff.mp hnil)
  have hblank : ∀ c ∈ (if negative then '-' else '+') :: ds, isBlank c = false := by
    refine List.forall_mem_cons.mpr ⟨?_, fun c hc => isBlank_eq_false (.inl (hdigit c hc))⟩
    cases negative <;> decide
  have hsign : splitSign ((if negative then '-' else '+') :: ds) = (negative, ds) := by
    cases negative <;> rfl
  unfold readInt?
  rw [trimNumber_eq_self hblank, hsign]
  dsimp only
  rw [dropBaseMark_ten, readDigits?_of_isDigit hdigit, he]
  split
  · next hnone => cases hnone
  · next hnil => exact absurd (Option.some.inj hnil) hne
  · next heq =>
      cases heq
      rw [ofDigits_map_digitOf]
      rfl

/-- Behind the `e` of a number stands its exponent. -/
theorem IsReadable.partAt_text (h : f.IsReadable) {exponent : Bool × List Char}
    (he : f.exponent = some exponent) (negative : Bool) :
    partAt 'e' (signed negative f.text) = (signed negative (f.whole ++ fractionText f.fraction),
      (if exponent.1 then '-' else '+') :: exponent.2) := by
  -- The same number without its exponent has no `e` in it.
  have hfront : 'e' ∉ signed negative (f.whole ++ fractionText f.fraction) := by
    have hplain : (⟨f.whole, f.fraction, none⟩ : Figures).IsReadable :=
      ⟨h.whole_digit, h.whole_ne_nil, h.fraction_digit, by simp, by simp⟩
    have hmark := hplain.mark_mem_text_iff.not.mpr Bool.false_ne_true
    rw [text, exponentText, List.append_nil] at hmark
    rwa [mem_signed_iff (by decide)]
  have htext : signed negative f.text = signed negative (f.whole ++ fractionText f.fraction) ++
      'e' :: (if exponent.1 then '-' else '+') :: exponent.2 := by
    rw [text, he]
    cases negative <;> simp [signed, exponentText]
  rw [htext, partAt_append hfront]

/-- Behind the point of a number stand the digits of its fraction. -/
theorem IsReadable.partAt_point (h : f.IsReadable) :
    partAt '.' (f.whole ++ fractionText f.fraction) = (f.whole, f.fraction) := by
  have hwhole : '.' ∉ f.whole := fun hmem => absurd (h.whole_digit _ hmem) (by decide)
  cases hfraction : f.fraction with
  | nil => simpa [fractionText] using partAt_of_notMem hwhole
  | cons d rest => exact partAt_append hwhole (d :: rest)

/-- **A number with an exponent is expanded to its digits**, with a point at their place. -/
theorem IsReadable.expanded_text (h : f.IsReadable) (he : f.exponent.isSome = true)
    (negative : Bool) : expanded (signed negative f.text) =
      signed negative (fixedPoint (f.whole ++ f.fraction) f.place) := by
  obtain ⟨exponent, hexponent⟩ := Option.isSome_iff_exists.mp he
  have hpart := h.partAt_text hexponent false
  unfold expanded
  rw [h.splitSign_signed]
  dsimp only
  rw [show f.text = signed false f.text from rfl, hpart]
  dsimp only
  rw [h.readInt?_exponent hexponent, Option.getD_some,
    show signed false (f.whole ++ fractionText f.fraction) = f.whole ++ fractionText f.fraction
      from rfl, h.partAt_point, place]

/-- **An exponent is written anew** without its padding. -/
theorem IsReadable.renewed_text (h : f.IsReadable) (he : f.exponent.isSome = true)
    (negative : Bool) : renewed (signed negative f.text) =
      signed negative (f.whole ++ fractionText f.fraction) ++
        'e' :: (if 0 < powerOf f.exponent then '+' else '-') ::
          natDigits (powerOf f.exponent).natAbs := by
  obtain ⟨exponent, hexponent⟩ := Option.isSome_iff_exists.mp he
  unfold renewed
  rw [h.partAt_text hexponent]
  dsimp only
  rw [h.readInt?_exponent hexponent, Option.getD_some]

end Figures

/-! ### Decimals that are whole, and decimals that are not -/

variable {d : Decimal} {style other : Spelling}

/-- A decimal without digits to spare before its point is written alike in all spellings. -/
theorem positional_congr (h : d.point < d.digits.length) :
    positional style d = positional other d := by
  unfold positional
  split
  · rfl
  · next hpoint =>
      have hinside : d.point.toNat < d.digits.length := by omega
      dsimp only
      rw [if_pos hinside, if_pos hinside]

/-- A decimal with its point in front of the digits is written like its digits at their place. -/
theorem fixedPoint_eq_positional (hpoint : d.point ≤ 0) (hne : d.digits ≠ []) :
    fixedPoint d.digits d.place = positional style d := by
  have hlength := List.length_pos_iff.mpr hne
  have hplace : ¬ 0 ≤ d.place := by
    unfold Decimal.place
    omega
  have hfar : d.digits.length ≤ (-d.place).toNat := by
    unfold Decimal.place
    omega
  have hzeros : (-d.place).toNat - d.digits.length = (-d.point).toNat := by
    unfold Decimal.place
    omega
  unfold fixedPoint positional
  dsimp only
  rw [if_neg hplace, if_pos hfar, if_pos hpoint, hzeros]

/-- A decimal with an exponent is expanded to the one without. -/
theorem expanded_scientificFigures (other : Spelling) (h : d.IsNormal) (hpoint : d.point ≤ 0)
    (negative : Bool) :
    expanded (signed negative (scientificFigures style d).text) =
      signed negative (positional other d) := by
  have hreadable := isReadable_scientificFigures style h.digit h.ne_nil
  have hdigits : (scientificFigures style d).whole ++ (scientificFigures style d).fraction =
      d.digits := List.take_append_drop 1 d.digits
  rw [hreadable.expanded_text rfl, hdigits, scientificFigures_place style d h.ne_nil,
    fixedPoint_eq_positional hpoint h.ne_nil]

/-- An exponent that is not zero is written anew without padding. -/
theorem renewed_scientificFigures (hother : other.exponentDigits = 1) (h : d.IsNormal)
    (hpoint : d.point ≠ 1) (negative : Bool) :
    renewed (signed negative (scientificFigures style d).text) =
      signed negative (scientificFigures other d).text := by
  have hreadable := isReadable_scientificFigures style h.digit h.ne_nil
  have hpadded : ∀ n, paddedDigits 1 n = natDigits n := by
    intro n
    have hlength : 0 < (natDigits n).length := Nat.length_toDigits_pos
    have hnone : 1 - (natDigits n).length = 0 := by omega
    rw [paddedDigits, hnone, List.replicate_zero, List.nil_append]
  have hsign : (if 0 < d.point - 1 then '+' else '-') =
      if decide (d.point - 1 < 0) then '-' else '+' := by
    simp only [decide_eq_true_eq]
    split <;> split <;> first | rfl | omega
  rw [hreadable.renewed_text rfl, powerOf_scientificFigures, hsign, ← hpadded, ← hother]
  cases negative <;> simp [scientificFigures, Figures.text, Figures.exponentText, signed]

/-- Where the digits of a decimal end before its point, the code is that of a whole number. -/
theorem unitsInOne_dvd_of_whole
    (h : ((shortest code).digits.length : Int) ≤ (shortest code).point) :
    unitsInOne ∣ codeUnits code := by
  have hplace : 0 ≤ (shortest code).place := by
    unfold Decimal.place
    omega
  have hround := roundDecimal_shortest code
  rw [roundDecimal, if_pos hplace] at hround
  rw [← hround]
  exact unitsInOne_dvd_roundUnits _

/-- A number with a fraction is too small for the exponents of documents. -/
theorem shortest_point_le_of_not_dvd (hcode : 0 < code) (h : ¬ unitsInOne ∣ codeUnits code) :
    (shortest code).point ≤ 16 := by
  have hlarge : 1075 * fractionCount ≤ roundDecimal 1 16 := by decide +kernel
  refine (shortest_point_le_iff rfl (Double.lt_shortest_point (by decide)) hcode).mpr ?_
  by_contra hge
  exact h (unitsInOne_dvd_codeUnits (hlarge.trans (Nat.not_lt.mp hge)))

namespace Double

variable {x : Double}

/-- A number in a stylesheet as its text in a document is rewritten for it. -/
def rewrittenText (x : Double) : String :=
  if x.isIntegral && decide (x.units < (ofDecimal false 1 21).units) then
    intText (if x.negative then -(x.wholePart : Int) else x.wholePart)
  else if 'e' ∉ x.documentText.toList then x.documentText
  else if (ofDecimal false 1 (-6)).units ≤ x.units ∧ x.units < (ofDecimal false 1 21).units then
    String.ofList (expanded x.documentText.toList)
  else String.ofList (renewed x.documentText.toList)

theorem rewrittenText_of_isPlain (h : x.isPlain = true) :
    x.rewrittenText = intText (if x.negative then -(x.wholePart : Int) else x.wholePart) := by
  rw [isPlain, Bool.and_eq_true, decide_eq_true_eq] at h
  refine if_pos ?_
  rw [Bool.and_eq_true, decide_eq_true_eq]
  exact ⟨h.1, units_lt_limit_iff.mpr h.2⟩

theorem rewrittenText_of_not_isPlain (h : ¬ x.isPlain = true) : x.rewrittenText =
    if 'e' ∉ x.documentText.toList then x.documentText
    else if (ofDecimal false 1 (-6)).units ≤ x.units ∧ x.units < (ofDecimal false 1 21).units then
      String.ofList (expanded x.documentText.toList)
    else String.ofList (renewed x.documentText.toList) := by
  refine if_neg fun hwhole => h ?_
  rw [Bool.and_eq_true, decide_eq_true_eq] at hwhole
  rw [isPlain, Bool.and_eq_true, decide_eq_true_eq]
  exact ⟨hwhole.1, units_lt_limit_iff.mp hwhole.2⟩

/-- What is no finite number has one text. -/
theorem cssText_eq_rewrittenText_of_not_isFinite (h : ¬ x.isFinite = true) :
    x.cssText = x.rewrittenText := by
  rw [Bool.not_eq_true] at h
  have hwrite : ∀ style : Spelling, style.write x =
      if x.isNaN then ['n', 'a', 'n'] else signed x.negative ['i', 'n', 'f'] := by
    intro style
    unfold Spelling.write
    rw [h]
    rfl
  have hplain : ¬ x.isPlain = true := by
    rw [isPlain, isIntegral, h]
    exact Bool.false_ne_true
  have hmark : 'e' ∉ documentSpelling.write x := by
    rw [hwrite]
    split
    · decide
    · cases x.negative <;> decide
  rw [rewrittenText_of_not_isPlain hplain, documentText, String.toList_ofList, if_pos hmark,
    cssText_of_not_isPlain hplain, hwrite, hwrite]

/-- The decimal of a number that is not plain, but not too large, is not whole. -/
theorem point_lt_of_not_isPlain (hfinite : x.isFinite = true) (hplain : ¬ x.isPlain = true)
    (hpoint : (shortest x.code.val).point ≤ 21) :
    (shortest x.code.val).point < (shortest x.code.val).digits.length ∧
      (shortest x.code.val).point ≤ 16 := by
  have hpos := pos_of_not_isPlain hfinite hplain
  have hfraction : ¬ unitsInOne ∣ codeUnits x.code.val := by
    intro hdvd
    have hwhole : x.units % unitsInOne = 0 := Nat.mod_eq_zero_of_dvd hdvd
    apply hplain
    rw [isPlain, isIntegral, hfinite, hwhole, decide_eq_true
      (units_lt_limit_iff.mp ((point_le_highest_iff hpos).mp hpoint))]
    rfl
  refine ⟨?_, shortest_point_le_of_not_dvd hpos hfraction⟩
  by_contra hlong
  exact hfraction (unitsInOne_dvd_of_whole (Int.not_lt.mp hlong))

/-- A document shows an exponent for a point outside of its own range. -/
theorem mark_mem_documentText_iff (hfinite : x.isFinite = true) (hpos : 0 < x.code.val) :
    'e' ∈ x.documentText.toList ↔
      ¬ (-3 ≤ (shortest x.code.val).point ∧ (shortest x.code.val).point ≤ 16) := by
  have hnormal := isNormal_shortest hpos
  rw [documentText, String.toList_ofList, documentSpelling.write_eq hfinite, if_neg hpos.ne',
    documentSpelling.spell_eq_text hnormal.ne_nil, mem_signed_iff (by decide),
    (documentSpelling.isReadable_figures hnormal).mark_mem_text_iff, isSome_exponent_figures]
  rfl

/-- The numbers from `1e-6` on and below `1e21` are those with a point in a stylesheet's range. -/
theorem units_range_iff (hpos : 0 < x.code.val) :
    (ofDecimal false 1 (-6)).units ≤ x.units ∧ x.units < (ofDecimal false 1 21).units ↔
      -5 ≤ (shortest x.code.val).point ∧ (shortest x.code.val).point ≤ 21 := by
  have hlow : ∀ point : Int, ¬ point ≤ -6 ↔ -5 ≤ point := by
    intro point
    omega
  rw [← point_le_highest_iff hpos, ← Nat.not_lt, ← point_le_lowest_iff hpos, hlow]

/-- **A stylesheet shows the rewritten text** of a document's number. -/
theorem cssText_eq_rewrittenText (x : Double) : x.cssText = x.rewrittenText := by
  by_cases hplain : x.isPlain = true
  · rw [cssText_of_isPlain hplain, rewrittenText_of_isPlain hplain]
  by_cases hfinite : x.isFinite = true
  swap
  · exact cssText_eq_rewrittenText_of_not_isFinite hfinite
  have hpos := pos_of_not_isPlain hfinite hplain
  have hnormal := isNormal_shortest hpos
  have hpositional : ∀ style : Spelling, style.lowest ≤ (shortest x.code.val).point ∧
      (shortest x.code.val).point ≤ style.highest →
      style.write x = signed x.negative (positional style (shortest x.code.val)) := by
    intro style hinside
    rw [style.write_eq hfinite, if_neg hpos.ne', Spelling.spell, if_pos hinside]
  have hscientific : ∀ style : Spelling, ¬ (style.lowest ≤ (shortest x.code.val).point ∧
      (shortest x.code.val).point ≤ style.highest) →
      style.write x = signed x.negative (scientificFigures style (shortest x.code.val)).text := by
    intro style houtside
    rw [style.write_eq hfinite, if_neg hpos.ne', Spelling.spell, if_neg houtside,
      scientific_eq_text hnormal.ne_nil]
  rw [cssText_of_not_isPlain hplain, rewrittenText_of_not_isPlain hplain]
  simp only [mark_mem_documentText_iff hfinite hpos, units_range_iff hpos, not_not]
  rw [documentText, String.toList_ofList]
  split
  · next hdocument =>
      -- Both texts have no exponent, and no zeros in front of a point.
      have hstyle : -5 ≤ (shortest x.code.val).point ∧ (shortest x.code.val).point ≤ 21 := by
        omega
      have hshort := (point_lt_of_not_isPlain hfinite hplain hstyle.2).1
      rw [hpositional documentSpelling hdocument, hpositional stylesheetSpelling hstyle,
        positional_congr hshort]
  · next hdocument =>
      rw [hscientific documentSpelling hdocument]
      split
      · next hstyle =>
          have hsmall := (point_lt_of_not_isPlain hfinite hplain hstyle.2).2
          have hpoint : (shortest x.code.val).point ≤ 0 := by omega
          rw [expanded_scientificFigures stylesheetSpelling hnormal hpoint,
            hpositional stylesheetSpelling hstyle]
      · next hstyle =>
          have hpoint : (shortest x.code.val).point ≠ 1 := by omega
          have hunpadded : stylesheetSpelling.exponentDigits = 1 := rfl
          rw [renewed_scientificFigures hunpadded hnormal hpoint,
            hscientific stylesheetSpelling hstyle]

end Double

end DesignTokens.Number
