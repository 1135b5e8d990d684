import DesignTokens.Proofs.Number.Figures
import DesignTokens.Proofs.Number.Shortest

/-!
# Spellings read back

A spelling writes the decimal of a double with or without an exponent. Either way the text is a
number in figures that stands for the decimal, and the decimal is rounded to the double; so every
spelling of a finite double is read as the same double. Nothing is asked of the spelling: where it
changes to exponents, how it pads them and whether it keeps `.0` have no influence on what is read.

## Main Definitions

* `positionalFigures`, `scientificFigures` — the parts of a decimal in the two forms
* `Spelling.figures` — the parts of a decimal in a spelling

## Main Statements

* `Spelling.figures_value` — a spelled decimal stands for the decimal
* `isCanonical_positionalFigures`, `isCanonical_scientificFigures` — the forms without idle zeros
* `Spelling.ofText?_write` — **every spelling of a finite double is read as the same double**
-/

namespace DesignTokens.Number

variable {style : Spelling} {d : Decimal} {code : Nat}

/-! ### The parts of a spelled decimal -/

/-- The parts of a decimal that is written without an exponent. -/
def positionalFigures (style : Spelling) (d : Decimal) : Figures :=
  if d.point ≤ 0 then ⟨['0'], List.replicate (-d.point).toNat '0' ++ d.digits, none⟩
  else if d.point.toNat < d.digits.length then
    ⟨d.digits.take d.point.toNat, d.digits.drop d.point.toNat, none⟩
  else
    ⟨d.digits ++ List.replicate (d.point.toNat - d.digits.length) '0',
      if style.pointZero then ['0'] else [], none⟩

/-- The parts of a decimal that is written with an exponent. -/
def scientificFigures (style : Spelling) (d : Decimal) : Figures :=
  ⟨d.digits.take 1, d.digits.drop 1, some (decide (d.point - 1 < 0),
    paddedDigits style.exponentDigits (d.point - 1).natAbs)⟩

theorem positional_eq_text (hne : d.digits ≠ []) :
    positional style d = (positionalFigures style d).text := by
  unfold positional positionalFigures
  split
  · simp [Figures.text, Figures.fractionText, Figures.exponentText, hne]
  · dsimp only
    split
    · next hinside =>
        simp [Figures.text, Figures.fractionText, Figures.exponentText, hinside]
    · cases hzero : style.pointZero <;>
        simp [Figures.text, Figures.fractionText, Figures.exponentText]

theorem scientific_eq_text (hne : d.digits ≠ []) :
    scientific style d = (scientificFigures style d).text := by
  obtain ⟨first, rest, hdigits⟩ := List.exists_cons_of_ne_nil hne
  unfold scientific scientificFigures
  rw [hdigits]
  cases rest with
  | nil => simp [Figures.text, Figures.fractionText, Figures.exponentText]
  | cons second rest => simp [Figures.text, Figures.fractionText, Figures.exponentText]

/-! ### Their value -/

theorem ofDigitChars_replicate_append (zeros : Nat) (ds : List Char) :
    Nat.ofDigitChars 10 (List.replicate zeros '0' ++ ds) 0 = Nat.ofDigitChars 10 ds 0 := by
  rw [Nat.ofDigitChars_append, Nat.ofDigitChars_replicate_zero, Nat.mul_zero]

theorem positionalFigures_value (style : Spelling) (d : Decimal) :
    (positionalFigures style d).value = d.value := by
  unfold positionalFigures Figures.value Figures.significand Figures.place Decimal.value
    Decimal.significand Decimal.place
  split
  · next hpoint =>
      have hplace : d.point - d.digits.length =
          0 - ((List.replicate (-d.point).toNat '0' ++ d.digits).length : Int) := by
        rw [List.length_append, List.length_replicate]
        omega
      have hvalue := ofDigitChars_replicate_append ((-d.point).toNat + 1) d.digits
      rw [hplace, ← hvalue]
      rfl
  · split
    · next hpoint hinside =>
        have hplace : d.point - d.digits.length =
            0 - ((d.digits.drop d.point.toNat).length : Int) := by
          rw [List.length_drop]
          omega
        rw [hplace, List.take_append_drop]
        rfl
    · next hpoint houtside =>
        have hplace : d.point - d.digits.length = (d.point.toNat - d.digits.length : Nat) := by
          omega
        rw [hplace]
        cases style.pointZero with
        | false =>
            simp [Figures.powerOf, Nat.ofDigitChars_append, Nat.ofDigitChars_replicate_zero]
            ring
        | true =>
            have hzero : ∀ n, Nat.ofDigitChars 10 ['0'] n = 10 * n := fun n => by
              rw [Nat.ofDigitChars_cons, Nat.ofDigitChars_nil, Nat.sub_self, Nat.add_zero]
            simp [Figures.powerOf, Nat.ofDigitChars_append, Nat.ofDigitChars_replicate_zero, hzero]
            ring

/-- The exponent of a decimal counts from behind its first digit, however it is padded. -/
theorem powerOf_scientificFigures (style : Spelling) (d : Decimal) :
    Figures.powerOf (scientificFigures style d).exponent = d.point - 1 := by
  have hpadded : Nat.ofDigitChars 10
      (paddedDigits style.exponentDigits (d.point - 1).natAbs) 0 = (d.point - 1).natAbs := by
    rw [paddedDigits, ofDigitChars_replicate_append]
    exact Nat.ofDigitChars_ten_toDigits
  rw [scientificFigures, Figures.powerOf, hpadded]
  simp only [decide_eq_true_eq]
  split <;> omega

theorem scientificFigures_place (style : Spelling) (d : Decimal) (hne : d.digits ≠ []) :
    (scientificFigures style d).place = d.place := by
  have hlength := List.length_pos_iff.mpr hne
  have hfraction : (scientificFigures style d).fraction.length = d.digits.length - 1 :=
    List.length_drop
  rw [Figures.place, powerOf_scientificFigures, hfraction, Decimal.place]
  omega

theorem scientificFigures_value (style : Spelling) (d : Decimal) (hne : d.digits ≠ []) :
    (scientificFigures style d).value = d.value := by
  rw [Figures.value, scientificFigures_place style d hne, Figures.significand, Decimal.value,
    Decimal.significand, scientificFigures, List.take_append_drop]

/-! ### Their digits -/

theorem isReadable_positionalFigures (style : Spelling)
    (hdigit : ∀ c ∈ d.digits, c.isDigit = true) (hne : d.digits ≠ []) :
    (positionalFigures style d).IsReadable := by
  have hzeros : ∀ zeros, ∀ c ∈ List.replicate zeros '0', c.isDigit = true := by
    intro zeros c hc
    rw [List.eq_of_mem_replicate hc]
    rfl
  unfold positionalFigures
  split
  · refine ⟨hzeros 1, List.cons_ne_nil _ _, fun c hc => ?_, by simp, by simp⟩
    exact (List.mem_append.mp hc).elim (hzeros _ c) (hdigit c)
  · split
    · next hpoint hinside =>
        refine ⟨fun c hc => hdigit c (List.mem_of_mem_take hc), ?_,
          fun c hc => hdigit c (List.mem_of_mem_drop hc), by simp, by simp⟩
        rw [Ne, List.take_eq_nil_iff, not_or]
        exact ⟨by omega, hne⟩
    · refine ⟨fun c hc => ?_, by simp [hne], ?_, by simp, by simp⟩
      · exact (List.mem_append.mp hc).elim (hdigit c) (hzeros _ c)
      · cases style.pointZero with
        | false => simp
        | true => exact hzeros 1

theorem isReadable_scientificFigures (style : Spelling)
    (hdigit : ∀ c ∈ d.digits, c.isDigit = true) (hne : d.digits ≠ []) :
    (scientificFigures style d).IsReadable := by
  refine ⟨fun c hc => hdigit c (List.mem_of_mem_take hc), ?_,
    fun c hc => hdigit c (List.mem_of_mem_drop hc), ?_, ?_⟩
  · simpa [scientificFigures] using hne
  · intro e he c hc
    cases he
    rcases List.mem_append.mp hc with hzero | hc
    · rw [List.eq_of_mem_replicate hzero]
      rfl
    · exact isDigit_of_mem_natDigits c hc
  · intro e he
    cases he
    simp [paddedDigits, natDigits, Nat.toDigits_ne_nil]

/-- Without a zero behind the point, no zero of a positional decimal could be left out. -/
theorem isCanonical_positionalFigures (hstyle : style.pointZero = false) (h : d.IsNormal) :
    (positionalFigures style d).IsCanonical := by
  refine ⟨isReadable_positionalFigures style h.digit h.ne_nil, ?_, ?_, ?_⟩
  · unfold positionalFigures
    split
    · exact fun _ => rfl
    · intro hhead
      refine absurd ?_ h.head
      split at hhead
      · next hpoint hinside =>
          rwa [List.head?_take, if_neg (by omega)] at hhead
      · rwa [List.head?_append_of_ne_nil _ h.ne_nil] at hhead
  · unfold positionalFigures
    split
    · dsimp only
      rw [List.getLast?_append_of_ne_nil _ h.ne_nil]
      exact h.last
    · split
      · next hpoint hinside =>
          dsimp only
          rw [List.getLast?_drop, if_neg (by omega)]
          exact h.last
      · simp [hstyle]
  · unfold positionalFigures
    split
    · simp
    · split <;> simp

/-- Unless it is padded, no zero of a scientific decimal could be left out; its exponent is not zero
where the point does not stand behind the first digit. -/
theorem isCanonical_scientificFigures (hstyle : style.exponentDigits ≤ 1) (hpoint : d.point ≠ 1)
    (h : d.IsNormal) : (scientificFigures style d).IsCanonical := by
  obtain ⟨first, rest, hdigits⟩ := List.exists_cons_of_ne_nil h.ne_nil
  refine ⟨isReadable_scientificFigures style h.digit h.ne_nil, ?_, ?_, ?_⟩
  · intro hhead
    refine absurd ?_ h.head
    rw [hdigits]
    simpa [scientificFigures, hdigits] using hhead
  · have hlast := h.last
    rw [hdigits] at hlast
    cases rest with
    | nil => simp [scientificFigures, hdigits]
    | cons second rest => simpa [scientificFigures, hdigits] using hlast
  · intro e he
    cases he
    have hpos : 0 < (d.point - 1).natAbs := by omega
    have hlength : 0 < (natDigits (d.point - 1).natAbs).length := Nat.length_toDigits_pos
    have hnone : style.exponentDigits - (natDigits (d.point - 1).natAbs).length = 0 := by omega
    rw [paddedDigits]
    dsimp only
    rw [hnone, List.replicate_zero, List.nil_append]
    exact head?_natDigits_ne hpos

/-! ### Spelled doubles -/

theorem Double.isNaN_eq_false {x : Double} (hfinite : x.isFinite = true) : x.isNaN = false := by
  rw [isFinite, decide_eq_true_eq] at hfinite
  rw [isNaN, decide_eq_false_iff_not]
  omega

namespace Spelling

/-- The parts of a positive decimal in a spelling. -/
def figures (style : Spelling) (d : Decimal) : Figures :=
  if style.lowest ≤ d.point ∧ d.point ≤ style.highest then positionalFigures style d
  else scientificFigures style d

theorem spell_eq_text (style : Spelling) (hne : d.digits ≠ []) :
    style.spell d = (style.figures d).text := by
  unfold spell figures
  split
  · exact positional_eq_text hne
  · exact scientific_eq_text hne

theorem figures_value (style : Spelling) (hne : d.digits ≠ []) :
    (style.figures d).value = d.value := by
  unfold figures
  split
  · exact positionalFigures_value style d
  · exact scientificFigures_value style d hne

theorem isReadable_figures (style : Spelling) (h : d.IsNormal) :
    (style.figures d).IsReadable := by
  unfold figures
  split
  · exact isReadable_positionalFigures style h.digit h.ne_nil
  · exact isReadable_scientificFigures style h.digit h.ne_nil

/-- A finite double is spelled with its sign and its magnitude. -/
theorem write_eq (style : Spelling) {x : Double} (hfinite : x.isFinite = true) :
    style.write x = signed x.negative
      (if x.code.val = 0 then positional style ⟨['0'], 1⟩ else style.spell (shortest x.code)) := by
  unfold write
  rw [Double.isNaN_eq_false hfinite, hfinite]
  simp only [Bool.false_eq_true, if_false, Bool.not_true, signed]

/-- A finite double is spelled as a number in figures that is rounded to its code. -/
theorem exists_write_eq (style : Spelling) {x : Double} (hfinite : x.isFinite = true) :
    ∃ f : Figures, f.IsReadable ∧ roundDecimal f.significand f.place = x.code.val ∧
      style.write x = signed x.negative f.text := by
  rw [style.write_eq hfinite]
  by_cases hzero : x.code.val = 0
  · have hvalue :
        (positionalFigures style ⟨['0'], 1⟩).value = ((0 : Nat) : ℚ) * 10 ^ (0 : Int) := by
      rw [positionalFigures_value]
      simp [Decimal.value, Decimal.significand, Nat.ofDigitChars_cons]
    refine ⟨positionalFigures style ⟨['0'], 1⟩,
      isReadable_positionalFigures style (by simp) (by simp), ?_, ?_⟩
    · rw [roundDecimal_congr hvalue, roundDecimal_zero, hzero]
    · rw [if_pos hzero, positional_eq_text (by decide)]
  · have hnormal := isNormal_shortest (Nat.pos_of_ne_zero hzero)
    refine ⟨style.figures (shortest x.code), style.isReadable_figures hnormal, ?_, ?_⟩
    · rw [roundDecimal_congr (style.figures_value hnormal.ne_nil), roundDecimal_shortest]
    · rw [if_neg hzero, style.spell_eq_text hnormal.ne_nil]

/-- **Every spelling of a finite double is read as the same double**, the sign of zero included. -/
theorem ofText?_write (style : Spelling) {x : Double} (hfinite : x.isFinite = true) :
    Double.ofText? (String.ofList (style.write x)) = some x := by
  obtain ⟨f, hreadable, hround, hwrite⟩ := style.exists_write_eq hfinite
  rw [hwrite, hreadable.ofText?_text, hround, Double.ofCode_code hfinite]

end Spelling

end DesignTokens.Number
