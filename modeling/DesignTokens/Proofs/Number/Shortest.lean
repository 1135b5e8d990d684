import DesignTokens.Number.Spelling
import DesignTokens.Proofs.Number.Digits
import DesignTokens.Proofs.Number.Rounding
import Mathlib.Data.List.DropRight
import Mathlib.Tactic.FieldSimp

/-!
# The shortest decimal of a double

The decimal that is written for a code is rounded to the code again, its digits neither begin nor
end with a zero, and its point lies where the magnitude of the code lies among the powers of ten.
The last holds although the decimal is not the exact magnitude: rounding is monotone, so a power of
ten cannot come between the two unless the code is the one that the power itself is rounded to.

## Main Definitions

* `Decimal.significand`, `Decimal.place`, `Decimal.value` — what a decimal stands for
* `Decimal.IsNormal` — digits without zeros at either end

## Main Statements

* `Decimal.ofScaled_value`, `Decimal.isNormal_ofScaled` — what trailing zeros are dropped for
* `exists_shortest_eq` — how the decimal of a code is found
* `roundDecimal_shortest` — the decimal of a code is rounded to the code
* `shortest_point_le_iff` — where the point of the decimal lies
-/

namespace DesignTokens.Number

variable {code digits : Nat} {exponent power : Int}

/-! ### Decimals -/

namespace Decimal

/-- The digits of a decimal, read as a natural number. -/
def significand (d : Decimal) : Nat := Nat.ofDigitChars 10 d.digits 0

/-- The power of ten that the significand counts. -/
def place (d : Decimal) : Int := d.point - d.digits.length

/-- The number that a decimal stands for. -/
def value (d : Decimal) : ℚ := d.significand * 10 ^ d.place

/-- The digits of a decimal are decimal digits, and zeros stand at neither end. -/
structure IsNormal (d : Decimal) : Prop where
  /-- There are digits only. -/
  digit : ∀ c ∈ d.digits, c.isDigit = true
  /-- There is a digit. -/
  ne_nil : d.digits ≠ []
  /-- The first digit is no zero. -/
  head : d.digits.head? ≠ some '0'
  /-- The last digit is no zero. -/
  last : d.digits.getLast? ≠ some '0'

end Decimal

theorem trimZeros_eq (ds : List Char) : trimZeros ds = ds.rdropWhile (· == '0') := rfl

/-- No zero is left at the end. -/
theorem getLast?_trimZeros_ne (ds : List Char) : (trimZeros ds).getLast? ≠ some '0' := by
  rw [trimZeros_eq]
  intro hlast
  refine List.rdropWhile_last_not (· == '0') ds ?_ ?_
  · intro hnil
    rw [hnil] at hlast
    cases hlast
  · rw [List.getLast_of_getLast?_eq_some hlast]
    decide

/-- Nothing but zeros is dropped at the end. -/
theorem exists_trimZeros_append (ds : List Char) :
    ∃ zeros, trimZeros ds ++ List.replicate zeros '0' = ds := by
  refine ⟨(ds.rtakeWhile (· == '0')).length, ?_⟩
  have hzeros : ds.rtakeWhile (· == '0') =
      List.replicate (ds.rtakeWhile (· == '0')).length '0' :=
    List.eq_replicate_of_mem fun c hc => by simpa using List.mem_rtakeWhile_imp hc
  rw [← hzeros]
  exact List.rdropWhile_append_rtakeWhile

namespace Decimal

@[simp] theorem ofScaled_digits (digits : Nat) (exponent : Int) :
    (ofScaled digits exponent).digits = trimZeros (Nat.toDigits 10 digits) :=
  rfl

@[simp] theorem ofScaled_point (digits : Nat) (exponent : Int) :
    (ofScaled digits exponent).point = (Nat.toDigits 10 digits).length + exponent :=
  rfl

/-- A decimal keeps its value without the zeros at its end. -/
theorem ofScaled_value (digits : Nat) (exponent : Int) :
    (ofScaled digits exponent).value = digits * 10 ^ exponent := by
  obtain ⟨zeros, hzeros⟩ := exists_trimZeros_append (Nat.toDigits 10 digits)
  have hvalue : digits = 10 ^ zeros * (ofScaled digits exponent).significand := by
    rw [significand, ofScaled_digits, ← Nat.ofDigitChars_replicate_zero, ← Nat.ofDigitChars_append,
      hzeros, Nat.ofDigitChars_ten_toDigits]
  have hplace : (ofScaled digits exponent).place = zeros + exponent := by
    have hlength := congrArg List.length hzeros
    rw [List.length_append, List.length_replicate] at hlength
    rw [place, ofScaled_digits, ofScaled_point]
    omega
  rw [value, hplace, zpow_add₀ (by norm_num), zpow_natCast]
  conv_rhs => rw [hvalue]
  push_cast
  ring

/-- The digits of a positive decimal have no zeros at their ends. -/
theorem isNormal_ofScaled (hdigits : 0 < digits) (exponent : Int) :
    (ofScaled digits exponent).IsNormal := by
  obtain ⟨zeros, hzeros⟩ := exists_trimZeros_append (Nat.toDigits 10 digits)
  have hhead : (Nat.toDigits 10 digits).head? ≠ some '0' := head?_natDigits_ne hdigits
  have hne : trimZeros (Nat.toDigits 10 digits) ≠ [] := by
    intro hnil
    rw [hnil, List.nil_append] at hzeros
    rw [← hzeros] at hhead
    cases zeros with
    | zero => exact Nat.toDigits_ne_nil hzeros.symm
    | succ zeros => exact hhead rfl
  refine ⟨fun c hc => ?_, hne, ?_, ?_⟩
  · refine isDigit_of_mem_natDigits (n := digits) c ?_
    rw [natDigits, ← hzeros]
    exact List.mem_append_left _ hc
  · rw [← hzeros, List.head?_append_of_ne_nil _ hne] at hhead
    exact hhead
  · exact getLast?_trimZeros_ne _

end Decimal

/-! ### The decimal that is written -/

theorem roundDecimal_of_withDigits? {count n : Nat} {power : Int}
    (h : withDigits? code count = some (n, power)) : roundDecimal n power = code := by
  obtain ⟨m, hfind, heq⟩ := Option.map_eq_some_iff.mp h
  cases heq
  simpa using List.find?_some hfind

/-- **The decimal of a code** has few digits that are rounded to the code, or is the exact
magnitude. -/
theorem exists_shortest_eq (code : Nat) : ∃ digits exponent,
    shortest code = Decimal.ofScaled digits exponent ∧ roundDecimal digits exponent = code := by
  unfold shortest
  dsimp only
  cases hfound : (List.range 17).findSome? fun n => withDigits? code (n + 1) with
  | some found =>
      obtain ⟨n, -, hn⟩ := List.exists_of_findSome?_eq_some hfound
      exact ⟨found.1, found.2, rfl, roundDecimal_of_withDigits? hn⟩
  | none =>
      refine ⟨_, _, rfl, roundDecimal_eq_of_units ?_⟩
      -- A unit is a power of one half, and ten is twice five.
      have hten : (10 : ℚ) ^ unitExponent = 5 ^ unitExponent * 2 ^ unitExponent := by
        rw [← mul_pow]
        norm_num
      have hunits : (unitsInOne : ℚ) = 2 ^ unitExponent := by
        rw [unitsInOne_eq]
        push_cast
        rfl
      dsimp only [Option.getD_none]
      rw [hunits, Nat.pow_eq, zpow_neg, zpow_natCast, hten]
      push_cast
      field_simp

theorem exists_shortest_eq_of_pos (hcode : 0 < code) : ∃ digits exponent, 0 < digits ∧
    shortest code = Decimal.ofScaled digits exponent ∧ roundDecimal digits exponent = code := by
  obtain ⟨digits, exponent, hshortest, hround⟩ := exists_shortest_eq code
  refine ⟨digits, exponent, Nat.pos_of_ne_zero ?_, hshortest, hround⟩
  rintro rfl
  rw [roundDecimal_zero] at hround
  exact hcode.ne hround

/-- **The decimal of a code is rounded to the code.** -/
theorem roundDecimal_shortest (code : Nat) :
    roundDecimal (shortest code).significand (shortest code).place = code := by
  obtain ⟨digits, exponent, hshortest, hround⟩ := exists_shortest_eq code
  rw [hshortest, roundDecimal_congr (Decimal.ofScaled_value digits exponent), hround]

theorem isNormal_shortest (hcode : 0 < code) : (shortest code).IsNormal := by
  obtain ⟨digits, exponent, hdigits, hshortest, -⟩ := exists_shortest_eq_of_pos hcode
  rw [hshortest]
  exact Decimal.isNormal_ofScaled hdigits exponent

/-- **The point of a decimal lies where the code lies among the powers of ten.**  What a power of
ten is rounded to is the first code whose decimal has its point behind the power, provided that the
decimal of this very code has it there. -/
theorem shortest_point_le_iff {threshold : Nat} (hround : roundDecimal 1 power = threshold)
    (hself : power < (shortest threshold).point) (hcode : 0 < code) :
    (shortest code).point ≤ power ↔ code < threshold := by
  obtain ⟨digits, exponent, hdigits, hshortest, hcoderound⟩ := exists_shortest_eq_of_pos hcode
  constructor
  · intro hpoint
    -- The decimal is below the power, so only the code of the power itself is left to exclude.
    have hne : code ≠ threshold := by
      rintro rfl
      exact absurd hpoint (Int.not_le.mpr hself)
    rw [hshortest, Decimal.ofScaled_point] at hpoint
    have hbelow : (digits : ℚ) * 10 ^ exponent ≤ (1 : Nat) * 10 ^ power := by
      rw [Nat.cast_one, one_mul]
      exact (decimal_lt digits exponent).le.trans (zpow_le_zpow_right₀ (by norm_num) hpoint)
    have hle : code ≤ threshold := by
      rw [← hcoderound, ← hround]
      exact roundDecimal_mono hbelow
    exact lt_of_le_of_ne hle hne
  · intro hless
    by_contra hpoint
    rw [Int.not_le, hshortest, Decimal.ofScaled_point] at hpoint
    have habove : ((1 : Nat) : ℚ) * 10 ^ power ≤ digits * 10 ^ exponent := by
      rw [Nat.cast_one, one_mul]
      exact (zpow_le_zpow_right₀ (by norm_num) (by omega)).trans
        (le_decimal hdigits.ne' exponent)
    have hge : threshold ≤ code := by
      rw [← hcoderound, ← hround]
      exact roundDecimal_mono habove
    exact absurd hless (Nat.not_lt.mpr hge)

end DesignTokens.Number
