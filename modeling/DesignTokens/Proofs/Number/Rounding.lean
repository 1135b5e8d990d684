import DesignTokens.Number.Double
import Mathlib.Algebra.Order.Field.Basic
import Mathlib.Algebra.Order.Field.Rat
import Mathlib.Order.Monotone.Basic
import Mathlib.Tactic.Linarith
import Mathlib.Tactic.NormNum
import Mathlib.Tactic.Positivity
import Mathlib.Tactic.Ring

/-!
# Rounding to the nearest double

A quotient of units is rounded to the nearest code. Two codes that follow each other have a
midpoint, and a quotient is rounded to one of the codes up to the first of the two exactly if it
lies below the midpoint, or on it and the first code is even. Everything else about rounding follows:
a code's own magnitude is rounded to the code, larger quotients are not rounded to smaller codes, and
the shortcuts that are taken for decimals of extreme size change nothing.

## Main Definitions

* `nearest` — the natural number nearest to a quotient
* `unitScale` — how far the significand of a rounded quotient is shifted

## Main Statements

* `codeUnits_strictMono` — codes grow with their magnitudes
* `roundUnits_le_iff` — a quotient is rounded by its place among the midpoints
* `roundUnits_mono` — rounding is monotone
* `roundDecimal_eq_of_units` — a decimal with the magnitude of a code is rounded to the code
* `Double.ofDecimal_eq` — every decimal is rounded to the nearest code
-/

namespace DesignTokens.Number

variable {code num den n : Nat}

/-! ### The magnitudes of codes -/

theorem code_eq (code : Nat) :
    code = codeScale code * fractionCount + codeSignificand code := by
  unfold codeSignificand codeScale fractionCount
  omega

theorem codeSignificand_lt (code : Nat) : codeSignificand code < 2 * fractionCount := by
  unfold codeSignificand codeScale fractionCount
  omega

/-- Only the lowest codes have no leading bit in their significand. -/
theorem fractionCount_le_codeSignificand (h : 0 < codeScale code) :
    fractionCount ≤ codeSignificand code := by
  unfold codeSignificand codeScale fractionCount at *
  omega

theorem codeUnits_eq (code : Nat) : codeUnits code = codeSignificand code * 2 ^ codeScale code :=
  rfl

/-- The magnitude of the next code is one step of the code's scale away, also where the scale
changes. -/
theorem codeUnits_succ (code : Nat) :
    codeUnits (code + 1) = codeUnits code + 2 ^ codeScale code := by
  rw [codeUnits_eq, codeUnits_eq]
  rcases Nat.lt_or_ge (codeSignificand code + 1) (2 * fractionCount) with hsame | hlast
  · have hscale : codeScale (code + 1) = codeScale code := by
      unfold codeSignificand codeScale fractionCount at *
      omega
    have hsignificand : codeSignificand (code + 1) = codeSignificand code + 1 := by
      unfold codeSignificand codeScale fractionCount at *
      omega
    rw [hscale, hsignificand]
    ring
  · have hscale : codeScale (code + 1) = codeScale code + 1 := by
      unfold codeSignificand codeScale fractionCount at *
      omega
    have hsignificand : 2 * codeSignificand (code + 1) = codeSignificand code + 1 := by
      unfold codeSignificand codeScale fractionCount at *
      omega
    calc codeSignificand (code + 1) * 2 ^ codeScale (code + 1)
        = 2 * codeSignificand (code + 1) * 2 ^ codeScale code := by rw [hscale]; ring
      _ = codeSignificand code * 2 ^ codeScale code + 2 ^ codeScale code := by
          rw [hsignificand]; ring

/-- **Codes grow with the magnitudes they stand for.** -/
theorem codeUnits_strictMono : StrictMono codeUnits := by
  refine strictMono_nat_of_lt_succ fun code => ?_
  rw [codeUnits_succ]
  exact Nat.lt_add_of_pos_right (Nat.two_pow_pos _)

@[simp] theorem codeUnits_zero : codeUnits 0 = 0 := rfl

theorem unitsInOne_eq : unitsInOne = 2 ^ unitExponent := by
  unfold unitsInOne
  generalize unitExponent = power
  exact Nat.pow_eq

theorem unitsInOne_pos : 0 < unitsInOne := by
  rw [unitsInOne_eq]
  exact Nat.two_pow_pos _

/-! ### Rounding quotients -/

/-- The natural number nearest to a quotient; a tie goes to the even one. -/
def nearest (num den : Nat) : Nat :=
  if 2 * (num % den) > den ∨ (2 * (num % den) = den ∧ num / den % 2 = 1) then num / den + 1
  else num / den

/-- A quotient is rounded to a natural number by its place among the midpoints. -/
theorem nearest_le_iff (hden : 0 < den) : nearest num den ≤ n ↔
    2 * num < (2 * n + 1) * den ∨ 2 * num = (2 * n + 1) * den ∧ n % 2 = 0 := by
  have hmod := Nat.mod_lt num hden
  have hnum := Nat.div_add_mod num den
  unfold nearest
  generalize num / den = quotient at *
  generalize num % den = rest at *
  subst hnum
  rcases Nat.lt_trichotomy n quotient with hlt | rfl | hgt
  · have hstep : (n + 1) * den ≤ quotient * den := Nat.mul_le_mul_right den hlt
    have hfar : ¬ 2 * (den * quotient + rest) ≤ (2 * n + 1) * den := by nlinarith
    split <;> omega
  · have hmid : (2 * n + 1) * den = 2 * (den * n) + den := by ring
    rw [hmid]
    split <;> omega
  · have hstep : (quotient + 1) * den ≤ n * den := Nat.mul_le_mul_right den hgt
    have hnear : 2 * (den * quotient + rest) < (2 * n + 1) * den := by nlinarith
    split <;> omega

/-- How far the significand of a rounded quotient is shifted to the left to count units. -/
def unitScale (num den : Nat) : Nat := (num / den).log2 - 52

theorem roundUnits_eq (num den : Nat) : roundUnits num den =
    unitScale num den * fractionCount + nearest num (den * 2 ^ unitScale num den) :=
  rfl

theorem lt_of_unitScale (num : Nat) (hden : 0 < den) :
    num < 2 ^ (unitScale num den + 53) * den := by
  have hlog := Nat.lt_log2_self (n := num / den)
  have hscale : (num / den).log2 + 1 ≤ unitScale num den + 53 := by
    unfold unitScale
    omega
  rw [← Nat.div_lt_iff_lt_mul hden]
  exact hlog.trans_le (Nat.pow_le_pow_right (by decide) hscale)

theorem le_of_unitScale (hden : 0 < den) (hscale : 0 < unitScale num den) :
    2 ^ (unitScale num den + 52) * den ≤ num := by
  have hlarge : unitScale num den + 52 = (num / den).log2 := by
    unfold unitScale at *
    omega
  have hne : num / den ≠ 0 := by
    intro hzero
    rw [hzero] at hlarge
    simp at hlarge
  rw [← Nat.le_div_iff_mul_le hden, hlarge]
  exact Nat.log2_self_le hne

/-- The significand of a rounded quotient is below twice the leading bit, or just there. -/
theorem nearest_le_of_unitScale (num : Nat) (hden : 0 < den) :
    nearest num (den * 2 ^ unitScale num den) ≤ 2 * fractionCount := by
  have hstep : 0 < den * 2 ^ unitScale num den := Nat.mul_pos hden (Nat.two_pow_pos _)
  rw [nearest_le_iff hstep]
  left
  have hlt := lt_of_unitScale num hden
  have hpow : 2 ^ (unitScale num den + 53) * den =
      2 * fractionCount * (den * 2 ^ unitScale num den) := by
    rw [Nat.pow_add]
    ring
  rw [hpow] at hlt
  nlinarith

/-- The significand of a rounded quotient has its leading bit, unless nothing is shifted. -/
theorem le_nearest_of_unitScale (hden : 0 < den) (hscale : 0 < unitScale num den) :
    fractionCount ≤ nearest num (den * 2 ^ unitScale num den) := by
  have hstep : 0 < den * 2 ^ unitScale num den := Nat.mul_pos hden (Nat.two_pow_pos _)
  have hle := le_of_unitScale hden hscale
  have hpow : 2 ^ (unitScale num den + 52) * den =
      fractionCount * (den * 2 ^ unitScale num den) := by
    rw [Nat.pow_add]
    ring
  rw [hpow] at hle
  by_contra hlt
  have hbelow : nearest num (den * 2 ^ unitScale num den) ≤ fractionCount - 1 := by omega
  rw [nearest_le_iff hstep] at hbelow
  have hmid : (2 * (fractionCount - 1) + 1) * (den * 2 ^ unitScale num den) <
      2 * (fractionCount * (den * 2 ^ unitScale num den)) := by
    unfold fractionCount
    omega
  omega

/-- **A quotient is rounded by its place among the midpoints** of neighbouring codes; a midpoint
goes to the even one. -/
theorem roundUnits_le_iff (hden : 0 < den) : roundUnits num den ≤ code ↔
    2 * num < (codeUnits code + codeUnits (code + 1)) * den ∨
      2 * num = (codeUnits code + codeUnits (code + 1)) * den ∧ code % 2 = 0 := by
  have hcode := code_eq code
  have hmid : (codeUnits code + codeUnits (code + 1)) * den =
      (2 * codeSignificand code + 1) * (den * 2 ^ codeScale code) := by
    rw [codeUnits_succ, codeUnits_eq]
    ring
  rw [roundUnits_eq]
  rcases Nat.lt_trichotomy (unitScale num den) (codeScale code) with hlt | heq | hgt
  · -- The quotient has a smaller scale, so it is below the code.
    have hlead := fractionCount_le_codeSignificand (Nat.zero_lt_of_lt hlt)
    have hnear := nearest_le_of_unitScale num hden
    have hbelow : unitScale num den * fractionCount +
        nearest num (den * 2 ^ unitScale num den) ≤ code := by
      unfold fractionCount at *
      omega
    have hnum : num < codeSignificand code * (den * 2 ^ codeScale code) := by
      calc num < 2 ^ (unitScale num den + 53) * den := lt_of_unitScale num hden
        _ ≤ 2 ^ (codeScale code + 52) * den :=
            Nat.mul_le_mul_right _ (Nat.pow_le_pow_right (by decide) (by omega))
        _ = fractionCount * (den * 2 ^ codeScale code) := by rw [Nat.pow_add]; ring
        _ ≤ codeSignificand code * (den * 2 ^ codeScale code) := Nat.mul_le_mul_right _ hlead
    rw [hmid]
    exact iff_of_true hbelow (.inl (by nlinarith))
  · have hstep : 0 < den * 2 ^ codeScale code := Nat.mul_pos hden (Nat.two_pow_pos _)
    have hparity : code % 2 = codeSignificand code % 2 := by
      unfold fractionCount at hcode
      omega
    rw [hmid, hparity, ← nearest_le_iff hstep, heq]
    omega
  · -- The quotient has a larger scale, so it is not below the next code.
    have hlead := le_nearest_of_unitScale hden (Nat.zero_lt_of_lt hgt)
    have hsignificand := codeSignificand_lt code
    have habove : ¬ unitScale num den * fractionCount +
        nearest num (den * 2 ^ unitScale num den) ≤ code := by
      unfold fractionCount at *
      omega
    have hnum : (codeSignificand code + 1) * (den * 2 ^ codeScale code) ≤ num := by
      calc (codeSignificand code + 1) * (den * 2 ^ codeScale code)
          ≤ 2 * fractionCount * (den * 2 ^ codeScale code) := Nat.mul_le_mul_right _ hsignificand
        _ = 2 ^ (codeScale code + 53) * den := by rw [Nat.pow_add]; ring
        _ ≤ 2 ^ (unitScale num den + 52) * den :=
            Nat.mul_le_mul_right _ (Nat.pow_le_pow_right (by decide) (by omega))
        _ ≤ num := le_of_unitScale hden (Nat.zero_lt_of_lt hgt)
    have hpos : 0 < den * 2 ^ codeScale code := Nat.mul_pos hden (Nat.two_pow_pos _)
    rw [hmid]
    refine iff_of_false habove ?_
    have hfar : (2 * codeSignificand code + 1) * (den * 2 ^ codeScale code) < 2 * num := by
      nlinarith
    omega

/-- **Rounding is monotone.** -/
theorem roundUnits_mono {a b c d : Nat} (hb : 0 < b) (hd : 0 < d) (h : a * d ≤ c * b) :
    roundUnits a b ≤ roundUnits c d := by
  have hself := (roundUnits_le_iff hd).mp (le_refl (roundUnits c d))
  rw [roundUnits_le_iff hb]
  generalize codeUnits _ + codeUnits _ = mid at *
  rcases hself with hbelow | ⟨hmid, heven⟩
  · left
    nlinarith
  · rcases Nat.lt_or_ge (2 * a) (mid * b) with hlt | hge
    · exact .inl hlt
    · refine .inr ⟨?_, heven⟩
      nlinarith

/-- **The magnitude of a code is rounded to the code.** -/
theorem roundUnits_codeUnits (code : Nat) (hden : 0 < den) :
    roundUnits (codeUnits code * den) den = code := by
  apply le_antisymm
  · rw [roundUnits_le_iff hden]
    left
    have hlt := codeUnits_strictMono (Nat.lt_succ_self code)
    nlinarith
  · by_contra hless
    obtain ⟨below, rfl⟩ : ∃ below, code = below + 1 := Nat.exists_eq_add_one.mpr (by omega)
    have hle : roundUnits (codeUnits (below + 1) * den) den ≤ below := by omega
    rw [roundUnits_le_iff hden] at hle
    have hlt := codeUnits_strictMono (Nat.lt_succ_self below)
    have hfar : (codeUnits below + codeUnits (below + 1)) * den <
        2 * (codeUnits (below + 1) * den) := by
      nlinarith
    omega

/-! ### Rounding decimals -/

variable {digits more : Nat} {exponent power : Int}

theorem roundDecimal_eq (digits : Nat) (exponent : Int) : roundDecimal digits exponent =
    roundUnits (digits * 10 ^ exponent.toNat * unitsInOne) (10 ^ (-exponent).toNat) := by
  unfold roundDecimal
  split
  · next h =>
      have hneg : (-exponent).toNat = 0 := by omega
      rw [hneg, Nat.pow_zero, Nat.pow_eq]
  · next h =>
      have hpos : exponent.toNat = 0 := by omega
      rw [hpos, Nat.pow_zero, Nat.mul_one, Nat.pow_eq]

/-- A decimal as a quotient of natural numbers. -/
theorem decimal_eq_div (digits : Nat) (exponent : Int) : (digits : ℚ) * 10 ^ exponent =
    (digits * 10 ^ exponent.toNat : Nat) / (10 ^ (-exponent).toNat : Nat) := by
  push_cast
  have hexponent : exponent = exponent.toNat - (-exponent).toNat := by omega
  conv_lhs => rw [hexponent, zpow_sub₀ (by norm_num), zpow_natCast, zpow_natCast]
  ring

/-- A smaller decimal is not rounded to a larger code. -/
theorem roundDecimal_mono (h : (digits : ℚ) * 10 ^ exponent ≤ more * 10 ^ power) :
    roundDecimal digits exponent ≤ roundDecimal more power := by
  rw [decimal_eq_div, decimal_eq_div, div_le_div_iff₀ (by positivity) (by positivity)] at h
  have hnat : digits * 10 ^ exponent.toNat * 10 ^ (-power).toNat ≤
      more * 10 ^ power.toNat * 10 ^ (-exponent).toNat := by exact_mod_cast h
  rw [roundDecimal_eq, roundDecimal_eq]
  refine roundUnits_mono (by positivity) (by positivity) ?_
  calc digits * 10 ^ exponent.toNat * unitsInOne * 10 ^ (-power).toNat
      = digits * 10 ^ exponent.toNat * 10 ^ (-power).toNat * unitsInOne := by ring
    _ ≤ more * 10 ^ power.toNat * 10 ^ (-exponent).toNat * unitsInOne :=
        Nat.mul_le_mul_right _ hnat
    _ = more * 10 ^ power.toNat * unitsInOne * 10 ^ (-exponent).toNat := by ring

/-- Decimals of one value are rounded to one code. -/
theorem roundDecimal_congr (h : (digits : ℚ) * 10 ^ exponent = more * 10 ^ power) :
    roundDecimal digits exponent = roundDecimal more power :=
  le_antisymm (roundDecimal_mono h.le) (roundDecimal_mono h.ge)

/-- A decimal with the magnitude of a code is rounded to the code. -/
theorem roundDecimal_eq_of_units (h : (digits : ℚ) * 10 ^ exponent * unitsInOne = codeUnits code) :
    roundDecimal digits exponent = code := by
  rw [decimal_eq_div, div_mul_eq_mul_div, div_eq_iff (by positivity)] at h
  have hnat : digits * 10 ^ exponent.toNat * unitsInOne =
      codeUnits code * 10 ^ (-exponent).toNat := by exact_mod_cast h
  rw [roundDecimal_eq, hnat]
  exact roundUnits_codeUnits code (by positivity)

@[simp] theorem roundDecimal_zero (exponent : Int) : roundDecimal 0 exponent = 0 := by
  refine roundDecimal_eq_of_units ?_
  rw [Nat.cast_zero, zero_mul, zero_mul, codeUnits_zero, Nat.cast_zero]

/-! ### Decimals of extreme size -/

/-- The decimal digits of a number tell where it lies among the powers of ten. -/
theorem decimal_lt (digits : Nat) (exponent : Int) : (digits : ℚ) * 10 ^ exponent <
    10 ^ ((Nat.toDigits 10 digits).length + exponent) := by
  have hlt : digits < 10 ^ (Nat.toDigits 10 digits).length :=
    (Nat.length_toDigits_le_iff (by decide) Nat.length_toDigits_pos).mp le_rfl
  rw [zpow_add₀ (by norm_num), zpow_natCast]
  refine mul_lt_mul_of_pos_right ?_ (zpow_pos (by norm_num) exponent)
  exact_mod_cast hlt

theorem le_decimal (hdigits : digits ≠ 0) (exponent : Int) :
    10 ^ ((Nat.toDigits 10 digits).length + exponent - 1) ≤ (digits : ℚ) * 10 ^ exponent := by
  have hle : 10 ^ ((Nat.toDigits 10 digits).length - 1) ≤ digits := by
    by_contra hlt
    rw [Nat.not_le] at hlt
    rcases Nat.eq_zero_or_pos ((Nat.toDigits 10 digits).length - 1) with hone | hmany
    · rw [hone] at hlt
      omega
    · have hshort := (Nat.length_toDigits_le_iff (by decide) hmany).mpr hlt
      omega
  have hlength : 0 < (Nat.toDigits 10 digits).length := Nat.length_toDigits_pos
  have hplace : ((Nat.toDigits 10 digits).length : Int) + exponent - 1 =
      ((Nat.toDigits 10 digits).length - 1 : Nat) + exponent := by omega
  rw [hplace, zpow_add₀ (by norm_num), zpow_natCast]
  refine mul_le_mul_of_nonneg_right ?_ (zpow_pos (by norm_num) exponent).le
  exact_mod_cast hle

/-- The powers of ten beyond which the place of the leading digit decides. -/
theorem roundDecimal_extremes :
    roundDecimal 1 (-330) = 0 ∧ infinityCode ≤ roundDecimal 1 320 := by
  decide +kernel

/-- What is far below one unit is rounded to zero. -/
theorem roundDecimal_eq_zero (hplace : (Nat.toDigits 10 digits).length + exponent < -330) :
    roundDecimal digits exponent = 0 := by
  have hle : (digits : ℚ) * 10 ^ exponent ≤ (1 : Nat) * 10 ^ (-330 : Int) := by
    rw [Nat.cast_one, one_mul]
    exact (decimal_lt digits exponent).le.trans (zpow_le_zpow_right₀ (by norm_num) hplace.le)
  exact Nat.le_zero.mp (roundDecimal_extremes.1 ▸ roundDecimal_mono hle)

/-- What is far above all finite magnitudes is rounded to no finite code. -/
theorem infinityCode_le_roundDecimal (hdigits : digits ≠ 0)
    (hplace : 320 < (Nat.toDigits 10 digits).length + exponent) :
    infinityCode ≤ roundDecimal digits exponent := by
  have hle : ((1 : Nat) : ℚ) * 10 ^ (320 : Int) ≤ digits * 10 ^ exponent := by
    rw [Nat.cast_one, one_mul]
    exact (zpow_le_zpow_right₀ (by norm_num) (by omega)).trans (le_decimal hdigits exponent)
  exact roundDecimal_extremes.2.trans (roundDecimal_mono hle)

namespace Double

theorem ofCode_of_infinityCode_le (negative : Bool) (h : infinityCode ≤ code) :
    ofCode negative code = infinity negative := by
  simp [infinity, ofCode, Nat.not_lt.mpr h]

@[simp] theorem ofCode_zero (negative : Bool) : ofCode negative 0 = ⟨negative, 0⟩ := rfl

/-- **Every decimal is rounded to the nearest code.**  Where the place of the leading digit decides,
rounding would have the same result. -/
theorem ofDecimal_eq (negative : Bool) (digits : Nat) (exponent : Int) :
    ofDecimal negative digits exponent = ofCode negative (roundDecimal digits exponent) := by
  unfold ofDecimal
  dsimp only
  split
  · next hzero =>
      have hround : roundDecimal digits exponent = 0 := by
        rcases hzero with rfl | hplace
        · exact roundDecimal_zero exponent
        · exact roundDecimal_eq_zero hplace
      rw [hround, ofCode_zero]
  · next hzero =>
      rw [not_or] at hzero
      split
      · next hplace =>
          rw [ofCode_of_infinityCode_le negative (infinityCode_le_roundDecimal hzero.1 hplace)]
      · rfl

/-- A finite double is given back by its code. -/
theorem ofCode_code {x : Double} (h : x.isFinite = true) : ofCode x.negative x.code.val = x := by
  have hcode : x.code.val < infinityCode := by simpa [isFinite] using h
  unfold ofCode
  rw [dif_pos hcode]

end Double

end DesignTokens.Number
