import DesignTokens.Number.Reading
import Mathlib.Data.List.TakeWhile

/-!
# Digits

Natural numbers are written with the ten ASCII digits and without zeros in front. Digits are read up
to the first character that is none, and what is read is the number that was written.

## Main Definitions

* `digitOf` — the value of an ASCII digit

## Main Statements

* `isDigit_of_mem_natDigits`, `head?_natDigits_ne` — how natural numbers are written
* `splitDigits_append` — where reading digits stops
* `readDigits?_of_isDigit` — digits without separators are read as themselves
* `ofDigits_map_digitOf` — the number that digits stand for
-/

namespace DesignTokens.Number

open Text

/-! ### Writing -/

theorem isDigit_of_mem_natDigits {n : Nat} : ∀ c ∈ natDigits n, c.isDigit = true := fun _ hc =>
  Nat.isDigit_of_mem_toDigits (by decide) (by decide) hc

/-- Only the number zero is written with a zero in front. -/
theorem head?_natDigits_ne {n : Nat} (h : 0 < n) : (natDigits n).head? ≠ some '0' := by
  have hdigit : ∀ d < 10, 0 < d → Nat.digitChar d ≠ '0' := by decide
  unfold natDigits
  -- Without its last digit a number of several digits begins in the same way.
  induction n using Nat.strongRecOn with
  | ind n ih =>
      by_cases hsmall : n < 10
      · rw [Nat.toDigits_of_lt_base hsmall]
        simpa using hdigit n hsmall h
      · have hlarge : 10 ≤ n := Nat.not_lt.mp hsmall
        rw [Nat.toDigits_of_base_le (by decide) hlarge, List.head?_append,
          List.head?_eq_some_head Nat.toDigits_ne_nil, Option.some_or,
          ← List.head?_eq_some_head Nat.toDigits_ne_nil]
        exact ih (n / 10) (by omega) (by omega)

/-! ### Reading -/

variable {ds rest : List Char} {c : Char}

/-- The value of an ASCII digit: its distance from the first one. -/
def digitOf (c : Char) : Nat := c.toNat - '0'.toNat

theorem toNat_of_isDigit (h : c.isDigit = true) : 0x30 ≤ c.toNat ∧ c.toNat ≤ 0x39 := by
  rw [Char.isDigit, Bool.and_eq_true, decide_eq_true_eq, decide_eq_true_eq] at h
  exact h

theorem digitValue?_of_isDigit (h : c.isDigit = true) : digitValue? c = some (digitOf c) := by
  have hrange := toNat_of_isDigit h
  unfold digitValue? digitZeros
  rw [List.find?_cons_of_pos (by simpa using hrange)]
  rfl

/-- An ASCII digit has the same value in base ten. -/
theorem baseDigitValue?_of_isDigit (h : c.isDigit = true) :
    baseDigitValue? 10 c = some (digitOf c) := by
  have hrange := toNat_of_isDigit h
  have hletter : ∀ first : Char, 0x39 < first.toNat → ¬ first ≤ c := by
    intro first hfirst hle
    have hnat : first.toNat ≤ c.toNat := UInt32.le_iff_toNat_le.mp (Char.le_def.mp hle)
    omega
  have hlower : ¬ ('a' ≤ c ∧ c ≤ 'z') := fun hc => hletter 'a' (by decide) hc.1
  have hupper : ¬ ('A' ≤ c ∧ c ≤ 'Z') := fun hc => hletter 'A' (by decide) hc.1
  have hsmall : digitOf c < 10 := by
    show c.toNat - 48 < 10
    omega
  unfold baseDigitValue?
  rw [if_neg hlower, if_neg hupper, digitValue?_of_isDigit h, Option.filter_some_pos]
  exact decide_eq_true hsmall

/-- Digits are read as themselves in base ten. -/
theorem readDigits?_of_isDigit (h : ∀ c ∈ ds, c.isDigit = true) :
    readDigits? 10 ds = some (ds.map digitOf) := by
  have hseparator : ('_').isDigit = false := by decide
  fun_induction readDigits? 10 ds with
  | case1 => rfl
  | case2 c => simp [baseDigitValue?_of_isDigit (h c List.mem_cons_self)]
  | case3 c d rest ih =>
      -- There is no separator among digits.
      have hdigit := h '_' (by simp)
      rw [hseparator] at hdigit
      cases hdigit
  | case4 c d rest hplain ih =>
      rw [List.forall_mem_cons] at h
      rw [baseDigitValue?_of_isDigit h.1, ih h.2]
      rfl

/-- Reading digits stops at the first character that is none. -/
theorem splitDigits_append (hds : ∀ c ∈ ds, c.isDigit = true)
    (hrest : ∀ c ∈ rest.head?, digitValue? c = none) :
    splitDigits (ds ++ rest) = (ds.map digitOf, rest) := by
  induction ds with
  | nil =>
      cases rest with
      | nil => rfl
      | cons c rest => simp [splitDigits, hrest c rfl]
  | cons d ds ih =>
      rw [List.forall_mem_cons] at hds
      simp [splitDigits, digitValue?_of_isDigit hds.1, ih hds.2]

/-- The values of digits stand for the same number as the digits. -/
theorem ofDigits_map_digitOf (ds : List Char) :
    ofDigits 10 (ds.map digitOf) = Nat.ofDigitChars 10 ds 0 := by
  rw [ofDigits, List.foldl_map, Nat.ofDigitChars_eq_foldl]
  rfl

end DesignTokens.Number
