import DesignTokens.Number.Double

/-!
# The fewest digits that read back

A finite double is written with the fewest significant digits that round to it again, and with
the nearest such digits. A decimal of `n` digits that rounds to a number is one of the two
neighbours of the number on the grid of `n` digits, if there is one at all; so the two neighbours
are tried for one digit, two digits and so on, the nearer one first.

## Main Definitions

* `Decimal` — significant digits and the place of the point before them
* `neighbours` — the two decimals around a number on a grid, the nearer one first
* `shortest` — the decimal that is written for a code

## Design Notes

A candidate is accepted because `roundDecimal` gives the code back, so reading the result back is
a matter of definition. Seventeen digits are enough for every double; the exact expansion, which
is the last resort, is a decimal as well because a unit is a power of one half.
-/

namespace DesignTokens.Number

/-- A decimal `0.d₁d₂… * 10^point` with digits `d₁d₂…` that do not end in a zero. -/
structure Decimal where
  /-- The significant digits. -/
  digits : List Char
  /-- How many of the digits stand before the decimal point. -/
  point : Int
  deriving DecidableEq

/-- The digits without the zeros at their end. -/
def trimZeros (digits : List Char) : List Char :=
  (digits.reverse.dropWhile (· == '0')).reverse

/-- The decimal of `digits * 10^exponent`. -/
def Decimal.ofScaled (digits : Nat) (exponent : Int) : Decimal :=
  let all := Nat.toDigits 10 digits
  ⟨trimZeros all, all.length + exponent⟩

/-- The place of the leading digit of a number of units: it is at least `10^order` and less than
`10^(order + 1)`. -/
def decimalOrder (units : Nat) : Int :=
  ((Nat.toDigits 10 (units * Nat.pow 10 341 / unitsInOne)).length : Int) - 342

/-- The two multiples of `10^exponent` around a number of units, counted in that power, the nearer
one first; a tie goes to the even one. -/
def neighbours (units : Nat) (exponent : Int) : List Nat :=
  let num := if 0 ≤ exponent then units else units * Nat.pow 10 (-exponent).toNat
  let den := if 0 ≤ exponent then unitsInOne * Nat.pow 10 exponent.toNat else unitsInOne
  let lower := num / den
  let rest := num % den
  if 2 * rest < den ∨ (2 * rest = den ∧ lower % 2 = 0) then [lower, lower + 1]
  else [lower + 1, lower]

/-- The neighbour on the grid of `count` digits that rounds to the code, if one does. -/
def withDigits? (code count : Nat) : Option (Nat × Int) :=
  let units := codeUnits code
  let exponent := decimalOrder units + 1 - count
  ((neighbours units exponent).find? fun n => roundDecimal n exponent == code).map (·, exponent)

/-- The decimal with the fewest digits that rounds to a finite code. -/
def shortest (code : Nat) : Decimal :=
  let scaled := ((List.range 17).findSome? fun n => withDigits? code (n + 1)).getD
    (codeUnits code * Nat.pow 5 unitExponent, -(unitExponent : Int))
  Decimal.ofScaled scaled.1 scaled.2

end DesignTokens.Number
