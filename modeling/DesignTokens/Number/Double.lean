/-!
# Double precision numbers

Token values and documents hold numbers of the 64-bit binary format. A number is kept as its
sign and its *code*, the low 63 bits of the format read as a natural number. Codes grow with the
magnitude they stand for, and every finite magnitude is a whole number of *units*, where one unit
is `2^-1074`. All rounding is therefore exact arithmetic on natural numbers.

## Main Definitions

* `Double` — a sign and a code
* `Double.units` — the magnitude of a finite number, counted in units
* `roundUnits` — the code of the double nearest to a quotient of units
* `Double.ofRatio`, `Double.ofDecimal`, `Double.ofInt?` — rounding to the nearest double
* `Double.SameValue` — numerical equality, which ignores the sign of zero

## Design Notes

A quotient is rounded to the nearest code and a tie goes to the even one. The code is computed as
`scale * 2^52 + significand`; when rounding carries into the next power of two the sum is the
code of that power, so no case distinction is needed.
-/

namespace DesignTokens.Number

/-- How many codes there are, which is `2^63`. -/
abbrev codeCount : Nat := 0x8000000000000000

/-- How many codes share an exponent, which is `2^52`. -/
abbrev fractionCount : Nat := 0x10000000000000

/-- A double: its sign bit and the other 63 bits as a natural number. -/
structure Double where
  /-- The sign bit. -/
  negative : Bool
  /-- Exponent field and fraction field, read as one number. -/
  code : Fin codeCount
  deriving DecidableEq

/-- The code of infinity; finite codes lie below it and codes of no number above. -/
def infinityCode : Nat := 2047 * fractionCount

/-- One unit is `2^-unitExponent`. -/
def unitExponent : Nat := 1074

/-- How many units make one. -/
def unitsInOne : Nat := Nat.pow 2 unitExponent

/-- How far a code's significand is shifted to the left to count units. -/
def codeScale (code : Nat) : Nat := code / fractionCount - 1

/-- The significand of a finite code, with its leading bit made explicit. -/
def codeSignificand (code : Nat) : Nat := code - codeScale code * fractionCount

/-- The magnitude of a finite code in units. -/
def codeUnits (code : Nat) : Nat := codeSignificand code * Nat.pow 2 (codeScale code)

/-- The code nearest to `num / den` units; a tie goes to the even code. -/
def roundUnits (num den : Nat) : Nat :=
  let scale := (num / den).log2 - 52
  let step := den * Nat.pow 2 scale
  let significand := num / step
  let rest := num % step
  scale * fractionCount +
    if 2 * rest > step ∨ (2 * rest = step ∧ significand % 2 = 1) then significand + 1
    else significand

/-- The code nearest to `digits * 10^exponent`. -/
def roundDecimal (digits : Nat) (exponent : Int) : Nat :=
  if 0 ≤ exponent then roundUnits (digits * Nat.pow 10 exponent.toNat * unitsInOne) 1
  else roundUnits (digits * unitsInOne) (Nat.pow 10 (-exponent).toNat)

namespace Double

/-- The double of a sign and a code; a code that is too large stands for infinity. -/
def ofCode (negative : Bool) (code : Nat) : Double :=
  if h : code < infinityCode then
    ⟨negative, code, Nat.lt_trans h (by decide)⟩
  else ⟨negative, infinityCode, by decide⟩

/-- Positive zero. -/
def zero : Double := ⟨false, 0⟩

/-- The infinity of a sign. -/
def infinity (negative : Bool) : Double := ofCode negative infinityCode

/-- The value that is no number. -/
def nan : Double := ⟨false, infinityCode + fractionCount / 2, by decide⟩

/-- The double whose 64 bits are the low bits of a natural number. -/
def ofBits (bits : Nat) : Double :=
  ⟨decide (bits / codeCount % 2 = 1), bits % codeCount, Nat.mod_lt _ (by decide)⟩

/-- The 64 bits of a double. -/
def toBits (x : Double) : Nat := (if x.negative then codeCount else 0) + x.code

/-- Neither infinite nor without a value. -/
def isFinite (x : Double) : Bool := decide (x.code.val < infinityCode)

/-- No number at all. -/
def isNaN (x : Double) : Bool := decide (infinityCode < x.code.val)

/-- The magnitude of a finite double in units. -/
def units (x : Double) : Nat := codeUnits x.code

/-- The value of a finite double in units, with its sign. -/
def signedUnits (x : Double) : Int := if x.negative then -(x.units : Int) else x.units

/-- A finite double without a fractional part. -/
def isIntegral (x : Double) : Bool := x.isFinite && x.units % unitsInOne == 0

/-- The magnitude of an integral double. -/
def wholePart (x : Double) : Nat := x.units / unitsInOne

/-- The double nearest to a quotient. -/
def ofRatio (negative : Bool) (num den : Nat) : Double :=
  ofCode negative (roundUnits (num * unitsInOne) den)

/-- The double nearest to `digits * 10^exponent`. A value beyond the range is decided by the
place of its leading digit, so that no huge power is computed for it. -/
def ofDecimal (negative : Bool) (digits : Nat) (exponent : Int) : Double :=
  let place : Int := (Nat.toDigits 10 digits).length + exponent
  if digits = 0 ∨ place < -330 then ⟨negative, 0⟩
  else if 320 < place then infinity negative
  else ofCode negative (roundDecimal digits exponent)

/-- The double nearest to an integer, if that is finite. -/
def ofInt? (n : Int) : Option Double :=
  let x := ofRatio (decide (n < 0)) n.natAbs 1
  if x.isFinite then some x else none

/-- Numerical equality: the zeros are equal and what is no number differs from everything. -/
def sameValue (x y : Double) : Bool :=
  !x.isNaN && !y.isNaN && x.code == y.code && (x.negative == y.negative || x.code == 0)

/-- Whether a double has exactly the value of an integer. -/
def hasValue (x : Double) (n : Int) : Bool :=
  x.isFinite && x.signedUnits == n * unitsInOne

/-- The opposite number. -/
def neg (x : Double) : Double := { x with negative := !x.negative }

/-- The double nearest to a finite number of units, given with their sign. A zero is positive. -/
def ofSignedUnits (num : Int) (den : Nat) : Double :=
  ofCode (decide (num < 0)) (roundUnits num.natAbs den)

/-- The rounded sum of two doubles. -/
def add (x y : Double) : Double :=
  if x.isNaN || y.isNaN then nan
  else if x.isFinite && y.isFinite then
    if x.negative && y.negative then
      ofCode true (roundUnits (x.units + y.units) 1)
    else ofSignedUnits (x.signedUnits + y.signedUnits) 1
  else if x.isFinite then y
  else if y.isFinite then x
  else if x.negative == y.negative then x
  else nan

/-- The rounded product of two doubles. -/
def mul (x y : Double) : Double :=
  let negative := x.negative != y.negative
  if x.isNaN || y.isNaN then nan
  else if x.isFinite && y.isFinite then
    ofCode negative (roundUnits (x.units * y.units) unitsInOne)
  else if x.code == 0 || y.code == 0 then nan
  else infinity negative

end Double

end DesignTokens.Number
