import DesignTokens.Number.Shortest

/-!
# Number spelling

How a double is spelled once its digits are known. Two spellings are in use: documents and
messages show `1.0`, `1e-05` and `1e+16`, stylesheets show `1`, `0.00001` and
`10000000000000000`.

## Main Definitions

* `Spelling` — the choices a spelling makes
* `documentSpelling`, `stylesheetSpelling` — the two spellings
* `Double.documentText` — a number as documents and messages show it
* `Double.cssText` — a number as stylesheets show it
* `intText`, `intText?` — an integer in figures, and the same for integers that are not too long

## Design Notes

A stylesheet shows a whole number below `10^21` with all its digits, which are more than the
fewest ones from `2^53` on. All other numbers are spelled with the fewest digits that read back.
-/

namespace DesignTokens.Number

/-- The choices of a number spelling. -/
structure Spelling where
  /-- The least place of the point that is still written positionally. -/
  lowest : Int
  /-- The greatest place of the point that is still written positionally. -/
  highest : Int
  /-- How many digits an exponent has at least. -/
  exponentDigits : Nat
  /-- Whether a whole number keeps a point and a zero. -/
  pointZero : Bool

/-- Exponents from `1e16` on and below `1e-4`, with two digits; whole numbers end in `.0`. -/
def documentSpelling : Spelling := ⟨-3, 16, 2, true⟩

/-- Exponents from `1e21` on and below `1e-6`, without padding; whole numbers have no point. -/
def stylesheetSpelling : Spelling := ⟨-5, 21, 1, false⟩

/-- The digits of a natural number. -/
def natDigits (n : Nat) : List Char := Nat.toDigits 10 n

/-- The digits of a natural number, filled up with zeros at the left. -/
def paddedDigits (width n : Nat) : List Char :=
  let digits := natDigits n
  List.replicate (width - digits.length) '0' ++ digits

/-- The text of an integer. -/
def intText (n : Int) : String :=
  String.ofList (if n < 0 then '-' :: natDigits n.natAbs else natDigits n.natAbs)

/-- The text of a natural number. -/
def natText (n : Nat) : String := String.ofList (natDigits n)

/-- How many digits an integer may have where it is read or shown. -/
def integerDigitLimit : Nat := 4300

/-- The text of an integer that does not have too many digits to be shown. -/
def intText? (n : Int) : Option String :=
  let digits := natDigits n.natAbs
  if integerDigitLimit < digits.length then none
  else some (String.ofList (if n < 0 then '-' :: digits else digits))

/-- What a reader is told about an integer with too many digits; how many they are is told only
where one is read. -/
def tooManyDigits (found : Option Nat) : String :=
  "Exceeds the limit (" ++ natText integerDigitLimit ++ " digits) for integer string conversion" ++
    ((found.map fun n => ": value has " ++ natText n ++ " digits").getD "") ++
    "; use sys.set_int_max_str_digits() to increase the limit"

/-- A decimal written without an exponent. -/
def positional (style : Spelling) (d : Decimal) : List Char :=
  if d.point ≤ 0 then
    '0' :: '.' :: (List.replicate (-d.point).toNat '0' ++ d.digits)
  else
    let whole := d.point.toNat
    if whole < d.digits.length then d.digits.take whole ++ '.' :: d.digits.drop whole
    else
      d.digits ++ List.replicate (whole - d.digits.length) '0' ++
        if style.pointZero then ['.', '0'] else []

/-- A decimal written with one digit before the point and an exponent. -/
def scientific (style : Spelling) (d : Decimal) : List Char :=
  let mantissa :=
    match d.digits with
    | first :: second :: rest => first :: '.' :: second :: rest
    | few => few
  let power := d.point - 1
  mantissa ++ 'e' :: (if power < 0 then '-' else '+') ::
    paddedDigits style.exponentDigits power.natAbs

/-- The digits of a positive decimal in a spelling. -/
def Spelling.spell (style : Spelling) (d : Decimal) : List Char :=
  if style.lowest ≤ d.point ∧ d.point ≤ style.highest then positional style d
  else scientific style d

/-- The characters of a double in a spelling. -/
def Spelling.write (style : Spelling) (x : Double) : List Char :=
  if x.isNaN then ['n', 'a', 'n']
  else
    let magnitude :=
      if !x.isFinite then ['i', 'n', 'f']
      else if x.code.val = 0 then positional style ⟨['0'], 1⟩
      else style.spell (shortest x.code)
    if x.negative then '-' :: magnitude else magnitude

/-- A number as documents and messages show it. -/
def Double.documentText (x : Double) : String := String.ofList (documentSpelling.write x)

/-- The code of `10^21`, from which on a stylesheet writes an exponent. -/
def exponentCode : Nat := 0x444b1ae4d6e2ef50

/-- A number as stylesheets show it: a whole number below `10^21` with all its digits and without
the sign of zero, any other number with the fewest digits that read back. -/
def Double.cssText (x : Double) : String :=
  if x.isIntegral && decide (x.code.val < exponentCode) then
    intText (if x.negative then -(x.wholePart : Int) else x.wholePart)
  else String.ofList (stylesheetSpelling.write x)

end DesignTokens.Number
