import DesignTokens.Number.Spelling
import DesignTokens.Text.Blank
import DesignTokens.Text.Digit

/-!
# Reading numbers

The spellings that are read as numbers. A decimal number is digits with an optional point and an
optional exponent, or one of the words for infinity and for no number; an integer is digits of a
base, with single underscores between them. Digits of any script count, and blanks around a number
are dropped.

## Main Definitions

* `Double.ofText?` — the double that a text spells
* `readInt?` — the integer that a text spells in a base
* `readInteger` — the same with a limit on the number of digits, or why there is none
-/

namespace DesignTokens.Number

open DesignTokens.Text

/-- A sign in front of a number, and what follows it. -/
def splitSign : List Char → Bool × List Char
  | '+' :: rest => (false, rest)
  | '-' :: rest => (true, rest)
  | cs => (false, cs)

/-- The digits at the start of a text as values, and what follows them. -/
def splitDigits : List Char → List Nat × List Char
  | [] => ([], [])
  | c :: rest =>
    match digitValue? c with
    | some d => let (ds, after) := splitDigits rest; (d :: ds, after)
    | none => ([], c :: rest)

/-- An exponent part: nothing, or a letter, a sign and at least one digit. -/
def readExponent? : List Char → Option Int
  | [] => some 0
  | c :: rest =>
    if c == 'e' || c == 'E' then
      let (negative, unsigned) := splitSign rest
      match splitDigits unsigned with
      | ([], _) => none
      | (ds, []) => some (if negative then -(ofDigits 10 ds : Int) else ofDigits 10 ds)
      | (_, _ :: _) => none
    else none

/-- A number in figures: digits around an optional point, at least one of them, and an exponent. -/
def readFigures? (negative : Bool) (cs : List Char) : Option Double :=
  let (whole, rest) := splitDigits cs
  let (fraction, rest) :=
    match rest with
    | '.' :: after => splitDigits after
    | _ => ([], rest)
  if whole.isEmpty && fraction.isEmpty then none
  else
    (readExponent? rest).map fun power =>
      Double.ofDecimal negative (ofDigits 10 (whole ++ fraction)) (power - fraction.length)

/-- The words that stand for a number, in lower case. -/
def readWord? (negative : Bool) (word : List Char) : Option Double :=
  if word = "inf".toList ∨ word = "infinity".toList then some (Double.infinity negative)
  else if word = "nan".toList then some { Double.nan with negative := negative }
  else none

/-- The double that a text spells. -/
def Double.ofText? (s : String) : Option Double :=
  let (negative, cs) := splitSign (trimNumber s.toList)
  (readFigures? negative cs).or (readWord? negative (cs.map Char.toLower))

/-- The value of a digit in some base up to 36. -/
def baseDigitValue? (base : Nat) (c : Char) : Option Nat :=
  let value :=
    if 'a' ≤ c ∧ c ≤ 'z' then some (c.toNat - 'a'.toNat + 10)
    else if 'A' ≤ c ∧ c ≤ 'Z' then some (c.toNat - 'A'.toNat + 10)
    else digitValue? c
  value.filter (· < base)

/-- The digits of a text in a base, single underscores between digits being dropped. -/
def readDigits? (base : Nat) : List Char → Option (List Nat)
  | [] => some []
  | [c] => (baseDigitValue? base c).map ([·])
  | c :: '_' :: d :: rest => do
    let value ← baseDigitValue? base c
    let more ← readDigits? base (d :: rest)
    pure (value :: more)
  | c :: d :: rest => do
    let value ← baseDigitValue? base c
    let more ← readDigits? base (d :: rest)
    pure (value :: more)

/-- A text without the mark of its base and one underscore after it, as in `0x_1F`. -/
def dropBaseMark (base : Nat) (cs : List Char) : List Char :=
  let mark : Option Char :=
    if base = 2 then some 'b' else if base = 8 then some 'o' else if base = 16 then some 'x' else none
  match cs with
  | '0' :: letter :: rest =>
    if mark = some letter.toLower then
      match rest with
      | '_' :: after => after
      | _ => rest
    else cs
  | _ => cs

/-- The integer that a text spells in a base. -/
def readInt? (base : Nat) (s : List Char) : Option Int :=
  let (negative, unsigned) := splitSign (trimNumber s)
  match readDigits? base (dropBaseMark base unsigned) with
  | none | some [] => none
  | some ds => some (if negative then -(ofDigits base ds : Int) else ofDigits base ds)

/-- Why a text does not spell an integer. -/
inductive IntegerFault
  /-- It has another form. -/
  | form
  /-- It has too many digits, however it goes on behind them. -/
  | tooLong (digits : Nat)
  deriving DecidableEq

/-- The number of digits that a decimal integer starts with, if that is too large. -/
def excessDigits? (s : List Char) : Option Nat :=
  let unsigned := (splitSign (trimNumber s)).2
  let run := unsigned.takeWhile fun c => (digitValue? c).isSome || c == '_'
  ((readDigits? 10 run).map List.length).filter (integerDigitLimit < ·)

/-- The integer that a text spells in a base. The digits of decimal integers are limited in
number. -/
def readInteger (base : Nat) (s : List Char) : Except IntegerFault Int :=
  match (excessDigits? s).filter fun _ => base == 10, readInt? base s with
  | some digits, _ => .error (.tooLong digits)
  | none, some n => .ok n
  | none, none => .error .form

end DesignTokens.Number
