import DesignTokens.Text.Quoted

/-!
# Base 64

Documents hold bytes as text in base 64: three bytes are four characters, and a shorter rest is
filled up with equals signs.

## Main Definitions

* `decodeBase64?` — the bytes of a text, characters outside the alphabet being skipped
* `encodeBase64Lines` — the text of bytes, in lines of 76 characters
-/

namespace DesignTokens.Text

/-- The 64 digits. -/
def base64Alphabet : List Char :=
  "ABCDEFGHIJKLMNOPQRSTUVWXYZabcdefghijklmnopqrstuvwxyz0123456789+/".toList

/-- The value of a digit. -/
def base64Value? (c : Char) : Option Nat := base64Alphabet.idxOf? c

/-- The digit of a value. -/
def base64Digit (n : Nat) : Char := base64Alphabet.getD n 'A'

/-- Bytes from digits. `pending` holds the values of the digits that do not yet make a group of
four, and `fill` counts the equals signs since the last digit; a group that is filled up ends the
text. -/
def base64Bytes? (pending : List Nat) (fill : Nat) : List Char → Option (List UInt8)
  | [] => if pending.isEmpty then some [] else none
  | c :: rest =>
    if c == '=' then
      if 2 ≤ pending.length ∧ 4 ≤ pending.length + fill + 1 then
        match pending with
        | [a, b] => some [UInt8.ofNat (a * 4 + b / 16)]
        | [a, b, d] => some [UInt8.ofNat (a * 4 + b / 16), UInt8.ofNat (b * 16 + d / 4)]
        | _ => none
      else base64Bytes? pending (if 2 ≤ pending.length then fill + 1 else fill) rest
    else
      match base64Value? c with
      | none => base64Bytes? pending fill rest
      | some value =>
        match pending with
        | [a, b, d] =>
          (base64Bytes? [] 0 rest).map fun more =>
            UInt8.ofNat (a * 4 + b / 16) :: UInt8.ofNat (b * 16 + d / 4) ::
              UInt8.ofNat (d * 64 + value) :: more
        | _ => base64Bytes? (pending ++ [value]) 0 rest

/-- The bytes of a text. -/
def decodeBase64? (cs : List Char) : Option (List UInt8) := base64Bytes? [] 0 cs

/-- The digits of bytes, a last group being filled up. -/
def base64Digits : List UInt8 → List Char
  | a :: b :: c :: rest =>
    let n := a.toNat * 65536 + b.toNat * 256 + c.toNat
    base64Digit (n / 262144) :: base64Digit (n / 4096 % 64) :: base64Digit (n / 64 % 64) ::
      base64Digit (n % 64) :: base64Digits rest
  | [a, b] =>
    let n := a.toNat * 65536 + b.toNat * 256
    [base64Digit (n / 262144), base64Digit (n / 4096 % 64), base64Digit (n / 64 % 64), '=']
  | [a] =>
    let n := a.toNat * 65536
    [base64Digit (n / 262144), base64Digit (n / 4096 % 64), '=', '=']
  | [] => []

/-- Characters in lines of 76, each with a line break at its end. -/
def inLines : Nat → List Char → List Char
  | 0, _ => []
  | fuel + 1, cs =>
    if cs.isEmpty then [] else cs.take 76 ++ '\n' :: inLines fuel (cs.drop 76)

/-- The text of bytes, in lines of 76 characters. -/
def encodeBase64Lines (bs : List UInt8) : List Char :=
  let digits := base64Digits bs
  inLines (digits.length + 1) digits

end DesignTokens.Text
